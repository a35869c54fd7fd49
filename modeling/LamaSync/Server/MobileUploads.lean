import LamaSync.Core.Text
import LamaSync.Lib.Directory
import LamaSync.Lib.Faults
import LamaSync.Lib.Table
import LamaSync.Server.MobileCredentials

/-!
# Mobile uploads

A phone sends a file in chunks.  The chunks go to a staging file, the offset that is durable is in the database, and
finalize checks the digest and publishes: into the landing area by a rename, or into a managed folder by an `rclone`
that copies the staging file.  An upload ends finalized, failed or cancelled, and the first two write one row of
history.

The server has one thread.  A handler is a program on the server's state whose statements (writes of the database,
operations on files, digests of files) meet fates: they take effect, throw, or the process dies.  Reads of the database
and `stat` take effect.  Only a publication into a folder suspends its handler, until the `rclone` exits.
-/

namespace LamaSync

open Faults

structure UploadEnv where
  mobile : MobileEnv
  chunkSizeBytes : Nat
  maxUploadBytes : Nat
  abandonedTtlMs : Int
  stagingQuotaBytes : Nat
  /-- The SHA-256 of a content, in lower-case hex. -/
  sha256 : Bytes → String
  isValidAppObjectKey : String → Bool

def maxDestLabelLength : Nat := 64

def maxSegmentLength : Nat := 200

def isControlChar (c : Char) : Bool := c.toNat < 0x20 || c.toNat == 0x7F

def isSafeSegment (value : String) : Bool :=
  let cs := value.toList
  let trimmed := trimSpaces cs
  !trimmed.isEmpty && utf16Length trimmed ≤ maxSegmentLength && trimmed == cs &&
    !(trimmed.any fun c => c == '\\' || c == '/' || c.toNat == 0) &&
    trimmed != ['.'] && trimmed != ['.', '.'] && !trimmed.any isControlChar

def hyphenate (isGap : Char → Bool) : Bool → List Char → List Char
  | _, [] => []
  | inGap, c :: cs =>
    if isGap c then
      if inGap then hyphenate isGap true cs else '-' :: hyphenate isGap true cs
    else c :: hyphenate isGap false cs

def isSlugChar (c : Char) : Bool := c.isAlphanum || c == '.' || c == '_' || c == '-'

def slugFromLabel (label : String) : Option String :=
  let trimmed := trimSpaces label.toList
  if trimmed.isEmpty || maxSegmentLength < utf16Length trimmed then none
  else
    let isEdge := fun c => c == '.' || c == '-'
    let joined := hyphenate (· == '-') false ((hyphenate isJsSpace false trimmed).filter isSlugChar)
    let slug := String.ofList (((joined.dropWhile isEdge).reverse.dropWhile isEdge).reverse)
    if slug.isEmpty || !isSafeSegment slug then none else some slug

inductive MobileUploadStatus where
  | created | uploading | ready | verifying | publishing | finalized | failed | cancelled
  deriving DecidableEq, Repr

def MobileUploadStatus.isTerminal : MobileUploadStatus → Bool
  | .finalized | .failed | .cancelled => true
  | .created | .uploading | .ready | .verifying | .publishing => false

structure MobileUploadDestinationRow where
  id : String
  registrationId : String
  label : String
  relPath : String
  folderId : Option String
  createdAt : Int
  revokedAt : Option Int
  deriving DecidableEq

structure MobileUploadRow where
  id : String
  registrationId : String
  destinationId : String
  idempotencyKey : String
  fileName : String
  finalRelPath : String
  targetFolderId : Option String
  sizeBytes : Option Nat
  bytesReceived : Nat
  sha256 : Option String
  status : MobileUploadStatus
  error : Option String
  createdAt : Int
  updatedAt : Int
  finalizedAt : Option Int
  deriving DecidableEq

namespace MobileUploadRow

/-! What the updates of the table set. -/

def record (next : Nat) (now : Int) (row : MobileUploadRow) : MobileUploadRow :=
  { row with bytesReceived := next, status := .uploading, updatedAt := now }

def verify (now : Int) (row : MobileUploadRow) : MobileUploadRow := { row with status := .verifying, updatedAt := now }

def publish (digest : String) (now : Int) (row : MobileUploadRow) : MobileUploadRow :=
  { row with status := .publishing, sha256 := some digest, updatedAt := now }

def complete (digest : String) (size : Nat) (now : Int) (row : MobileUploadRow) : MobileUploadRow :=
  { row with
    status := .finalized
    sha256 := some digest
    bytesReceived := size
    finalizedAt := some now
    updatedAt := now }

def fail (error : String) (now : Int) (row : MobileUploadRow) : MobileUploadRow :=
  { row with status := .failed, error := some error, updatedAt := now }

def cancel (now : Int) (row : MobileUploadRow) : MobileUploadRow :=
  { row with status := .cancelled, error := none, updatedAt := now }

end MobileUploadRow

inductive UploadLogStatus where
  | success | failed
  deriving DecidableEq, Repr

/-- What a history row keeps as JSON. -/
structure UploadLogDetails where
  uploadId : String
  finalRelPath : String
  sizeBytes : Nat
  sha256 : Option String
  deriving DecidableEq

structure UploadLogRow where
  timestamp : Int
  hostId : String
  folderId : Option String
  status : UploadLogStatus
  summary : String
  details : UploadLogDetails
  dedupeKey : String
  deriving DecidableEq

structure MobileFolderTarget where
  backendId : String
  bucket : String
  deriving DecidableEq

/-- An `rclone copyto` of a finalize, with what the finalize goes on with when it exits. -/
structure FolderRelay where
  row : MobileUploadRow
  digest : String
  now : Int
  target : MobileFolderTarget
  /-- The staging file as it was read. -/
  opened : Option Bytes
  /-- The object is in the bucket. -/
  copied : Bool
  deriving DecidableEq

/-- The database, the disk, the buckets, the running relays, and the memory of the server process. -/
structure UploadServer where
  mobile : MobileDb
  destinations : List MobileUploadDestinationRow
  uploads : List MobileUploadRow
  operationLog : List UploadLogRow
  folderTargets : Table String MobileFolderTarget
  staging : Directory
  /-- The landing area, by path in the browse tree: the landing root is its `Mobile` directory. -/
  landing : Table String Bytes
  objects : Table (MobileFolderTarget × String) Bytes
  relays : Table Nat FolderRelay
  stagedUsageBytes : Nat
  stagedUsageSeeded : Bool
  /-- The finalize that holds an upload's lock while it waits for a relay.  Every other handler that takes the lock
  returns it within its step. -/
  suspended : Table String Nat

/-- What becomes of a statement.  A write of a chunk may put its first bytes on disk and stop there, and then
return (or throw), or take the process down. -/
inductive Fate where
  | done
  | fails
  /-- The path leads out of the landing root. -/
  | escapes
  | short (written : Nat)
  | tears (written : Nat)
  | crashes
  deriving DecidableEq

instance : Inhabited Fate := ⟨.done⟩

inductive UploadError where
  | failed
  | pathEscape
  | busy
  deriving DecidableEq

abbrev UploadProg (α : Type) := Prog Fate UploadServer UploadError α

def statement {α : Type} (effect : UploadServer → Option (α × UploadServer)) : UploadProg α :=
  Prog.attempt fun fate s =>
    match fate with
    | .done =>
      match effect s with
      | some (a, s') => (.ok a, s')
      | none => (.error (.threw .failed), s)
    | .fails | .escapes | .short _ => (.error (.threw .failed), s)
    | .tears _ | .crashes => (.error .crashed, s)

def execute (effect : UploadServer → Option UploadServer) : UploadProg Unit :=
  statement fun s => (effect s).map fun s' => ((), s')

namespace UploadServer

variable (s : UploadServer)

def findDestinationById (id : String) : Option MobileUploadDestinationRow :=
  s.destinations.find? fun row => row.id == id

def findUploadById (id : String) : Option MobileUploadRow := s.uploads.find? fun row => row.id == id

def findUploadByIdempotency (registrationId idempotencyKey : String) : Option MobileUploadRow :=
  s.uploads.find? fun row => row.registrationId == registrationId && row.idempotencyKey == idempotencyKey

def updateUpload (id : String) (set : MobileUploadRow → MobileUploadRow) : UploadServer :=
  { s with uploads := Rows.update s.uploads (fun row => row.id == id) set }

def insertUpload (row : MobileUploadRow) : Option UploadServer :=
  if s.uploads.any fun r => r.id == row.id ||
      (r.registrationId == row.registrationId && r.idempotencyKey == row.idempotencyKey) then none
  else some { s with uploads := s.uploads ++ [row] }

def insertDestination (row : MobileUploadDestinationRow) : Option UploadServer :=
  if s.destinations.any fun r => r.id == row.id ||
      (r.registrationId == row.registrationId && r.relPath == row.relPath) then none
  else some { s with destinations := s.destinations ++ [row] }

end UploadServer

def stagingPath (uploadId : String) : String := uploadId ++ ".part"

def UploadServer.staged (s : UploadServer) (uploadId : String) : Option Bytes := s.staging.lookup (stagingPath uploadId)

def seedStagingUsage (s : UploadServer) : UploadServer :=
  { s with stagedUsageBytes := totalSize s.staging, stagedUsageSeeded := true }

def currentStagedUsage (s : UploadServer) : Nat :=
  if s.stagedUsageSeeded then s.stagedUsageBytes else totalSize s.staging

def ensureSeeded (s : UploadServer) : UploadServer :=
  { s with stagedUsageBytes := currentStagedUsage s, stagedUsageSeeded := true }

def recordStagedBytes (delta : Int) (s : UploadServer) : UploadServer :=
  { s with stagedUsageBytes := ((currentStagedUsage s : Int) + delta).toNat, stagedUsageSeeded := true }

def openStagingForWrite (uploadId : String) : UploadProg Unit := execute fun s =>
  match s.staged uploadId with
  | some _ => some s
  | none => some { s with staging := s.staging.insert (stagingPath uploadId) [] }

def UploadServer.write (s : UploadServer) (uploadId : String) (position : Nat) (data : Bytes) (n : Nat) : UploadServer :=
  { s with
    staging := s.staging.insert (stagingPath uploadId) (writeAt ((s.staged uploadId).getD []) position (data.take n)) }

def writeStaging (uploadId : String) (position : Nat) (data : Bytes) : UploadProg Nat :=
  Prog.attempt fun fate s =>
    match fate with
    | .done => (.ok data.length, s.write uploadId position data data.length)
    | .short n => (.ok (min n data.length), s.write uploadId position data n)
    | .tears n => (.error .crashed, s.write uploadId position data n)
    | .fails | .escapes => (.error (.threw .failed), s)
    | .crashes => (.error .crashed, s)

def removeStaging (uploadId : String) : UploadProg Unit :=
  Prog.tryCatch (do
    let s ← Prog.get
    match s.staged uploadId with
    | none => pure ()
    | some bytes => do
      execute fun s => some { s with staging := s.staging.erase (stagingPath uploadId) }
      Prog.modify (recordStagedBytes (-bytes.length)))
    fun _ => pure ()

def uploadHistoryDedupeKey (uploadId : String) : String := "mobile_upload:" ++ uploadId

def UploadServer.uploadHistoryExists (s : UploadServer) (uploadId : String) : Bool :=
  s.operationLog.any fun row => row.dedupeKey == uploadHistoryDedupeKey uploadId

def uploadLogRow (row : MobileUploadRow) (status : UploadLogStatus) (now : Int) : UploadLogRow where
  timestamp := now
  hostId := row.registrationId
  folderId := row.targetFolderId
  status := status
  summary :=
    match status with
    | .success => "upload " ++ row.fileName ++ " → " ++ row.finalRelPath
    | .failed => "upload " ++ row.fileName ++ " failed: " ++ row.error.getD "unknown error"
  details := ⟨row.id, row.finalRelPath, row.bytesReceived, row.sha256⟩
  dedupeKey := uploadHistoryDedupeKey row.id

def insertOperationLogRow (row : MobileUploadRow) (status : UploadLogStatus) (now : Int) (s : UploadServer) :
    Option UploadServer :=
  if s.uploadHistoryExists row.id then none
  else some { s with operationLog := s.operationLog ++ [uploadLogRow row status now] }

def appendUploadOperationLog (row : MobileUploadRow) (status : UploadLogStatus) (now : Int) : UploadProg Unit := do
  let s ← Prog.get
  if s.uploadHistoryExists row.id then pure ()
  else Prog.tryCatch (execute (insertOperationLogRow row status now)) fun _ => pure ()

def failTransaction (row : MobileUploadRow) (error : String) (now : Int) (s : UploadServer) : Option UploadServer :=
  insertOperationLogRow (row.fail error now) .failed now (s.updateUpload row.id (MobileUploadRow.fail error now))

def failUpload (row : MobileUploadRow) (error : String) (now : Int) : UploadProg Unit := do
  Prog.tryCatch (execute (failTransaction row error now)) fun _ => pure ()
  removeStaging row.id

def completeTransaction (row : MobileUploadRow) (digest : String) (size : Nat) (now : Int) (s : UploadServer) :
    Option UploadServer :=
  insertOperationLogRow (row.complete digest size now) .success now
    (s.updateUpload row.id (MobileUploadRow.complete digest size now))

def withUploadLock {α : Type} (uploadId : String) (fn : UploadProg α) : UploadProg α := do
  let s ← Prog.get
  if (s.suspended uploadId).isSome then Prog.throw .busy else fn

inductive CreateDestinationOutcome where
  | ok (destination : MobileUploadDestinationRow)
  | invalidLabel | invalidSlug | duplicate | invalidFolder | unknownRegistration

structure CreateDestinationCall where
  /-- The id drawn for the destination. -/
  id : String
  registrationId : String
  label : String
  slug : Option String
  folderId : Option String
  now : Int

def normalizeFolderId (folderId : Option String) : Option String :=
  (folderId.map fun id => String.ofList (trimSpaces id.toList)).filter fun id => !id.isEmpty

def destinationSlug (call : CreateDestinationCall) (label : List Char) : Option String :=
  match call.slug with
  | some slug => if isSafeSegment slug then some slug else none
  | none => slugFromLabel (String.ofList label)

def createMobileUploadDestination (call : CreateDestinationCall) : UploadProg CreateDestinationOutcome := do
  let s ← Prog.get
  let label := trimSpaces call.label.toList
  if label.isEmpty || maxDestLabelLength < utf16Length label || label.any isControlChar then pure .invalidLabel
  else
    match destinationSlug call label with
    | none => pure .invalidSlug
    | some slug =>
      if !isSafeSegment call.registrationId || (findRegistrationByHostId s.mobile call.registrationId).isNone then
        pure .unknownRegistration
      else
        let folderId := normalizeFolderId call.folderId
        if folderId.any fun id => (s.folderTargets id).isNone then pure .invalidFolder
        else
          let relPath := "Mobile/" ++ call.registrationId ++ "/" ++ slug
          if s.destinations.any fun row => row.registrationId == call.registrationId && row.relPath == relPath then
            pure .duplicate
          else do
            let row : MobileUploadDestinationRow :=
              ⟨call.id, call.registrationId, String.ofList label, relPath, folderId, call.now, none⟩
            execute fun s => s.insertDestination row
            pure (.ok row)

def UploadServer.updateDestinations (s : UploadServer) (guard : MobileUploadDestinationRow → Bool)
    (set : MobileUploadDestinationRow → MobileUploadDestinationRow) : UploadServer :=
  { s with destinations := Rows.update s.destinations guard set }

inductive UpdateDestinationOutcome where
  | ok | notFound | invalidFolder
  deriving DecidableEq

def updateMobileUploadDestinationFolder (registrationId id : String) (folderId : Option String) :
    UploadProg UpdateDestinationOutcome := do
  let s ← Prog.get
  match (s.findDestinationById id).filter fun row => row.registrationId == registrationId with
  | none => pure .notFound
  | some _ =>
    let normalized := normalizeFolderId folderId
    if normalized.any fun id => (s.folderTargets id).isNone then pure .invalidFolder
    else do
      execute fun s => some (s.updateDestinations (fun row => row.id == id) fun row => { row with folderId := normalized })
      pure .ok

inductive RevokeDestinationOutcome where
  | ok (revokedAt : Int) | notFound
  deriving DecidableEq

def revokeMobileUploadDestination (registrationId id : String) (now : Int) : UploadProg RevokeDestinationOutcome := do
  let s ← Prog.get
  match (s.findDestinationById id).filter fun row => row.registrationId == registrationId with
  | none => pure .notFound
  | some row =>
    if isRowRevoked row.revokedAt then pure (.ok (row.revokedAt.getD now))
    else do
      execute fun s => some (s.updateDestinations (fun row => row.id == id) fun row => { row with revokedAt := some now })
      pure (.ok now)

inductive CreateUploadOutcome where
  | ok (row : MobileUploadRow)
  | destinationNotFound | destinationRevoked | unsafeFileName | collision | sizeOverCap

structure CreateUploadCall where
  /-- The id drawn for the upload. -/
  id : String
  registrationId : String
  destinationId : String
  fileName : String
  sizeBytes : Option Nat
  sha256 : Option String
  idempotencyKey : String
  now : Int

def computeFinalRelPath (destination : MobileUploadDestinationRow) (fileName : String) : String :=
  destination.relPath ++ "/" ++ fileName

def CreateUploadCall.row (call : CreateUploadCall) (destination : MobileUploadDestinationRow) : MobileUploadRow where
  id := call.id
  registrationId := call.registrationId
  destinationId := destination.id
  idempotencyKey := call.idempotencyKey
  fileName := call.fileName
  finalRelPath := computeFinalRelPath destination call.fileName
  targetFolderId := destination.folderId
  sizeBytes := call.sizeBytes
  bytesReceived := 0
  sha256 := call.sha256
  status := .created
  error := none
  createdAt := call.now
  updatedAt := call.now
  finalizedAt := none

section Handlers

variable (env : UploadEnv)

def createRefused (s : UploadServer) (call : CreateUploadCall) (destination : MobileUploadDestinationRow) :
    Option CreateUploadOutcome :=
  if isRowRevoked destination.revokedAt then some .destinationRevoked
  else if !isSafeSegment call.fileName then some .unsafeFileName
  else if call.sizeBytes.any fun size => env.maxUploadBytes < size then some .sizeOverCap
  else if s.uploads.any fun row => row.registrationId == call.registrationId &&
      row.finalRelPath == computeFinalRelPath destination call.fileName then some .collision
  else if destination.folderId.isNone && (s.landing (computeFinalRelPath destination call.fileName)).isSome then
    some .collision
  else none

def createMobileUpload (call : CreateUploadCall) : UploadProg CreateUploadOutcome := do
  let s ← Prog.get
  match s.findUploadByIdempotency call.registrationId call.idempotencyKey with
  | some prior => pure (.ok prior)
  | none =>
    match (s.findDestinationById call.destinationId).filter fun row => row.registrationId == call.registrationId with
    | none => pure .destinationNotFound
    | some destination =>
      match createRefused env s call destination with
      | some refusal => pure refusal
      | none =>
        Prog.tryCatch (do
          execute fun s => s.insertUpload (call.row destination)
          pure (.ok (call.row destination)))
          fun e => do
            let s ← Prog.get
            match s.findUploadByIdempotency call.registrationId call.idempotencyKey with
            | some raced => pure (.ok raced)
            | none => Prog.throw e

inductive ChunkOutcome where
  | ok
  | notFound | unauthorized | badOffset | staleState | tooLarge | exceedsDeclaredSize | stagingFull | diskError
  deriving DecidableEq

structure ChunkCall where
  registrationId : String
  uploadId : String
  offset : Nat
  data : Bytes
  now : Int

def chunkRefused (call : ChunkCall) (row : MobileUploadRow) : Option ChunkOutcome :=
  let next := row.bytesReceived + call.data.length
  if row.registrationId ≠ call.registrationId then some .unauthorized
  else if row.status ≠ .created ∧ row.status ≠ .uploading then some .staleState
  else if call.data = [] then some .badOffset
  else if call.offset ≠ row.bytesReceived then some .badOffset
  else if env.chunkSizeBytes < call.data.length then some .tooLarge
  else if env.maxUploadBytes < next then some .tooLarge
  else if row.sizeBytes.any fun size => size < next then some .exceedsDeclaredSize
  else none

def appendMobileUploadChunk (call : ChunkCall) : UploadProg ChunkOutcome :=
  Prog.tryCatch (withUploadLock call.uploadId do
    let s ← Prog.get
    match s.findUploadById call.uploadId with
    | none => pure .notFound
    | some row =>
      match chunkRefused env call row with
      | some refusal => pure refusal
      | none => do
        let next := row.bytesReceived + call.data.length
        Prog.modify ensureSeeded
        -- the usage includes what this upload has staged, so only the rest is added to its next size
        if env.stagingQuotaBytes < (currentStagedUsage s - row.bytesReceived) + next then pure .stagingFull
        else do
          let complete ← Prog.tryCatch (do
              openStagingForWrite call.uploadId
              let written ← writeStaging call.uploadId row.bytesReceived call.data
              pure (written == call.data.length))
            fun _ => pure false
          if !complete then pure .diskError
          else do
            Prog.modify (recordStagedBytes call.data.length)
            execute fun s => some (s.updateUpload call.uploadId (MobileUploadRow.record next call.now))
            pure .ok)
    fun
      | .busy => Prog.throw .busy
      | _ => pure .diskError

inductive MobileUploadBrowseRef where
  | localFile (path : String)
  | folder (folderId path : String)
  deriving DecidableEq

structure MobileUploadReceipt where
  uploadId : String
  fileName : String
  finalRelPath : String
  browseRef : MobileUploadBrowseRef
  sizeBytes : Nat
  sha256 : String
  finalizedAt : Int
  deriving DecidableEq

inductive FinalizeOutcome where
  | ok (row : MobileUploadRow) (receipt : MobileUploadReceipt)
  | notFound | unauthorized | notComplete | checksumMismatch | collision | destinationRevoked | registrationRevoked
  | verificationError | staleState
  deriving DecidableEq

structure FinalizeCall where
  registrationId : String
  uploadId : String
  now : Int
  /-- The process id of the `rclone`, should one be started. -/
  pid : Nat

def receiptOf (row : MobileUploadRow) : Option MobileUploadReceipt :=
  match row.finalizedAt, row.sha256 with
  | some finalizedAt, some digest =>
    let browseRef := match row.targetFolderId with
      | none => .localFile row.finalRelPath
      | some folderId => .folder folderId row.finalRelPath
    some ⟨row.id, row.fileName, row.finalRelPath, browseRef, row.bytesReceived, digest, finalizedAt⟩
  | _, _ => none

def receiptOutcome (row : Option MobileUploadRow) : FinalizeOutcome :=
  match row with
  | none => .verificationError
  | some row =>
    match receiptOf row with
    | none => .verificationError
    | some receipt => .ok row receipt

def sha256OfFile (file : UploadServer → Option Bytes) : UploadProg String :=
  statement fun s => (file s).map fun bytes => (env.sha256 bytes, s)

def collisionOutcome (row : MobileUploadRow) (now : Int) : UploadProg FinalizeOutcome := do
  failUpload row "filename collision — the reserved final name is already taken" now
  pure .collision

def completePublication (row : MobileUploadRow) (now : Int) : UploadProg FinalizeOutcome := do
  let digest ← sha256OfFile env fun s => s.landing row.finalRelPath
  let s ← Prog.get
  execute (completeTransaction row digest ((s.landing row.finalRelPath).getD []).length now)
  let s ← Prog.get
  pure (receiptOutcome (s.findUploadById row.id))

def assertInsideRoot : UploadProg Unit := Prog.attempt fun fate s =>
  match fate with
  | .done => (.ok (), s)
  | .escapes => (.error (.threw .pathEscape), s)
  | .fails | .short _ => (.error (.threw .failed), s)
  | .tears _ | .crashes => (.error .crashed, s)

def UploadServer.rename (s : UploadServer) (row : MobileUploadRow) : Option UploadServer :=
  (s.staged row.id).map fun bytes => { s with
    landing := s.landing.put row.finalRelPath bytes
    staging := s.staging.erase (stagingPath row.id) }

def publishToLanding (row : MobileUploadRow) (now : Int) : UploadProg FinalizeOutcome := do
  let ended ← Prog.tryCatch (do
      assertInsideRoot
      let s ← Prog.get
      if (s.landing row.finalRelPath).isSome then do
        removeStaging row.id
        let outcome ← collisionOutcome row now
        pure (some outcome)
      else do
        execute fun s => s.rename row
        Prog.modify (recordStagedBytes (-row.bytesReceived))
        pure none)
    fun
      | .pathEscape => Prog.throw .pathEscape
      | _ => do
        failUpload row "publication failed" now
        pure (some .verificationError)
  match ended with
  | some outcome => pure outcome
  | none => completePublication env row now

/-- The start of `publishMobileFileToFolder`: an `rclone` runs, and the finalize waits for it. -/
def UploadServer.spawn (s : UploadServer) (pid : Nat) (relay : FolderRelay) : Option UploadServer :=
  if (s.relays pid).isSome then none
  else some { s with relays := s.relays.put pid relay, suspended := s.suspended.put relay.row.id pid }

def publishToFolder (row : MobileUploadRow) (folderId digest : String) (call : FinalizeCall) :
    UploadProg (Option FinalizeOutcome) := do
  let s ← Prog.get
  match s.folderTargets folderId with
  | none => do
    failUpload row "selected storage folder is unavailable" call.now
    pure (some .verificationError)
  | some target =>
    if !env.isValidAppObjectKey row.finalRelPath then pure (some .verificationError)
    else
      Prog.tryCatch (do
        execute fun s => s.spawn call.pid ⟨row, digest, call.now, target, none, false⟩
        pure none)
        fun _ => pure (some .verificationError)

def verifyAndPublish (row : MobileUploadRow) (call : FinalizeCall) : UploadProg (Option FinalizeOutcome) := do
  let s ← Prog.get
  if (s.staged row.id).isNone then pure (some .verificationError)
  else do
    let checked ← Prog.tryCatch (do
        let digest ← sha256OfFile env fun s => s.staged row.id
        pure (some digest))
      fun _ => pure none
    match checked with
    | none => pure (some .verificationError)
    | some digest =>
      if row.sha256.any fun declared => declared.toLower != digest then do
        failUpload row "checksum mismatch — the received content does not match the declared checksum" call.now
        pure (some .checksumMismatch)
      else do
        execute fun s => some (s.updateUpload row.id (MobileUploadRow.publish digest call.now))
        match row.targetFolderId with
        | some folderId => publishToFolder env row folderId digest call
        | none => some <$> publishToLanding env row call.now

def landedDiffers (row : MobileUploadRow) : UploadProg Bool :=
  match row.sha256 with
  | none => pure false
  | some recorded => do
    let digest ← sha256OfFile env fun s => s.landing row.finalRelPath
    pure (digest != recorded.toLower)

def recoverPublishing (row : MobileUploadRow) (call : FinalizeCall) : UploadProg (Option FinalizeOutcome) := do
  let s ← Prog.get
  if (s.landing row.finalRelPath).isSome then do
    let differs ← landedDiffers env row
    if differs then some <$> collisionOutcome row call.now
    else some <$> completePublication env row call.now
  else if (s.staged row.id).isNone then do
    failUpload row "transfer data lost during publication" call.now
    pure (some .verificationError)
  else verifyAndPublish env row call

def finalizeRefused (s : UploadServer) (row : MobileUploadRow) : Option FinalizeOutcome :=
  match findRegistrationByHostId s.mobile row.registrationId with
  | none => some .registrationRevoked
  | some registration =>
    if isRowRevoked registration.revokedAt then some .registrationRevoked
    else
      match (s.findDestinationById row.destinationId).filter fun d => d.registrationId == row.registrationId with
      | none => some .unauthorized
      | some destination => if isRowRevoked destination.revokedAt then some .destinationRevoked else none

def finalizeLocked (call : FinalizeCall) : UploadProg (Option FinalizeOutcome) := do
  let s ← Prog.get
  match s.findUploadById call.uploadId with
  | none => pure (some .notFound)
  | some row =>
    if row.registrationId ≠ call.registrationId then pure (some .unauthorized)
    else if row.status = .finalized then do
      appendUploadOperationLog row .success call.now
      pure (some (receiptOutcome (some row)))
    else if row.status = .failed ∨ row.status = .cancelled then pure (some .staleState)
    else
      match finalizeRefused s row with
      | some refusal => pure (some refusal)
      | none =>
        if row.status = .publishing then recoverPublishing env row call
        else if row.status = .verifying then verifyAndPublish env row call
        else if row.sizeBytes.any fun size => row.bytesReceived < size then pure (some .notComplete)
        else do
          execute fun s => some (s.updateUpload row.id (MobileUploadRow.verify call.now))
          verifyAndPublish env row call

def finalizeMobileUpload (call : FinalizeCall) : UploadProg (Option FinalizeOutcome) :=
  Prog.tryCatch (withUploadLock call.uploadId (finalizeLocked env call))
    fun
      | .pathEscape => do
        let s ← Prog.get
        match s.findUploadById call.uploadId with
        | none => pure (some .verificationError)
        | some row => do
          failUpload row "path escaped the landing root" call.now
          pure (some .verificationError)
      | .busy => Prog.throw .busy
      | .failed => pure (some .verificationError)

/-- What a suspended finalize does when its `rclone` exits. -/
def resumeFinalize (relay : FolderRelay) (succeeded : Bool) : UploadProg FinalizeOutcome :=
  Prog.tryCatch (
    if !succeeded then Prog.throw .failed
    else do
      execute (completeTransaction relay.row relay.digest relay.row.bytesReceived relay.now)
      removeStaging relay.row.id
      let s ← Prog.get
      pure (receiptOutcome (s.findUploadById relay.row.id)))
    fun _ => pure .verificationError

inductive CancelOutcome where
  | ok | notFound | unauthorized | finalized
  deriving DecidableEq

structure CancelCall where
  registrationId : String
  uploadId : String
  now : Int

def cancelMobileUpload (call : CancelCall) : UploadProg CancelOutcome :=
  Prog.tryCatch (withUploadLock call.uploadId do
    let s ← Prog.get
    match s.findUploadById call.uploadId with
    | none => pure .notFound
    | some row =>
      if row.registrationId ≠ call.registrationId then pure .unauthorized
      else if row.status = .finalized then pure .finalized
      else if row.status = .failed then pure .ok
      else do
        execute fun s => some (s.updateUpload row.id (MobileUploadRow.cancel call.now))
        removeStaging row.id
        pure .ok)
    fun
      | .busy => Prog.throw .busy
      | _ => pure .notFound

def revokeRegistrationUploads (hostId : String) (reason : Option String) (now : Int) : UploadProg Unit := do
  let s ← Prog.get
  let error := "upload cancelled by registration revocation" ++ reason.elim "" fun r => " (" ++ r ++ ")"
  Prog.forEach (fun row => failUpload row error now)
    (s.uploads.filter fun row => row.registrationId == hostId && !row.status.isTerminal)
  execute fun s => some (s.updateDestinations (fun row => row.registrationId == hostId && row.revokedAt.isNone)
    fun row => { row with revokedAt := some now })

def revokeRegistrationRoute (hostId : String) (reason : Option String) (now : EpochMs) : UploadProg Bool := do
  let s ← Prog.get
  if (findRegistrationByHostId s.mobile hostId).isNone then pure false
  else do
    execute fun s => some { s with mobile := (revokeMobileRegistration s.mobile hostId reason now).1 }
    revokeRegistrationUploads hostId reason now
    pure true

def stagedUploadId (name : String) : String :=
  if ".part".toList.isSuffixOf name.toList then String.ofList (name.toList.dropLast.dropLast.dropLast.dropLast.dropLast)
  else name

def UploadServer.abandoned (s : UploadServer) (cutoff : Int) : List MobileUploadRow :=
  s.uploads.filter fun row => !row.status.isTerminal && row.updatedAt < cutoff

def sweepStagedFile (mtimeMs : String → Int) (cutoff : Int) (name : String) : UploadProg Unit := do
  let s ← Prog.get
  let stillTracked := stagedUploadId name != "" && (s.findUploadById (stagedUploadId name)).isSome
  if !stillTracked && mtimeMs name < cutoff then
    Prog.tryCatch (execute fun s => some { s with staging := s.staging.erase name }) fun _ => pure ()
  else pure ()

def reconcileUploadHistory (now : Int) : UploadProg Unit := do
  let s ← Prog.get
  Prog.forEach (fun row => appendUploadOperationLog row .success now)
    (s.uploads.filter fun row => row.status == .finalized)

def reconcileAbandonedMobileUploads (mtimeMs : String → Int) (now : Int) : UploadProg Unit := do
  let s ← Prog.get
  let cutoff := now - env.abandonedTtlMs
  Prog.forEach (fun row => failUpload row "abandoned — no activity within the staging retention window" now)
    (s.abandoned cutoff)
  let s ← Prog.get
  Prog.forEach (sweepStagedFile mtimeMs cutoff) s.staging.keys
  Prog.modify seedStagingUsage
  reconcileUploadHistory now

/-- What happens to the server and around it.  Each handler comes with the fates of its statements. -/
inductive UploadEvent where
  /-- A request to the mobile store: registrations come and go. -/
  | mobile (event : MobileEvent)
  | folders (targets : Table String MobileFolderTarget)
  | createsDestination (call : CreateDestinationCall) (fates : List Fate)
  | updatesDestination (registrationId id : String) (folderId : Option String) (fates : List Fate)
  | revokesDestination (registrationId id : String) (now : Int) (fates : List Fate)
  | creates (call : CreateUploadCall) (fates : List Fate)
  | appends (call : ChunkCall) (fates : List Fate)
  | finalizes (call : FinalizeCall) (fates : List Fate)
  | relayReads (pid : Nat)
  /-- An `rclone` puts what it has read; with `--immutable` it does not replace another content. -/
  | relayPuts (pid : Nat)
  /-- An `rclone` exits, with code 0 only when the object is there. -/
  | relayExits (pid : Nat) (succeeded : Bool) (fates : List Fate)
  | cancels (call : CancelCall) (fates : List Fate)
  | revokes (hostId : String) (reason : Option String) (now : EpochMs) (fates : List Fate)
  | reconciles (mtimeMs : String → Int) (now : Int) (fates : List Fate)
  /-- A staging file disappears, or loses its end. -/
  | stagingLost (name : String)
  | stagingTruncated (name : String) (length : Nat)
  | restarts

/-- The memory of a new process; the `rclone`s of the old one go on. -/
def UploadServer.restart (s : UploadServer) : UploadServer :=
  { s with stagedUsageBytes := 0, stagedUsageSeeded := false, suspended := fun _ => none }

def settle {α : Type} (ran : Ran Fate UploadServer UploadError α) : UploadServer :=
  match ran.result with
  | .error .crashed => ran.state.restart
  | _ => ran.state

def relayPut (s : UploadServer) (pid : Nat) (relay : FolderRelay) (bytes : Bytes) : UploadServer :=
  let key := (relay.target, relay.row.finalRelPath)
  match s.objects key with
  | none => { s with objects := s.objects.put key bytes, relays := s.relays.put pid { relay with copied := true } }
  | some stored =>
    if stored = bytes then { s with relays := s.relays.put pid { relay with copied := true } } else s

/-- The state without the process, and without the lock of the finalize that waited for it. -/
def UploadServer.release (s : UploadServer) (pid : Nat) (relay : FolderRelay) : UploadServer :=
  { s with
    relays := s.relays.erase pid
    suspended := if s.suspended relay.row.id = some pid then s.suspended.erase relay.row.id else s.suspended }

def mobileUploadStep (s : UploadServer) : UploadEvent → UploadServer
  | .mobile event => { s with mobile := mobileStep env.mobile s.mobile event }
  | .folders targets => { s with folderTargets := targets }
  | .createsDestination call fates => settle (createMobileUploadDestination call s fates)
  | .updatesDestination registrationId id folderId fates =>
    settle (updateMobileUploadDestinationFolder registrationId id folderId s fates)
  | .revokesDestination registrationId id now fates => settle (revokeMobileUploadDestination registrationId id now s fates)
  | .creates call fates => settle (createMobileUpload env call s fates)
  | .appends call fates => settle (appendMobileUploadChunk env call s fates)
  | .finalizes call fates => settle (finalizeMobileUpload env call s fates)
  | .relayReads pid =>
    match s.relays pid with
    | none => s
    | some relay =>
      if relay.copied then s else { s with relays := s.relays.put pid { relay with opened := s.staged relay.row.id } }
  | .relayPuts pid =>
    match s.relays pid with
    | none => s
    | some relay => relay.opened.elim s (relayPut s pid relay)
  | .relayExits pid succeeded fates =>
    match s.relays pid with
    | none => s
    | some relay =>
      if s.suspended relay.row.id = some pid then
        settle (resumeFinalize relay (succeeded && relay.copied) (s.release pid relay) fates)
      else s.release pid relay
  | .cancels call fates => settle (cancelMobileUpload call s fates)
  | .revokes hostId reason now fates => settle (revokeRegistrationRoute hostId reason now s fates)
  | .reconciles mtimeMs now fates => settle (reconcileAbandonedMobileUploads env mtimeMs now s fates)
  | .stagingLost name => { s with staging := s.staging.erase name }
  | .stagingTruncated name length =>
    match s.staging.lookup name with
    | none => s
    | some bytes => { s with staging := s.staging.insert name (bytes.take length) }
  | .restarts => s.restart

end Handlers

/-- No upload and no destination has been made.  The disk and the buckets may hold anything. -/
structure UploadServer.Fresh (s : UploadServer) : Prop where
  destinations : s.destinations = []
  uploads : s.uploads = []
  operationLog : s.operationLog = []
  relays : s.relays = fun _ => none
  suspended : s.suspended = fun _ => none

def exampleUploadEnv : UploadEnv where
  mobile := exampleMobileEnv
  chunkSizeBytes := 4
  maxUploadBytes := 16
  abandonedTtlMs := 1000
  stagingQuotaBytes := 10
  sha256 := fun content => String.ofList (content.map fun byte => Char.ofNat (97 + byte.toNat % 26))
  isValidAppObjectKey := fun _ => true

def exampleUploadServer : UploadServer where
  mobile := ⟨[], [], [⟨⟨"mob-1", "android", "Phone", "hash", none⟩, "1.0", 1, none, none⟩], [], []⟩
  destinations := []
  uploads := []
  operationLog := []
  folderTargets := fun id => if id = "photos" then some ⟨"minio", "bucket"⟩ else none
  staging := ∅
  landing := fun _ => none
  objects := fun _ => none
  relays := fun _ => none
  stagedUsageBytes := 0
  stagedUsageSeeded := false
  suspended := fun _ => none

theorem exampleUploadServer_fresh : exampleUploadServer.Fresh := ⟨rfl, rfl, rfl, rfl, rfl⟩

def exampleUploadCreated (folderId : Option String) : List UploadEvent :=
  [.createsDestination ⟨"inbox-id", "mob-1", "Inbox", some "inbox", folderId, 1⟩ [],
    .creates ⟨"up-1", "mob-1", "inbox-id", "a.jpg", none, none, "key", 2⟩ []]

end LamaSync
