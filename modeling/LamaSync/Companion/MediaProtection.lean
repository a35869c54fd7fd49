import LamaSync.Companion.MediaDiscovery
import LamaSync.Companion.UploadQueue
import LamaSync.Core.Text
import LamaSync.Lib.Trace

/-!
# Media protection

Scans, staging passes and finished uploads all read a record of the registry, work for a while and write the whole record back,
and the link between a record and its upload can be broken from either side.  When nobody writes a record between another's
read and write, and nobody takes away the upload of a staged record, the registry is honest (`registry_stays_honest`).
-/

namespace LamaSync

open Trace UploadQueueStore

structure MobileUploadDestination where
  id : String
  relPath : String

structure StagedBytes where
  fileName : String
  sizeBytes : Nat
  sha256 : String

/-- A staging succeeds, or fails with the text of its reason. -/
abbrev StageOutcome := Except String StagedBytes

def sourceLabel : AutoSource → String
  | .cameraPhotos => "Camera photos"
  | .cameraVideos => "Camera videos"
  | .screenshots => "Screenshots"

/-! The key of an upload has the source and the id of the record's identity, a hash of its volume and a part of the digest. -/

namespace AutoQueueKeys

def hashCode (text : List Char) : Nat := (text.flatMap utf16Units).foldl (fun hash unit => (31 * hash + unit) % 0x100000000) 0

def substringBefore (c : Char) (text missing : List Char) : List Char :=
  if c ∈ text then text.takeWhile (· ≠ c) else missing

def substringAfter (c : Char) (text : List Char) : List Char := (text.dropWhile (· ≠ c)).drop 1

def volumeHash (identityKey : List Char) : List Char := Nat.toDigits 16 (hashCode (substringAfter '@' identityKey))

def base (identityKey sha256 : List Char) : List Char :=
  let source := substringBefore ':' identityKey []
  let afterSource := substringAfter ':' identityKey
  let id := substringBefore '@' afterSource afterSource
  source ++ '-' :: id ++ '-' :: volumeHash identityKey ++ '-' :: sha256.take 12

def queueItemId (identityKey sha256 : String) : String :=
  String.ofList (("autoq-".toList ++ base identityKey.toList sha256.toList).take 128)

def idempotencyKey (identityKey sha256 : String) : String :=
  String.ofList (("autop-".toList ++ base identityKey.toList sha256.toList).take 128)

end AutoQueueKeys

structure PassContext where
  origin : String
  hostId : String
  destination : Option MobileUploadDestination

def newItem (context : PassContext) (destination : MobileUploadDestination) (identity : String)
    (record : MediaRecord) (staged : StagedBytes) (now : Int) : UploadQueueItem where
  id := AutoQueueKeys.queueItemId identity staged.sha256
  origin := context.origin
  hostId := context.hostId
  sourceUri := record.uri
  displayName := record.displayName
  mimeType := record.mimeType
  sizeBytes := some staged.sizeBytes
  destinationId := destination.id
  destinationRelPath := destination.relPath
  idempotencyKey := AutoQueueKeys.idempotencyKey identity staged.sha256
  sha256 := some staged.sha256
  mediaIdentity := some identity
  sourceLabel := some (sourceLabel record.source)
  autoNameAttempt := 0
  stagedFileName := some staged.fileName
  staged := true
  serverUploadId := none
  uploadedBytes := 0
  serverStatus := none
  status := .pending
  error := none
  serverBytesReceived := none
  receipt := none
  createdAtEpochMillis := now
  updatedAtEpochMillis := now

def enqueueStaged (queue : List UploadQueueItem) (context : PassContext)
    (destination : MobileUploadDestination) (identity : String) (record : MediaRecord) (staged : StagedBytes) (now : Int) :
    MediaRecord × Option UploadQueueItem :=
  let queueId := AutoQueueKeys.queueItemId identity staged.sha256
  let linked := { record with queueItemId := some queueId, sha256 := some staged.sha256 }
  match find queue queueId with
  | some existing => match existing.status with
    | .done => ({ linked with
        status := .isProtected, receiptPath := existing.receipt.map UploadReceipt.finalRelPath, error := none }, none)
    | .cancelled => ({ linked with
        error := some "Cancelled — the next scan will protect this media again after you remove the cancelled item." }, none)
    | _ => (linked, none)
  | none => ({ linked with status := .staged, error := none },
      some (newItem context destination identity record staged now))

def protectRecord (queue : List UploadQueueItem) (context : PassContext) (identity : String)
    (record : MediaRecord) (outcome : StageOutcome) (now : Int) : Option MediaRecord × Option UploadQueueItem :=
  match record.status with
  | .staged => match record.queueItemId.bind (find queue) with
    | some item => match item.receipt with
      | some receipt =>
        if item.status = .done then
          (some { record with
            status := .isProtected, sha256 := item.sha256, receiptPath := some receipt.finalRelPath, error := none }, none)
        else (none, none)
      | none => (none, none)
    | none => (none, none)
  | .isProtected | .locallyDeleted => (none, none)
  | _ => match context.destination with
    | none => (none, none)
    | some destination => match outcome with
      | .ok staged =>
        let enqueued := enqueueStaged queue context destination identity record staged now
        (some enqueued.1, enqueued.2)
      | .error text => (some { record with status := .unreadable, error := some text }, none)

/-- The size and the date by which a revision is told from another. -/
abbrev MediaRevision := Option Nat × Option Nat

def MediaRecord.revision (record : MediaRecord) : MediaRevision := (record.sizeBytes, record.dateModifiedSeconds)

structure MediaScan where
  snapshot : Table String MediaRecord
  new : Table String MediaRecord := fun _ => none

structure ProtectPass where
  context : PassContext
  snapshot : Table String MediaRecord
  todo : List String
  adding : Option UploadQueueItem := none
  updates : List (String × MediaRecord) := []

/-- A finished upload that is being linked into the registry, with the record once it has been read. -/
structure ReconcileJob where
  item : UploadQueueItem
  read : Option MediaRecord := none

structure MediaRegistry where
  records : Table String MediaRecord := fun _ => none
  detected : Table String MediaRevision := fun _ => none
  queue : List UploadQueueItem := []
  history : List UploadQueueItem := []
  stagedFor : List (String × MediaRevision) := []
  registration : Option Registration := none
  scans : List MediaScan := []
  passes : List ProtectPass := []
  reconciles : List ReconcileJob := []

def ItemWrite.completes : ItemWrite → Bool
  | completed _ | finalizedLate _ _ => true
  | _ => false

structure ScanAnswers where
  reached : String → Bool
  scope : String → MediaPermissionScope
  completed : String → Bool
  found : String → Option KnownRowMeta

inductive RegistryEvent where
  | scanStart
  | scanPage (scan : Nat) (rows : List (String × AutoSource × MediaRow))
  | scanEnd (scan : Nat) (answers : ScanAnswers)
  | passStart (context : PassContext) (todo : List String)
  | passRecord (pass : Nat) (outcome : StageOutcome) (now : Int)
  | passAdd (pass : Nat)
  | passEnd (pass : Nat)
  | queueWrite (load : Nat) (write : ItemWrite) (now : Int)
  | reconcileRead (job : Nat)
  | reconcileWrite (job : Nat)
  | remove (itemId : String)
  | pair (registration : Option Registration)
  | restart

namespace MediaRegistry

variable (s : MediaRegistry)

def putAll (table : Table String MediaRecord) (updates : List (String × MediaRecord)) : Table String MediaRecord :=
  updates.foldl (fun table update => table.put update.1 update.2) table

def detectAll (table : Table String MediaRevision) (updates : List (String × MediaRecord)) : Table String MediaRevision :=
  updates.foldl (fun table update => table.put update.1 update.2.revision) table

def pageRecords (snapshot : Table String MediaRecord) (rows : List (String × AutoSource × MediaRow)) :
    List (String × MediaRecord) :=
  rows.filterMap fun row => (whenRecord row.2.1 (snapshot row.1) row.2.2).map fun record => (row.1, record)

def scanPage (index : Nat) (rows : List (String × AutoSource × MediaRow)) : MediaRegistry :=
  match s.scans[index]? with
  | none => s
  | some scan =>
    let new := pageRecords scan.snapshot rows
    { s with
      records := putAll s.records new
      detected := detectAll s.detected new
      scans := s.scans.set index { scan with new := putAll scan.new new } }

def scanned (scan : MediaScan) (answers : ScanAnswers) (key : String) : Option MediaRecord :=
  match (scan.snapshot key).bind fun record => if answers.reached key then
      reconcileRecord record (answers.found key) (answers.scope key) (answers.completed key) else none with
  | some record => if record.status = .locallyDeleted then some ((scan.new key).getD record) else some record
  | none => scan.new key

def merged (scan : MediaScan) (answers : ScanAnswers) (key : String) : Option MediaRecord :=
  (scanned scan answers key).or (scan.snapshot key)

def scanEnd (index : Nat) (answers : ScanAnswers) : MediaRegistry :=
  match s.scans[index]? with
  | none => s
  | some scan =>
    { s with
      records := fun key => (merged scan answers key).or (s.records key)
      detected := fun key => ((scanned scan answers key).map MediaRecord.revision).or (s.detected key)
      scans := s.scans.eraseIdx index }

def stagedBytes (context : PassContext) (record : MediaRecord) (outcome : StageOutcome) : Option StagedBytes :=
  match record.status with
  | .staged | .isProtected | .locallyDeleted => none
  | _ => context.destination.bind fun _ => outcome.toOption

/-- The pass goes on to the next record: it looks for the upload in the queue, and what is new it adds in a step of its own. -/
def passRecord (index : Nat) (outcome : StageOutcome) (now : Int) : MediaRegistry :=
  match s.passes[index]? with
  | none => s
  | some pass => match pass.adding, pass.todo with
    | none, key :: todo => match pass.snapshot key with
      | none => { s with passes := s.passes.set index { pass with todo := todo } }
      | some record =>
        let (update, item) := protectRecord s.queue pass.context key record outcome now
        { s with
          stagedFor := (stagedBytes pass.context record outcome).toList.map (fun staged =>
            (AutoQueueKeys.queueItemId key staged.sha256, record.revision)) ++ s.stagedFor
          passes := s.passes.set index { pass with
            todo := todo, adding := item, updates := pass.updates ++ (update.map fun record => (key, record)).toList } }
    | _, _ => s

/-- `queueStore.add`. -/
def passAdd (index : Nat) : MediaRegistry :=
  match s.passes[index]? with
  | none => s
  | some pass => match pass.adding with
    | none => s
    | some item =>
      { s with
        queue := add s.queue item
        history := item :: s.history
        passes := s.passes.set index { pass with adding := none } }

def passEnd (index : Nat) : MediaRegistry :=
  match s.passes[index]? with
  | none => s
  | some pass =>
    if pass.adding.isNone ∧ pass.todo = [] then
      { s with records := putAll s.records pass.updates, passes := s.passes.eraseIdx index }
    else s

def queueWrite (load : Nat) (write : ItemWrite) (now : Int) : MediaRegistry :=
  match s.history[load]? with
  | none => s
  | some copy =>
    let item := write.apply now copy
    { s with
      queue := UploadQueueStore.update s.queue item
      history := item :: s.history
      reconciles := if item.status = .done then s.reconciles ++ [{ item }] else s.reconciles }

def reconcileRead (index : Nat) : MediaRegistry :=
  match s.reconciles[index]? with
  | none => s
  | some job => match job.item.receipt, job.item.mediaIdentity.bind s.records with
    | some _, some record => { s with reconciles := s.reconciles.set index { job with read := some record } }
    | _, _ => { s with reconciles := s.reconciles.eraseIdx index }

def reconciled (item : UploadQueueItem) (receipt : UploadReceipt) (record : MediaRecord) : MediaRecord :=
  if record.status = .isProtected ∧ record.queueItemId = some item.id then record
  else if record.queueItemId ≠ some item.id then
    { record with previousProtectedPaths := ((receipt.finalRelPath :: record.previousProtectedPaths).eraseDups).take 20 }
  else { record with
    status := .isProtected, queueItemId := some item.id, sha256 := item.sha256
    receiptPath := some receipt.finalRelPath, error := none }

def reconcileWrite (index : Nat) : MediaRegistry :=
  match s.reconciles[index]? with
  | none => s
  | some job => match job.item.receipt, job.item.mediaIdentity, job.read with
    | some receipt, some identity, some record =>
      { s with
        records := s.records.put identity (reconciled job.item receipt record)
        reconciles := s.reconciles.eraseIdx index }
    | _, _, _ => s

def step : RegistryEvent → MediaRegistry
  | .scanStart => { s with scans := s.scans ++ [{ snapshot := s.records }] }
  | .scanPage index rows => s.scanPage index rows
  | .scanEnd index answers => s.scanEnd index answers
  | .passStart context todo => { s with passes := s.passes ++ [{ context, snapshot := s.records, todo }] }
  | .passRecord index outcome now => s.passRecord index outcome now
  | .passAdd index => s.passAdd index
  | .passEnd index => s.passEnd index
  | .queueWrite load write now => s.queueWrite load write now
  | .reconcileRead index => s.reconcileRead index
  | .reconcileWrite index => s.reconcileWrite index
  | .remove itemId => { s with queue := UploadQueueStore.remove s.queue itemId }
  | .pair registration => { s with registration := registration }
  | .restart => { s with scans := [], passes := [], reconciles := [] }

end MediaRegistry

end LamaSync
