import LamaSync.Core.ScheduleText
import LamaSync.Server.ConfigDelivery

/-!
# The writes of backends, folders and assignments

The routes that make and change backends, folders and assignments, over the tables that they write.  A request that is
refused leaves them alone.

The references of a folder are checked, and so are the destination and the schedule of an assignment; names, remote names and
the other texts are stored as they come.
-/

namespace LamaSync

inductive BackendKind where
  | s3 | local | nfs | restic
  deriving DecidableEq, Repr

def BackendKind.folderBackend : BackendKind → FolderBackend
  | .s3 => .s3
  | .local => .local
  | .nfs => .nfs
  | .restic => .restic

def BackendKind.ofText (text : String) : Option BackendKind :=
  if text = "s3" then some .s3 else if text = "local" then some .local else if text = "nfs" then some .nfs
  else if text = "restic" then some .restic else none

inductive S3Provider where
  | exoscale | aws | b2 | other
  deriving DecidableEq, Repr

def S3Provider.ofText (text : String) : Option S3Provider :=
  if text = "exoscale" then some .exoscale else if text = "aws" then some .aws else if text = "b2" then some .b2
  else if text = "other" then some .other else none

structure BackendRow where
  id : String
  name : String
  kind : BackendKind
  s3Provider : S3Provider := .other
  s3Endpoint : Option String := none
  s3Region : Option String := none
  s3AccessKeyId : Option String := none
  s3SecretKey : Option String := none
  localPath : Option String := none
  resticRepository : Option String := none
  resticPassword : Option String := none
  deriving DecidableEq

def isUuidChar (c : Char) : Bool := c.isDigit || ('a' ≤ c && c ≤ 'f') || c = '-'

def RandomUuid : Type := { text : String // text.length = 36 ∧ ∀ c ∈ text.toList, isUuidChar c = true }

def RandomPassword : Type :=
  { text : String // text.length = 44 ∧ ∀ c ∈ text.toList, c.isAlphanum = true ∨ c = '+' ∨ c = '/' ∨ c = '=' }

instance neZeroTen : @NeZero Nat (@Zero.ofOfNat0 Nat (instOfNatNat 0)) 10 := ⟨Nat.succ_ne_zero 9⟩

def sampleUuid (digit : Fin 10) : RandomUuid :=
  ⟨String.ofList ("00000000-0000-4000-8000-00000000000".toList ++ [Nat.digitChar digit]), by revert digit; decide +kernel,
    List.all_eq_true.1 (by revert digit; decide +kernel)⟩

def samplePassword : RandomPassword := ⟨"c2FtcGxlLXBhc3N3b3JkLW9mLTMyLWJ5dGVzLWhlcmU=", by decide +kernel,
  List.forall_iff_forall_mem.1 (by decide +kernel)⟩

structure FolderStore where
  hosts : List String := []
  backends : List BackendRow := []
  folders : List FolderRow := []
  assignments : List AssignmentRow := []

structure RouteError where
  status : Nat
  error : String
  deriving DecidableEq

structure BackendBody where
  name : String
  kind : Option String := none
  s3Provider : Option String := none
  s3Endpoint : Option String := none
  s3Region : Option String := none
  s3AccessKeyId : Option String := none
  s3SecretAccessKey : Option String := none
  localPath : Option String := none
  resticRepository : Option String := none
  resticPassword : Option String := none

/-- The name may be missing, and the kind is not read. -/
structure BackendPatch where
  name : Option String := none
  s3Provider : Option String := none
  s3Endpoint : Option String := none
  s3Region : Option String := none
  s3AccessKeyId : Option String := none
  s3SecretAccessKey : Option String := none
  localPath : Option String := none
  resticRepository : Option String := none
  resticPassword : Option String := none

structure FolderBody where
  name : String
  type : FolderType
  encrypted : Bool := false
  cryptPassword : Option String := none
  gitProvider : Option GitProvider := none
  gitRemote : Option String := none
  backend : Option String := none
  backendId : Option String := none
  s3Bucket : Option String := none

/-- A field that may be missing; of those that may be null as well, the inner option is the value. -/
structure FolderPatch where
  name : Option String := none
  type : Option FolderType := none
  encrypted : Option Bool := none
  cryptPassword : Option (Option String) := none
  gitProvider : Option (Option GitProvider) := none
  gitRemote : Option (Option String) := none
  backend : Option String := none
  backendId : Option String := none
  s3Bucket : Option String := none

structure AssignBody where
  hostId : String
  role : String
  localPath : String
  remoteName : Option String := none
  destination : Option String := none
  syncExpr : Option String := none
  enabled : Option Bool := none
  mode : Option AssignmentMode := none
  conflictStrategy : Option String := none
  preSyncCmd : Option String := none
  postSyncCmd : Option String := none
  ignorePath : Option String := none
  mountIgnorePath : Option String := none
  timeoutSec : Option Int := none
  bandwidthSchedule : Option String := none
  maxRetries : Option Int := none
  availableSpaceThreshold : Option Int := none
  cacheProfile : Option String := none
  cacheMaxSize : Option String := none
  resticRepository : Option String := none
  resticPassword : Option String := none
  watchEnabled : Bool := false
  watchQuietSec : Option Int := none
  ignoreGitMetadata : Bool := false
  respectGitignore : Bool := false
  bisyncMaxDeletePercent : Option Int := none
  mountCacheMode : Option String := none

structure AssignPatch where
  role : Option (Option String) := none
  localPath : Option (Option String) := none
  destination : Option (Option String) := none
  syncExpr : Option (Option String) := none
  enabled : Option Bool := none
  mode : Option (Option AssignmentMode) := none
  conflictStrategy : Option (Option String) := none
  preSyncCmd : Option (Option String) := none
  postSyncCmd : Option (Option String) := none
  ignorePath : Option (Option String) := none
  mountIgnorePath : Option (Option String) := none
  timeoutSec : Option (Option Int) := none
  bandwidthSchedule : Option (Option String) := none
  maxRetries : Option (Option Int) := none
  availableSpaceThreshold : Option (Option Int) := none
  cacheProfile : Option (Option String) := none
  cacheMaxSize : Option (Option String) := none
  resticRepository : Option (Option String) := none
  resticPassword : Option (Option String) := none
  watchEnabled : Option Bool := none
  watchQuietSec : Option (Option Int) := none
  ignoreGitMetadata : Option Bool := none
  respectGitignore : Option Bool := none
  bisyncMaxDeletePercent : Option (Option Int) := none
  mountCacheMode : Option (Option String) := none

inductive FolderRequest where
  | addHost (hostId : String)
  | createBackend (id : RandomUuid) (body : BackendBody)
  | updateBackend (id : String) (patch : BackendPatch)
  | deleteBackend (id : String) (protections snapshots : Nat)
  | createFolder (id : RandomUuid) (now : Int) (randomPassword : RandomPassword) (body : FolderBody)
  | updateFolder (id : String) (randomPassword : RandomPassword) (patch : FolderPatch)
  | deleteFolder (id : String)
  | assign (id : RandomUuid) (folderId : String) (body : AssignBody)
  | unassign (folderId hostId : String)
  | patchAssignment (folderId hostId : String) (patch : AssignPatch)

/-- The text is made of two given parts and letters, digits and hyphens between them, in letters of any size. -/
def isZoned (front back text : String) : Bool :=
  let cs := text.toList.map Char.toLower
  let zone := (cs.drop front.length).take (cs.length - front.length - back.length)
  cs == front.toList ++ zone ++ back.toList && !zone.isEmpty && zone.all fun c => c.isAlphanum || c == '-'

def validateS3Settings (kind : BackendKind) (provider : S3Provider) (endpoint : String) (region : Option String) :
    Option String :=
  if kind ≠ .s3 then none
  else if endpoint = "" then some "s3Endpoint is required for S3 backends"
  else match provider with
    | .exoscale =>
      if isZoned "sos-" ".exo.io" (trimText endpoint) then none
      else some ("Exoscale endpoint must match sos-ZONE.exo.io (got: " ++ endpoint ++ ")")
    | .aws => if (presentTrimmed region).isNone then some "AWS S3 provider requires s3Region" else none
    | .b2 =>
      if (presentTrimmed region).isNone then some "Backblaze B2 requires the region from its S3 endpoint"
      else if ["", "http://", "https://"].any fun scheme => isZoned (scheme ++ "s3.") ".backblazeb2.com" (trimText endpoint) then none
      else if ["http://", "https://"].any fun scheme => isZoned (scheme ++ "s3.") ".backblazeb2.com/" (trimText endpoint) then none
      else some "Backblaze B2 endpoint must match s3.REGION.backblazeb2.com"
    | .other => none

def normalizeRegion (provider : S3Provider) (region : Option String) : Option String :=
  if provider = .exoscale then some "other-v2-signature" else presentTrimmed region

def validateKindFields (kind : BackendKind) (localPath resticRepository resticPassword : Option String)
    (creating : Bool) : Option String :=
  match kind with
  | .local | .nfs =>
    if creating ∧ trimText (localPath.getD "") = "" then some (kind.folderBackend.text ++ " backends require localPath")
    else if localPath.any fun path => !(trimText path).startsWith "/" then
      some (kind.folderBackend.text ++ " localPath must be an absolute path (starting with /)")
    else none
  | .restic =>
    if creating then
      if trimText (resticRepository.getD "") = "" ∨ resticPassword.getD "" = "" then
        some "restic backends require resticRepository and resticPassword"
      else none
    else if resticRepository.any fun repository => trimText repository = "" then some "resticRepository cannot be empty"
    else none
  | .s3 => none

def firstError (checks : List (Option RouteError)) : Option RouteError := checks.findSome? id

def refuseIf (condition : Bool) (status : Nat) (error : String) : Option RouteError :=
  if condition then some ⟨status, error⟩ else none

theorem firstError_eq_none {checks : List (Option RouteError)} : firstError checks = none ↔ ∀ check ∈ checks, check = none := by
  unfold firstError
  rw [List.findSome?_eq_none_iff]
  rfl

theorem refuseIf_eq_none {condition : Bool} {status : Nat} {error : String} :
    refuseIf condition status error = none ↔ condition = false := by
  unfold refuseIf
  cases condition <;> simp

namespace FolderStore

variable (s : FolderStore)

def getBackend (id : String) : Option BackendRow := s.backends.find? fun b => b.id = id

def nameTaken (name : String) (id : Option String) : Bool :=
  s.backends.any fun b => b.name.map Char.toLower = name.map Char.toLower && id.all fun own => b.id ≠ own

def newBackend (id : RandomUuid) (body : BackendBody) : BackendRow :=
  let kind := (body.kind.bind BackendKind.ofText).getD .s3
  let provider := (body.s3Provider.bind S3Provider.ofText).getD .other
  { id := id.val
    name := trimText body.name
    kind
    s3Provider := provider
    s3Endpoint := if kind = .s3 then some (trimText (body.s3Endpoint.getD "")) else none
    s3Region := if kind = .s3 then normalizeRegion provider body.s3Region else none
    s3AccessKeyId := if kind = .s3 then some (trimText (body.s3AccessKeyId.getD "")) else none
    s3SecretKey := if kind = .s3 then presentText body.s3SecretAccessKey else none
    localPath := if kind = .local ∨ kind = .nfs then some (trimText (body.localPath.getD "")) else none
    resticRepository := if kind = .restic then some (trimText (body.resticRepository.getD "")) else none
    resticPassword := if kind = .restic then presentText body.resticPassword else none }

def newBackendError (row : BackendRow) (body : BackendBody) : Option RouteError :=
  let endpoint := trimText (body.s3Endpoint.getD "")
  let kindError := validateKindFields row.kind (some (trimText (body.localPath.getD "")))
    (some (trimText (body.resticRepository.getD ""))) (some (body.resticPassword.getD "")) true
  let region := normalizeRegion row.s3Provider body.s3Region
  firstError [
    refuseIf (row.name = "") 400 "name is required",
    refuseIf (row.kind = .s3 ∧ (endpoint = "" ∨ trimText (body.s3AccessKeyId.getD "") = "" ∨
      body.s3SecretAccessKey.getD "" = "")) 400 "S3 backends require s3Endpoint, s3AccessKeyId and s3SecretAccessKey",
    (validateS3Settings row.kind row.s3Provider endpoint region).map fun error => ⟨400, error⟩,
    kindError.map fun error => ⟨400, error⟩,
    refuseIf (s.nameTaken row.name none) 409 ("backend name '" ++ row.name ++ "' already in use"),
    refuseIf (s.getBackend row.id).isSome 500 "UNIQUE constraint failed: backends.id"]

def patchedBackend (old : BackendRow) (patch : BackendPatch) : BackendRow :=
  let provider := (patch.s3Provider.bind S3Provider.ofText).getD old.s3Provider
  { old with
    name := (patch.name.map trimText).getD old.name
    s3Provider := provider
    s3Endpoint := some ((patch.s3Endpoint.map trimText).getD (old.s3Endpoint.getD ""))
    s3Region := normalizeRegion provider (patch.s3Region.or old.s3Region)
    s3AccessKeyId := some ((patch.s3AccessKeyId.map trimText).getD (old.s3AccessKeyId.getD ""))
    s3SecretKey := (presentText patch.s3SecretAccessKey).or old.s3SecretKey
    localPath := if old.kind = .local ∨ old.kind = .nfs then (patch.localPath.map trimText).or old.localPath
      else old.localPath
    resticRepository := if old.kind = .restic then (patch.resticRepository.map trimText).or old.resticRepository
      else old.resticRepository
    resticPassword := if old.kind = .restic then (presentText patch.resticPassword).or old.resticPassword
      else old.resticPassword }

def patchedBackendError (old row : BackendRow) (patch : BackendPatch) : Option RouteError :=
  let endpoint := row.s3Endpoint.getD ""
  let kindError := validateKindFields old.kind (patch.localPath.map trimText) (patch.resticRepository.map trimText)
    (presentText patch.resticPassword) false
  firstError [
    refuseIf (row.name = "") 400 "name cannot be empty",
    refuseIf (row.name.map Char.toLower ≠ old.name.map Char.toLower ∧ s.nameTaken row.name (some old.id)) 409
      ("backend name '" ++ row.name ++ "' already in use"),
    refuseIf (old.kind = .s3 ∧ (endpoint = "" ∨ row.s3AccessKeyId.getD "" = "")) 400
      "S3 backends require s3Endpoint and s3AccessKeyId",
    (validateS3Settings old.kind row.s3Provider endpoint row.s3Region).map fun error => ⟨400, error⟩,
    kindError.map fun error => ⟨400, error⟩]

def createBackend (id : RandomUuid) (body : BackendBody) : Except RouteError FolderStore :=
  let row := newBackend id body
  match s.newBackendError row body with
  | some error => .error error
  | none => .ok { s with backends := s.backends ++ [row] }

def updateBackend (id : String) (patch : BackendPatch) : Except RouteError FolderStore :=
  match s.getBackend id with
  | none => .error ⟨404, "Backend not found"⟩
  | some old =>
    match s.patchedBackendError old (patchedBackend old patch) patch with
    | some error => .error error
    | none => .ok { s with backends := s.backends.map fun b => if b.id = id then patchedBackend old patch else b }

def folderCount (backendId : String) : Nat := s.folders.countP fun f => f.backendId = some backendId

def deleteBackend (id : String) (protections snapshots : Nat) : Except RouteError FolderStore :=
  match s.getBackend id with
  | none => .error ⟨404, "Backend not found"⟩
  | some old =>
    if 0 < s.folderCount id then
      .error ⟨409, "backend '" ++ old.name ++ "' is used by " ++ toString (s.folderCount id) ++
        " folder(s); unassign them first"⟩
    else if 0 < protections then
      .error ⟨409, "backend '" ++ old.name ++ "' is the destination of " ++ toString protections ++
        " app protection(s); change their destination first"⟩
    else if 0 < snapshots then
      .error ⟨409, "backend '" ++ old.name ++ "' still stores " ++ toString snapshots ++
        " app snapshot(s); delete or migrate them first"⟩
    else .ok { s with backends := s.backends.filter fun b => b.id ≠ id }

end FolderStore

def FolderType.stored : FolderType → String
  | .sync => "sync"
  | .mount => "mount"
  | .backup => "backup"
  | .dotfile => "dotfile"
  | .git => "git"

def FolderType.ofText (text : String) : Option FolderType :=
  if text = "sync" then some .sync else if text = "mount" then some .mount else if text = "backup" then some .backup
  else if text = "dotfile" then some .dotfile else if text = "git" then some .git else none

@[simp] theorem normalizedBackend_text (backend : FolderBackend) : normalizedBackend (some backend.text) = backend := by
  cases backend <;> decide

def GitProvider.text : GitProvider → String
  | .git => "git"
  | .gh => "gh"

def AssignmentMode.text : AssignmentMode → String
  | .inherit => "inherit"
  | .sync => "sync"
  | .mount => "mount"

def normalizeBackend (value : String) : FolderBackend := normalizedBackend (some (value.map Char.toLower))

namespace FolderStore

variable (s : FolderStore)

def requireS3Backend (backendId s3Bucket : Option String) : Option String :=
  match presentTrimmed backendId with
  | none => some "Missing required S3 field: backendId"
  | some id =>
    if (presentTrimmed s3Bucket).isNone then some "Missing required S3 field: s3Bucket"
    else match s.getBackend id with
      | none => some ("backend '" ++ backendId.getD "" ++ "' not found")
      | some backend =>
        if backend.kind ≠ .s3 then some ("backend '" ++ backend.name ++ "' is not an S3 backend") else none

def requireKindBackend (folderKind : BackendKind) (backendId : Option String) : Option String :=
  let kind := folderKind.folderBackend.text
  match presentTrimmed backendId with
  | none => some ("Missing required " ++ kind ++ " field: backendId")
  | some id =>
    match s.getBackend id with
    | none => some ("backend '" ++ backendId.getD "" ++ "' not found")
    | some backend =>
      if backend.kind ≠ folderKind then
        some ("backend '" ++ backend.name ++ "' is a " ++ backend.kind.folderBackend.text ++ " backend, not " ++ kind)
      else none

def backendError (backend : FolderBackend) (backendId s3Bucket : Option String) : Option RouteError :=
  (match backend with
    | .s3 => s.requireS3Backend backendId s3Bucket
    | .local => s.requireKindBackend .local backendId
    | .nfs => s.requireKindBackend .nfs backendId
    | .restic => s.requireKindBackend .restic backendId
    | .sftp => none).map fun error => ⟨400, error⟩

def backendOfBody (body : FolderBody) : Option (FolderBackend × String) :=
  match unlessBlank body.backend with
  | some backend => some (normalizeBackend backend, trimText (body.backendId.getD ""))
  | none => s.backends.head?.map fun first => (first.kind.folderBackend, first.id)

def newFolder (id : RandomUuid) (now : Int) (randomPassword : RandomPassword) (body : FolderBody) (backend : FolderBackend × String) :
    FolderRow where
  id := id.val
  name := body.name
  type := body.type.stored
  createdAt := some now
  encrypted := some (if body.encrypted then 1 else 0)
  cryptPassword := if body.encrypted ∧ presentText body.cryptPassword = none then some randomPassword.val
    else body.cryptPassword
  gitProvider := body.gitProvider.map GitProvider.text
  gitRemote := if body.gitProvider = some .gh then body.gitRemote.map trimText else body.gitRemote
  backend := some backend.1.text
  backendId := if backend.1.needsRef then some backend.2 else none
  s3Bucket := if backend.1 = .s3 then some (trimText (body.s3Bucket.getD "")) else none

def createFolder (id : RandomUuid) (now : Int) (randomPassword : RandomPassword) (body : FolderBody) : Except RouteError FolderStore :=
  match s.backendOfBody body with
  | none => .error ⟨400, "no backends configured; create a backend first or specify backend"⟩
  | some backend =>
    match firstError [
      s.backendError backend.1 (some backend.2) body.s3Bucket,
      refuseIf (body.gitProvider = some .gh ∧ presentTrimmed body.gitRemote = none) 400
        "gitRemote is required when gitProvider is \"gh\"",
      refuseIf (s.folders.any fun f => f.id = id.val) 500 "UNIQUE constraint failed: folders.id"] with
    | some error => .error error
    | none => .ok { s with folders := s.folders ++ [newFolder id now randomPassword body backend] }

def patchedFolder (old : FolderRow) (randomPassword : RandomPassword) (patch : FolderPatch) : FolderRow :=
  let encrypted := patch.encrypted.getD (old.encrypted.getD 0 = 1)
  let backend := (patch.backend.map normalizeBackend).getD (normalizedBackend old.backend)
  { old with
    name := patch.name.getD old.name
    type := (patch.type.map FolderType.stored).getD old.type
    encrypted := some (if encrypted then 1 else 0)
    cryptPassword := match patch.cryptPassword with
      | none => old.cryptPassword
      | some password => (presentText password).or (if encrypted then some randomPassword.val else none)
    gitProvider := (patch.gitProvider.getD (knownGitProvider old.gitProvider)).map GitProvider.text
    gitRemote := match patch.gitRemote with
      | none => old.gitRemote
      | some remote => presentTrimmed remote
    backend := some backend.text
    backendId := if backend.needsRef then (presentTrimmed patch.backendId).or old.backendId else none
    s3Bucket := if backend ≠ .s3 then none else match patch.s3Bucket with
      | none => old.s3Bucket
      | some bucket => presentTrimmed (some bucket) }

def updateFolder (id : String) (randomPassword : RandomPassword) (patch : FolderPatch) : Except RouteError FolderStore :=
  match s.folders.find? fun f => f.id = id with
  | none => .error ⟨404, "Folder not found"⟩
  | some old =>
    let row := patchedFolder old randomPassword patch
    match firstError [
      refuseIf (row.encrypted = some 1 ∧ presentText row.cryptPassword = none) 500 "Failed to generate crypt password",
      refuseIf (row.gitProvider = some "gh" ∧ presentText row.gitRemote = none) 400
        "gitRemote is required when gitProvider is \"gh\"",
      s.backendError (normalizedBackend row.backend) row.backendId row.s3Bucket] with
    | some error => .error error
    | none => .ok { s with folders := s.folders.map fun f => if f.id = id then row else f }

def deleteFolder (id : String) : Except RouteError FolderStore :=
  if s.folders.any fun f => f.id = id then
    .ok { s with
      folders := s.folders.filter fun f => f.id ≠ id
      assignments := s.assignments.filter fun a => a.folderId ≠ id }
  else .error ⟨404, "Folder not found"⟩

end FolderStore

def isValidWatchQuietSec (value : Option Int) : Bool := value.all fun seconds => 10 ≤ seconds && seconds ≤ 300

def validateBisyncMaxDeletePercent (value : Option Int) : Option String :=
  if value.all fun percent => 0 ≤ percent && percent ≤ 100 then none
  else some "bisyncMaxDeletePercent must be null or an integer between 0 and 100"

def validateMountCacheMode (value : Option String) : Bool :=
  value.all fun mode => mode = "off" || mode = "minimal" || mode = "writes" || mode = "full"

def invalidDestination : String := "destination must be a non-empty relative path without '.' or '..' segments"

def invalidQuietSec : String := "watchQuietSec must be null or an integer between 10 and 300 seconds"

def invalidCacheMode : String := "mountCacheMode must be null, off, minimal, writes or full"

def AssignPatch.isEmpty (patch : AssignPatch) : Bool :=
  patch.role.isNone && patch.localPath.isNone && patch.destination.isNone && patch.syncExpr.isNone &&
    patch.enabled.isNone && patch.mode.isNone && patch.conflictStrategy.isNone && patch.preSyncCmd.isNone &&
    patch.postSyncCmd.isNone && patch.ignorePath.isNone && patch.mountIgnorePath.isNone && patch.timeoutSec.isNone &&
    patch.bandwidthSchedule.isNone && patch.maxRetries.isNone && patch.availableSpaceThreshold.isNone &&
    patch.cacheProfile.isNone && patch.cacheMaxSize.isNone && patch.resticRepository.isNone &&
    patch.resticPassword.isNone && patch.watchEnabled.isNone && patch.watchQuietSec.isNone &&
    patch.ignoreGitMetadata.isNone && patch.respectGitignore.isNone && patch.bisyncMaxDeletePercent.isNone &&
    patch.mountCacheMode.isNone

def scheduleError (cronError : String → Option String) (syncExpr : Option String) : Option RouteError :=
  ((unlessBlank syncExpr).bind (validateScheduleExpression cronError)).map fun error => ⟨400, error⟩

def destinationError (destination : Option String) : Option RouteError :=
  refuseIf ((unlessBlank destination).any fun text => (normalizeDestination text).isNone) 400 invalidDestination

namespace FolderStore

/- `cronError` is what the third-party parser of schedules throws. -/
variable (cronError : String → Option String) (s : FolderStore)

def destinationFolder (folder : FolderRow) : Folder where
  id := folder.id
  name := folder.name
  type := (FolderType.ofText folder.type).getD .sync

def assignedDestination (folder : FolderRow) (body : AssignBody) : Except String String :=
  resolveDestination (destinationFolder folder)
    { hostId := body.hostId, remoteName := none, destination := body.destination.bind normalizeDestination,
      resticRepository := body.resticRepository }

def newAssignment (id : RandomUuid) (folderId destination : String) (body : AssignBody) : AssignmentRow where
  id := id.val
  folderId := folderId
  hostId := body.hostId
  role := body.role
  localPath := body.localPath
  remoteName := body.remoteName
  destination := some destination
  syncExpr := body.syncExpr
  enabled := if body.enabled = some false then 0 else 1
  mode := some (body.mode.getD .inherit).text
  conflictStrategy := body.conflictStrategy
  preSyncCmd := body.preSyncCmd
  postSyncCmd := body.postSyncCmd
  ignorePath := body.ignorePath
  mountIgnorePath := body.mountIgnorePath
  timeoutSec := body.timeoutSec
  bandwidthSchedule := body.bandwidthSchedule
  maxRetries := body.maxRetries
  availableSpaceThreshold := body.availableSpaceThreshold
  cacheProfile := body.cacheProfile
  cacheMaxSize := body.cacheMaxSize
  resticRepository := body.resticRepository
  resticPassword := body.resticPassword
  watchEnabled := if body.watchEnabled then 1 else 0
  watchQuietSec := body.watchQuietSec
  ignoreGitMetadata := if body.ignoreGitMetadata then 1 else 0
  respectGitignore := if body.respectGitignore then 1 else 0
  bisyncMaxDeletePercent := body.bisyncMaxDeletePercent
  mountCacheMode := body.mountCacheMode

def assign (id : RandomUuid) (folderId : String) (body : AssignBody) : Except RouteError FolderStore :=
  match s.folders.find? fun f => f.id = folderId with
  | none => .error ⟨404, "Folder not found"⟩
  | some folder =>
    match firstError [
      refuseIf (body.hostId ∉ s.hosts) 404 "Host not found",
      destinationError body.destination,
      refuseIf (!isValidWatchQuietSec body.watchQuietSec) 400 invalidQuietSec,
      (validateBisyncMaxDeletePercent body.bisyncMaxDeletePercent).map fun error => ⟨400, error⟩,
      refuseIf (!validateMountCacheMode body.mountCacheMode) 400 invalidCacheMode,
      scheduleError cronError body.syncExpr,
      refuseIf (s.assignments.any fun a => a.id = id.val ∨ a.folderId = folderId ∧ a.hostId = body.hostId) 500
        "UNIQUE constraint failed: folder_assignments"] with
    | some error => .error error
    | none =>
      match assignedDestination folder body with
      | .error error => .error ⟨500, error⟩
      | .ok destination => .ok { s with assignments := s.assignments ++ [newAssignment id folderId destination body] }

def unassign (folderId hostId : String) : Except RouteError FolderStore :=
  if s.assignments.any fun a => a.folderId = folderId ∧ a.hostId = hostId then
    .ok { s with assignments := s.assignments.filter fun a => !(a.folderId = folderId ∧ a.hostId = hostId) }
  else .error ⟨404, "Assignment not found"⟩

def patchedAssignment (old : AssignmentRow) (patch : AssignPatch) : AssignmentRow :=
  { old with
    role := (patch.role.getD (some old.role)).getD old.role
    localPath := (patch.localPath.getD (some old.localPath)).getD old.localPath
    destination := (patch.destination.map fun d => d.bind normalizeDestination).getD old.destination
    syncExpr := patch.syncExpr.getD old.syncExpr
    enabled := (patch.enabled.map fun enabled => if enabled then 1 else 0).getD old.enabled
    mode := (patch.mode.map fun mode => some (mode.getD .inherit).text).getD old.mode
    conflictStrategy := patch.conflictStrategy.getD old.conflictStrategy
    preSyncCmd := patch.preSyncCmd.getD old.preSyncCmd
    postSyncCmd := patch.postSyncCmd.getD old.postSyncCmd
    ignorePath := patch.ignorePath.getD old.ignorePath
    mountIgnorePath := patch.mountIgnorePath.getD old.mountIgnorePath
    timeoutSec := patch.timeoutSec.getD old.timeoutSec
    bandwidthSchedule := patch.bandwidthSchedule.getD old.bandwidthSchedule
    maxRetries := patch.maxRetries.getD old.maxRetries
    availableSpaceThreshold := patch.availableSpaceThreshold.getD old.availableSpaceThreshold
    cacheProfile := patch.cacheProfile.getD old.cacheProfile
    cacheMaxSize := patch.cacheMaxSize.getD old.cacheMaxSize
    resticRepository := (patch.resticRepository.map presentTrimmed).getD old.resticRepository
    resticPassword := (patch.resticPassword.map presentText).getD old.resticPassword
    watchEnabled := (patch.watchEnabled.map fun on => if on then 1 else 0).getD old.watchEnabled
    watchQuietSec := patch.watchQuietSec.getD old.watchQuietSec
    ignoreGitMetadata := (patch.ignoreGitMetadata.map fun on => if on then 1 else 0).getD old.ignoreGitMetadata
    respectGitignore := (patch.respectGitignore.map fun on => if on then 1 else 0).getD old.respectGitignore
    bisyncMaxDeletePercent := patch.bisyncMaxDeletePercent.getD old.bisyncMaxDeletePercent
    mountCacheMode := patch.mountCacheMode.getD old.mountCacheMode }

def patchAssignment (folderId hostId : String) (patch : AssignPatch) : Except RouteError FolderStore :=
  let isOne := fun (a : AssignmentRow) => a.folderId = folderId ∧ a.hostId = hostId
  match firstError [
    destinationError (patch.destination.getD none),
    scheduleError cronError (patch.syncExpr.getD none),
    refuseIf (!isValidWatchQuietSec (patch.watchQuietSec.getD none)) 400 invalidQuietSec,
    (validateBisyncMaxDeletePercent (patch.bisyncMaxDeletePercent.getD none)).map fun error => ⟨400, error⟩,
    refuseIf (!validateMountCacheMode (patch.mountCacheMode.getD none)) 400 invalidCacheMode,
    refuseIf patch.isEmpty 400 "No fields to update",
    refuseIf (!s.assignments.any fun a => isOne a) 404 "Assignment not found",
    refuseIf (patch.role = some none ∨ patch.localPath = some none) 500
      "NOT NULL constraint failed: folder_assignments"] with
  | some error => .error error
  | none => .ok { s with assignments := s.assignments.map fun a => if isOne a then patchedAssignment a patch else a }

def serve : FolderRequest → Except RouteError FolderStore
  | .addHost hostId => .ok { s with hosts := hostId :: s.hosts }
  | .createBackend id body => s.createBackend id body
  | .updateBackend id patch => s.updateBackend id patch
  | .deleteBackend id protections snapshots => s.deleteBackend id protections snapshots
  | .createFolder id now randomPassword body => s.createFolder id now randomPassword body
  | .updateFolder id randomPassword patch => s.updateFolder id randomPassword patch
  | .deleteFolder id => s.deleteFolder id
  | .assign id folderId body => s.assign cronError id folderId body
  | .unassign folderId hostId => s.unassign folderId hostId
  | .patchAssignment folderId hostId patch => s.patchAssignment cronError folderId hostId patch

def step (request : FolderRequest) : FolderStore := (s.serve cronError request).toOption.getD s

def after (requests : List FolderRequest) : FolderStore := requests.foldl (step cronError) {}

end FolderStore

end LamaSync
