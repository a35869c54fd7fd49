import LamaSync.Core.Text

/-!
# Folders, assignments and destinations

A folder and its assignment to a host say what the host does with a local path: the effective type, the destination on
the remote, and the key under which the writers of one destination are serialised.

The key is a text.  `canonicalDestinationKey` builds it from the restic repository, or from the identity of the backend
and the destination path; an explicit destination that is no relative path is an error, which the callers see as a
failed request.
-/

namespace LamaSync

inductive FolderType where
  | sync | mount | backup | dotfile | git
  deriving DecidableEq, Repr

inductive FolderBackend where
  | sftp | s3 | local | nfs | restic
  deriving DecidableEq, Repr

def FolderBackend.text : FolderBackend → String
  | .sftp => "sftp"
  | .s3 => "s3"
  | .local => "local"
  | .nfs => "nfs"
  | .restic => "restic"

inductive AssignmentMode where
  | inherit | sync | mount
  deriving DecidableEq, Repr

inductive ConflictStrategy where
  | newerWins | sourceWins | keepBoth | manual
  deriving DecidableEq, Repr

inductive GitProvider where
  | git | gh
  deriving DecidableEq, Repr

structure Folder where
  id : String
  name : String
  type : FolderType
  gitProvider : Option GitProvider := none
  gitRemote : Option String := none
  backend : Option FolderBackend := none
  backendId : Option String := none
  s3Bucket : Option String := none
  deriving DecidableEq

/-- The fields of an assignment that the functions modelled here read. -/
structure FolderAssignment where
  id : String
  folderId : String
  hostId : String
  role : String := "both"
  localPath : String
  remoteName : Option String := none
  destination : Option String := none
  syncExpr : Option String := none
  enabled : Bool := true
  mode : Option AssignmentMode := none
  conflictStrategy : Option ConflictStrategy := none
  preSyncCmd : Option String := none
  postSyncCmd : Option String := none
  ignorePath : Option String := none
  mountIgnorePath : Option String := none
  bandwidthSchedule : Option String := none
  maxRetries : Option Int := none
  availableSpaceThreshold : Option Int := none
  resticRepository : Option String := none
  resticPassword : Option String := none
  ignoreGitMetadata : Bool := false
  respectGitignore : Bool := false
  bisyncMaxDeletePercent : Option Int := none
  mountCacheMode : Option String := none
  deriving DecidableEq

structure AppCaptureAssignment where
  appName : String := ""
  protectionId : String
  paths : List String := []
  resolvedPaths : Option (List String) := none
  excludes : List String := []
  schedule : Option String := none
  deriving DecidableEq

def effectiveFolderType (folder : Folder) (assignment : FolderAssignment) : FolderType :=
  if folder.type ≠ .sync ∧ folder.type ≠ .mount then folder.type
  else match assignment.mode with
    | some .mount => .mount
    | some .sync => .sync
    | some .inherit | none => folder.type

def trimText (text : String) : String := String.ofList (trimSpaces text.toList)

theorem trimText_idem (text : String) : trimText (trimText text) = trimText text := by
  unfold trimText
  rw [String.toList_ofList, trimSpaces_idem]

def presentText (text : Option String) : Option String := text.filter fun t => t ≠ ""

def presentTrimmed (text : Option String) : Option String := presentText (text.map trimText)

def joinDestination (parts : List String) : String := "/".intercalate ((parts.map trimText).filter fun p => p ≠ "")

def isBadSegment (part : List Char) : Bool := part == ['.'] || part == ['.', '.'] || part.contains '\u0000'

def normalizeDestination (value : String) : Option String :=
  let raw := (trimSpaces value.toList).map fun c => if c = '\\' then '/' else c
  if raw.isEmpty then none
  else if raw.head? = some '/' then none
  else
    let parts := (raw.splitOn '/').filter fun part => !part.isEmpty
    if parts.isEmpty || parts.any isBadSegment then none
    else some ("/".intercalate (parts.map String.ofList))

structure AssignmentIdentity where
  hostId : String
  remoteName : Option String
  destination : Option String
  resticRepository : Option String

def FolderAssignment.identity (assignment : FolderAssignment) : AssignmentIdentity where
  hostId := assignment.hostId
  remoteName := assignment.remoteName
  destination := assignment.destination
  resticRepository := assignment.resticRepository

section Keys

variable (folder : Folder) (assignment : AssignmentIdentity)

def defaultDestination : String :=
  if folder.type = .backup then joinDestination [folder.name, assignment.hostId] else joinDestination [folder.name]

def resolveDestination : Except String String :=
  match presentTrimmed assignment.destination with
  | none => .ok (defaultDestination folder assignment)
  | some explicit =>
    match normalizeDestination explicit with
    | none => .error "invalid backup destination prefix"
    | some normalized => .ok normalized

def backendKind : String := folder.backend.elim "remote" FolderBackend.text

def folderBucket : Option String := if folder.backend = some .s3 then presentText folder.s3Bucket else none

def backendIdentity : String :=
  match presentText folder.backendId with
  | some backendId =>
    let bucket := (folderBucket folder).elim "" fun b => ":bucket:" ++ (normalizeDestination b).getD (trimText b)
    backendKind folder ++ ":" ++ backendId ++ bucket
  | none =>
    match presentTrimmed assignment.remoteName, folderBucket folder with
    | some remoteName, some b => "s3:" ++ remoteName ++ ":bucket:" ++ trimText b
    | some remoteName, none => backendKind folder ++ ":" ++ remoteName
    | none, some b => "s3:" ++ b
    | none, none => "folder:" ++ folder.id

/-- `replace(/\/+$/, "")`. -/
def dropTrailingSlashes (text : String) : String :=
  String.ofList (text.toList.reverse.dropWhile fun c => c == '/').reverse

def canonicalDestinationKey : Except String String :=
  match presentText assignment.resticRepository with
  | some repository =>
    .ok ("repo:" ++ (presentText (some (dropTrailingSlashes (trimText repository)))).getD "/")
  | none => (resolveDestination folder assignment).map fun path => backendIdentity folder assignment ++ ":path:" ++ path

end Keys

/-- The keys of two folders that the daemon serialises: a shared destination has one key, a backup one per host. -/
example :
    let assignment := fun host => AssignmentIdentity.mk host none none none
    let shared : Folder := { id := "f", name := "docs", type := .sync, backend := some .s3, backendId := some "b" }
    (canonicalDestinationKey shared (assignment "a")).toOption = some "s3:b:path:docs" ∧
      (canonicalDestinationKey { shared with type := .backup } (assignment "a")).toOption =
        some "s3:b:path:docs/a" := by
  decide +kernel

end LamaSync
