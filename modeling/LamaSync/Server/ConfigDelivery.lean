import LamaSync.Server.Locks

/-!
# The configuration of a host

The folder routes and the configuration of a host read the same rows, each with mappers of its own.  What the configuration
delivers of a row is what the routes return of it, but for the columns that its statements do not select or its mappers do not
copy, and all of those are read by the daemon: the command before a run, the limit on deletions and the cache mode of an
assignment, the provider and the remote of a git folder (`config_delivers`).
-/

namespace LamaSync

structure FolderRow where
  id : String
  name : String
  type : String
  createdAt : Option Int := none
  encrypted : Option Int := none
  cryptPassword : Option String := none
  gitProvider : Option String := none
  gitRemote : Option String := none
  backend : Option String := none
  backendId : Option String := none
  s3Bucket : Option String := none

structure AssignmentRow where
  id : String
  folderId : String
  hostId : String
  role : String
  localPath : String
  remoteName : Option String := none
  destination : Option String := none
  syncExpr : Option String := none
  enabled : Int := 1
  mode : Option String := some "inherit"
  conflictStrategy : Option String := none
  preSyncCmd : Option String := none
  postSyncCmd : Option String := none
  ignorePath : Option String := none
  mountIgnorePath : Option String := none
  timeoutSec : Option Int := none
  bandwidthSchedule : Option String := none
  maxRetries : Option Int := none
  availableSpaceThreshold : Option Int := none
  cacheProfile : Option String := none
  cacheMaxSize : Option String := none
  resticRepository : Option String := none
  resticPassword : Option String := none
  watchEnabled : Int := 0
  watchQuietSec : Option Int := none
  ignoreGitMetadata : Int := 0
  respectGitignore : Int := 0
  bisyncMaxDeletePercent : Option Int := none
  mountCacheMode : Option String := none

structure SentFolder where
  id : String
  name : String
  type : String
  createdAt : Option Int
  encrypted : Bool
  cryptPassword : Option String
  gitProvider : Option GitProvider := none
  gitRemote : Option String := none
  backend : FolderBackend
  backendId : Option String
  s3Bucket : Option String
  deriving DecidableEq

structure SentAssignment where
  id : String
  folderId : String
  hostId : String
  role : String
  localPath : String
  remoteName : Option String
  destination : Option String
  syncExpr : Option String
  enabled : Bool
  mode : AssignmentMode
  conflictStrategy : Option String
  preSyncCmd : Option String := none
  postSyncCmd : Option String
  ignorePath : Option String
  mountIgnorePath : Option String
  timeoutSec : Option Int
  bandwidthSchedule : Option String
  maxRetries : Option Int
  availableSpaceThreshold : Option Int
  cacheProfile : Option String
  cacheMaxSize : Option String
  resticRepository : Option String
  resticPassword : Option String
  watchEnabled : Bool
  watchQuietSec : Option Int
  ignoreGitMetadata : Bool
  respectGitignore : Bool
  bisyncMaxDeletePercent : Option Int := none
  mountCacheMode : Option String := none
  deriving DecidableEq

def normalizedBackend (backend : Option String) : FolderBackend :=
  if backend = some "s3" then .s3 else if backend = some "local" then .local else if backend = some "nfs" then .nfs
  else if backend = some "restic" then .restic else .sftp

def FolderBackend.needsRef (backend : FolderBackend) : Bool :=
  backend = .s3 || backend = .local || backend = .nfs || backend = .restic

def storedMode (mode : Option String) : AssignmentMode :=
  if mode = some "sync" then .sync else if mode = some "mount" then .mount else .inherit

def knownGitProvider (provider : Option String) : Option GitProvider :=
  if provider = some "git" then some .git else if provider = some "gh" then some .gh else none

def knownCacheMode (mode : Option String) : Option String :=
  if mode = some "off" ∨ mode = some "minimal" ∨ mode = some "writes" ∨ mode = some "full" then mode else none

/-! The mappers of the folder routes. -/

namespace FolderRoutes

def rowToFolder (r : FolderRow) : SentFolder where
  id := r.id
  name := r.name
  type := r.type
  createdAt := r.createdAt
  encrypted := r.encrypted.getD 0 = 1
  cryptPassword := r.cryptPassword
  gitProvider := knownGitProvider r.gitProvider
  gitRemote := r.gitRemote
  backend := normalizedBackend r.backend
  backendId := if (normalizedBackend r.backend).needsRef then r.backendId else none
  s3Bucket := if normalizedBackend r.backend = .s3 then r.s3Bucket else none

def rowToAssignment (r : AssignmentRow) : SentAssignment where
  id := r.id
  folderId := r.folderId
  hostId := r.hostId
  role := r.role
  localPath := r.localPath
  remoteName := r.remoteName
  destination := r.destination
  syncExpr := r.syncExpr
  enabled := r.enabled = 1
  mode := storedMode r.mode
  conflictStrategy := r.conflictStrategy
  preSyncCmd := r.preSyncCmd
  postSyncCmd := r.postSyncCmd
  ignorePath := r.ignorePath
  mountIgnorePath := r.mountIgnorePath
  timeoutSec := r.timeoutSec
  bandwidthSchedule := r.bandwidthSchedule
  maxRetries := r.maxRetries
  availableSpaceThreshold := r.availableSpaceThreshold
  cacheProfile := r.cacheProfile
  cacheMaxSize := r.cacheMaxSize
  resticRepository := r.resticRepository
  resticPassword := r.resticPassword
  watchEnabled := r.watchEnabled = 1
  watchQuietSec := r.watchQuietSec
  ignoreGitMetadata := r.ignoreGitMetadata = 1
  respectGitignore := r.respectGitignore = 1
  bisyncMaxDeletePercent := r.bisyncMaxDeletePercent
  mountCacheMode := knownCacheMode r.mountCacheMode

end FolderRoutes

/-! The mappers of the configuration. -/

namespace ConfigRoutes

/-- The statement selects neither the provider nor the remote. -/
def rowToFolder (r : FolderRow) : SentFolder where
  id := r.id
  name := r.name
  type := r.type
  createdAt := r.createdAt
  encrypted := r.encrypted.getD 0 = 1
  cryptPassword := r.cryptPassword
  backend := normalizedBackend r.backend
  backendId := if (normalizedBackend r.backend).needsRef then r.backendId else none
  s3Bucket := if normalizedBackend r.backend = .s3 then r.s3Bucket else none

/-- The command before a run is selected, but not copied. -/
def rowToAssignment (r : AssignmentRow) : SentAssignment where
  id := r.id
  folderId := r.folderId
  hostId := r.hostId
  role := r.role
  localPath := r.localPath
  remoteName := r.remoteName
  destination := r.destination
  syncExpr := r.syncExpr
  enabled := r.enabled = 1
  mode := storedMode r.mode
  conflictStrategy := r.conflictStrategy
  postSyncCmd := r.postSyncCmd
  ignorePath := r.ignorePath
  mountIgnorePath := r.mountIgnorePath
  timeoutSec := r.timeoutSec
  bandwidthSchedule := r.bandwidthSchedule
  maxRetries := r.maxRetries
  availableSpaceThreshold := r.availableSpaceThreshold
  cacheProfile := r.cacheProfile
  cacheMaxSize := r.cacheMaxSize
  resticRepository := r.resticRepository
  resticPassword := r.resticPassword
  watchEnabled := r.watchEnabled = 1
  watchQuietSec := r.watchQuietSec
  ignoreGitMetadata := r.ignoreGitMetadata = 1
  respectGitignore := r.respectGitignore = 1

end ConfigRoutes

structure ResticDefault where
  repository : String
  password : String
  deriving DecidableEq

structure ConfigDb where
  folders : List FolderRow := []
  assignments : List AssignmentRow := []
  backends : Table String ResticBackendRow := fun _ => none

structure SentConfig where
  folders : List SentFolder
  assignments : List SentAssignment
  deriving DecidableEq

section Config

variable (db : ConfigDb) (hostId : String)

def resolveFolderResticConfig (folder : SentFolder) : Option ResticDefault :=
  if folder.backend ≠ .restic then none
  else do
    let backendId ← presentText folder.backendId
    let backend ← db.backends backendId
    let repository := trimText (backend.resticRepository.getD "")
    let password ← presentText backend.resticPassword
    if repository = "" then none else some { repository, password }

/-- The repository and the password of every folder whose backend has both. -/
def resticDefaults (folders : List SentFolder) : Table String ResticDefault :=
  folders.foldl (fun defaults folder =>
    (resolveFolderResticConfig db folder).elim defaults (defaults.put folder.id)) fun _ => none

def fillRestic (defaults : Table String ResticDefault) (assignment : SentAssignment) : SentAssignment :=
  match defaults assignment.folderId with
  | none => assignment
  | some default => { assignment with
      resticRepository := (presentText assignment.resticRepository).or (some default.repository)
      resticPassword := (presentText assignment.resticPassword).or (some default.password) }

def assignmentRows : List AssignmentRow := db.assignments.filter fun r => r.hostId = hostId

def folderRows : List FolderRow := db.folders.filter fun f => (assignmentRows db hostId).any fun r => r.folderId = f.id

def sentConfig (rowToFolder : FolderRow → SentFolder) (rowToAssignment : AssignmentRow → SentAssignment) : SentConfig :=
  let folders := (folderRows db hostId).map rowToFolder
  { folders
    assignments := (assignmentRows db hostId).map fun r =>
      fillRestic (resticDefaults db folders) (rowToAssignment r) }

def getConfig : SentConfig := sentConfig db hostId ConfigRoutes.rowToFolder ConfigRoutes.rowToAssignment

def routedConfig : SentConfig := sentConfig db hostId FolderRoutes.rowToFolder FolderRoutes.rowToAssignment

def NothingLeftOut : Prop :=
  (∀ f ∈ folderRows db hostId, knownGitProvider f.gitProvider = none ∧ f.gitRemote = none) ∧
    ∀ r ∈ assignmentRows db hostId,
      r.preSyncCmd = none ∧ r.bisyncMaxDeletePercent = none ∧ knownCacheMode r.mountCacheMode = none

end Config

section Agreement

variable {db : ConfigDb} {hostId : String}

theorem resticDefaults_congr (rows : List FolderRow) :
    resticDefaults db (rows.map ConfigRoutes.rowToFolder) =
      resticDefaults db (rows.map FolderRoutes.rowToFolder) := by
  unfold resticDefaults
  rw [List.foldl_map, List.foldl_map]
  rfl

theorem rowToFolder_eq_iff (r : FolderRow) :
    ConfigRoutes.rowToFolder r = FolderRoutes.rowToFolder r ↔ knownGitProvider r.gitProvider = none ∧ r.gitRemote = none := by
  constructor
  · intro h
    exact ⟨(congrArg SentFolder.gitProvider h).symm, (congrArg SentFolder.gitRemote h).symm⟩
  rintro ⟨hprov, hrem⟩
  unfold ConfigRoutes.rowToFolder FolderRoutes.rowToFolder
  rw [hprov, hrem]

def SentAssignment.delivered (assignment : SentAssignment) : SentAssignment :=
  { assignment with preSyncCmd := none, bisyncMaxDeletePercent := none, mountCacheMode := none }

theorem delivered_eq_iff (assignment : SentAssignment) : assignment.delivered = assignment ↔
    assignment.preSyncCmd = none ∧ assignment.bisyncMaxDeletePercent = none ∧ assignment.mountCacheMode = none := by
  constructor
  · intro h
    rw [← h]
    exact ⟨rfl, rfl, rfl⟩
  rintro ⟨hcmd, hli, hmode⟩
  cases assignment
  dsimp only at hcmd hli hmode
  subst hcmd hli hmode
  rfl

theorem fillRestic_delivered (defaults : Table String ResticDefault) (assignment : SentAssignment) :
    fillRestic defaults assignment.delivered = (fillRestic defaults assignment).delivered := by
  have hfol : assignment.delivered.folderId = assignment.folderId := rfl
  unfold fillRestic
  rw [hfol]
  cases defaults assignment.folderId <;> rfl

theorem fillRestic_leaves (defaults : Table String ResticDefault) (assignment : SentAssignment) :
    (fillRestic defaults assignment).preSyncCmd = assignment.preSyncCmd ∧
      (fillRestic defaults assignment).bisyncMaxDeletePercent = assignment.bisyncMaxDeletePercent ∧
      (fillRestic defaults assignment).mountCacheMode = assignment.mountCacheMode := by
  unfold fillRestic
  cases defaults assignment.folderId <;> exact ⟨rfl, rfl, rfl⟩

theorem fillRestic_eq_iff (defaults : Table String ResticDefault) (r : AssignmentRow) :
    fillRestic defaults (ConfigRoutes.rowToAssignment r) = fillRestic defaults (FolderRoutes.rowToAssignment r) ↔
      r.preSyncCmd = none ∧ r.bisyncMaxDeletePercent = none ∧ knownCacheMode r.mountCacheMode = none := by
  have hde : ConfigRoutes.rowToAssignment r = (FolderRoutes.rowToAssignment r).delivered := rfl
  obtain ⟨hcmd, hli, hmode⟩ := fillRestic_leaves defaults (FolderRoutes.rowToAssignment r)
  rw [hde, fillRestic_delivered, delivered_eq_iff, hcmd, hli, hmode]
  rfl

end Agreement

/-- The configuration of a host has what the folder routes return of its rows, exactly when nothing is set that it leaves out. -/
theorem config_delivers (db : ConfigDb) (hostId : String) :
    getConfig db hostId = routedConfig db hostId ↔ NothingLeftOut db hostId := by
  unfold getConfig routedConfig sentConfig NothingLeftOut
  dsimp only
  rw [SentConfig.mk.injEq, resticDefaults_congr, List.map_inj_left, List.map_inj_left]
  simp only [rowToFolder_eq_iff, fillRestic_eq_iff]

def siteDb : ConfigDb where
  folders := [{ id := "f", name := "site", type := "sync" },
    { id := "g", name := "code", type := "git", gitProvider := some "gh", gitRemote := some "acme/site" }]
  assignments := [
    { id := "a", folderId := "f", hostId := "h", role := "both", localPath := "/srv/site"
      preSyncCmd := some "pg_dump site > /srv/site/db.sql", bisyncMaxDeletePercent := some 20 },
    { id := "b", folderId := "g", hostId := "h", role := "both", localPath := "/srv/code" }]

/-- Neither the command and the limit of the one nor the provider and the remote of the other arrive. -/
theorem config_drops_fields : getConfig siteDb "h" ≠ routedConfig siteDb "h" ∧
    (getConfig siteDb "h").assignments.all (fun a => a.preSyncCmd = none && a.bisyncMaxDeletePercent = none) = true ∧
    (getConfig siteDb "h").folders.all (fun f => f.gitProvider = none && f.gitRemote = none) = true := by
  decide +kernel

end LamaSync
