import LamaSync.Core.Folders
import LamaSync.Lib.Slots
import LamaSync.Lib.Table
import LamaSync.Lib.Trace
import Mathlib.Data.Finset.Basic

/-!
# Folder sizes and their refreshes

A size of an S3 folder is measured by `rclone` and served from memory, or from the newest row of `size_history`, while a
refresh runs behind the request.  Refreshes are scheduled once for each folder and share two slots, one for each backend.
A size may also be measured on the request, without a slot, when nothing is known of the folder.

An invalidation is recorded in memory and in the database.  A measurement reads both records when it ends: when the
invalidation came after its start it stores its result as invalidated, and otherwise it clears the record in memory, and
the one in the database too when it has succeeded.
-/

namespace LamaSync

def folderTtlMs : Nat := 15 * 60 * 1000

def refreshConcurrency : Nat := 2

def refreshConcurrencyPerBackend : Nat := 1

structure MeasuredFolderSize where
  folderId : String
  bytes : Option Nat
  objectCount : Option Nat
  measuredAt : Option Nat
  deriving DecidableEq

structure CachedFolderSize where
  value : MeasuredFolderSize
  checkedAt : Nat
  error : Option String
  invalidated : Bool
  deriving DecidableEq

/-- The answer to a reader. -/
structure FolderSize extends MeasuredFolderSize where
  error : Option String
  stale : Bool
  refreshing : Bool
  deriving DecidableEq

structure FolderSizeRow where
  refId : String
  bytes : Nat
  objectCount : Option Nat
  measuredAt : Nat

inductive FolderMeasure where
  | size (bytes : Nat) (objectCount : Option Nat)
  | error (message : String)
  | thrown

structure FolderMeasurement where
  folder : Folder
  startedAt : Nat
  previous : Option CachedFolderSize

inductive RefreshPhase where
  | waiting
  | granted
  | measuring (m : FolderMeasurement)
  | measured

structure RefreshTask where
  folder : Folder
  phase : RefreshPhase

def Folder.refreshKey (folder : Folder) : String := folder.backendId.getD "unassigned-backend"

structure FolderStats where
  now : Nat
  folderCache : Table String CachedFolderSize
  invalidatedFolders : Table String Nat
  sizeInvalidations : Table String Nat
  sizeHistory : List FolderSizeRow
  slots : Slots String Nat
  refreshScheduled : Finset String
  tasks : Table Nat RefreshTask
  nextTask : Nat
  requests : Table Nat FolderMeasurement
  nextRequest : Nat

def newFolderStats (now : Nat) : FolderStats where
  now := now
  folderCache := fun _ => none
  invalidatedFolders := fun _ => none
  sizeInvalidations := fun _ => none
  sizeHistory := []
  slots := Slots.empty
  refreshScheduled := ∅
  tasks := fun _ => none
  nextTask := 0
  requests := fun _ => none
  nextRequest := 0

def newerRow (best : Option FolderSizeRow) (row : FolderSizeRow) : Option FolderSizeRow :=
  match best with
  | none => some row
  | some b => if b.measuredAt ≤ row.measuredAt then some row else some b

def newestRow (rows : List FolderSizeRow) (folderId : String) : Option FolderSizeRow :=
  (rows.filter fun row => row.refId = folderId).foldl newerRow none

def notMeasurableFolderSize (folderId : String) : FolderSize where
  folderId := folderId
  bytes := none
  objectCount := none
  error := some "not measurable server-side"
  measuredAt := none
  stale := false
  refreshing := false

/-- The answer of a bulk read when nothing is known. -/
def unknownFolderSize (folderId : String) : FolderSize where
  folderId := folderId
  bytes := none
  objectCount := none
  error := none
  measuredAt := none
  stale := true
  refreshing := true

def FolderMeasurement.value (m : FolderMeasurement) : FolderMeasure → MeasuredFolderSize
  | .size bytes objectCount => ⟨m.folder.id, some bytes, objectCount, some m.startedAt⟩
  | _ =>
    match m.previous.filter fun previous => previous.value.bytes.isSome with
    | some previous => previous.value
    | none => ⟨m.folder.id, none, none, none⟩

structure ReadFolderSizeOptions where
  refresh : Bool
  allowMeasureOnRequest : Bool

namespace FolderStats

def persistedFolderSize (s : FolderStats) (folderId : String) : Option CachedFolderSize :=
  (newestRow s.sizeHistory folderId).map fun row =>
    { value := ⟨folderId, some row.bytes, row.objectCount, some row.measuredAt⟩
      checkedAt := row.measuredAt
      error := none
      invalidated := (s.sizeInvalidations folderId).any fun invalidatedAt => row.measuredAt ≤ invalidatedAt }

def folderFreshness (s : FolderStats) (entry : CachedFolderSize) (now : Nat) (refreshing : Bool) : FolderSize where
  toMeasuredFolderSize := entry.value
  error := entry.error
  stale := entry.invalidated || entry.value.measuredAt.all fun measuredAt => folderTtlMs ≤ now - measuredAt
  refreshing := refreshing || entry.value.folderId ∈ s.refreshScheduled

def beginFolderRefresh (s : FolderStats) (folder : Folder) : FolderStats :=
  if folder.backend ≠ some .s3 then s
  else if folder.id ∈ s.refreshScheduled then s
  else
    let acquired := s.slots.acquire refreshConcurrency refreshConcurrencyPerBackend folder.refreshKey s.nextTask
    { s with
      slots := acquired.1
      refreshScheduled := insert folder.id s.refreshScheduled
      tasks := s.tasks.put s.nextTask ⟨folder, if acquired.2 then .granted else .waiting⟩
      nextTask := s.nextTask + 1 }

def startMeasurement (s : FolderStats) (folder : Folder) : FolderMeasurement where
  folder := folder
  startedAt := s.now
  previous := (s.folderCache folder.id).orElse fun _ => s.persistedFolderSize folder.id

def latestInvalidation (s : FolderStats) (folderId : String) : Nat :=
  max ((s.invalidatedFolders folderId).getD 0) ((s.sizeInvalidations folderId).getD 0)

def measuredEntry (s : FolderStats) (m : FolderMeasurement) (outcome : FolderMeasure) : CachedFolderSize where
  value := m.value outcome
  checkedAt := m.startedAt
  error := match outcome with
    | .error message => some message
    | _ => none
  invalidated := m.startedAt ≤ s.latestInvalidation m.folder.id

def endMeasurement (s : FolderStats) (m : FolderMeasurement) (outcome : FolderMeasure) : FolderStats :=
  let id := m.folder.id
  let during : Bool := m.startedAt ≤ s.latestInvalidation id
  match outcome with
  | .thrown => s
  | .error _ =>
    { s with
      invalidatedFolders := if during then s.invalidatedFolders else s.invalidatedFolders.erase id
      folderCache := s.folderCache.put id (s.measuredEntry m outcome) }
  | .size bytes objectCount =>
    { s with
      invalidatedFolders := if during then s.invalidatedFolders else s.invalidatedFolders.erase id
      sizeInvalidations := if during then s.sizeInvalidations else s.sizeInvalidations.erase id
      folderCache := s.folderCache.put id (s.measuredEntry m outcome)
      sizeHistory := s.sizeHistory ++ [⟨id, bytes, objectCount, m.startedAt⟩] }

/-- The slot goes to the oldest waiter that may have it. -/
def grant (tasks : Table Nat RefreshTask) : Option (String × Nat) → Table Nat RefreshTask
  | none => tasks
  | some (_, j) =>
    match tasks j with
    | some task => tasks.put j { task with phase := .granted }
    | none => tasks

def releaseRefresh (s : FolderStats) (i : Nat) (folder : Folder) : FolderStats :=
  let released := s.slots.release refreshConcurrency refreshConcurrencyPerBackend folder.refreshKey
  { s with
    slots := released.1
    tasks := (grant s.tasks released.2).erase i
    refreshScheduled := s.refreshScheduled.erase folder.id }

def warmEntry (s : FolderStats) (folderId : String) : Option CachedFolderSize :=
  (s.folderCache folderId).filter fun cached =>
    !cached.invalidated && (s.invalidatedFolders folderId).isNone && s.now - cached.checkedAt < folderTtlMs

def knownEntry (s : FolderStats) (folderId : String) : Option CachedFolderSize :=
  (s.folderCache folderId).orElse fun _ => s.persistedFolderSize folderId

def serveKnown (s : FolderStats) (folder : Folder) (known : CachedFolderSize) : FolderStats × FolderSize :=
  let invalidated := known.invalidated || (s.invalidatedFolders folder.id).isSome
  let needsRefresh := invalidated || folderTtlMs ≤ s.now - known.checkedAt
  let entry := { known with checkedAt := s.now, invalidated := invalidated }
  let cached := { s with folderCache := s.folderCache.put folder.id entry }
  let next := if needsRefresh then cached.beginFolderRefresh folder else cached
  (next, next.folderFreshness entry s.now needsRefresh)

def readFolderSize (s : FolderStats) (folder : Folder) (options : ReadFolderSizeOptions) :
    FolderStats × Option FolderSize :=
  if folder.backend ≠ some .s3 then (s, some (notMeasurableFolderSize folder.id))
  else
    match (if options.refresh then none else s.warmEntry folder.id),
        (if options.refresh then none else s.knownEntry folder.id) with
    | some cached, _ => (s, some (s.folderFreshness cached s.now false))
    | none, some known => ((s.serveKnown folder known).1, some (s.serveKnown folder known).2)
    | none, none =>
      if options.allowMeasureOnRequest then
        ({ s with
            requests := s.requests.put s.nextRequest (s.startMeasurement folder)
            nextRequest := s.nextRequest + 1 }, none)
      else (s.beginFolderRefresh folder, some (unknownFolderSize folder.id))

def invalidateFolderSize (s : FolderStats) (folderId : String) : FolderStats :=
  { s with
    invalidatedFolders := s.invalidatedFolders.put folderId s.now
    folderCache :=
      match s.folderCache folderId with
      | some cached => s.folderCache.put folderId { cached with invalidated := true }
      | none => s.folderCache
    sizeInvalidations := s.sizeInvalidations.put folderId s.now }

/-- A new process on the same database. -/
def restart (s : FolderStats) : FolderStats :=
  { s with
    folderCache := fun _ => none
    invalidatedFolders := fun _ => none
    slots := Slots.empty
    refreshScheduled := ∅
    tasks := fun _ => none
    requests := fun _ => none }

end FolderStats

inductive FolderStatsEvent where
  | tick (ms : Nat)
  | read (folder : Folder) (options : ReadFolderSizeOptions)
  | refresh (folder : Folder)
  | start (task : Nat)
  | finish (task : Nat) (outcome : FolderMeasure)
  /-- A refresh that has measured gives its slot back. -/
  | release (task : Nat)
  | answer (request : Nat) (outcome : FolderMeasure)
  | invalidate (folderId : String)
  | restart

namespace FolderStats

def step (s : FolderStats) : FolderStatsEvent → FolderStats
  | .tick ms => { s with now := s.now + ms }
  | .read folder options => (s.readFolderSize folder options).1
  | .refresh folder => s.beginFolderRefresh folder
  | .start i =>
    match s.tasks i with
    | some ⟨folder, .granted⟩ => { s with tasks := s.tasks.put i ⟨folder, .measuring (s.startMeasurement folder)⟩ }
    | _ => s
  | .finish i outcome =>
    match s.tasks i with
    | some ⟨folder, .measuring m⟩ => { s.endMeasurement m outcome with tasks := s.tasks.put i ⟨folder, .measured⟩ }
    | _ => s
  | .release i =>
    match s.tasks i with
    | some ⟨folder, .measured⟩ => s.releaseRefresh i folder
    | _ => s
  | .answer i outcome =>
    match s.requests i with
    | some m => { s.endMeasurement m outcome with requests := s.requests.erase i }
    | none => s
  | .invalidate folderId => s.invalidateFolderSize folderId
  | .restart => s.restart

def answers (s : FolderStats) : FolderStatsEvent → Option FolderSize
  | .read folder options => (s.readFolderSize folder options).2
  | .answer i outcome =>
    match s.requests i, outcome with
    | some _, .thrown => none
    | some m, outcome => some (s.folderFreshness (s.measuredEntry m outcome) m.startedAt false)
    | none, _ => none
  | _ => none

end FolderStats

end LamaSync
