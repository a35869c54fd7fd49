import LamaSync.Daemon.Conflicts
import LamaSync.Lib.Rows
import LamaSync.Server.Principal

/-!
# The conflicts of the server

`conflicts` has one row for each host, folder and path.  A host that reports a conflict makes the row pending, whatever it
was before; an operator, or the host that has applied the resolution, makes it resolved.  A row is never removed.
-/

namespace LamaSync

inductive ConflictStatus where
  | pending | resolved
  deriving DecidableEq, Repr

def ConflictStatus.text : ConflictStatus → String
  | .pending => "pending"
  | .resolved => "resolved"

structure ConflictRow where
  id : String
  hostId : String
  folderId : String
  path : String
  status : ConflictStatus
  resolution : Option ConflictResolution
  createdAt : Int
  deriving DecidableEq

def ConflictRow.key (row : ConflictRow) : String × String × String := (row.hostId, row.folderId, row.path)

structure ConflictReport where
  newId : String
  hostId : String
  folderId : String
  path : String

def ConflictReport.key (report : ConflictReport) : String × String × String :=
  (report.hostId, report.folderId, report.path)

structure ConflictServer where
  rows : List ConflictRow

namespace ConflictServer

variable (s : ConflictServer)

/-- A filter of the query: a missing and an empty one let every row pass. -/
def passes (filter : Option String) (value : String) : Bool := (presentText filter).all fun f => f = value

def listConflicts (principal : Option AuthPrincipal) (hostId folderId status : Option String) :
    Except Nat (List ConflictRow) :=
  if !deviceMayAccessHost principal hostId then .error 403
  else .ok ((s.rows.filter fun row =>
    passes hostId row.hostId && passes folderId row.folderId && passes status row.status.text).mergeSort
      fun a b => b.createdAt ≤ a.createdAt)

def upsert (now : Int) (report : ConflictReport) : ConflictServer :=
  if s.rows.any fun row => row.key == report.key then
    { s with rows := Rows.update s.rows (fun row => row.key == report.key) fun row =>
        { row with status := .pending, resolution := none } }
  else
    { s with rows := s.rows ++ [⟨report.newId, report.hostId, report.folderId, report.path, .pending, none, now⟩] }

def createConflicts (principal : Option AuthPrincipal) (now : Int) (reports : List ConflictReport) :
    ConflictServer × Nat :=
  if (deviceHostId principal).isSome && reports.any fun report => !deviceMayAccessHost principal (some report.hostId) then
    (s, 403)
  else (reports.foldl (fun s report => s.upsert now report) s, 201)

def resolveConflict (principal : Option AuthPrincipal) (id : String) (resolution : ConflictResolution) :
    ConflictServer × Nat :=
  match s.rows.find? fun row => row.id == id with
  | none => (s, 404)
  | some existing =>
    if !deviceMayAccessHost principal (some existing.hostId) then (s, 403)
    else ({ s with rows := Rows.update s.rows (fun row => row.id == id) fun row =>
      { row with status := .resolved, resolution := some resolution } }, 200)

end ConflictServer

/-- The rows of one conflict, at two times. -/
def ConflictRow.Same (row row' : ConflictRow) : Prop :=
  row'.id = row.id ∧ row'.hostId = row.hostId ∧ row'.folderId = row.folderId ∧ row'.path = row.path

def ConflictRow.HasResolution (row : ConflictRow) : Prop := row.status = .resolved ∧ row.resolution.isSome = true

namespace ConflictServer

variable {s : ConflictServer} {row : ConflictRow}

/-- A row that is resolved stays so through a resolution, and a row with the id becomes so. -/
theorem resolveConflict_row (hrow : row ∈ s.rows) (principal : Option AuthPrincipal) (id : String)
    (resolution : ConflictResolution) : ∃ row' ∈ (s.resolveConflict principal id resolution).1.rows, row.Same row' ∧
      (row.HasResolution ∨ (row.id = id ∧ (s.resolveConflict principal id resolution).2 = 200) → row'.HasResolution) := by
  unfold resolveConflict
  split
  · exact ⟨row, hrow, ⟨rfl, rfl, rfl, rfl⟩, fun h => h.resolve_right fun h => absurd h.2 (by simp)⟩
  split
  · exact ⟨row, hrow, ⟨rfl, rfl, rfl, rfl⟩, fun h => h.resolve_right fun h => absurd h.2 (by simp)⟩
  refine ⟨_, Rows.mem_update_of_mem hrow, ?_⟩
  split
  · exact ⟨⟨rfl, rfl, rfl, rfl⟩, fun _ => ⟨rfl, rfl⟩⟩
  · rename_i hid
    exact ⟨⟨rfl, rfl, rfl, rfl⟩, fun h => h.resolve_right fun h => hid (beq_iff_eq.2 h.1)⟩

theorem upsert_row (hrow : row ∈ s.rows) (now : Int) (report : ConflictReport) :
    ∃ row' ∈ (s.upsert now report).rows, row.Same row' ∧ (report.path ≠ row.path → row' = row) := by
  unfold upsert
  split
  · refine ⟨_, Rows.mem_update_of_mem hrow, ?_⟩
    split
    · rename_i hkey
      refine ⟨⟨rfl, rfl, rfl, rfl⟩, fun hpath => absurd ?_ hpath⟩
      have hsame : row.key = report.key := beq_iff_eq.1 hkey
      exact (congrArg (fun key => key.2.2) hsame).symm
    · exact ⟨⟨rfl, rfl, rfl, rfl⟩, fun _ => rfl⟩
  · exact ⟨row, List.mem_append_left _ hrow, ⟨rfl, rfl, rfl, rfl⟩, fun _ => rfl⟩

private theorem cf_upserts (hrow : row ∈ s.rows) (now : Int) (reports : List ConflictReport) :
    ∃ row' ∈ (reports.foldl (fun s report => s.upsert now report) s).rows, row.Same row' ∧
      ((∀ report ∈ reports, report.path ≠ row.path) → row' = row) := by
  induction reports generalizing s row with
  | nil => exact ⟨row, hrow, ⟨rfl, rfl, rfl, rfl⟩, fun _ => rfl⟩
  | cons report reports ih =>
    obtain ⟨mid, hmid, ⟨hid, hhost, hfol, hpath⟩, hkept⟩ := upsert_row hrow now report
    obtain ⟨row', hrow', ⟨hid', hhost', hfol', hpath'⟩, hkept'⟩ := ih hmid
    refine ⟨row', hrow', ⟨hid'.trans hid, hhost'.trans hhost, hfol'.trans hfol, hpath'.trans hpath⟩, fun hnone => ?_⟩
    obtain rfl := hkept (hnone report (.head _))
    exact hkept' fun report' hrep' => hnone report' (.tail _ hrep')

/-- A report leaves the rows of the paths it does not name. -/
theorem createConflicts_row (hrow : row ∈ s.rows) (principal : Option AuthPrincipal) (now : Int)
    (reports : List ConflictReport) : ∃ row' ∈ (s.createConflicts principal now reports).1.rows, row.Same row' ∧
      ((∀ report ∈ reports, report.path ≠ row.path) → row' = row) := by
  unfold createConflicts
  split
  · exact ⟨row, hrow, ⟨rfl, rfl, rfl, rfl⟩, fun _ => rfl⟩
  · exact cf_upserts hrow now reports

end ConflictServer

end LamaSync
