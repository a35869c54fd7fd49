import LamaSync.Daemon.DryRunChanges
import LamaSync.Daemon.Locks
import LamaSync.Lib.Moves

/-!
# The switch from sync to mount

`switchToMount` takes the lock of a folder, runs it a last time, moves the contents of the local path to a trash directory
and starts the mount over the empty path.  When a step fails behind the move, the contents are moved back, entry by entry,
and the trash is removed.

Every file operation of a switch can fail, and it does so at most once in a switch, so the failures are a function from
operations to errors.  `failed_switch_keeps_entries_iff` says after which failures an entry of the local path is neither
there nor in the trash.
-/

namespace LamaSync

/-- The operations of a switch that can fail.  A name that `remove` fails on is left as it was. -/
inductive SwitchOp where
  /-- `listLocalEntries` of the local path, to see whether it is empty. -/
  | listContents
  | makeTrash
  | listMoved
  | moveOut (name : String)
  | writeRcloneConfig
  | startMount
  /-- `existsSync` of the trash, before the contents are restored. -/
  | findTrash
  | makeLocalPath
  | listTrash
  | moveBack (name : String)
  /-- `existsSync` of the trash, before it is removed. -/
  | findTrashAgain
  | remove (name : String)
  deriving DecidableEq

/-- The error of each operation that fails. -/
abbrev SwitchFaults := SwitchOp → Option String

structure SwitchCalls where
  hostConfig : Option (List Folder × List FolderAssignment)
  lock : LockAcquireResult
  finalRun : Except String (Option ReportStatus)
  faults : SwitchFaults
  updateFault : Option String

structure SwitchResult where
  ok : Bool
  error : Option String := none
  trashDir : Option String := none
  deriving DecidableEq

/-- The local path of a folder and the trash directory of one switch. -/
structure SwitchFiles (τ : Type) where
  contents : Entries τ
  trash : Option (Entries τ)

def FolderType.text : FolderType → String
  | .sync => "sync"
  | .mount => "mount"
  | .backup => "backup"
  | .dotfile => "dotfile"
  | .git => "git"

section Files

variable {τ : Type} (faults : SwitchFaults) (s : SwitchFiles τ)

def listLocalEntries (fault : Option String) (dir : Entries τ) : List String := if fault.isSome then [] else dir.keys

def moveContentsToTrash : Option String × SwitchFiles τ :=
  match faults .makeTrash with
  | some error => (some error, s)
  | none =>
    let moved := moveUntil (fun name => faults (.moveOut name)) (listLocalEntries (faults .listMoved) s.contents)
      ⟨s.contents, s.trash.getD ∅⟩
    (moved.1, ⟨moved.2.source, some moved.2.target⟩)

def restoreContentsFromTrash : Option String × SwitchFiles τ :=
  match s.trash, faults .findTrash with
  | some trash, none =>
    match faults .makeLocalPath with
    | some error => (some error, s)
    | none =>
      let back := moveEach (fun name => (faults (.moveBack name)).isNone) (listLocalEntries (faults .listTrash) trash)
        ⟨trash, s.contents⟩
      (none, ⟨back.target, some back.source⟩)
  | _, _ => (none, s)

def removeTrash : SwitchFiles τ :=
  match s.trash, faults .findTrashAgain with
  | some trash, none =>
    let rest := removeEach (fun name => (faults (.remove name)).isNone) trash trash.keys
    { s with trash := if rest.keys.isEmpty then none else some rest }
  | _, _ => s

def setAside (finalRun : Except String (Option ReportStatus)) : Option String × Bool × SwitchFiles τ :=
  match finalRun with
  | .error error => (some error, false, s)
  | .ok _ =>
    if (listLocalEntries (faults .listContents) s.contents).isEmpty then (none, false, s)
    else match moveContentsToTrash faults s with
      | (some error, s') => (some error, false, s')
      | (none, s') => (none, true, s')

def undoSwitch (trashed : Bool) : Option String × SwitchFiles τ :=
  if trashed then
    match restoreContentsFromTrash faults s with
    | (some error, s') => (some error, s')
    | (none, s') => (none, removeTrash faults s')
  else (none, s)

end Files

def switchGate (hostConfig : Option (List Folder × List FolderAssignment)) (folderId : String) :
    Except String (Folder × FolderAssignment) :=
  match hostConfig with
  | none => .error "no host config loaded"
  | some (folders, assignments) =>
    match folders.find? fun f => f.id == folderId, assignments.find? fun a => a.folderId == folderId with
    | some folder, some assignment =>
      let effective := effectiveFolderType folder assignment
      if effective ≠ .sync then
        .error ("folder=" ++ folderId ++ " effective=" ++ effective.text ++ "; expected sync")
      else .ok (folder, assignment)
    | _, _ => .error ("folder=" ++ folderId ++ " not found in host config")

def lockRefusal (hostId : String) : LockAcquireResult → Option String
  | .acquired _ => none
  | .contended lockedBy .. => some ("locked by " ++ if lockedBy = hostId then "this host" else lockedBy)
  | .unreachable _ => some "server unreachable, lock not acquired"

def mountFault (faults : SwitchFaults) (folder : Folder) (assignment : FolderAssignment) : Option String :=
  (faults .writeRcloneConfig).or
    (match resolveDestination folder assignment.identity with
      | .error error => some error
      | .ok _ => faults .startMount)

def switchToMount {τ : Type} (calls : SwitchCalls) (folderId trashDir : String) (s : SwitchFiles τ) :
    Except String SwitchResult × SwitchFiles τ :=
  match switchGate calls.hostConfig folderId with
  | .error error => (.ok { ok := false, error := some error }, s)
  | .ok (folder, assignment) =>
    match lockRefusal assignment.hostId calls.lock with
    | some reason => (.ok { ok := false, error := some ("folder=" ++ folderId ++ " " ++ reason) }, s)
    | none =>
      let aside := setAside calls.faults s calls.finalRun
      match aside.1.or (mountFault calls.faults folder assignment) with
      | some message =>
        let undone := undoSwitch calls.faults aside.2.2 aside.2.1
        match undone.1 with
        | some error => (.error error, undone.2)
        | none => (.ok { ok := false, error := some ("mount failed: " ++ message) }, undone.2)
      | none =>
        let error := calls.updateFault.map ("mount is up but server update failed: " ++ ·)
        (.ok { ok := true, error := error, trashDir := some trashDir }, aside.2.2)

/-- The switch did not come to a mount: it returned so, or it threw. -/
def SwitchFailed {τ : Type} (ended : Except String SwitchResult × SwitchFiles τ) : Prop :=
  ∀ result, ended.1 = .ok result → result.ok = false

/-- Every entry that was in the local path is there, or in the trash. -/
def KeepsEntries {τ : Type} (contents : Entries τ) (after : SwitchFiles τ) : Prop :=
  ∀ name tree, contents.lookup name = some tree →
    after.contents.lookup name = some tree ∨ (after.trash.getD ∅).lookup name = some tree

def MountFails (calls : SwitchCalls) (folderId : String) : Prop :=
  ∃ folder assignment, switchGate calls.hostConfig folderId = .ok (folder, assignment) ∧
    lockRefusal assignment.hostId calls.lock = none ∧ (mountFault calls.faults folder assignment).isSome

def AllMovedOut {τ : Type} (calls : SwitchCalls) (contents : Entries τ) : Prop :=
  (∃ status, calls.finalRun = .ok status) ∧ calls.faults .listContents = none ∧ calls.faults .makeTrash = none ∧
    calls.faults .listMoved = none ∧ ∀ name ∈ contents.keys, calls.faults (.moveOut name) = none

def DeletedWithTrash (faults : SwitchFaults) (name : String) : Prop :=
  (faults .findTrash ≠ none ∨
    faults .makeLocalPath = none ∧ (faults .listTrash ≠ none ∨ faults (.moveBack name) ≠ none)) ∧
  faults .findTrashAgain = none ∧ faults (.remove name) = none

section Proofs

variable {τ : Type} {faults : SwitchFaults} {calls : SwitchCalls} {contents : Entries τ} {s : SwitchFiles τ}
  {name : String} {tree : τ}

/-- An entry is in one of the two places, and nothing can come over it. -/
def SwitchFiles.Keeps (s : SwitchFiles τ) (name : String) (tree : τ) : Prop :=
  Move.Keeps ⟨s.contents, s.trash.getD ∅⟩ name tree

theorem SwitchFiles.Keeps.somewhere (h : s.Keeps name tree) :
    s.contents.lookup name = some tree ∨ (s.trash.getD ∅).lookup name = some tree := by
  rcases h with hcont | ⟨-, htr⟩
  · exact .inl hcont
  · exact .inr htr

private theorem ms_keys_of_lookup (h : contents.lookup name = some tree) : name ∈ contents.keys := by
  have hsome : (contents.lookup name).isSome := by simp [h]
  exact AList.mem_keys.1 (AList.lookup_isSome.1 hsome)

private theorem ms_lookup_of_keys (h : name ∈ contents.keys) : ∃ tree, contents.lookup name = some tree :=
  Option.isSome_iff_exists.1 (AList.lookup_isSome.2 (AList.mem_keys.2 h))

theorem SwitchFiles.Keeps.moveContentsToTrash (h : s.Keeps name tree) :
    (moveContentsToTrash faults s).2.Keeps name tree := by
  unfold LamaSync.moveContentsToTrash
  cases faults .makeTrash with
  | some error => exact h
  | none =>
    obtain ⟨moved, hmv⟩ := moveUntil_moves (fun name => faults (.moveOut name))
      (listLocalEntries (faults .listMoved) s.contents) ⟨s.contents, s.trash.getD ∅⟩
    show Move.Keeps (moveUntil _ _ _).2 name tree
    rw [hmv]
    exact Move.Keeps.moveEach h

theorem setAside_cases (faults : SwitchFaults) (s : SwitchFiles τ) (finalRun : Except String (Option ReportStatus)) :
    ((setAside faults s finalRun).2 = (false, s)) ∨
    ∃ status, finalRun = .ok status ∧ faults .listContents = none ∧ s.contents.keys ≠ [] ∧
      (setAside faults s finalRun).2 =
        ((moveContentsToTrash faults s).1.isNone, (moveContentsToTrash faults s).2) := by
  unfold setAside
  cases finalRun with
  | error error => exact .inl rfl
  | ok status =>
    dsimp only
    split
    · exact .inl rfl
    rename_i hents
    refine .inr ⟨status, rfl, ?_⟩
    have hlist : faults .listContents = none ∧ s.contents.keys ≠ [] := by
      unfold listLocalEntries at hents
      cases hfa : faults .listContents with
      | some error => simp [hfa] at hents
      | none => simpa [hfa] using hents
    refine ⟨hlist.1, hlist.2, ?_⟩
    cases hmv : moveContentsToTrash faults s with
    | mk error s' =>
      cases error with
      | some error | none => rfl

theorem SwitchFiles.Keeps.setAside (h : s.Keeps name tree) (finalRun : Except String (Option ReportStatus)) :
    (setAside faults s finalRun).2.2.Keeps name tree := by
  rcases setAside_cases faults s finalRun with hnone | ⟨status, -, -, -, hmv⟩
  · rw [hnone]
    exact h
  · rw [hmv]
    exact h.moveContentsToTrash

theorem moveContentsToTrash_of_allMovedOut (h : AllMovedOut calls contents) :
    (moveContentsToTrash calls.faults ⟨contents, none⟩).1 = none ∧
      ∀ name tree, contents.lookup name = some tree →
        (moveContentsToTrash calls.faults ⟨contents, none⟩).2.contents.lookup name = none ∧
        ∃ trash, (moveContentsToTrash calls.faults ⟨contents, none⟩).2.trash = some trash ∧ trash.lookup name = some tree := by
  obtain ⟨-, -, hmake, hlist, hmove⟩ := h
  have hall : moveContentsToTrash calls.faults ⟨contents, none⟩ =
      (none, ⟨(moveEach (fun _ => true) contents.keys ⟨contents, ∅⟩).source,
        some (moveEach (fun _ => true) contents.keys ⟨contents, ∅⟩).target⟩) := by
    have hsu : moveUntil (fun name => calls.faults (.moveOut name)) contents.keys ⟨contents, ∅⟩ =
        (none, moveEach (fun _ => true) contents.keys ⟨contents, ∅⟩) := moveUntil_of_succeeds hmove
    simp [moveContentsToTrash, hmake, hlist, listLocalEntries, hsu]
  rw [hall]
  refine ⟨rfl, ?_⟩
  intro name tree htree
  have hkey := ms_keys_of_lookup htree
  refine ⟨?_, _, rfl, ?_⟩
  · show (moveEach _ _ _).source.lookup name = none
    rw [lookup_moveEach_source, if_pos ⟨hkey, rfl⟩]
  · rw [lookup_moveEach_target, if_pos ⟨hkey, rfl⟩, htree]
    rfl

theorem trashed_of_not_allMovedOut (h : ¬AllMovedOut calls contents)
    (htr : (setAside calls.faults ⟨contents, none⟩ calls.finalRun).2.1 = true) :
    (setAside calls.faults ⟨contents, none⟩ calls.finalRun).2.2 = ⟨contents, some ∅⟩ := by
  rcases setAside_cases calls.faults ⟨contents, none⟩ calls.finalRun with hnone | ⟨status, hrun, hli, -, hmv⟩
  · rw [hnone] at htr
    cases htr
  rw [hmv] at htr ⊢
  have hsucc : (moveContentsToTrash calls.faults (⟨contents, none⟩ : SwitchFiles τ)).1 = none :=
    Option.isNone_iff_eq_none.1 htr
  show (moveContentsToTrash calls.faults ⟨contents, none⟩).2 = _
  unfold moveContentsToTrash at hsucc ⊢
  cases hmake : calls.faults .makeTrash with
  | some error =>
    rw [hmake] at hsucc
    cases hsucc
  | none =>
    rw [hmake] at hsucc
    dsimp only at hsucc ⊢
    cases hlist : calls.faults .listMoved with
    | some error => simp [listLocalEntries, moveUntil]
    | none =>
      -- a listing that succeeds leaves a rename that failed
      exfalso
      apply h
      refine ⟨⟨status, hrun⟩, hli, hmake, hlist, ?_⟩
      intro name hname
      by_contra hfl
      rw [hlist] at hsucc
      have hstop : (moveUntil (fun name => calls.faults (.moveOut name)) contents.keys
          (⟨contents, ∅⟩ : Move τ)).1.isSome := moveUntil_isSome hname hfl
      have hfin : (moveUntil (fun name => calls.faults (.moveOut name)) contents.keys
          (⟨contents, ∅⟩ : Move τ)).1 = none := hsucc
      rw [hfin] at hstop
      cases hstop

theorem removeTrash_contents : (removeTrash faults s).contents = s.contents := by
  unfold removeTrash
  split <;> rfl

theorem lookup_removeTrash : ((removeTrash faults s).trash.getD ∅).lookup name =
    if faults .findTrashAgain = none ∧ faults (.remove name) = none then none else (s.trash.getD ∅).lookup name := by
  unfold removeTrash
  cases htr : s.trash with
  | none => simp [htr]
  | some trash =>
    cases hfind : faults .findTrashAgain with
    | some error => simp [htr]
    | none =>
      have hrest : (removeEach (fun name => (faults (.remove name)).isNone) trash trash.keys).lookup name =
          if faults (.remove name) = none then none else trash.lookup name := by
        rw [lookup_removeEach]
        by_cases hkey : name ∈ trash.keys
        · simp [hkey]
        · have hnone : trash.lookup name = none := AList.lookup_eq_none.2 fun hmem => hkey (AList.mem_keys.1 hmem)
          simp [hkey, hnone]
      dsimp only
      simp only [true_and, Option.getD_some]
      rw [← hrest]
      split
      · rename_i hem
        have hnone : (removeEach (fun name => (faults (.remove name)).isNone) trash trash.keys).lookup name = none := by
          rw [AList.lookup_eq_none, AList.mem_keys, List.isEmpty_iff.1 hem]
          simp
        rw [hnone]
        rfl
      · rfl

theorem restoreContentsFromTrash_entry {trash : Entries τ} (hcont : s.contents.lookup name = none)
    (htr : s.trash = some trash) (htree : trash.lookup name = some tree) (hfind : faults .findTrash = none)
    (hmake : faults .makeLocalPath = none) :
    (restoreContentsFromTrash faults s).1 = none ∧
      if faults .listTrash = none ∧ faults (.moveBack name) = none then
        (restoreContentsFromTrash faults s).2.contents.lookup name = some tree
      else (restoreContentsFromTrash faults s).2.contents.lookup name = none ∧
        ((restoreContentsFromTrash faults s).2.trash.getD ∅).lookup name = some tree := by
  have hkey := ms_keys_of_lookup htree
  have hrest : restoreContentsFromTrash faults s =
      (none, ⟨(moveEach (fun name => (faults (.moveBack name)).isNone) (listLocalEntries (faults .listTrash) trash)
        ⟨trash, s.contents⟩).target, some (moveEach (fun name => (faults (.moveBack name)).isNone)
        (listLocalEntries (faults .listTrash) trash) ⟨trash, s.contents⟩).source⟩) := by
    simp [restoreContentsFromTrash, htr, hfind, hmake]
  have hmv : name ∈ listLocalEntries (faults .listTrash) trash ∧ (faults (.moveBack name)).isNone = true ↔
      faults .listTrash = none ∧ faults (.moveBack name) = none := by
    unfold listLocalEntries
    cases faults .listTrash with
    | none => simp [hkey]
    | some error => simp
  rw [hrest]
  refine ⟨rfl, ?_⟩
  dsimp only [Option.getD_some]
  rw [lookup_moveEach_target, lookup_moveEach_source]
  by_cases hback : faults .listTrash = none ∧ faults (.moveBack name) = none
  · rw [if_pos hback, if_pos (hmv.2 hback), htree]
    rfl
  · rw [if_neg hback, if_neg (mt hmv.1 hback), if_neg (mt hmv.1 hback)]
    exact ⟨hcont, htree⟩

theorem undoSwitch_keeps_iff {trash : Entries τ} (hcont : s.contents.lookup name = none)
    (htr : s.trash = some trash) (htree : trash.lookup name = some tree) :
    ((undoSwitch faults s true).2.contents.lookup name = some tree ∨
        ((undoSwitch faults s true).2.trash.getD ∅).lookup name = some tree) ↔ ¬DeletedWithTrash faults name := by
  have hsy : (s.trash.getD ∅).lookup name = some tree := by simp [htr, htree]
  cases hfind : faults .findTrash with
  | some error =>
    -- the trash seems not to be there, and nothing is restored
    have hun : (undoSwitch faults s true).2 = removeTrash faults s := by
      simp [undoSwitch, restoreContentsFromTrash, htr, hfind]
    rw [hun, removeTrash_contents, lookup_removeTrash, hcont, hsy]
    by_cases hdel : faults .findTrashAgain = none ∧ faults (.remove name) = none
    · simp [DeletedWithTrash, hfind, hdel]
    · rw [if_neg hdel]
      simp [DeletedWithTrash, hfind, hdel]
  | none =>
    cases hmake : faults .makeLocalPath with
    | some error =>
      have hun : (undoSwitch faults s true).2 = s := by
        simp [undoSwitch, restoreContentsFromTrash, htr, hfind, hmake]
      rw [hun, hsy]
      simp [DeletedWithTrash, hfind, hmake]
    | none =>
      obtain ⟨hre, he⟩ := restoreContentsFromTrash_entry hcont htr htree hfind hmake
      have hun : (undoSwitch faults s true).2 = removeTrash faults (restoreContentsFromTrash faults s).2 := by
        unfold undoSwitch
        rw [if_pos rfl]
        cases hrest : restoreContentsFromTrash faults s with
        | mk error s' =>
          rw [hrest] at hre
          obtain rfl : error = none := hre
          rfl
      rw [hun, removeTrash_contents, lookup_removeTrash]
      by_cases hback : faults .listTrash = none ∧ faults (.moveBack name) = none
      · rw [if_pos hback] at he
        simp [DeletedWithTrash, hfind, he, hback]
      rw [if_neg hback] at he
      rw [he.1, he.2]
      have hleft : faults .listTrash ≠ none ∨ faults (.moveBack name) ≠ none := Decidable.not_and_iff_not_or_not.1 hback
      by_cases hdel : faults .findTrashAgain = none ∧ faults (.remove name) = none
      · simp [DeletedWithTrash, hmake, hleft, hdel]
      · rw [if_neg hdel]
        simp [DeletedWithTrash, hmake, hleft, hdel]

theorem undoSwitch_of_empty (htr : s.trash = some ∅) : (undoSwitch faults s true).2.contents = s.contents := by
  have hn : listLocalEntries (faults .listTrash) (∅ : Entries τ) = [] := by
    unfold listLocalEntries
    split <;> rfl
  cases hfind : faults .findTrash with
  | some error => simp [undoSwitch, restoreContentsFromTrash, htr, hfind, removeTrash_contents]
  | none =>
    cases hmake : faults .makeLocalPath with
    | some error => simp [undoSwitch, restoreContentsFromTrash, htr, hfind, hmake]
    | none =>
      simp [undoSwitch, restoreContentsFromTrash, htr, hfind, hmake, hn, moveEach, removeTrash_contents]

variable {folderId trashDir : String}

theorem setAside_of_allMovedOut (h : AllMovedOut calls contents) (hents : contents.keys ≠ []) :
    setAside calls.faults ⟨contents, none⟩ calls.finalRun =
      (none, true, (moveContentsToTrash calls.faults ⟨contents, none⟩).2) := by
  have hmv := (moveContentsToTrash_of_allMovedOut h).1
  obtain ⟨⟨status, hrun⟩, hlist, -⟩ := h
  unfold setAside
  rw [hrun]
  dsimp only
  rw [if_neg (by simpa [listLocalEntries, hlist] using hents)]
  cases hmove : moveContentsToTrash calls.faults (⟨contents, none⟩ : SwitchFiles τ) with
  | mk error s' =>
    rw [hmove] at hmv
    obtain rfl : error = none := hmv
    rfl

/-- A switch that stopped before its final run leaves the files. -/
theorem switchToMount_of_refused (h : ¬∃ folder assignment, switchGate calls.hostConfig folderId = .ok (folder, assignment) ∧
    lockRefusal assignment.hostId calls.lock = none) : (switchToMount calls folderId trashDir s).2 = s := by
  unfold switchToMount
  cases hgate : switchGate calls.hostConfig folderId with
  | error error => rfl
  | ok found =>
    obtain ⟨folder, assignment⟩ := found
    dsimp only
    cases hlock : lockRefusal assignment.hostId calls.lock with
    | some reason => rfl
    | none => exact absurd ⟨folder, assignment, hgate, hlock⟩ h

section Started

variable {folder : Folder} {assignment : FolderAssignment}

theorem switchToMount_of_started (trashDir : String) (hgate : switchGate calls.hostConfig folderId = .ok (folder, assignment))
    (hlock : lockRefusal assignment.hostId calls.lock = none) :
    let aside := setAside calls.faults s calls.finalRun
    let ended := switchToMount calls folderId trashDir s
    (aside.1.or (mountFault calls.faults folder assignment) = none → ended.2 = aside.2.2 ∧ ¬SwitchFailed ended) ∧
    (aside.1.or (mountFault calls.faults folder assignment) ≠ none →
      ended.2 = (undoSwitch calls.faults aside.2.2 aside.2.1).2 ∧ SwitchFailed ended) := by
  intro aside ended
  have hnd : ended = switchToMount calls folderId trashDir s := rfl
  unfold switchToMount at hnd
  rw [hgate] at hnd
  dsimp only at hnd
  rw [hlock] at hnd
  dsimp only at hnd
  constructor
  · intro hnone
    have hcame : ended = _ := hnd
    rw [show (setAside calls.faults s calls.finalRun).1.or (mountFault calls.faults folder assignment) = none from hnone]
      at hcame
    refine ⟨by rw [hcame], ?_⟩
    intro hfail
    have hok := hfail _ (by rw [hcame])
    cases hok
  · intro hsome
    obtain ⟨message, hme⟩ := Option.ne_none_iff_exists'.1 hsome
    have hcame : ended = _ := hnd
    rw [show (setAside calls.faults s calls.finalRun).1.or (mountFault calls.faults folder assignment) = some message
      from hme] at hcame
    dsimp only at hcame
    show ended.2 = (undoSwitch calls.faults (setAside calls.faults s calls.finalRun).2.2
      (setAside calls.faults s calls.finalRun).2.1).2 ∧ SwitchFailed ended
    cases hun : (undoSwitch calls.faults (setAside calls.faults s calls.finalRun).2.2
        (setAside calls.faults s calls.finalRun).2.1).1 with
    | some error =>
      rw [hun] at hcame
      refine ⟨by rw [hcame], ?_⟩
      intro result hres
      rw [hcame] at hres
      cases hres
    | none =>
      rw [hun] at hcame
      refine ⟨by rw [hcame], ?_⟩
      intro result hres
      rw [hcame] at hres
      cases hres
      rfl

theorem keepsEntries_of_not_allMovedOut (hgate : switchGate calls.hostConfig folderId = .ok (folder, assignment))
    (hlock : lockRefusal assignment.hostId calls.lock = none) (h : ¬AllMovedOut calls contents) :
    KeepsEntries contents (switchToMount calls folderId trashDir ⟨contents, none⟩).2 := by
  obtain ⟨hmo, hfail⟩ := switchToMount_of_started (s := ⟨contents, none⟩) trashDir hgate hlock
  intro name tree htree
  have hkp : (⟨contents, none⟩ : SwitchFiles τ).Keeps name tree := .inl htree
  have hkept : (setAside calls.faults ⟨contents, none⟩ calls.finalRun).2.2.Keeps name tree :=
    hkp.setAside calls.finalRun
  have hasi := hkept.somewhere
  by_cases her : (setAside calls.faults ⟨contents, none⟩ calls.finalRun).1.or (mountFault calls.faults folder assignment) =
      none
  · rw [(hmo her).1]
    exact hasi
  rw [(hfail her).1]
  cases htr : (setAside calls.faults (⟨contents, none⟩ : SwitchFiles τ) calls.finalRun).2.1 with
  | false => exact hasi
  | true =>
    left
    rw [trashed_of_not_allMovedOut h htr, undoSwitch_of_empty rfl]
    exact htree

theorem keepsEntries_of_allMovedOut (hgate : switchGate calls.hostConfig folderId = .ok (folder, assignment))
    (hlock : lockRefusal assignment.hostId calls.lock = none) (h : AllMovedOut calls contents)
    (hfa : (mountFault calls.faults folder assignment).isSome) :
    KeepsEntries contents (switchToMount calls folderId trashDir ⟨contents, none⟩).2 ↔
      ∀ name ∈ contents.keys, ¬DeletedWithTrash calls.faults name := by
  obtain ⟨-, hfail⟩ := switchToMount_of_started (s := ⟨contents, none⟩) trashDir hgate hlock
  obtain ⟨-, hmv⟩ := moveContentsToTrash_of_allMovedOut h
  -- every entry of the path is one of the trash alone when the mount fails
  have he : ∀ name tree, contents.lookup name = some tree →
      (((switchToMount calls folderId trashDir ⟨contents, none⟩).2.contents.lookup name = some tree ∨
        ((switchToMount calls folderId trashDir ⟨contents, none⟩).2.trash.getD ∅).lookup name = some tree) ↔
        ¬DeletedWithTrash calls.faults name) := by
    intro name tree htree
    have hents : contents.keys ≠ [] := by
      intro hem
      have hkey := ms_keys_of_lookup htree
      rw [hem] at hkey
      cases hkey
    have hasi := setAside_of_allMovedOut h hents
    have her : (setAside calls.faults ⟨contents, none⟩ calls.finalRun).1.or (mountFault calls.faults folder assignment) ≠
        none := by
      rw [hasi]
      intro hnone
      have hnone' : mountFault calls.faults folder assignment = none := hnone
      rw [hnone'] at hfa
      cases hfa
    obtain ⟨hcont, trash, htr, hth⟩ := hmv name tree htree
    rw [(hfail her).1, hasi]
    exact undoSwitch_keeps_iff hcont htr hth
  constructor
  · intro hkp name hname
    obtain ⟨tree, htree⟩ := ms_lookup_of_keys hname
    exact (he name tree htree).1 (hkp name tree htree)
  · intro hnone name tree htree
    exact (he name tree htree).2 (hnone name (ms_keys_of_lookup htree))

end Started

/-- **A failed switch loses no file.** A switch that does not come to a mount leaves every entry of the local path there or
in the trash exactly when it is not the case that all contents got to the trash, the mount did not come up, and an entry
that could not be moved back was deleted with the trash. -/
theorem failed_switch_keeps_entries_iff (calls : SwitchCalls) (folderId trashDir : String) (contents : Entries τ) :
    (SwitchFailed (switchToMount calls folderId trashDir ⟨contents, none⟩) →
      KeepsEntries contents (switchToMount calls folderId trashDir ⟨contents, none⟩).2) ↔
    ¬(MountFails calls folderId ∧ AllMovedOut calls contents ∧
      ∃ name ∈ contents.keys, DeletedWithTrash calls.faults name) := by
  by_cases hst : ∃ folder assignment, switchGate calls.hostConfig folderId = .ok (folder, assignment) ∧
      lockRefusal assignment.hostId calls.lock = none
  · obtain ⟨folder, assignment, hgate, hlock⟩ := hst
    by_cases hall : AllMovedOut calls contents
    · by_cases hfa : (mountFault calls.faults folder assignment).isSome
      · have hfl : MountFails calls folderId := ⟨folder, assignment, hgate, hlock, hfa⟩
        have hkp : KeepsEntries contents (switchToMount calls folderId trashDir ⟨contents, none⟩).2 ↔ _ :=
          keepsEntries_of_allMovedOut hgate hlock hall hfa
        have hfail : SwitchFailed (switchToMount calls folderId trashDir (⟨contents, none⟩ : SwitchFiles τ)) := by
          apply ((switchToMount_of_started trashDir hgate hlock).2 _).2
          intro hnone
          rw [Option.or_eq_none_iff] at hnone
          rw [hnone.2] at hfa
          cases hfa
        constructor
        · rintro hlo ⟨-, -, name, hname, hdel⟩
          exact hkp.1 (hlo hfail) name hname hdel
        · intro hnot _
          exact hkp.2 fun name hname hdel => hnot ⟨hfl, hall, name, hname, hdel⟩
      · have hmo : mountFault calls.faults folder assignment = none := by simpa using hfa
        constructor
        · rintro - ⟨⟨folder', assignment', hgate', -, hfa'⟩, -⟩
          cases hgate.symm.trans hgate'
          exact hfa hfa'
        intro _ hfail name tree htree
        exfalso
        apply ((switchToMount_of_started trashDir hgate hlock).1 _).2 hfail
        have hents : contents.keys ≠ [] := by
          intro hem
          have hkey := ms_keys_of_lookup htree
          rw [hem] at hkey
          cases hkey
        rw [setAside_of_allMovedOut hall hents, hmo]
        rfl
    · refine ⟨fun _ h => hall h.2.1, fun _ _ => keepsEntries_of_not_allMovedOut hgate hlock hall⟩
  · constructor
    · rintro - ⟨⟨folder, assignment, hgate, hlock, -⟩, -⟩
      exact hst ⟨folder, assignment, hgate, hlock⟩
    · intro _ _
      rw [switchToMount_of_refused hst]
      exact fun name tree htree => .inl htree

end Proofs

def exampleSwitchCalls : SwitchCalls where
  hostConfig := some ([{ id := "f", name := "docs", type := .sync }],
    [{ id := "a", folderId := "f", hostId := "h", localPath := "/docs" }])
  lock := .acquired ⟨"f", "folder:f", 0, 1200, 0, "folder:f:path:docs"⟩
  finalRun := .ok (some .success)
  faults := fun
    | .startMount => some "rclone mount exited early"
    | .moveBack "b" => some "EEXIST"
    | _ => none
  updateFault := none

def exampleContents : Entries Nat := (∅ : Entries Nat).insert "b" 2 |>.insert "a" 1

/-- The switch returns its failure, and the second entry is nowhere. -/
theorem switch_loses_entry :
    let ended := switchToMount exampleSwitchCalls "f" "/trash" ⟨exampleContents, none⟩
    ended.1.toOption = some { ok := false, error := some "mount failed: rclone mount exited early" } ∧
      ended.2.contents.lookup "a" = some 1 ∧ ¬(SwitchFailed ended → KeepsEntries exampleContents ended.2) := by
  refine ⟨by decide +kernel, by decide +kernel, ?_⟩
  intro hkp
  have hres : (switchToMount exampleSwitchCalls "f" "/trash" ⟨exampleContents, none⟩).1.toOption =
      some { ok := false, error := some "mount failed: rclone mount exited early" } := by decide +kernel
  have hfail : SwitchFailed (switchToMount exampleSwitchCalls "f" "/trash" ⟨exampleContents, none⟩) := by
    intro result hret
    rw [hret] at hres
    cases hres
    rfl
  have hlost : (switchToMount exampleSwitchCalls "f" "/trash" ⟨exampleContents, none⟩).2.contents.lookup "b" = none ∧
      ((switchToMount exampleSwitchCalls "f" "/trash" ⟨exampleContents, none⟩).2.trash.getD ∅).lookup "b" = none := by
    decide +kernel
  rcases hkp hfail "b" 2 (by decide) with hcont | htr
  · rw [hlost.1] at hcont
    cases hcont
  · rw [hlost.2] at htr
    cases htr

end LamaSync
