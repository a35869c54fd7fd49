import LamaSync.Core.Folders
import Mathlib.Data.List.TakeWhile

/-!
# Conflicts in the output of rclone

The daemon reads the conflicts of a bisync run off the two outputs of rclone, line by line: a line with the word
`conflict` and a name after it is a conflict of that name, and the times of the two sides are read from the rest of the
line.  A name is reported once, with the times of its last line.
-/

namespace LamaSync

structure ParsedConflict where
  path : String
  localMtime : Option Nat
  remoteMtime : Option Nat
  deriving DecidableEq, Repr

/-- What stands behind a word; the word is in small letters, and the case does not matter. -/
def dropWord : List Char → List Char → Option (List Char)
  | [], cs => some cs
  | _ :: _, [] => none
  | w :: word, c :: cs => if c.toLower = w then dropWord word cs else none

def firstMatch {α : Type} (reader : List Char → Option α) : List Char → Option α
  | [] => reader []
  | c :: cs => (reader (c :: cs)).or (firstMatch reader cs)

def dropSpaces (cs : List Char) : Option (List Char) :=
  match cs with
  | [] => none
  | c :: rest => if isJsSpace c then some (rest.dropWhile isJsSpace) else none

/-- What `p+` reads. -/
def takeSome (p : Char → Bool) (cs : List Char) : Option (List Char) :=
  some (cs.takeWhile p) |>.filter fun taken => !taken.isEmpty

def conflictPath (line : List Char) : Option (List Char) :=
  firstMatch (fun cs =>
    ((dropWord "conflict".toList cs).bind dropSpaces).bind (takeSome fun c => !isJsSpace c)) line

def sideMtime (side : String) (line : List Char) : Option Nat :=
  (firstMatch (fun cs =>
    (((dropWord side.toList cs).bind dropSpaces).bind (dropWord "mtime=".toList)).bind
      (takeSome fun c => '0' ≤ c && c ≤ '9')) line).map fun digits =>
    digits.foldl (fun n c => 10 * n + (c.toNat - '0'.toNat)) 0

def setConflict (conflicts : List ParsedConflict) (c : ParsedConflict) : List ParsedConflict :=
  if c.path ∈ conflicts.map ParsedConflict.path then
    conflicts.map fun old => if old.path = c.path then c else old
  else conflicts ++ [c]

def lineConflict (line : List Char) : Option ParsedConflict :=
  if (firstMatch (dropWord "conflict".toList) line).isNone then none
  else (conflictPath line).map fun path => {
    path := String.ofList path
    localMtime := sideMtime "path1" line
    remoteMtime := sideMtime "path2" line }

def parseBisyncConflicts (stdout stderr : String) : List ParsedConflict :=
  (((stdout ++ "\n" ++ stderr).toList.splitOn '\n').filterMap lineConflict).foldl setConflict []

private theorem cf_firstMatch {α : Type} {reader : List Char → Option α} {line : List Char} {a : α}
    (h : firstMatch reader line = some a) : ∃ cs, reader cs = some a := by
  induction line with
  | nil => exact ⟨[], h⟩
  | cons c cs ih =>
    rw [firstMatch, Option.or_eq_some_iff] at h
    rcases h with hhere | ⟨-, hla⟩
    · exact ⟨c :: cs, hhere⟩
    · exact ih hla

private theorem cf_takeSome {p : Char → Bool} {cs taken : List Char} (h : takeSome p cs = some taken) :
    taken ≠ [] ∧ ∀ c ∈ taken, p c = true := by
  unfold takeSome at h
  rw [Option.filter_eq_some_iff] at h
  obtain ⟨htk, hne⟩ := h
  refine ⟨by simpa using hne, ?_⟩
  intro c hc
  rw [← Option.some.inj htk] at hc
  exact List.mem_takeWhile_imp hc

/-- A name that is read has no space in it, and is not empty. -/
theorem lineConflict_path {line : List Char} {c : ParsedConflict} (h : lineConflict line = some c) :
    c.path ≠ "" ∧ ∀ x ∈ c.path.toList, isJsSpace x = false := by
  unfold lineConflict at h
  split at h
  · cases h
  obtain ⟨path, hpath, rfl⟩ := Option.map_eq_some_iff.1 h
  obtain ⟨cs, hread⟩ := cf_firstMatch hpath
  obtain ⟨rest, -, htk⟩ := Option.bind_eq_some_iff.1 hread
  obtain ⟨hne, hall⟩ := cf_takeSome htk
  constructor
  · intro hem
    apply hne
    have hch := congrArg String.toList hem
    simpa using hch
  intro x hx
  have hsp := hall x (by simpa using hx)
  simpa using hsp

private theorem cf_setConflict {conflicts : List ParsedConflict} {c : ParsedConflict}
    (h : (conflicts.map ParsedConflict.path).Nodup) : ((setConflict conflicts c).map ParsedConflict.path).Nodup := by
  unfold setConflict
  split
  · have hsame : (conflicts.map fun old => if old.path = c.path then c else old).map ParsedConflict.path =
        conflicts.map ParsedConflict.path := by
      rw [List.map_map]
      apply List.map_congr_left
      intro old _
      show (if old.path = c.path then c else old).path = old.path
      split
      · rename_i heq
        exact heq.symm
      · rfl
    rw [hsame]
    exact h
  · rename_i hnew
    rw [List.map_append, List.nodup_append]
    refine ⟨h, by simp, ?_⟩
    rintro path hpath path' hpath' rfl
    rw [List.map_singleton, List.mem_singleton] at hpath'
    exact hnew (hpath' ▸ hpath)

theorem parseBisyncConflicts_nodup (stdout stderr : String) :
    ((parseBisyncConflicts stdout stderr).map ParsedConflict.path).Nodup := by
  have hfold : ∀ (found conflicts : List ParsedConflict), (conflicts.map ParsedConflict.path).Nodup →
      ((found.foldl setConflict conflicts).map ParsedConflict.path).Nodup := by
    intro found
    induction found with
    | nil => exact fun _ h => h
    | cons c found ih => exact fun conflicts h => ih _ (cf_setConflict h)
  exact hfold _ [] List.nodup_nil

/-- A run over one conflict, and a later line about it. -/
example : parseBisyncConflicts "CONFLICT  a/b.txt (path1 mtime=12 path2 mtime=7)\n" "Conflict a/b.txt" =
    [⟨"a/b.txt", none, none⟩] := by decide +kernel

inductive ConflictAction where
  | localWins | remoteWins | keepBoth
  deriving DecidableEq, Repr

def pickConflictAction (strategy : ConflictStrategy) (localMtime remoteMtime : Option Nat) (role : String) :
    ConflictAction :=
  match strategy with
  | .sourceWins => if role = "target" then .remoteWins else .localWins
  | .keepBoth => .keepBoth
  | .newerWins =>
    match localMtime, remoteMtime with
    | some l, some r => if r < l then .localWins else if l < r then .remoteWins else .keepBoth
    | _, _ => .keepBoth
  | .manual => .keepBoth

inductive ConflictResolution where
  | local | remote | both
  deriving DecidableEq, Repr

end LamaSync
