import LamaSync.Lib.Table
import Mathlib.Data.List.Basic

/-!
# Reverse indexes

A map from keys to sets of members, kept beside a table that gives each member its key.  `add` and `remove` are the two
updates (a key without members has no entry), and `IndexOf` says that the index lists exactly the members of each key;
both updates keep it when the table is updated with them.
-/

/-- The members of each key, when there are any. -/
abbrev Index (κ ι : Type*) := Table κ (List ι)

namespace Index

variable {κ ι : Type*} {t : Index κ ι} {k k' : κ} {i j : ι}

def members (t : Index κ ι) (k : κ) : List ι := (t k).getD []

section Updates

variable [DecidableEq κ] [DecidableEq ι]

def add (t : Index κ ι) (k : κ) (i : ι) : Index κ ι :=
  t.put k (if i ∈ t.members k then t.members k else t.members k ++ [i])

/-- Take a member out of the set of a key, and the entry out when the set is empty. -/
def remove (t : Index κ ι) (k : κ) (i : ι) : Index κ ι :=
  match t k with
  | none => t
  | some is =>
    let rest := is.filter (· ≠ i)
    if rest = [] then t.erase k else t.put k rest

theorem mem_add : j ∈ (t.add k i).members k' ↔ j ∈ t.members k' ∨ (k' = k ∧ j = i) := by
  by_cases hk : k' = k
  · subst hk
    have hself : (t.add k' i).members k' = if i ∈ t.members k' then t.members k' else t.members k' ++ [i] := by
      simp [add, members]
    rw [hself]
    split
    · rename_i hmem
      refine ⟨.inl, ?_⟩
      rintro (h | ⟨-, rfl⟩)
      · exact h
      · exact hmem
    · simp
  · have ho : (t.add k i).members k' = t.members k' := by simp [add, members, Table.put_of_ne hk]
    simp [ho, hk]

theorem mem_remove : j ∈ (t.remove k i).members k' ↔ j ∈ t.members k' ∧ ¬ (k' = k ∧ j = i) := by
  unfold remove
  split
  · rename_i hnone
    refine ⟨fun h => ⟨h, ?_⟩, fun h => h.1⟩
    rintro ⟨rfl, -⟩
    simp [members, hnone] at h
  rename_i is hsome
  by_cases hk : k' = k
  · subst hk
    simp only []
    split
    · rename_i hem
      have hnot : ∀ m ∈ is, m = i := by simpa using hem
      simp only [members, Table.erase_self, hsome, Option.getD_none, Option.getD_some, List.not_mem_nil, true_and,
        false_iff, not_and, not_not]
      exact hnot j
    · simp [members, hsome]
  · have ho : ∀ t' : Index κ ι, t' k' = t k' → (j ∈ t'.members k' ↔ j ∈ t.members k' ∧ ¬ (k' = k ∧ j = i)) := by
      intro t' heq
      simp [members, heq, hk]
    simp only []
    split
    · exact ho _ (Table.erase_of_ne hk)
    · exact ho _ (Table.put_of_ne hk)

end Updates

def IndexOf (t : Index κ ι) (owner : ι → Option κ) : Prop := ∀ k i, i ∈ t.members k ↔ owner i = some k

variable {owner : ι → Option κ}

theorem indexOf_empty : IndexOf (fun _ => none : Index κ ι) fun _ => none := by
  intro k i
  simp [members]

variable [DecidableEq κ] [DecidableEq ι]

/-- A member that had no key gets one. -/
theorem IndexOf.add (h : t.IndexOf owner) (hi : owner i = none) :
    (t.add k i).IndexOf (Function.update owner i (some k)) := by
  intro k' j
  rw [mem_add, h k' j]
  by_cases hj : j = i
  · subst hj
    simp [hi, eq_comm]
  · simp [hj]

/-- A member loses its key. -/
theorem IndexOf.remove (h : t.IndexOf owner) (hi : owner i = some k) :
    (t.remove k i).IndexOf (Function.update owner i none) := by
  intro k' j
  rw [mem_remove, h k' j]
  by_cases hj : j = i
  · subst hj
    simp [hi, eq_comm]
  · simp [hj]

end Index
