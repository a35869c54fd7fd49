import Mathlib.Logic.Function.Basic

/-!
# Keyed tables and conditional updates

A table with a primary key is a partial function from keys to rows.  `updateWhere` is the statement
`UPDATE … SET … WHERE id = ? AND guard`: it rewrites at most one row, and only when the guard accepts the row as it
stands.  It also returns the number of rows it changed, which is how a caller learns that it was refused.
`updateAll` is the same statement without the key.
-/

abbrev Table (κ ρ : Type*) := κ → Option ρ

namespace Table

variable {κ ρ : Type*} {t : Table κ ρ} {k k' : κ} {guard : ρ → Bool} {set : ρ → ρ} {row : ρ}

theorem unique {r r' : ρ} (h : t k = some r) (h' : t k = some r') : r = r' := Option.mem_unique h h'

def updateAll (t : Table κ ρ) (guard : ρ → Bool) (set : ρ → ρ) : Table κ ρ :=
  fun k => (t k).map fun row => if guard row then set row else row

def Extends (t t' : Table κ ρ) : Prop := ∀ k row, t k = some row → t' k = some row

theorem Extends.refl (t : Table κ ρ) : Extends t t := fun _ _ h => h

theorem Extends.trans {t t' t'' : Table κ ρ} (h : Extends t t') (h' : Extends t' t'') : Extends t t'' :=
  fun k row hk => h' k row (h k row hk)

variable [DecidableEq κ]

def put (t : Table κ ρ) (k : κ) (row : ρ) : Table κ ρ := Function.update t k (some row)

@[simp] theorem put_self : t.put k row k = some row := by simp [put]

theorem put_of_ne (h : k' ≠ k) : t.put k row k' = t k' := by simp [put, h]

theorem put_apply : t.put k row k' = if k' = k then some row else t k' := by
  by_cases h : k' = k
  · subst h; simp
  · simp [put_of_ne h, h]

theorem of_put {r : ρ} (h : t.put k row k' = some r) : k' = k ∧ r = row ∨ k' ≠ k ∧ t k' = some r := by
  by_cases hk : k' = k
  · subst hk
    exact .inl ⟨rfl, by simpa using h.symm⟩
  · rw [put_of_ne hk] at h
    exact .inr ⟨hk, h⟩

def erase (t : Table κ ρ) (k : κ) : Table κ ρ := Function.update t k none

@[simp] theorem erase_self : t.erase k k = none := by simp [erase]

theorem erase_of_ne (h : k' ≠ k) : t.erase k k' = t k' := by simp [erase, h]

theorem of_erase {r : ρ} (h : t.erase k k' = some r) : k' ≠ k ∧ t k' = some r := by
  by_cases hk : k' = k
  · subst hk
    simp at h
  · rw [erase_of_ne hk] at h
    exact ⟨hk, h⟩

def updateWhere (t : Table κ ρ) (k : κ) (guard : ρ → Bool) (set : ρ → ρ) : Table κ ρ × Nat :=
  match t k with
  | some row => if guard row then (t.put k (set row), 1) else (t, 0)
  | none => (t, 0)

theorem updateWhere_accepted (hk : t k = some row) (hg : guard row = true) :
    t.updateWhere k guard set = (t.put k (set row), 1) := by
  simp [updateWhere, hk, hg]

theorem updateWhere_refused (h : ∀ row, t k = some row → guard row = false) :
    t.updateWhere k guard set = (t, 0) := by
  unfold updateWhere
  split
  · rename_i row hk; simp [h row hk]
  · rfl

theorem updateWhere_cases (t : Table κ ρ) (k : κ) (guard : ρ → Bool) (set : ρ → ρ) :
    (∃ row, t k = some row ∧ guard row = true ∧ t.updateWhere k guard set = (t.put k (set row), 1)) ∨
    ((∀ row, t k = some row → guard row = false) ∧ t.updateWhere k guard set = (t, 0)) := by
  cases hk : t k with
  | none => exact .inr ⟨by simp, updateWhere_refused (by simp [hk])⟩
  | some row =>
    cases hg : guard row with
    | true => exact .inl ⟨row, rfl, hg, updateWhere_accepted hk hg⟩
    | false =>
      have hno : ∀ r, some row = some r → guard r = false := by
        intro r h; cases h; exact hg
      exact .inr ⟨hno, updateWhere_refused (by rw [hk]; exact hno)⟩

end Table
