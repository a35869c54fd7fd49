import Mathlib.Data.List.Nodup
import Mathlib.Data.List.Count
import Mathlib.Tactic.Basic

/-!
# Tables as lists of rows

A table without deletions is a list of rows.  `update` is the statement `UPDATE … SET … WHERE guard` over all its rows;
an insert appends a row.  A column `key` is unique when the keys of the rows have no duplicates, and then a lookup
by the key finds the row (`find_unique`).
-/

namespace Rows

variable {ρ κ : Type*} {rows : List ρ} {row row' : ρ} {guard p q : ρ → Bool} {set : ρ → ρ} {key : ρ → κ}

def update (rows : List ρ) (guard : ρ → Bool) (set : ρ → ρ) : List ρ :=
  rows.map fun row => if guard row then set row else row

theorem mem_update : row' ∈ update rows guard set ↔ ∃ row ∈ rows, (if guard row then set row else row) = row' := by
  unfold update
  exact List.mem_map

theorem mem_update_of_mem (h : row ∈ rows) : (if guard row then set row else row) ∈ update rows guard set :=
  mem_update.2 ⟨row, h, rfl⟩

theorem mem_update_of_refused (h : row ∈ rows) (hg : guard row = false) : row ∈ update rows guard set := by
  refine mem_update.2 ⟨row, h, ?_⟩
  rw [if_neg (by simp [hg])]

theorem map_update (h : ∀ row, key (set row) = key row) : (update rows guard set).map key = rows.map key := by
  unfold update
  rw [List.map_map]
  refine List.map_congr_left ?_
  intro row _
  simp only [Function.comp_apply]
  split
  · exact h row
  · rfl

theorem forall_update {P : ρ → Prop} (h : ∀ row ∈ rows, P row)
    (hset : ∀ row ∈ rows, guard row = true → P row → P (set row)) : ∀ row ∈ update rows guard set, P row := by
  intro row' hrow'
  obtain ⟨row, hrow, rfl⟩ := mem_update.1 hrow'
  split
  · rename_i hg; exact hset row hrow hg (h row hrow)
  · exact h row hrow

theorem countP_update :
    (update rows guard set).countP p = rows.countP fun row => p (if guard row then set row else row) := by
  unfold update
  exact List.countP_map

theorem countP_update_same (h : ∀ row ∈ rows, guard row = true → p (set row) = p row) :
    (update rows guard set).countP p = rows.countP p := by
  rw [countP_update]
  refine List.countP_congr ?_
  intro row hrow
  by_cases hg : guard row = true
  · rw [if_pos hg, h row hrow hg]
  · rw [if_neg hg]

theorem countP_update_none (hall : ∀ row ∈ rows, p row = true → guard row = true)
    (hset : ∀ row ∈ rows, guard row = true → p (set row) = false) : (update rows guard set).countP p = 0 := by
  rw [countP_update, List.countP_eq_zero]
  intro row hrow
  by_cases hg : guard row = true
  · rw [if_pos hg, hset row hrow hg]
    exact Bool.false_ne_true
  · rw [if_neg hg]
    exact fun hp => hg (hall row hrow hp)

theorem countP_update_le (h : ∀ row ∈ rows, guard row = true → p (set row) = true → p row = true) :
    (update rows guard set).countP p ≤ rows.countP p := by
  rw [countP_update]
  refine List.countP_mono_left ?_
  intro row hrow hp
  by_cases hg : guard row = true
  · rw [if_pos hg] at hp
    exact h row hrow hg hp
  · rwa [if_neg hg] at hp

/-- Every row of the first table has a successor in the second. -/
def Kept (R : ρ → ρ → Prop) (rows rows' : List ρ) : Prop := ∀ row ∈ rows, ∃ row' ∈ rows', R row row'

section Kept

variable {R : ρ → ρ → Prop} {rows' rows'' : List ρ}

theorem Kept.refl (hrefl : ∀ row, R row row) : Kept R rows rows := fun row hrow => ⟨row, hrow, hrefl row⟩

theorem Kept.trans (htr : ∀ a b c, R a b → R b c → R a c) (h : Kept R rows rows') (h' : Kept R rows' rows'') :
    Kept R rows rows'' := by
  intro row hrow
  obtain ⟨row', hrow', hR⟩ := h row hrow
  obtain ⟨row'', hrow'', hR'⟩ := h' row' hrow'
  exact ⟨row'', hrow'', htr _ _ _ hR hR'⟩

theorem kept_update (hrefl : ∀ row, R row row) (hset : ∀ row, R row (set row)) : Kept R rows (update rows guard set) := by
  intro row hrow
  refine ⟨_, mem_update_of_mem hrow, ?_⟩
  split
  · exact hset row
  · exact hrefl row

theorem Kept.append (h : Kept R rows rows') (new : List ρ) : Kept R rows (rows' ++ new) := by
  intro row hrow
  obtain ⟨row', hrow', hR⟩ := h row hrow
  exact ⟨row', List.mem_append_left _ hrow', hR⟩

end Kept

/-- A column is unique: it names its row. -/
theorem eq_of_key (h : (rows.map key).Nodup) (hrow : row ∈ rows) (hrow' : row' ∈ rows) (hkey : key row = key row') :
    row = row' := List.inj_on_of_nodup_map h hrow hrow' hkey

theorem nodup_concat (h : (rows.map key).Nodup) (hnew : ∀ r ∈ rows, key r ≠ key row) :
    ((rows ++ [row]).map key).Nodup := by
  rw [List.map_append, List.nodup_append]
  refine ⟨h, List.nodup_singleton _, ?_⟩
  intro a ha b hb
  obtain ⟨r, hr, rfl⟩ := List.mem_map.1 ha
  have hb : b = key row := List.mem_singleton.1 hb
  rw [hb]
  exact hnew r hr

theorem nodup_update (hset : ∀ row, key (set row) = key row) (h : (rows.map key).Nodup) :
    ((update rows guard set).map key).Nodup := by
  rw [map_update hset]
  exact h

variable {k : κ}

theorem nodup_update_key (hrows : rows.Nodup) (h : (rows.map key).Nodup)
    (hone : ∀ row ∈ rows, ∀ row' ∈ rows, guard row = true → guard row' = true → row = row')
    (hset : ∀ row, key (set row) = k) (hnew : ∀ row ∈ rows, guard row = false → key row ≠ k) :
    ((update rows guard set).map key).Nodup := by
  unfold update
  rw [List.map_map]
  refine List.Nodup.map_on ?_ hrows
  intro row hrow row' hrow' heq
  simp only [Function.comp_apply] at heq
  cases hg : guard row <;> cases hg' : guard row' <;> simp only [hg, hg', if_true, Bool.false_eq_true,
    if_false, hset] at heq
  · exact eq_of_key h hrow hrow' heq
  · exact absurd heq (hnew row hrow hg)
  · exact absurd heq.symm (hnew row' hrow' hg')
  · exact hone row hrow row' hrow' hg hg'

variable [DecidableEq κ]

theorem find_some (h : rows.find? (fun row => key row == k) = some row) : row ∈ rows ∧ key row = k :=
  ⟨List.mem_of_find?_eq_some h, by simpa using List.find?_some h⟩

theorem find_none (h : rows.find? (fun row => key row == k) = none) : ∀ row ∈ rows, key row ≠ k := by
  intro row hrow hkey
  have hno := List.find?_eq_none.1 h row hrow
  exact hno (beq_iff_eq.2 hkey)

theorem mem_update_key (h : row' ∈ update rows (fun row => key row == k) set) :
    (∃ row ∈ rows, key row = k ∧ row' = set row) ∨ row' ∈ rows ∧ key row' ≠ k := by
  obtain ⟨row, hrow, rfl⟩ := mem_update.1 h
  by_cases hk : key row = k
  · rw [if_pos (beq_iff_eq.2 hk)]
    exact .inl ⟨row, hrow, hk, rfl⟩
  · rw [if_neg fun heq => hk (beq_iff_eq.1 heq)]
    exact .inr ⟨hrow, hk⟩

/-- A lookup after an insert of a new key. -/
theorem find_concat (hnew : ∀ r ∈ rows, key r ≠ key row) :
    (rows ++ [row]).find? (fun r => key r == k) = if k = key row then some row else rows.find? fun r => key r == k := by
  rw [List.find?_append]
  by_cases hk : k = key row
  · subst hk
    have hnone : rows.find? (fun r => key r == key row) = none := by
      rw [List.find?_eq_none]
      intro r hr hkey
      exact hnew r hr (beq_iff_eq.1 hkey)
    simp [hnone]
  · have hne : ¬ key row = k := fun h => hk h.symm
    simp [hk, hne]

theorem find_update {k' : κ} (hset : ∀ row, key (set row) = key row) :
    (update rows (fun row => key row == k) set).find? (fun row => key row == k') =
      if k' = k then (rows.find? fun row => key row == k).map set else rows.find? fun row => key row == k' := by
  unfold update
  induction rows with
  | nil => split <;> rfl
  | cons row rows ih =>
    rw [List.map_cons]
    by_cases hk : key row = k
    · subst hk
      by_cases hk' : k' = key row
      · subst hk'
        simp [hset]
      · have hne : ¬ key row = k' := fun h => hk' h.symm
        simpa [hset, hk', hne] using ih
    · by_cases hk' : key row = k'
      · subst hk'
        simp [hk]
      · simpa [hk, hk'] using ih

theorem find_unique (h : (rows.map key).Nodup) (hrow : row ∈ rows) :
    rows.find? (fun r => key r == key row) = some row := by
  cases hf : rows.find? (fun r => key r == key row) with
  | none => exact absurd rfl (find_none hf row hrow)
  | some found =>
    obtain ⟨hmem, hkey⟩ := find_some hf
    rw [eq_of_key h hmem hrow hkey]

end Rows
