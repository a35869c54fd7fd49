import LamaSync.Lib.Relational

/-!
# References to a key

The key of one table stands in columns of others.  Where nothing but the program keeps them together, a key is changed
by one update for each column (`rekey`), and what still refers to the old key afterwards is exactly what referred to it
in the columns that were left out (`refers_rekeys`).  Deletions are looked at in the same way.
-/

namespace Relational

variable {τ χ ι ν : Type*} {db db' : Db τ χ ι ν} {t : τ} {c : χ} {p q : τ × χ} {v : ν}

/-- A cell of the column holds the value. -/
def Db.Refers (db : Db τ χ ι ν) (p : τ × χ) (v : ν) : Prop := ∃ row ∈ db.rows p.1, row p.2 = some v

theorem Db.Refers.of_rows (h : db'.rows p.1 = db.rows p.1) : db'.Refers p v ↔ db.Refers p v := by
  unfold Db.Refers
  rw [h]

variable [DecidableEq τ] [DecidableEq χ] [DecidableEq ι] [DecidableEq ν]

def rekey (old new : ν) (p : τ × χ) : Statement τ χ ι ν :=
  .update p.1 (fun _ row => row p.2 = some old) [(p.2, fun _ _ => some new)]

variable {guard : Db τ χ ι ν → Row χ ν → Bool}

theorem Statement.update_ok {set : List (χ × (Db τ χ ι ν → Row χ ν → Option ν))}
    (h : (Statement.update t guard set).exec db = some db') :
    db' = db.setRows t ((db.rows t).map fun row => if guard db row then assign db set row else row) := by
  simp only [Statement.exec] at h
  split at h
  · cases h
  split at h
  · exact Db.tryRows_eq h
  · cases h

theorem Statement.delete_ok (h : (Statement.delete t guard).exec db = some db') :
    db' = db.setRows t ((db.rows t).filter fun row => !guard db row) := by
  simp only [Statement.exec] at h
  split at h
  · cases h
  · exact (Option.some.inj h).symm

theorem Statement.insert_ok {values : List (χ × Option ν)} (h : (Statement.insert t values).exec db = some db') :
    ∃ d : TableDef χ ν, db' = db.setRows t (db.rows t ++ [d.fill values]) := by
  simp only [Statement.exec] at h
  split at h
  · cases h
  rename_i d _
  split at h
  · exact ⟨d, Db.tryRows_eq h⟩
  · cases h

theorem refers_update {set : List (χ × (Db τ χ ι ν → Row χ ν → Option ν))}
    (h : (Statement.update t guard set).exec db = some db') (hset : q.1 = t → q.2 ∉ set.map Prod.fst) :
    db'.Refers q v ↔ db.Refers q v := by
  obtain rfl := Statement.update_ok h
  by_cases ht : q.1 = t
  · have hlo : set.lookup q.2 = none := by
      rw [List.lookup_eq_none_iff]
      intro a ha
      have hne : q.2 ≠ a.1 := fun heq => hset ht (heq ▸ List.mem_map_of_mem ha)
      simpa using hne
    have hcell : ∀ row, (if guard db row then assign db set row else row) q.2 = row q.2 := by
      intro row
      split
      · simp [assign, hlo]
      · rfl
    simp [Db.Refers, ht, hcell]
  · exact Db.Refers.of_rows (Db.rows_setRows_of_ne _ ht _)

theorem refers_rekey {old new : ν} (hne : new ≠ old) (h : (rekey old new p : Statement τ χ ι ν).exec db = some db') :
    db'.Refers q old ↔ db.Refers q old ∧ q ≠ p := by
  by_cases hq : q = p
  · subst hq
    obtain rfl := Statement.update_ok h
    simp only [ne_eq, not_true_eq_false, and_false, iff_false]
    rintro ⟨row, hrow, hcell⟩
    rw [Db.rows_setRows_self, List.mem_map] at hrow
    obtain ⟨row', -, rfl⟩ := hrow
    split at hcell
    · simp only [assign, List.lookup_cons, beq_self_eq_true, Option.some.injEq] at hcell
      exact hne hcell
    · rename_i hno
      exact hno (by simpa using hcell)
  · have ho : q.1 = p.1 → q.2 ∉ ([(p.2, fun _ _ => some new)] :
        List (χ × (Db τ χ ι ν → Row χ ν → Option ν))).map Prod.fst := by
      intro ht hc
      simp only [List.map_cons, List.map_nil, List.mem_singleton] at hc
      exact hq (Prod.ext ht hc)
    rw [refers_update h ho]
    exact (and_iff_left hq).symm

theorem refers_insert {values : List (χ × Option ν)} (h : (Statement.insert t values).exec db = some db')
    (hv : q.1 = t → ∃ cell, values.lookup q.2 = some cell ∧ cell ≠ some v) :
    db'.Refers q v ↔ db.Refers q v := by
  obtain ⟨d, rfl⟩ := Statement.insert_ok h
  by_cases ht : q.1 = t
  · obtain ⟨cell, hcell, hne⟩ := hv ht
    have hnew : d.fill values q.2 ≠ some v := by
      unfold TableDef.fill
      split
      · exact nofun
      · simpa [hcell] using hne
    constructor
    · rintro ⟨row, hrow, hre⟩
      rw [ht, Db.rows_setRows_self, List.mem_append, List.mem_singleton] at hrow
      rcases hrow with hrow | rfl
      · exact ⟨row, ht ▸ hrow, hre⟩
      · exact absurd hre hnew
    rintro ⟨row, hrow, hre⟩
    refine ⟨row, ?_, hre⟩
    rw [ht, Db.rows_setRows_self]
    exact List.mem_append_left _ (ht ▸ hrow)
  · exact Db.Refers.of_rows (Db.rows_setRows_of_ne _ ht _)

theorem refers_rekeys {old new : ν} {ps : List (τ × χ)} (hne : new ≠ old)
    (h : runScript db (ps.map fun p => (rekey old new p : Statement τ χ ι ν)) = (db', true)) :
    db'.Refers q old ↔ db.Refers q old ∧ q ∉ ps := by
  induction ps generalizing db with
  | nil =>
    obtain rfl := congrArg Prod.fst h
    simp [runScript]
  | cons p rest ih =>
    obtain ⟨db₁, hfi, hrest⟩ := runScript_cons_ok h
    rw [ih hrest, refers_rekey hne hfi, List.mem_cons, not_or, and_assoc]

theorem rows_rekeys {old new : ν} {ps : List (τ × χ)} (ht : ∀ p ∈ ps, p.1 ≠ t)
    (h : runScript db (ps.map fun p => (rekey old new p : Statement τ χ ι ν)) = (db', true)) :
    db'.rows t = db.rows t := by
  induction ps generalizing db with
  | nil =>
    obtain rfl := congrArg Prod.fst h
    rfl
  | cons p rest ih =>
    obtain ⟨db₁, hfi, hrest⟩ := runScript_cons_ok h
    obtain rfl := Statement.update_ok hfi
    exact (ih (fun q hq => ht q (.tail _ hq)) hrest).trans (Db.rows_setRows_of_ne _ (ht p (.head _)).symm _)

def deletion (d : τ × (Row χ ν → Bool)) : Statement τ χ ι ν := .delete d.1 fun _ row => d.2 row

theorem mem_rows_deletions {ds : List (τ × (Row χ ν → Bool))} {row : Row χ ν}
    (h : runScript db (ds.map deletion) = (db', true)) :
    row ∈ db'.rows t ↔ row ∈ db.rows t ∧ ∀ d ∈ ds, d.1 = t → d.2 row = false := by
  induction ds generalizing db with
  | nil =>
    obtain rfl := congrArg Prod.fst h
    simp [runScript]
  | cons d rest ih =>
    obtain ⟨db₁, hfi, hrest⟩ := runScript_cons_ok h
    obtain rfl := Statement.delete_ok hfi
    rw [ih hrest, List.forall_mem_cons, ← and_assoc]
    refine and_congr_left fun _ => ?_
    by_cases ht : t = d.1
    · subst ht
      simp [Db.rows_setRows_self]
    · rw [Db.rows_setRows_of_ne _ ht]
      exact (and_iff_left fun heq => absurd heq.symm ht).symm

end Relational
