import Mathlib.Data.List.Nodup
import Mathlib.Logic.Function.Basic
import Mathlib.Tactic.Basic

/-!
# Relational databases and their migrations

A database has tables with columns, uniqueness constraints and rows, and indexes.  A statement changes it or is refused
as a whole.  A script runs its statements in order and stops at the first one that is refused; what the earlier ones did
stays.  `runEach` runs scripts one after the other and goes on after a refused one, as migrations do that are tried on
every start.

`Statement.effect` says once what a statement does that is not refused, and `runEach_keeps` that what every statement
keeps is kept by all scripts.

`Has` says that a table, a column or an index is there.  What is there is kept by every statement that does not remove
it (`Has.exec`), and a statement that only makes what is there already leaves the rows alone (`rows_runEach`): that is
why such migrations can be run again.
-/

namespace Relational

variable {τ χ ι ν : Type*}

/-- The values of the columns; `none` is `NULL`. -/
abbrev Row (χ ν : Type*) := χ → Option ν

structure Column (χ ν : Type*) where
  name : χ
  default : Option ν

structure TableDef (χ ν : Type*) where
  columns : List (Column χ ν)
  uniques : List (List χ)

def TableDef.names (d : TableDef χ ν) : List χ := d.columns.map Column.name

structure IndexDef (τ χ ι ν : Type*) where
  name : ι
  table : τ
  columns : List χ
  unique : Bool
  covers : Option (Row χ ν → Bool)

structure Db (τ χ ι ν : Type*) where
  tables : τ → Option (TableDef χ ν)
  indexes : List (IndexDef τ χ ι ν)
  rows : τ → List (Row χ ν)

def Db.empty : Db τ χ ι ν where
  tables := fun _ => none
  indexes := []
  rows := fun _ => []

inductive Statement (τ χ ι ν : Type*) where
  | createTable (ifNotExists : Bool) (t : τ) (d : TableDef χ ν)
  | createIndex (i : IndexDef τ χ ι ν)
  | addColumn (t : τ) (c : Column χ ν)
  | dropColumn (t : τ) (c : χ)
  | dropTable (t : τ)
  | renameTable (t t' : τ)
  | update (t : τ) (guard : Db τ χ ι ν → Row χ ν → Bool) (set : List (χ × (Db τ χ ι ν → Row χ ν → Option ν)))
  | delete (t : τ) (guard : Db τ χ ι ν → Row χ ν → Bool)
  | insert (t : τ) (values : List (χ × Option ν))
  | insertOrReplace (t : τ) (select : Db τ χ ι ν → List (List (χ × Option ν)))

/-! ### What a database has -/

inductive Object (τ χ ι : Type*) where
  | table (t : τ)
  | column (t : τ) (c : χ)
  | index (t : τ) (name : ι)
  deriving DecidableEq

def Object.home : Object τ χ ι → τ
  | table t => t
  | column t _ => t
  | index t _ => t

def Db.Has (db : Db τ χ ι ν) : Object τ χ ι → Prop
  | .table t => ∃ d, db.tables t = some d
  | .column t c => ∃ d, db.tables t = some d ∧ c ∈ d.names
  | .index t name => ∃ i ∈ db.indexes, i.table = t ∧ i.name = name

/-- Every value of a row stands in a column of its table. -/
def Db.Masked (db : Db τ χ ι ν) : Prop := ∀ t, ∀ row ∈ db.rows t, ∀ c, row c ≠ none → db.Has (.column t c)

variable {db db' : Db τ χ ι ν} {o : Object τ χ ι}

theorem Db.Has.of_grows (h : db.Has o)
    (htabs : ∀ d, db.tables o.home = some d → ∃ d', db'.tables o.home = some d' ∧ d.names ⊆ d'.names)
    (hidxs : ∀ i ∈ db.indexes, i.table = o.home → i ∈ db'.indexes) : db'.Has o := by
  cases o with
  | table t =>
    obtain ⟨d, hd⟩ := h
    obtain ⟨d', hd', -⟩ := htabs d hd
    exact ⟨d', hd'⟩
  | column t c =>
    obtain ⟨d, hd, hc⟩ := h
    obtain ⟨d', hd', hsub⟩ := htabs d hd
    exact ⟨d', hd', hsub hc⟩
  | index t name =>
    obtain ⟨i, hi, ht, hname⟩ := h
    exact ⟨i, hidxs i hi ht, ht, hname⟩

theorem Db.Has.of_same (h : db.Has o) (htabs : db'.tables = db.tables) (hidxs : db'.indexes = db.indexes) :
    db'.Has o :=
  h.of_grows (fun d hd => ⟨d, by rw [htabs]; exact hd, List.Subset.refl _⟩) fun i hi _ => by rw [hidxs]; exact hi

/-! ### Execution -/

variable [DecidableEq τ] [DecidableEq χ] [DecidableEq ι] [DecidableEq ν]

def keyOf (cols : List χ) (row : Row χ ν) : Option (List ν) := cols.mapM row

def duplicated (cols : List χ) (rows : List (Row χ ν)) : Bool := !decide (rows.filterMap (keyOf cols)).Nodup

namespace Db

variable (db : Db τ χ ι ν)

def shape (t : τ) : Option (TableDef χ ν) × List (IndexDef τ χ ι ν) :=
  (db.tables t, db.indexes.filter fun i => i.table = t)

def constraints (t : τ) : List (List χ × (Row χ ν → Bool)) :=
  ((db.shape t).1.elim [] fun d => d.uniques.map fun u => (u, fun _ => true)) ++
    ((db.shape t).2.filter fun i => i.unique).map fun i => (i.columns, i.covers.getD fun _ => true)

def refuses (t : τ) (rows : List (Row χ ν)) : Bool :=
  (db.constraints t).any fun u => !duplicated u.1 ((db.rows t).filter u.2) && duplicated u.1 (rows.filter u.2)

def setRows (t : τ) (rows : List (Row χ ν)) : Db τ χ ι ν := { db with rows := Function.update db.rows t rows }

omit [DecidableEq χ] [DecidableEq ι] [DecidableEq ν] in
@[simp] theorem rows_setRows_self (t : τ) (rows : List (Row χ ν)) : (db.setRows t rows).rows t = rows :=
  Function.update_self ..

omit [DecidableEq χ] [DecidableEq ι] [DecidableEq ν] in
theorem rows_setRows_of_ne {t t' : τ} (h : t' ≠ t) (rows : List (Row χ ν)) : (db.setRows t rows).rows t' = db.rows t' :=
  Function.update_of_ne h ..

/-- The new rows of a table, unless they break a constraint. -/
def tryRows (t : τ) (rows : List (Row χ ν)) : Option (Db τ χ ι ν) :=
  if db.refuses t rows then none else some (db.setRows t rows)

end Db

def TableDef.fill (d : TableDef χ ν) (values : List (χ × Option ν)) : Row χ ν := fun c =>
  match d.columns.find? fun column => column.name = c with
  | none => none
  | some column => (values.lookup c).getD column.default

def assign (db : Db τ χ ι ν) (set : List (χ × (Db τ χ ι ν → Row χ ν → Option ν))) (row : Row χ ν) : Row χ ν := fun c =>
  match set.lookup c with
  | none => row c
  | some value => value db row

def replace (constraints : List (List χ × (Row χ ν → Bool))) (rows : List (Row χ ν)) (row : Row χ ν) :
    List (Row χ ν) :=
  (rows.filter fun old => !constraints.any fun u =>
    u.2 old && u.2 row && (keyOf u.1 old).isSome && keyOf u.1 old = keyOf u.1 row) ++ [row]

namespace Statement

def exec (db : Db τ χ ι ν) : Statement τ χ ι ν → Option (Db τ χ ι ν)
  | createTable ifNotExists t d =>
    if (db.tables t).isSome then if ifNotExists then some db else none
    else some { db with tables := Function.update db.tables t (some d), rows := Function.update db.rows t [] }
  | createIndex i =>
    if db.indexes.any fun j => j.name = i.name && j.table = i.table then some db
    else match db.tables i.table with
      | none => none
      | some d =>
        let broken := i.unique && duplicated i.columns ((db.rows i.table).filter (i.covers.getD fun _ => true))
        if i.columns.all (fun c => c ∈ d.names) && !broken then some { db with indexes := db.indexes ++ [i] }
        else none
  | addColumn t c =>
    match db.tables t with
    | none => none
    | some d =>
      if c.name ∈ d.names then none
      else some { db with
        tables := Function.update db.tables t (some { d with columns := d.columns ++ [c] })
        rows := Function.update db.rows t ((db.rows t).map fun row => Function.update row c.name c.default) }
  | dropColumn t c =>
    match db.tables t with
    | none => none
    | some d =>
      if c ∈ d.names then some { db with
        tables := Function.update db.tables t
          (some { d with columns := d.columns.filter fun column => column.name ≠ c })
        rows := Function.update db.rows t ((db.rows t).map fun row => Function.update row c none) }
      else none
  | dropTable t => some {
      tables := Function.update db.tables t none
      indexes := db.indexes.filter fun i => i.table ≠ t
      rows := Function.update db.rows t [] }
  | renameTable t t' =>
    match db.tables t, db.tables t' with
    | some d, none => some {
        tables := Function.update (Function.update db.tables t none) t' (some d)
        indexes := db.indexes.map fun i => if i.table = t then { i with table := t' } else i
        rows := Function.update (Function.update db.rows t []) t' (db.rows t) }
    | _, _ => none
  | update t guard set =>
    match db.tables t with
    | none => none
    | some d =>
      if set.all fun a => a.1 ∈ d.names then
        db.tryRows t ((db.rows t).map fun row => if guard db row then assign db set row else row)
      else none
  | delete t guard =>
    match db.tables t with
    | none => none
    | some _ => some (db.setRows t ((db.rows t).filter fun row => !guard db row))
  | insert t values =>
    match db.tables t with
    | none => none
    | some d => if values.all fun v => v.1 ∈ d.names then db.tryRows t (db.rows t ++ [d.fill values]) else none
  | insertOrReplace t select =>
    match db.tables t with
    | none => none
    | some d =>
      if (select db).all fun values => values.all fun v => v.1 ∈ d.names then
        some (db.setRows t ((select db).foldl (fun rows values => replace (db.constraints t) rows (d.fill values))
          (db.rows t)))
      else none

end Statement

def runScript (db : Db τ χ ι ν) : List (Statement τ χ ι ν) → Db τ χ ι ν × Bool
  | [] => (db, true)
  | s :: rest =>
    match s.exec db with
    | none => (db, false)
    | some db' => runScript db' rest

def runEach (db : Db τ χ ι ν) (scripts : List (List (Statement τ χ ι ν))) : Db τ χ ι ν :=
  scripts.foldl (fun db script => (runScript db script).1) db

@[simp] theorem runEach_nil (db : Db τ χ ι ν) : runEach db [] = db := rfl

@[simp] theorem runEach_cons (db : Db τ χ ι ν) (script : List (Statement τ χ ι ν)) (scripts) :
    runEach db (script :: scripts) = runEach (runScript db script).1 scripts := rfl

theorem runEach_append (db : Db τ χ ι ν) (a b : List (List (Statement τ χ ι ν))) :
    runEach db (a ++ b) = runEach (runEach db a) b := List.foldl_append ..

/-! ### What statements keep and make -/

namespace Statement

def removes : Statement τ χ ι ν → Object τ χ ι → Bool
  | dropColumn t c, o => o = .column t c
  | dropTable t, o => o.home = t
  | renameTable t _, o => o.home = t
  | _, _ => false

def writes : Statement τ χ ι ν → Bool
  | update .. | delete .. | insert .. | insertOrReplace .. => true
  | _ => false

def makes : Statement τ χ ι ν → Option (Object τ χ ι)
  | createTable _ t _ => some (.table t)
  | createIndex i => some (.index i.table i.name)
  | addColumn t c => some (.column t c.name)
  | _ => none

def within (T : List τ) (K : List (Object τ χ ι)) : Statement τ χ ι ν → Bool
  | createTable _ t _ => t ∈ T || .table t ∈ K
  | createIndex _ => true
  | addColumn t c => t ∈ T || c.default.isNone || .column t c.name ∈ K
  | renameTable t t' => t ∈ T && t' ∈ T
  | dropColumn t _ => t ∈ T
  | dropTable t => t ∈ T
  | update t _ _ => t ∈ T
  | delete t _ => t ∈ T
  | insert t _ => t ∈ T
  | insertOrReplace t _ => t ∈ T

end Statement

variable {s : Statement τ χ ι ν} {t : τ} {rows : List (Row χ ν)}

omit [DecidableEq χ] [DecidableEq ι] in
theorem Db.tryRows_eq (h : db.tryRows t rows = some db') : db' = db.setRows t rows := by
  unfold Db.tryRows at h
  split at h
  · exact nomatch h
  · exact (Option.some.inj h).symm

omit [DecidableEq χ] [DecidableEq ι] [DecidableEq ν] in
theorem Db.Has.setRows (h : db.Has o) (t : τ) (rows : List (Row χ ν)) : (db.setRows t rows).Has o := h.of_same rfl rfl

variable {c : χ}

omit [DecidableEq τ] [DecidableEq ι] [DecidableEq ν] in
theorem Db.Has.of_fill {d : TableDef χ ν} {values : List (χ × Option ν)} (hd : db.tables t = some d)
    (hc : d.fill values c ≠ none) : db.Has (.column t c) := by
  unfold TableDef.fill at hc
  split at hc
  · exact absurd rfl hc
  rename_i column hfind
  refine ⟨d, hd, List.mem_map.2 ⟨column, List.mem_of_find?_eq_some hfind, ?_⟩⟩
  simpa using List.find?_some hfind

variable {row : Row χ ν}

omit [DecidableEq τ] [DecidableEq ι] [DecidableEq ν] in
theorem Db.Masked.update_null (h : db.Masked) (hrow : row ∈ db.rows t)
    (hc : ¬db.Has (.column t c)) : Function.update row c none = row := by
  have hnull : row c = none := by
    by_contra hcell
    exact hc (h t row hrow c hcell)
  exact hnull ▸ Function.update_eq_self c row

omit [DecidableEq χ] in
theorem mem_foldl_replace {constraints : List (List χ × (Row χ ν → Bool))} {new : List (Row χ ν)}
    (h : row ∈ new.foldl (replace constraints) rows) : row ∈ rows ∨ row ∈ new := by
  induction new generalizing rows with
  | nil => exact .inl h
  | cons first rest ih =>
    rcases ih h with h | h
    · rcases List.mem_append.1 h with h | h
      · exact .inl (List.mem_of_mem_filter h)
      · exact .inr (List.mem_singleton.1 h ▸ .head _)
    · exact .inr (.tail _ h)

/-- What a statement does that is not refused. -/
inductive Statement.Effect (db : Db τ χ ι ν) : Statement τ χ ι ν → Db τ χ ι ν → Prop
  | tableThere {t : τ} {d : TableDef χ ν} (hthere : db.Has (.table t)) : Effect db (.createTable true t d) db
  | creates {ifNotExists : Bool} {t : τ} {d : TableDef χ ν} (hnone : db.tables t = none) :
    Effect db (.createTable ifNotExists t d)
      { db with tables := Function.update db.tables t (some d), rows := Function.update db.rows t [] }
  | indexThere {i : IndexDef τ χ ι ν} (hthere : db.Has (.index i.table i.name)) : Effect db (.createIndex i) db
  | indexes {i : IndexDef τ χ ι ν} : Effect db (.createIndex i) { db with indexes := db.indexes ++ [i] }
  | adds {t : τ} {c : Column χ ν} {d : TableDef χ ν} (hd : db.tables t = some d) (hc : c.name ∉ d.names) :
    Effect db (.addColumn t c) { db with
      tables := Function.update db.tables t (some { d with columns := d.columns ++ [c] })
      rows := Function.update db.rows t ((db.rows t).map fun row => Function.update row c.name c.default) }
  | drops {t : τ} {c : χ} {d : TableDef χ ν} (hd : db.tables t = some d) :
    Effect db (.dropColumn t c) { db with
      tables := Function.update db.tables t (some { d with columns := d.columns.filter fun column => column.name ≠ c })
      rows := Function.update db.rows t ((db.rows t).map fun row => Function.update row c none) }
  | dropsTable {t : τ} :
    Effect db (.dropTable t) {
      tables := Function.update db.tables t none
      indexes := db.indexes.filter fun i => i.table ≠ t
      rows := Function.update db.rows t [] }
  | renames {t t' : τ} {d : TableDef χ ν} (hd : db.tables t = some d) (hnone : db.tables t' = none) :
    Effect db (.renameTable t t') {
      tables := Function.update (Function.update db.tables t none) t' (some d)
      indexes := db.indexes.map fun i => if i.table = t then { i with table := t' } else i
      rows := Function.update (Function.update db.rows t []) t' (db.rows t) }
  | writes {s : Statement τ χ ι ν} {t : τ} {rows : List (Row χ ν)} (hwrites : s.writes = true)
    (hin : ∀ T K, s.within T K = true → t ∈ T)
    (hrows : db.Masked → ∀ row ∈ rows, ∀ c, row c ≠ none → db.Has (.column t c)) : Effect db s (db.setRows t rows)

theorem Statement.effect (h : s.exec db = some db') : s.Effect db db' := by
  cases s with
  | createTable ifNotExists t d =>
    simp only [exec] at h
    split at h
    · rename_i hsome
      cases ifNotExists with
      | false => exact nomatch h
      | true => exact Option.some.inj h ▸ .tableThere (Option.isSome_iff_exists.1 hsome)
    · rename_i hnone
      exact Option.some.inj h ▸ .creates (by simpa using hnone)
  | createIndex i =>
    simp only [exec] at h
    split at h
    · rename_i hany
      obtain ⟨j, hj, hname⟩ := List.any_eq_true.1 hany
      simp only [Bool.and_eq_true, decide_eq_true_eq] at hname
      exact Option.some.inj h ▸ .indexThere ⟨j, hj, hname.2, hname.1⟩
    split at h
    · exact nomatch h
    split at h
    · exact Option.some.inj h ▸ .indexes
    · exact nomatch h
  | addColumn t c =>
    simp only [exec] at h
    split at h
    · exact nomatch h
    rename_i d hd
    split at h
    · exact nomatch h
    rename_i hc
    exact Option.some.inj h ▸ .adds hd hc
  | dropColumn t c =>
    simp only [exec] at h
    split at h
    · exact nomatch h
    rename_i d hd
    split at h
    · exact Option.some.inj h ▸ .drops hd
    · exact nomatch h
  | dropTable t => exact Option.some.inj h ▸ .dropsTable
  | renameTable t t' =>
    simp only [exec] at h
    split at h
    · rename_i d hd hnone
      exact Option.some.inj h ▸ .renames hd hnone
    · exact nomatch h
  | update t guard set =>
    simp only [exec] at h
    split at h
    · exact nomatch h
    rename_i d hd
    split at h
    · rename_i hset
      obtain rfl := Db.tryRows_eq h
      refine .writes rfl (fun T K hin => by simpa [within] using hin) fun hm row hrow c hc => ?_
      obtain ⟨old, hold, rfl⟩ := List.mem_map.1 hrow
      split at hc
      · unfold assign at hc
        split at hc
        · exact hm t old hold c hc
        rename_i value hlo
        obtain ⟨before, after, heq, -⟩ := List.lookup_eq_some_iff.1 hlo
        have hmem := List.all_eq_true.1 hset (c, value) (by simp [heq])
        exact ⟨d, hd, by simpa using hmem⟩
      · exact hm t old hold c hc
    · exact nomatch h
  | delete t guard =>
    simp only [exec] at h
    split at h
    · exact nomatch h
    · exact Option.some.inj h ▸ .writes rfl (fun T K hin => by simpa [within] using hin)
        fun hm row hrow c hc => hm t row (List.mem_of_mem_filter hrow) c hc
  | insert t values =>
    simp only [exec] at h
    split at h
    · exact nomatch h
    rename_i d hd
    split at h
    · obtain rfl := Db.tryRows_eq h
      refine .writes rfl (fun T K hin => by simpa [within] using hin) fun hm row hrow c hc => ?_
      rcases List.mem_append.1 hrow with hrow | hrow
      · exact hm t row hrow c hc
      · obtain rfl := List.mem_singleton.1 hrow
        exact Db.Has.of_fill hd hc
    · exact nomatch h
  | insertOrReplace t select =>
    simp only [exec] at h
    split at h
    · exact nomatch h
    rename_i d hd
    split at h
    · cases h
      refine .writes rfl (fun T K hin => by simpa [within] using hin) fun hm row hrow c hc => ?_
      rw [← List.foldl_map (f := d.fill) (g := replace (db.constraints t))] at hrow
      rcases mem_foldl_replace hrow with hrow | hrow
      · exact hm t row hrow c hc
      · obtain ⟨values, -, rfl⟩ := List.mem_map.1 hrow
        exact Db.Has.of_fill hd hc
    · exact nomatch h

theorem Db.Has.exec (h : db.Has o) (hs : s.exec db = some db') (hkeep : s.removes o = false) : db'.Has o := by
  cases Statement.effect hs with
  | tableThere | indexThere => exact h
  | @creates _ t d hnone =>
    refine h.of_grows (fun d' hd' => ?_) fun i hi _ => hi
    have hne : o.home ≠ t := by
      rintro rfl
      exact nomatch hd'.symm.trans hnone
    exact ⟨d', by simpa [Function.update_of_ne hne] using hd', List.Subset.refl _⟩
  | indexes => exact h.of_grows (fun d hd => ⟨d, hd, List.Subset.refl _⟩) fun j hj _ => List.mem_append_left _ hj
  | @adds t c d hd =>
    refine h.of_grows (fun d' hd' => ?_) fun i hi _ => hi
    by_cases heq : o.home = t
    · refine ⟨{ d with columns := d.columns ++ [c] }, by simp [heq], ?_⟩
      obtain rfl : d' = d := Option.some.inj (hd'.symm.trans (heq ▸ hd))
      simp [TableDef.names]
    · exact ⟨d', by simpa [Function.update_of_ne heq] using hd', List.Subset.refl _⟩
  | @drops t c d hd =>
    by_cases heq : o.home = t
    · have hne : o ≠ .column t c := by simpa [Statement.removes] using hkeep
      cases o with
      | table t' => cases heq; exact ⟨_, Function.update_self ..⟩
      | index t' name => exact h
      | column t' c' =>
        cases heq
        obtain ⟨d', hd', hc'⟩ := h
        obtain rfl : d' = d := Option.mem_unique hd' hd
        refine ⟨_, Function.update_self .., ?_⟩
        have hcc : c' ≠ c := fun hcc => hne (by rw [hcc]; rfl)
        obtain ⟨column, hco, rfl⟩ := List.mem_map.1 hc'
        exact List.mem_map.2 ⟨column, List.mem_filter.2 ⟨hco, by simpa using hcc⟩, rfl⟩
    · exact h.of_grows
        (fun d' hd' => ⟨d', by simpa [Function.update_of_ne heq] using hd', List.Subset.refl _⟩) fun i hi _ => hi
  | @dropsTable t =>
    have hne : o.home ≠ t := by simpa [Statement.removes] using hkeep
    refine h.of_grows (fun d hd => ⟨d, by simpa [Function.update_of_ne hne] using hd, List.Subset.refl _⟩) ?_
    intro i hi hhome
    exact List.mem_filter.2 ⟨hi, by simpa [hhome] using hne⟩
  | @renames t t' d hd hnone =>
    have hne : o.home ≠ t := by simpa [Statement.removes] using hkeep
    refine h.of_grows ?_ fun i hi hhome => List.mem_map.2 ⟨i, hi, if_neg (hhome ▸ hne)⟩
    intro d' hd'
    have hne' : o.home ≠ t' := by
      rintro heq
      exact nomatch (heq ▸ hd').symm.trans hnone
    exact ⟨d', by simpa [Function.update_of_ne hne, Function.update_of_ne hne'] using hd', List.Subset.refl _⟩
  | writes => exact h.setRows _ _

theorem Db.Has.of_makes (hs : s.exec db = some db') (ho : s.makes = some o) : db'.Has o := by
  cases Statement.effect hs with
  | tableThere hth | indexThere hth => exact Option.some.inj ho ▸ hth
  | creates => exact Option.some.inj ho ▸ ⟨_, Function.update_self ..⟩
  | indexes => exact Option.some.inj ho ▸ ⟨_, List.mem_append_right _ (.head _), rfl, rfl⟩
  | adds => exact Option.some.inj ho ▸ ⟨_, Function.update_self .., by simp [TableDef.names]⟩
  | drops | dropsTable | renames => exact nomatch ho
  | writes hwr =>
    cases s with
    | update | delete | insert | insertOrReplace => exact nomatch ho
    | createTable | createIndex | addColumn | dropColumn | dropTable | renameTable => exact nomatch hwr

/-! ### Values stand in columns -/

omit [DecidableEq χ] [DecidableEq ι] [DecidableEq ν] in
theorem Db.Masked.setRows (h : db.Masked) (hrows : ∀ row ∈ rows, ∀ c, row c ≠ none → db.Has (.column t c)) :
    (db.setRows t rows).Masked := by
  intro t' row hrow c hc
  by_cases ht : t' = t
  · subst ht
    exact hrows row (by simpa [Db.setRows] using hrow) c hc
  · exact h t' row (by simpa [Db.setRows, Function.update_of_ne ht] using hrow) c hc

theorem Db.Masked.exec (h : db.Masked) (hs : s.exec db = some db') : db'.Masked := by
  -- The old rows' cells stand in columns that are kept; the new cells are looked at case by case.
  have hold : ∀ {t row c}, row ∈ db.rows t → row c ≠ none → s.removes (.column t c) = false → db'.Has (.column t c) :=
    fun hrow hc hkeep => (h _ _ hrow _ hc).exec hs hkeep
  cases Statement.effect hs with
  | tableThere | indexThere | indexes => exact fun t row hrow c hc => hold hrow hc rfl
  | @creates _ t =>
    intro t' row hrow c hc
    by_cases ht : t' = t
    · subst ht; simp at hrow
    · exact hold (by simpa [Function.update_of_ne ht] using hrow) hc rfl
  | @adds t column =>
    intro t' row hrow c hc
    by_cases ht : t' = t
    · subst ht
      simp only [Function.update_self] at hrow
      obtain ⟨old, hmem, rfl⟩ := List.mem_map.1 hrow
      by_cases hcc : c = column.name
      · subst hcc
        exact Db.Has.of_makes (s := .addColumn t' column) hs rfl
      · exact hold hmem (by simpa [Function.update_of_ne hcc] using hc) rfl
    · exact hold (by simpa [Function.update_of_ne ht] using hrow) hc rfl
  | @drops t dropped =>
    intro t' row hrow c hc
    by_cases ht : t' = t
    · subst ht
      simp only [Function.update_self] at hrow
      obtain ⟨old, hmem, rfl⟩ := List.mem_map.1 hrow
      have hcc : c ≠ dropped := by rintro rfl; exact hc (Function.update_self ..)
      exact hold hmem (by simpa [Function.update_of_ne hcc] using hc) (by simp [Statement.removes, hcc])
    · exact hold (by simpa [Function.update_of_ne ht] using hrow) hc (by simp [Statement.removes, ht])
  | @dropsTable t =>
    intro t' row hrow c hc
    by_cases ht : t' = t
    · subst ht; simp at hrow
    · exact hold (by simpa [Function.update_of_ne ht] using hrow) hc (by simp [Statement.removes, Object.home, ht])
  | @renames a b d hd hnone =>
    intro t' row hrow c hc
    by_cases hb : t' = b
    · subst hb
      obtain ⟨d', hd', hc'⟩ := h a row (by simpa using hrow) c hc
      obtain rfl : d' = d := Option.mem_unique hd' hd
      exact ⟨d', Function.update_self .., hc'⟩
    by_cases ha : t' = a
    · subst ha; simp [Function.update_of_ne hb] at hrow
    · exact hold (by simpa [Function.update_of_ne hb, Function.update_of_ne ha] using hrow) hc
        (by simp [Statement.removes, Object.home, ha])
  | writes _ _ hrows => exact h.setRows (hrows h)

/-! ### What statements do to the rows -/

variable {K : List (Object τ χ ι)}

theorem Statement.exec_within {T : List τ} (hmask : db.Masked) (hs : s.exec db = some db')
    (hin : s.within T K = true) (hK : ∀ o ∈ K, db.Has o) (ht : t ∉ T) : db'.rows t = db.rows t := by
  have hne : ∀ t', t' ∈ T → t ≠ t' := fun t' ht' heq => ht (heq ▸ ht')
  cases Statement.effect hs with
  | tableThere | indexThere | indexes => rfl
  | @creates _ t' d hnone =>
    have hin' : t' ∈ T ∨ .table t' ∈ K := by simpa [within] using hin
    rcases hin' with hT | hk
    · exact Function.update_of_ne (hne t' hT) ..
    · obtain ⟨d', hd'⟩ := hK _ hk
      exact nomatch hd'.symm.trans hnone
  | @adds t' c d hd hc =>
    have hno : ¬db.Has (.column t' c.name) := by
      rintro ⟨d', hd', hc'⟩
      exact hc (Option.mem_unique hd' hd ▸ hc')
    have hin' : t' ∈ T ∨ c.default = none ∨ .column t' c.name ∈ K := by simpa [within, or_assoc] using hin
    rcases hin' with hT | hnull | hk
    · exact Function.update_of_ne (hne t' hT) ..
    · by_cases htt : t = t'
      · subst htt
        simp only [Function.update_self, hnull]
        exact (List.map_congr_left fun row hrow => hmask.update_null hrow hno).trans (List.map_id _)
      · exact Function.update_of_ne htt ..
    · exact absurd (hK _ hk) hno
  | drops | dropsTable => exact Function.update_of_ne (hne _ (by simpa [within] using hin)) ..
  | @renames a b =>
    have hin' : a ∈ T ∧ b ∈ T := by simpa [within] using hin
    exact (Function.update_of_ne (hne b hin'.2) ..).trans (Function.update_of_ne (hne a hin'.1) ..)
  | writes _ hT => exact Function.update_of_ne (hne _ (hT T K hin)) ..

/-- A new column is there after the attempt to add it, for it is refused only where it is there already. -/
theorem Db.Has.of_addColumn {c : Column χ ν} (ht : db.Has (.table t)) :
    (runScript db [.addColumn t c]).1.Has (.column t c.name) := by
  cases hs : (Statement.addColumn t c : Statement τ χ ι ν).exec db with
  | none =>
    obtain ⟨d, hd⟩ := ht
    have hc : c.name ∈ d.names := by
      by_contra hc
      simp [Statement.exec, hd, hc] at hs
    simp only [runScript, hs]
    exact ⟨d, hd, hc⟩
  | some db' =>
    simp only [runScript, hs]
    exact Db.Has.of_makes hs rfl

theorem Db.Has.exec_eq (ho : s.makes = some o) (h : db.Has o)
    (hs : match s with | .createTable ifNotExists .. => ifNotExists = true | .createIndex _ => True | _ => False) :
    s.exec db = some db := by
  cases s with
  | createTable ifNotExists t d =>
    cases ho
    obtain ⟨d', hd'⟩ := h
    have hb : ifNotExists = true := hs
    simp [Statement.exec, hd', hb]
  | createIndex i =>
    cases ho
    obtain ⟨j, hj, ht, hname⟩ := h
    have hany : (db.indexes.any fun j => j.name = i.name && j.table = i.table) = true :=
      List.any_eq_true.2 ⟨j, hj, by simp [ht, hname]⟩
    simp [Statement.exec, hany]
  | addColumn | dropColumn | dropTable | renameTable | update | delete | insert | insertOrReplace => exact hs.elim

/-! ### Scripts -/

variable {scripts : List (List (Statement τ χ ι ν))}

/-- What every statement of the scripts keeps, the scripts keep. -/
theorem runEach_keeps {P : Db τ χ ι ν → Prop} (h : P db)
    (hstep : ∀ script ∈ scripts, ∀ s ∈ script, ∀ db db', P db → s.exec db = some db' → P db') :
    P (runEach db scripts) := by
  induction scripts generalizing db with
  | nil => exact h
  | cons script rest ih =>
    refine ih ?_ fun script' hs' => hstep script' (.tail _ hs')
    replace hstep := hstep script (.head _)
    clear ih
    induction script generalizing db with
    | nil => exact h
    | cons s statements ih =>
      simp only [runScript]
      split
      · exact h
      · rename_i db' hs
        exact ih (hstep s (.head _) db db' h hs) fun s' hs' => hstep s' (.tail _ hs')

theorem Db.Has.runEach (h : db.Has o)
    (hkeep : ∀ script ∈ scripts, ∀ s ∈ script, s.removes o = false) : (Relational.runEach db scripts).Has o :=
  runEach_keeps (P := fun db => db.Has o) h fun script hscr s hs _ _ h hexec => h.exec hexec (hkeep script hscr s hs)

variable {script : List (Statement τ χ ι ν)}

theorem Db.Has.runScript (h : db.Has o)
    (hkeep : ∀ s ∈ script, s.removes o = false) : (Relational.runScript db script).1.Has o :=
  show (Relational.runEach db [script]).Has o from h.runEach (by simpa using hkeep)

theorem Db.Has.of_runScript (hok : (Relational.runScript db script).2 = true)
    (hs : s ∈ script) (ho : s.makes = some o) (hkeep : ∀ s ∈ script, s.removes o = false) :
    (Relational.runScript db script).1.Has o := by
  induction script generalizing db with
  | nil => exact nomatch hs
  | cons s' rest ih =>
    simp only [Relational.runScript] at hok ⊢
    split at hok
    · exact nomatch hok
    rename_i db' hexec
    have hkeep' : ∀ s ∈ rest, s.removes o = false := fun s'' hs'' => hkeep s'' (.tail _ hs'')
    rcases List.mem_cons.1 hs with rfl | hs
    · exact (Db.Has.of_makes hexec ho).runScript hkeep'
    · exact ih hok hs hkeep'

theorem Db.Has.of_runEach {c : Column χ ν} (hs : [Statement.addColumn t c] ∈ scripts) (ht : db.Has (.table t))
    (htk : ∀ script ∈ scripts, ∀ s ∈ script, s.removes (.table t) = false)
    (hkeep : ∀ script ∈ scripts, ∀ s ∈ script, s.removes (.column t c.name) = false) :
    (Relational.runEach db scripts).Has (.column t c.name) := by
  induction scripts generalizing db with
  | nil => exact nomatch hs
  | cons script rest ih =>
    have hkeep' := fun script' (hs' : script' ∈ rest) => hkeep script' (.tail _ hs')
    rcases List.mem_cons.1 hs with rfl | hs
    · exact (Db.Has.of_addColumn ht).runEach hkeep'
    · exact ih hs (ht.runScript (htk script (.head _))) (fun script' hs' => htk script' (.tail _ hs')) hkeep'

/-- A script that makes only what is there already does nothing. -/
theorem runScript_eq_self (h : ∀ s ∈ script, s.exec db = some db) : runScript db script = (db, true) := by
  induction script with
  | nil => rfl
  | cons s rest ih =>
    simp only [runScript, h s (.head _)]
    exact ih fun s' hs' => h s' (.tail _ hs')

theorem Db.Masked.runEach (h : db.Masked) : (Relational.runEach db scripts).Masked :=
  runEach_keeps h fun _ _ _ _ _ _ h hexec => h.exec hexec

theorem Db.Masked.runScript (h : db.Masked) :
    (Relational.runScript db script).1.Masked :=
  show (Relational.runEach db [script]).Masked from h.runEach

/-- Where the objects are there, the migrations leave the rows of the other tables as they are. -/
theorem rows_runEach {T : List τ} (hin : ∀ script ∈ scripts, ∀ s ∈ script, s.within T K = true)
    (hkeep : ∀ script ∈ scripts, ∀ s ∈ script, ∀ o ∈ K, s.removes o = false)
    (hmask : db.Masked) (hK : ∀ o ∈ K, db.Has o) (ht : t ∉ T) : (runEach db scripts).rows t = db.rows t := by
  refine (runEach_keeps (P := fun db' => db'.Masked ∧ (∀ o ∈ K, db'.Has o) ∧ db'.rows t = db.rows t)
    ⟨hmask, hK, rfl⟩ ?_).2.2
  rintro script hscr s hs db₁ db₂ ⟨hmask, hK, hrows⟩ hexec
  refine ⟨hmask.exec hexec, fun o ho => (hK o ho).exec hexec (hkeep script hscr s hs o ho), ?_⟩
  exact (Statement.exec_within hmask hexec (hin script hscr s hs) hK ht).trans hrows

theorem runScript_append (a b : List (Statement τ χ ι ν)) :
    runScript db (a ++ b) = if (runScript db a).2 then runScript (runScript db a).1 b else runScript db a := by
  induction a generalizing db with
  | nil => rfl
  | cons s rest ih =>
    cases hs : s.exec db with
    | none => simp [runScript, hs]
    | some db' => simpa [runScript, hs] using ih

theorem runScript_cons_ok (h : runScript db (s :: script) = (db', true)) :
    ∃ db₁, s.exec db = some db₁ ∧ runScript db₁ script = (db', true) := by
  cases hs : s.exec db with
  | none => simp [runScript, hs] at h
  | some db₁ => exact ⟨db₁, rfl, by simpa [runScript, hs] using h⟩

theorem runScript_append_ok {a b : List (Statement τ χ ι ν)} (h : runScript db (a ++ b) = (db', true)) :
    ∃ db₁, runScript db a = (db₁, true) ∧ runScript db₁ b = (db', true) := by
  rw [runScript_append] at h
  split at h
  · rename_i hok
    exact ⟨_, Prod.ext rfl hok, h⟩
  · rename_i hok
    exact absurd (congrArg Prod.snd h) hok

/-! ### Tables left as they are -/

def Statement.spares (K : List (Object τ χ ι)) (t : τ) : Statement τ χ ι ν → Bool
  | createTable _ t' _ => t' ≠ t || .table t' ∈ K
  | createIndex i => i.table ≠ t || .index i.table i.name ∈ K
  | addColumn t' c => t' ≠ t || .column t' c.name ∈ K
  | dropColumn t' _ | dropTable t' => t' ≠ t
  | renameTable a b => a ≠ t && b ≠ t
  | _ => true

theorem Statement.shape_exec (hs : s.exec db = some db') (hsp : s.spares K t = true)
    (hK : ∀ o ∈ K, db.Has o) : db'.shape t = db.shape t := by
  cases Statement.effect hs with
  | tableThere | indexThere => rfl
  | @creates _ t' d hnone =>
    have hca : t' ≠ t ∨ .table t' ∈ K := by simpa [spares] using hsp
    rcases hca with hne | hk
    · simp [Db.shape, Function.update_of_ne hne.symm]
    · obtain ⟨d', hd'⟩ := hK _ hk
      exact nomatch hd'.symm.trans hnone
  | @indexes i =>
    have hca : i.table ≠ t ∨ .index i.table i.name ∈ K := by simpa [spares] using hsp
    rcases hca with hne | hk
    · simp [Db.shape, hne]
    · have heq := Db.Has.exec_eq (s := .createIndex i) rfl (hK _ hk) trivial
      exact congrArg (Db.shape · t) (Option.mem_unique hs heq)
  | @adds t' c d hd hc =>
    have hca : t' ≠ t ∨ .column t' c.name ∈ K := by simpa [spares] using hsp
    rcases hca with hne | hk
    · simp [Db.shape, Function.update_of_ne hne.symm]
    · obtain ⟨d', hd', hc'⟩ := hK _ hk
      exact absurd (Option.mem_unique hd' hd ▸ hc') hc
  | @drops t' =>
    have hne : t' ≠ t := by simpa [spares] using hsp
    simp [Db.shape, Function.update_of_ne hne.symm]
  | @dropsTable t' =>
    have hne : t' ≠ t := by simpa [spares] using hsp
    simp only [Db.shape, Function.update_of_ne hne.symm, List.filter_filter, Prod.mk.injEq, true_and]
    refine List.filter_congr fun i _ => ?_
    by_cases hi : i.table = t
    · simp [hi, hne.symm]
    · simp [hi]
  | @renames a b =>
    have hne : a ≠ t ∧ b ≠ t := by simpa [spares] using hsp
    simp only [Db.shape, Function.update_of_ne hne.2.symm, Function.update_of_ne hne.1.symm, List.filter_map,
      Prod.mk.injEq, true_and]
    refine (List.map_congr_left fun i hi => ?_).trans ((List.map_id _).trans (List.filter_congr fun i _ => ?_))
    · have hca := (List.mem_filter.1 hi).2
      by_cases ha : i.table = a
      · simp [ha, hne.2] at hca
      · simp [ha]
    by_cases ha : i.table = a
    · simp [ha, hne]
    · simp [ha]
  | writes => rfl

theorem shape_runEach (hsp : ∀ script ∈ scripts, ∀ s ∈ script, s.spares K t = true)
    (hkeep : ∀ script ∈ scripts, ∀ s ∈ script, ∀ o ∈ K, s.removes o = false)
    (hK : ∀ o ∈ K, db.Has o) : (runEach db scripts).shape t = db.shape t := by
  refine (runEach_keeps (P := fun db' => (∀ o ∈ K, db'.Has o) ∧ db'.shape t = db.shape t) ⟨hK, rfl⟩ ?_).2
  rintro script hscr s hs db₁ db₂ ⟨hK, hsh⟩ hexec
  refine ⟨fun o ho => (hK o ho).exec hexec (hkeep script hscr s hs o ho), ?_⟩
  exact (Statement.shape_exec hexec (hsp script hscr s hs) hK).trans hsh

theorem shape_runScript
    (hsp : ∀ s ∈ script, s.spares K t = true) (hkeep : ∀ s ∈ script, ∀ o ∈ K, s.removes o = false)
    (hK : ∀ o ∈ K, db.Has o) : (runScript db script).1.shape t = db.shape t :=
  show (runEach db [script]).shape t = db.shape t from
    shape_runEach (by simpa using hsp) (by simpa using hkeep) hK

omit [DecidableEq χ] [DecidableEq ι] [DecidableEq ν] in
theorem Db.Has.of_shape (h : db.Has o) (hsh : db'.shape o.home = db.shape o.home) : db'.Has o := by
  have htabs : db'.tables o.home = db.tables o.home := congrArg Prod.fst hsh
  have hidxs : (db'.indexes.filter fun i => i.table = o.home) = db.indexes.filter fun i => i.table = o.home :=
    congrArg Prod.snd hsh
  refine h.of_grows (fun d hd => ⟨d, by rw [htabs]; exact hd, List.Subset.refl _⟩) ?_
  intro i hi hhome
  have hmem : i ∈ db'.indexes.filter fun i => i.table = o.home := by
    rw [hidxs]
    exact List.mem_filter.2 ⟨hi, by simpa using hhome⟩
  exact List.mem_of_mem_filter hmem

/-! ### A column without constraints -/

/-- No constraint on the table looks at the column. -/
def Db.Unconstrained (db : Db τ χ ι ν) (t : τ) (c : χ) : Prop :=
  ∀ u ∈ db.constraints t, c ∉ u.1 ∧ ∀ row, u.2 row = true

omit [DecidableEq χ] [DecidableEq ι] [DecidableEq ν] in
theorem Db.Unconstrained.of_shape (h : db.Unconstrained t c) (hsh : db'.shape t = db.shape t) :
    db'.Unconstrained t c := by
  have heq : db'.constraints t = db.constraints t := by unfold Db.constraints; rw [hsh]
  exact fun u hu => h u (heq ▸ hu)

omit [DecidableEq χ] [DecidableEq ν] in
theorem keyOf_congr {cols : List χ} {row' : Row χ ν} (h : ∀ c ∈ cols, row c = row' c) :
    keyOf cols row = keyOf cols row' := by
  unfold keyOf
  induction cols with
  | nil => rfl
  | cons c rest ih => rw [List.mapM_cons, List.mapM_cons, h c (.head _), ih fun c' hc' => h c' (.tail _ hc')]

omit [DecidableEq χ] [DecidableEq ι] in
theorem Db.Unconstrained.tryRows {f : Row χ ν → Row χ ν} (h : db.Unconstrained t c)
    (hf : ∀ row, ∀ c', c' ≠ c → f row c' = row c') :
    db.tryRows t ((db.rows t).map f) = some (db.setRows t ((db.rows t).map f)) := by
  have hkeys : ∀ u ∈ db.constraints t, ∀ rows : List (Row χ ν),
      (rows.map f).filterMap (keyOf u.1) = rows.filterMap (keyOf u.1) := by
    intro u hu rows
    rw [List.filterMap_map]
    refine List.filterMap_congr fun row _ => ?_
    refine keyOf_congr fun c' hc' => hf row c' ?_
    rintro rfl
    exact (h u hu).1 hc'
  have hre : db.refuses t ((db.rows t).map f) = false := by
    refine List.any_eq_false.2 fun u hu => ?_
    have hall : ∀ rows : List (Row χ ν), rows.filter u.2 = rows :=
      fun rows => List.filter_eq_self.2 fun row _ => (h u hu).2 row
    simp [hall, duplicated, hkeys u hu]
  unfold Db.tryRows
  rw [hre]
  rfl

def Statement.frees (t : τ) (c : χ) : Statement τ χ ι ν → Bool
  | createTable _ t' d => t' ≠ t || d.uniques.all fun u => c ∉ u
  | createIndex i => i.table ≠ t || !i.unique
  | renameTable _ b => b ≠ t
  | _ => true

omit [DecidableEq χ] [DecidableEq ι] [DecidableEq ν] in
theorem Db.Unconstrained.of_parts (h : db.Unconstrained t c) (htabs : ∀ d, db'.tables t = some d →
      (∃ d', db.tables t = some d' ∧ d.uniques = d'.uniques) ∨ ∀ u ∈ d.uniques, c ∉ u)
    (hidxs : ∀ i ∈ db'.indexes, i.table = t → i.unique = true → i ∈ db.indexes) : db'.Unconstrained t c := by
  intro u hu
  rcases List.mem_append.1 hu with hu | hu
  · cases hd : db'.tables t with
    | none => simp [Db.shape, hd] at hu
    | some d =>
      simp only [Db.shape, hd, Option.elim_some, List.mem_map] at hu
      obtain ⟨cols, hcols, rfl⟩ := hu
      rcases htabs d hd with ⟨d', hd', heq⟩ | hfree
      · refine h _ (List.mem_append_left _ ?_)
        simp only [Db.shape, hd', Option.elim_some, List.mem_map]
        exact ⟨cols, heq ▸ hcols, rfl⟩
      · exact ⟨hfree cols hcols, fun _ => rfl⟩
  · obtain ⟨i, hi, rfl⟩ := List.mem_map.1 hu
    obtain ⟨hi, huniq⟩ := List.mem_filter.1 hi
    obtain ⟨hi, ht⟩ := List.mem_filter.1 hi
    have ht' : i.table = t := by simpa using ht
    refine h _ (List.mem_append_right _ (List.mem_map.2 ⟨i, ?_, rfl⟩))
    exact List.mem_filter.2 ⟨List.mem_filter.2 ⟨hidxs i hi ht' huniq, ht⟩, huniq⟩

theorem Db.Unconstrained.exec (h : db.Unconstrained t c) (hs : s.exec db = some db')
    (hfree : s.frees t c = true) : db'.Unconstrained t c := by
  cases Statement.effect hs with
  | tableThere | indexThere => exact h
  | @creates _ t' d =>
    have hc : t' ≠ t ∨ ∀ u ∈ d.uniques, c ∉ u := by simpa [Statement.frees] using hfree
    refine h.of_parts (fun d' hd' => ?_) fun i hi _ _ => hi
    by_cases ht : t = t'
    · subst ht
      obtain rfl : d = d' := by simpa using hd'
      exact .inr (hc.resolve_left (fun hne => hne rfl))
    · exact .inl ⟨d', by simpa [Function.update_of_ne ht] using hd', rfl⟩
  | @indexes i =>
    have hc : i.table ≠ t ∨ i.unique = false := by simpa [Statement.frees] using hfree
    refine h.of_parts (fun d hd => .inl ⟨d, hd, rfl⟩) fun j hj hta huniq => ?_
    rcases List.mem_append.1 hj with hj | hj
    · exact hj
    obtain rfl := List.mem_singleton.1 hj
    rcases hc with hne | hu
    · exact absurd hta hne
    · exact nomatch hu.symm.trans huniq
  | @adds t' _ d hd | @drops t' _ d hd =>
    refine h.of_parts (fun d' hd' => .inl ?_) fun i hi _ _ => hi
    by_cases ht : t = t'
    · subst ht
      simp only [Function.update_self, Option.some.injEq] at hd'
      exact ⟨d, hd, hd' ▸ rfl⟩
    · exact ⟨d', by simpa [Function.update_of_ne ht] using hd', rfl⟩
  | @dropsTable t' =>
    refine h.of_parts (fun d hd => .inl ⟨d, ?_, rfl⟩) fun i hi _ _ => List.mem_of_mem_filter hi
    by_cases ht : t = t'
    · subst ht; simp at hd
    · simpa [Function.update_of_ne ht] using hd
  | @renames a b =>
    have hb : b ≠ t := by simpa [Statement.frees] using hfree
    refine h.of_parts (fun d hd => .inl ⟨d, ?_, rfl⟩) fun i hi hta _ => ?_
    · by_cases ht : t = a
      · subst ht; simp [Function.update_of_ne hb.symm] at hd
      · simpa [Function.update_of_ne hb.symm, Function.update_of_ne ht] using hd
    obtain ⟨j, hj, rfl⟩ := List.mem_map.1 hi
    by_cases ha : j.table = a
    · simp only [ha, if_true] at hta
      exact absurd hta hb
    · simpa [ha] using hj
  | writes => exact h.of_shape rfl

theorem Db.Unconstrained.runEach (h : db.Unconstrained t c)
    (hfree : ∀ script ∈ scripts, ∀ s ∈ script, s.frees t c = true) :
    (Relational.runEach db scripts).Unconstrained t c :=
  runEach_keeps (P := fun db => db.Unconstrained t c) h fun script hscr s hs _ _ h hexec =>
    h.exec hexec (hfree script hscr s hs)

theorem Db.Unconstrained.runScript (h : db.Unconstrained t c)
    (hfree : ∀ s ∈ script, s.frees t c = true) : (Relational.runScript db script).1.Unconstrained t c :=
  show (Relational.runEach db [script]).Unconstrained t c from h.runEach (by simpa using hfree)

/-! ### Dropped columns -/

theorem rows_dropColumn (h : db.Masked) :
    (runScript db [.dropColumn t c]).1.rows t = (db.rows t).map fun row => Function.update row c none := by
  have hkeep : ¬db.Has (.column t c) → db.rows t = (db.rows t).map fun row => Function.update row c none :=
    fun hno => ((List.map_congr_left fun row hrow => h.update_null hrow hno).trans (List.map_id _)).symm
  cases hd : db.tables t with
  | none =>
    simp only [runScript, Statement.exec, hd]
    exact hkeep fun ⟨d, hd', _⟩ => nomatch hd.symm.trans hd'
  | some d =>
    by_cases hc : c ∈ d.names
    · simp [runScript, Statement.exec, hd, hc]
    simp only [runScript, Statement.exec, hd, hc, if_false]
    refine hkeep ?_
    rintro ⟨d', hd', hc'⟩
    exact hc (Option.mem_unique hd' hd ▸ hc')

theorem rows_dropColumns {cols : List χ} (h : db.Masked) :
    (runEach db (cols.map fun c => [Statement.dropColumn t c])).rows t =
      (db.rows t).map fun row c => if c ∈ cols then none else row c := by
  induction cols generalizing db with
  | nil => simp
  | cons c rest ih =>
    rw [List.map_cons, runEach_cons, ih h.runScript, rows_dropColumn h, List.map_map]
    refine List.map_congr_left fun row _ => funext fun c' => ?_
    by_cases hc : c' = c
    · subst hc; simp
    · simp [hc]

end Relational
