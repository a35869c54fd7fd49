import LamaSync.Core.LegacyConfig
import Mathlib.Data.List.Dedup

/-!
# What a start leaves in the file

After a start that went through, everything the schema makes is there (`Complete`), the lock table included, which every
start makes anew.  Writes change rows only, so it is still there at the next start, and the statements that make tables,
columns and indexes have nothing to do then.
-/

namespace LamaSync

open Relational Schema

abbrev SqlObject := Object String String String

def isRemade (o : SqlObject) : Bool := o.home = "folder_locks" || legacyS3Columns.any fun c => o = .column "folders" c

def addedColumn : SqlStatement → Option SqlObject
  | .addColumn t c => some (.column t c.name)
  | _ => none

def keptObjects : List SqlObject :=
  (serverSchema.filterMap Statement.makes ++ migrations.flatten.filterMap addedColumn).filter fun o => !isRemade o

def lockObjects : List SqlObject := [.table "folder_locks", .index "folder_locks" "idx_folder_locks_locked_by"]

def bootMigrations (dropLegacyS3Columns : Bool) : List (List SqlStatement) :=
  migrations ++ if dropLegacyS3Columns then legacyS3DropMigrations else []

/-- Everything the schema makes is there, no mobile table has its old shape, and every value stands in a column. -/
structure Complete (db : SqlDb) : Prop where
  has : ∀ o ∈ keptObjects, db.Has o
  locks : ∀ o ∈ lockObjects, db.Has o
  rebuilt : ∀ r ∈ rebuilds, needsRebuild db r = false
  masked : db.Masked
  free : db.Unconstrained "folder_assignments" "destination"

/-- The statement removes nothing but what is made on every start. -/
private def mild : SqlStatement → Bool
  | .dropTable t => t = "folder_locks"
  | .dropColumn t c => t = "folders" && c ∈ legacyS3Columns
  | .renameTable _ _ => false
  | _ => true

variable {o : SqlObject}

private theorem su_mild_removes {s : SqlStatement} (h : mild s = true) (ho : isRemade o = false) :
    s.removes o = false := by
  cases s with
  | dropTable t =>
    have ht : t = "folder_locks" := by simpa [mild] using h
    have hhome : o.home ≠ "folder_locks" := by
      intro heq
      simp [isRemade, heq] at ho
    simp [Statement.removes, ht, hhome]
  | dropColumn t c =>
    have hco : t = "folders" ∧ c ∈ legacyS3Columns := by simpa [mild] using h
    have hne : o ≠ .column "folders" c := by
      rintro rfl
      simp only [isRemade, Bool.or_eq_false_iff, List.any_eq_false] at ho
      exact ho.2 c hco.2 (decide_eq_true rfl)
    simp [Statement.removes, hco.1, hne]
  | renameTable => cases h
  | createTable | createIndex | addColumn | update | delete | insert | insertOrReplace => rfl

theorem not_isRemade_of_mem (h : o ∈ keptObjects) : isRemade o = false := by
  simpa using (List.mem_filter.1 h).2

private def creates : SqlStatement → Bool
  | .createTable ifNotExists _ _ => ifNotExists
  | .createIndex _ => true
  | _ => false

private theorem su_schema : ∀ s ∈ serverSchema, mild s = true ∧ s.frees "folder_assignments" "destination" = true ∧
    (creates s && s.makes.elim true fun o => !isRemade o || o ∈ lockObjects) = true := by
  decide +kernel

private theorem su_scripts : ∀ script ∈ migrations ++ legacyS3DropMigrations, ∀ s ∈ script,
    mild s = true ∧ s.frees "folder_assignments" "destination" = true := by
  decide +kernel

theorem migrations_frees : ∀ script ∈ migrations ++ legacyS3DropMigrations, ∀ s ∈ script,
    s.frees "folder_assignments" "destination" = true :=
  fun script hscr s hs => (su_scripts script hscr s hs).2

theorem mem_bootMigrations {drop : Bool} {script : List SqlStatement} (h : script ∈ bootMigrations drop) :
    script ∈ migrations ++ legacyS3DropMigrations := by
  cases drop with
  | false => exact List.mem_append_left _ (by simpa [bootMigrations] using h)
  | true => exact h

theorem migrations_removes {script : List SqlStatement}
    (hscr : script ∈ migrations ++ legacyS3DropMigrations) (ho : o ∈ keptObjects) : ∀ s ∈ script, s.removes o = false :=
  fun s hs => su_mild_removes (su_scripts script hscr s hs).1 (not_isRemade_of_mem ho)

theorem bootMigrations_removes {drop : Bool} (ho : o ∈ keptObjects) :
    ∀ script ∈ bootMigrations drop, ∀ s ∈ script, s.removes o = false :=
  fun _ hscr => migrations_removes (mem_bootMigrations hscr) ho

theorem serverSchema_removes (ho : o ∈ keptObjects) : ∀ s ∈ serverSchema, s.removes o = false :=
  fun s hs => su_mild_removes (su_schema s hs).1 (not_isRemade_of_mem ho)

private theorem su_schema_makes {s : SqlStatement} (hs : s ∈ serverSchema) (ho : s.makes = some o) :
    o ∈ keptObjects ∨ o ∈ lockObjects := by
  have hc := (su_schema s hs).2.2
  simp only [ho, Option.elim_some, Bool.and_eq_true, Bool.or_eq_true, Bool.not_eq_true', decide_eq_true_eq] at hc
  refine hc.2.imp_left fun hkept => List.mem_filter.2 ⟨List.mem_append_left _ ?_, by simp [hkept]⟩
  exact List.mem_filterMap.2 ⟨s, hs, ho⟩

variable {db : SqlDb}

theorem Complete.runScript_serverSchema (h : Complete db) : runScript db serverSchema = (db, true) := by
  refine runScript_eq_self fun s hs => ?_
  have hcr := (su_schema s hs).2.2
  have hhas : ∀ o, s.makes = some o → db.Has o := fun o ho =>
    (su_schema_makes hs ho).elim (h.has o) (h.locks o)
  cases s with
  | createTable ifNotExists t d =>
    exact Db.Has.exec_eq rfl (hhas _ rfl) ((Bool.and_eq_true _ _).mp hcr).1
  | createIndex i => exact Db.Has.exec_eq rfl (hhas _ rfl) trivial
  | addColumn | dropColumn | dropTable | renameTable | update | delete | insert | insertOrReplace =>
    exact nomatch hcr

variable {db' : SqlDb} {r : TableRebuild}

theorem needsRebuild_of_shape (h : db'.shape r.table = db.shape r.table)
    (htabs : ∀ i ∈ r.indexes, i.table = r.table) : needsRebuild db' r = needsRebuild db r := by
  have hd : db'.tables r.table = db.tables r.table := congrArg Prod.fst h
  have hany : ∀ p : IndexDef String String String SqlValue → Bool,
      (db'.indexes.any fun i => i.table = r.table && p i) = db.indexes.any fun i => i.table = r.table && p i := by
    intro p
    have hfilt : (db'.indexes.filter fun i => i.table = r.table) = db.indexes.filter fun i => i.table = r.table :=
      congrArg Prod.snd h
    rw [← List.any_filter, ← List.any_filter, hfilt]
  have hle : hasLegacyUniqueIndexOn db' r.table r.dropUniqueOn =
      hasLegacyUniqueIndexOn db r.table r.dropUniqueOn := by
    unfold hasLegacyUniqueIndexOn
    simp only [Bool.and_assoc, hany, hd]
  have hidxs : ∀ i ∈ r.indexes, (db'.indexes.any fun j => j.name = i.name && j.table = i.table) =
      db.indexes.any fun j => j.name = i.name && j.table = i.table := by
    intro i hi
    rw [htabs i hi]
    have hswap := hany fun j => j.name = i.name
    simpa only [Bool.and_comm] using hswap
  have hmiss : (r.indexes.any fun i => !db'.indexes.any fun j => j.name = i.name && j.table = i.table) =
      r.indexes.any fun i => !db.indexes.any fun j => j.name = i.name && j.table = i.table := by
    rw [Bool.eq_iff_iff, List.any_eq_true, List.any_eq_true]
    exact exists_congr fun i => and_congr_right fun hi => by rw [hidxs i hi]
  unfold needsRebuild
  rw [hle, hd, hmiss]

private theorem su_rebuild (hne : r.staging ≠ r.table)
    (hstg : (db.shape r.staging).2 = []) (h : rebuildTable db r = some db') :
    ∃ db₁, db₁.shape r.table = (some r.create, []) ∧ runScript db₁ (r.indexes.map .createIndex) = (db', true) ∧
      ∀ t, t ≠ r.table → t ≠ r.staging → db₁.shape t = db.shape t := by
  unfold rebuildTable at h
  split at h
  swap
  · cases h
  split at h
  swap
  · cases h
  rename_i hrun
  cases h
  obtain ⟨db₂, hcop, hrun⟩ := runScript_append_ok hrun
  obtain ⟨db₁, hcre, hcop⟩ := runScript_cons_ok hcop
  obtain ⟨db₃, hdrop, hrun⟩ := runScript_cons_ok hrun
  obtain ⟨db₄, hren, hrun⟩ := runScript_cons_ok hrun
  have hcopy : ∀ t, db₂.shape t = db₁.shape t := by
    intro t
    have hsh : (runScript db₁ ((db.rows r.table).map fun row =>
        .insert r.staging (r.columns.map fun c => (c, row c)))).1.shape t = db₁.shape t := shape_runScript (K := [])
      (fun s hs => by obtain ⟨row, -, rfl⟩ := List.mem_map.1 hs; rfl) (fun s _ o ho => by cases ho)
      (fun o ho => by cases ho)
    rwa [hcop] at hsh
  have hstag : db₃.shape r.staging = (some r.create, []) := by
    have hkeep := Statement.shape_exec (K := []) (t := r.staging) hdrop (by simp [Statement.spares, hne.symm])
      (fun o ho => by cases ho)
    rw [hkeep, hcopy]
    simp only [Statement.exec] at hcre
    split at hcre
    · cases hcre
    · cases hcre
      exact Prod.ext (Function.update_self ..) hstg
  refine ⟨db₄, ?_, hrun, ?_⟩
  · cases hdrop
    simp only [Statement.exec] at hren
    split at hren
    swap
    · cases hren
    rename_i d hd _
    cases hren
    have hcr : some d = some r.create := hd.symm.trans (congrArg Prod.fst hstag)
    refine Prod.ext ((Function.update_self ..).trans hcr) (List.filter_eq_nil_iff.2 fun i hi => ?_)
    obtain ⟨j, hj, rfl⟩ := List.mem_map.1 hi
    have hnone := List.filter_eq_nil_iff.1 (congrArg Prod.snd hstag) j hj
    have hta : j.table ≠ r.table := by simpa using (List.mem_filter.1 hj).2
    have hsg : j.table ≠ r.staging := by simpa using hnone
    simp [hsg, hta]
  · intro t ht hsg
    have hsh := fun {db db' : SqlDb} {s : SqlStatement} (hs : s.exec db = some db')
      (hsp : s.spares [] t = true) => Statement.shape_exec hs hsp (fun o ho => by cases ho)
    rw [hsh hren (by simp [Statement.spares, ht.symm, hsg.symm]),
      hsh hdrop (by simp [Statement.spares, ht.symm]), hcopy,
      hsh hcre (by simp [Statement.spares, hsg.symm])]

private theorem su_createIndexes {t : String} {l : List (IndexDef String String String SqlValue)}
    (ht : ∀ i ∈ l, i.table = t) (h : runScript db (l.map .createIndex) = (db', true)) :
    db'.tables = db.tables ∧ (∀ i ∈ db'.indexes, i ∈ db.indexes ∨ i ∈ l) ∧
      ∀ t', t' ≠ t → db'.shape t' = db.shape t' := by
  induction l generalizing db with
  | nil =>
    obtain rfl := congrArg Prod.fst h
    exact ⟨rfl, fun i hi => .inl hi, fun _ _ => rfl⟩
  | cons first rest ih =>
    obtain ⟨db₁, hs, hrest⟩ := runScript_cons_ok h
    obtain ⟨htabs, hidxs, hsh⟩ := ih (fun i hi => ht i (.tail _ hi)) hrest
    have hfi := ht first (.head _)
    have hs' := hs
    simp only [Statement.exec] at hs
    have hstep : db₁.tables = db.tables ∧ ∀ i ∈ db₁.indexes, i ∈ db.indexes ∨ i = first := by
      split at hs
      · cases hs
        exact ⟨rfl, fun i hi => .inl hi⟩
      split at hs
      · cases hs
      · split at hs
        · cases hs
          exact ⟨rfl, fun i hi => (List.mem_append.1 hi).imp_right List.mem_singleton.1⟩
        · cases hs
    refine ⟨htabs.trans hstep.1, fun i hi => ?_, fun t' ht' => (hsh t' ht').trans ?_⟩
    · rcases hidxs i hi with hi | hi
      · exact (hstep.2 i hi).imp_right fun heq => List.mem_cons.2 (.inl heq)
      · exact .inr (.tail _ hi)
    · exact Statement.shape_exec (K := []) hs' (by simp [Statement.spares, hfi, ht'.symm]) fun o ho => by cases ho

private theorem su_rebuilds : ∀ r ∈ rebuilds, (r.staging ≠ r.table ∧ r.table ≠ "folder_assignments" ∧
      r.staging ≠ "folder_assignments" ∧ r.table ≠ "folder_locks" ∧ r.staging ≠ "folder_locks") ∧
    [r.dropUniqueOn] ∉ r.create.uniques ∧ (∀ c ∈ r.addedColumns, c ∈ r.create.names) ∧
    (∀ i ∈ r.indexes, i.table = r.table ∧ (i.unique = true → i.covers.isSome = true)) ∧
    (∀ o ∈ keptObjects, o.home ≠ r.staging ∧
      (o.home = r.table → o = .table r.table ∨ o ∈ r.indexes.map fun i => .index i.table i.name)) ∧
    .table r.table ∈ keptObjects := by
  decide +kernel

theorem rebuilds_indexes : ∀ r ∈ rebuilds, ∀ i ∈ r.indexes, i.table = r.table := by decide

theorem rebuilds_kept : ∀ r ∈ rebuilds, .table r.table ∈ keptObjects := fun r hr => (su_rebuilds r hr).2.2.2.2.2

private theorem su_apart {r' : TableRebuild} (hr : r ∈ rebuilds) (hr' : r' ∈ rebuilds) :
    r' = r ∨ r'.table ≠ r.table ∧ r'.table ≠ r.staging := by
  have hc : ∀ r, r ∈ rebuilds → r = enrollmentsRebuild ∨ r = grantsRebuild := fun r hr =>
    (List.mem_cons.1 hr).imp_right List.mem_singleton.1
  rcases hc r hr with rfl | rfl <;> rcases hc r' hr' with rfl | rfl
  · exact .inl rfl
  · exact .inr (by decide)
  · exact .inr (by decide)
  · exact .inl rfl

/-- All that `Complete` asks for but the shape of the mobile tables. -/
structure Furnished (db : SqlDb) : Prop where
  has : ∀ o ∈ keptObjects, db.Has o
  locks : ∀ o ∈ lockObjects, db.Has o
  masked : db.Masked
  free : db.Unconstrained "folder_assignments" "destination"

private theorem su_rebuilt (hr : r ∈ rebuilds) (h : Furnished db)
    (hreb : rebuildTable (((Statement.dropTable r.staging).exec db).getD db) r = some db') :
    Furnished db' ∧ needsRebuild db' r = false ∧ ∀ t, t ≠ r.table → t ≠ r.staging → db'.shape t = db.shape t := by
  obtain ⟨⟨hne, hta, hstag, hta', hstag'⟩, huniq, had, hidxs, hkept, -⟩ := su_rebuilds r hr
  have hdrop : (Statement.dropTable r.staging).exec db = some (((Statement.dropTable r.staging).exec db).getD db) := rfl
  generalize hstg : ((Statement.dropTable r.staging).exec db).getD db = staged at hreb hdrop
  have hem : (staged.shape r.staging).2 = [] := by
    cases hdrop
    simp [Db.shape]
  obtain ⟨db₁, hmade, hrun, hsh₁⟩ := su_rebuild hne hem hreb
  obtain ⟨htabs, hme, hsh₂⟩ := su_createIndexes (fun i hi => (hidxs i hi).1) hrun
  have hsh : ∀ t, t ≠ r.table → t ≠ r.staging → db'.shape t = db.shape t := by
    intro t ht hts
    have hdr : staged.shape t = db.shape t :=
      Statement.shape_exec (K := []) hdrop (by simp [Statement.spares, hts.symm]) fun o ho => by cases ho
    exact (hsh₂ t ht).trans ((hsh₁ t ht hts).trans hdr)
  have hmade' : db'.tables r.table = some r.create := by
    rw [htabs]
    exact congrArg Prod.fst hmade
  have hhas : ∀ i ∈ r.indexes, db'.Has (.index i.table i.name) := by
    intro i hi
    have hnew : (runScript db₁ (r.indexes.map .createIndex)).1.Has (.index i.table i.name) := Db.Has.of_runScript
      (by rw [hrun]) (List.mem_map_of_mem hi) rfl
      (fun s hs => by obtain ⟨j, -, rfl⟩ := List.mem_map.1 hs; rfl)
    rwa [hrun] at hnew
  refine ⟨⟨?_, ?_, ?_, ?_⟩, ?_, hsh⟩
  · intro o ho
    obtain ⟨hsg, hhome⟩ := hkept o ho
    by_cases heq : o.home = r.table
    · rcases hhome heq with rfl | hmem
      · exact ⟨_, hmade'⟩
      · obtain ⟨i, hi, rfl⟩ := List.mem_map.1 hmem
        exact hhas i hi
    · exact (h.has o ho).of_shape (hsh _ heq hsg)
  · intro o ho
    have hhome : o.home = "folder_locks" := (by decide : ∀ o ∈ lockObjects, o.home = "folder_locks") o ho
    exact (h.locks o ho).of_shape (hsh _ (hhome ▸ hta'.symm) (hhome ▸ hstag'.symm))
  · have hmask : staged.Masked := h.masked.exec hdrop
    unfold rebuildTable at hreb
    split at hreb
    · split at hreb
      · rename_i hscr
        cases hreb
        have hres : (runScript staged (rebuildScript staged r)).1.Masked := hmask.runScript
        rwa [hscr] at hres
      · cases hreb
    · cases hreb
  · exact h.free.of_shape (hsh _ hta.symm hstag.symm)
  · have hle : hasLegacyUniqueIndexOn db' r.table r.dropUniqueOn = false := by
      refine Bool.or_eq_false_iff.2 ⟨by simpa [hmade'] using huniq, List.any_eq_false.2 fun i hi => ?_⟩
      simp only [Bool.and_eq_true, decide_eq_true_eq, not_and]
      rintro ⟨⟨hi', hu⟩, hcovers⟩
      rcases hme i hi with hold | hnew
      · exact absurd (decide_eq_true hi') (List.filter_eq_nil_iff.1 (congrArg Prod.snd hmade) i hold)
      have hsome := (hidxs i hnew).2 hu
      cases hcov : i.covers with
      | none => simp [hcov] at hsome
      | some _ => simp [hcov] at hcovers
    have hco : (r.addedColumns.any fun c => c ∉ (db'.tables r.table).elim [] TableDef.names) = false :=
      List.any_eq_false.2 fun c hc => by simpa [hmade'] using had c hc
    have hmiss : (r.indexes.any fun i => !db'.indexes.any fun j => j.name = i.name && j.table = i.table) =
        false := by
      refine List.any_eq_false.2 fun i hi => ?_
      obtain ⟨j, hj, htab, hname⟩ := hhas i hi
      have hany : (db'.indexes.any fun j => j.name = i.name && j.table = i.table) = true :=
        List.any_eq_true.2 ⟨j, hj, by simp [htab, hname]⟩
      simp [hany]
    unfold needsRebuild
    rw [hle, hco, hmiss]
    rfl

private theorem su_migrateMobile {rs : List TableRebuild} (hrs : ∀ r ∈ rs, r ∈ rebuilds)
    (h : Furnished db) (hrun : migrateMobileReconnectTables db rs = (db', true)) :
    Furnished db' ∧ ∀ r ∈ rebuilds, needsRebuild db r = false ∨ r ∈ rs → needsRebuild db' r = false := by
  induction rs generalizing db with
  | nil =>
    obtain rfl := congrArg Prod.fst hrun
    exact ⟨h, fun r _ hr => hr.resolve_right List.not_mem_nil⟩
  | cons r rest ih =>
    have hrest := fun r' (hr' : r' ∈ rest) => hrs r' (.tail _ hr')
    have hr := hrs r (.head _)
    simp only [migrateMobileReconnectTables] at hrun
    split at hrun
    · split at hrun
      · exact absurd (congrArg Prod.snd hrun) Bool.false_ne_true
      · rename_i db₁ hreb
        obtain ⟨hfu, hdone, hsh⟩ := su_rebuilt hr h hreb
        obtain ⟨hfn, hnd⟩ := ih hrest hfu hrun
        refine ⟨hfn, fun r' hr' hc => hnd r' hr' ?_⟩
        rcases su_apart hr hr' with rfl | ⟨ht, hstag⟩
        · exact .inl hdone
        have hsame := needsRebuild_of_shape (hsh _ ht hstag) (rebuilds_indexes r' hr')
        refine hc.imp (fun hno => hsame.trans hno) fun hmem => ?_
        exact (List.mem_cons.1 hmem).resolve_left fun heq => ht (heq ▸ rfl)
    · rename_i hno
      obtain ⟨hfn, hnd⟩ := ih hrest h hrun
      refine ⟨hfn, fun r' hr' hc => hnd r' hr' ?_⟩
      have hth : (db.tables r.table).isSome = true :=
        Option.isSome_iff_exists.2 (h.has (.table r.table) (rebuilds_kept r hr))
      rcases hc with hc | hmem
      · exact .inl hc
      rcases List.mem_cons.1 hmem with rfl | hmem
      · exact .inl (by simpa [hth] using hno)
      · exact .inr hmem

theorem runScript_rebuildLocks (db : SqlDb) : ∃ db', runScript db rebuildLocks = (db', true) ∧
    (∀ o ∈ lockObjects, db'.Has o) ∧ db'.rows = Function.update db.rows "folder_locks" [] := by
  have hfr : ((db.indexes.filter fun i => i.table ≠ "folder_locks").any fun j =>
      j.name = "idx_folder_locks_locked_by" && j.table = "folder_locks") = false := by
    refine List.any_eq_false.2 fun i hi => ?_
    have ht : i.table ≠ "folder_locks" := by simpa using (List.mem_filter.1 hi).2
    simp [ht]
  have hlockedBy : "locked_by" ∈ TableDef.names folderLocksTable := by decide
  simp only [rebuildLocks, index, runScript, Statement.exec, Function.update_self, Option.isSome_none,
    Bool.false_eq_true, if_false, hfr, List.all_cons, List.all_nil, hlockedBy, decide_true, Bool.and_true,
    Bool.false_and, Bool.not_false, if_true, Function.update_idem]
  refine ⟨_, rfl, fun o ho => ?_, rfl⟩
  rcases List.mem_cons.1 ho with rfl | ho
  · exact ⟨folderLocksTable, Function.update_self "folder_locks" _ db.tables⟩
  · obtain rfl := List.mem_singleton.1 ho
    exact ⟨_, List.mem_append_right _ (.head _), rfl, rfl⟩

def afterLocks (drop : Bool) : List (List SqlStatement) :=
  [backfillBackups] :: [backfillShared] :: (laterMigrations ++ if drop then legacyS3DropMigrations else [])

def beforeLocks : List (List SqlStatement) :=
  columnMigrations ++ lockTableMigrations ++ folderStorageMigrations ++ featureMigrations

theorem bootMigrations_eq (drop : Bool) : bootMigrations drop = beforeLocks ++ rebuildLocks :: afterLocks drop := by
  simp [bootMigrations, migrations, beforeLocks, afterLocks, destinationMigrations]

private theorem su_afterLocks (drop : Bool) : ∀ script ∈ afterLocks drop, ∀ s ∈ script, ∀ o ∈ lockObjects,
    s.removes o = false := by
  cases drop <;> decide +kernel

private theorem su_columns :
    (∀ script ∈ migrations, ∀ s ∈ script, (addedColumn s).isSome = true → script.length = 1) ∧
    ∀ t ∈ ((migrations.flatten.filterMap addedColumn).map Object.home).dedup, .table t ∈ keptObjects := by
  decide +kernel

private theorem su_furnished (drop : Bool) (hmask : db.Masked)
    (hfree : db.Unconstrained "folder_assignments" "destination") (hok : (runScript db serverSchema).2 = true) :
    Furnished (runEach (runScript db serverSchema).1 (bootMigrations drop)) := by
  have hsc : ∀ o ∈ keptObjects, (∃ s ∈ serverSchema, s.makes = some o) → (runScript db serverSchema).1.Has o :=
    fun o ho ⟨s, hs, hma⟩ => Db.Has.of_runScript hok hs hma (serverSchema_removes ho)
  have hta : ∀ t, .table t ∈ keptObjects → (runScript db serverSchema).1.Has (.table t) := by
    intro t ht
    rcases List.mem_append.1 (List.mem_filter.1 ht).1 with hmem | hmem
    · obtain ⟨s, hs, hma⟩ := List.mem_filterMap.1 hmem
      exact hsc _ ht ⟨s, hs, hma⟩
    · obtain ⟨s, -, had⟩ := List.mem_filterMap.1 hmem
      cases s <;> simp [addedColumn] at had
  refine ⟨fun o ho => ?_, fun o ho => ?_, hmask.runScript.runEach, ?_⟩
  · rcases List.mem_append.1 (List.mem_filter.1 ho).1 with hmem | hmem
    · obtain ⟨s, hs, hma⟩ := List.mem_filterMap.1 hmem
      exact (hsc o ho ⟨s, hs, hma⟩).runEach (bootMigrations_removes ho)
    · have hhome := su_columns.2 o.home (List.mem_dedup.2 (List.mem_map_of_mem hmem))
      obtain ⟨s, hs, had⟩ := List.mem_filterMap.1 hmem
      obtain ⟨script, hscr, hs⟩ := List.mem_flatten.1 hs
      obtain ⟨s', rfl⟩ := List.length_eq_one_iff.1 (su_columns.1 script hscr s hs (by simp [had]))
      obtain rfl := List.mem_singleton.1 hs
      cases s with
      | addColumn t c =>
        cases had
        have hin : [Statement.addColumn t c] ∈ bootMigrations drop := List.mem_append_left _ hscr
        exact Db.Has.of_runEach hin (hta t hhome) (bootMigrations_removes hhome) (bootMigrations_removes ho)
      | _ => exact nomatch had
  · rw [bootMigrations_eq, runEach_append, runEach_cons]
    obtain ⟨db', hrun, hlo, -⟩ := runScript_rebuildLocks (runEach (runScript db serverSchema).1 beforeLocks)
    rw [hrun]
    exact (hlo o ho).runEach fun script hscr s hs => su_afterLocks drop script hscr s hs o ho
  · exact (hfree.runScript fun s hs => (su_schema s hs).2.1).runEach
      fun script hscr => migrations_frees script (mem_bootMigrations hscr)

theorem complete_of_initDb {env : InitEnv} {drop : Bool} (hmask : db.Masked)
    (hfree : db.Unconstrained "folder_assignments" "destination") (h : initDb env drop db = (db', true)) :
    Complete db' := by
  unfold initDb at h
  rcases hsc : runScript db serverSchema with ⟨db₁, ok⟩
  simp only [hsc] at h
  cases ok with
  | false => exact absurd (congrArg Prod.snd h) Bool.false_ne_true
  | true =>
    have hfu := su_furnished drop hmask hfree (congrArg Prod.snd hsc)
    rw [hsc] at hfu
    rcases hmo : migrateMobileReconnectTables (runEach db₁ (bootMigrations drop)) rebuilds with ⟨db₂, ok⟩
    unfold bootMigrations at hmo
    simp only [hmo] at h
    cases ok with
    | false => exact absurd (congrArg Prod.snd h) Bool.false_ne_true
    | true =>
      obtain ⟨hfn, hre⟩ := su_migrateMobile (fun r hr => hr) hfu hmo
      obtain rfl : (convertLegacyAppConfig env db₂).db = db' := congrArg Prod.fst h
      have honly := (convertLegacyAppConfig_step env db₂).only
      have hsh : ∀ t, (convertLegacyAppConfig env db₂).db.shape t = db₂.shape t :=
        fun t => by simp only [Db.shape, honly.tables, honly.indexes]
      exact {
        has := fun o ho => (hfn.has o ho).of_shape (hsh _)
        locks := fun o ho => (hfn.locks o ho).of_shape (hsh _)
        rebuilt := fun r hr => (needsRebuild_of_shape (hsh _) (rebuilds_indexes r hr)).trans (hre r hr (.inr hr))
        masked := honly.masked hfn.masked
        free := hfn.free.of_shape (hsh _) }

end LamaSync
