import LamaSync.Core.StartUp

/-!
# What a start does to the rows

Where everything is there (`Complete`), a start changes rows in four places only: the lock table is emptied, assignments
without a destination get one, the folders lose or gain the columns of the old credentials, and the legacy configuration
is converted.  It leaves every row as it is exactly when none of the four has anything to do (`StartSettled`).
-/

namespace LamaSync

open Relational Schema

variable {db db' : SqlDb} {drop : Bool} {L : List (List SqlStatement)} {T : List String} {t : String}

/-! ### Migrations on a complete database -/

private theorem sr_kept (hL : ∀ script ∈ L, script ∈ migrations ++ legacyS3DropMigrations)
    (hK : ∀ o ∈ keptObjects, db.Has o) : ∀ o ∈ keptObjects, (runEach db L).Has o :=
  fun o ho => (hK o ho).runEach fun _ hscr => migrations_removes (hL _ hscr) ho

private theorem sr_rows (hL : ∀ script ∈ L, script ∈ migrations ++ legacyS3DropMigrations)
    (hin : ∀ script ∈ L, ∀ s ∈ script, s.within T keptObjects = true) (hmask : db.Masked)
    (hK : ∀ o ∈ keptObjects, db.Has o) (ht : t ∉ T) : (runEach db L).rows t = db.rows t :=
  rows_runEach hin (fun _ hscr s hs _ ho => migrations_removes (hL _ hscr) ho s hs) hmask hK ht

private theorem sr_scripts :
    (∀ script ∈ migrations ++ legacyS3DropMigrations, ∀ s ∈ script,
      s.within ["folder_locks", "folder_assignments", "folders"] keptObjects = true ∧
        ∀ r ∈ rebuilds, s.spares keptObjects r.table = true) ∧
    (∀ script ∈ afterLocks true, ∀ s ∈ script, s.within ["folder_assignments", "folders"] keptObjects = true) ∧
    (∀ script ∈ rebuildLocks :: [backfillBackups] :: [backfillShared] :: laterMigrations, ∀ s ∈ script,
      s.within ["folder_locks", "folder_assignments"] keptObjects = true) ∧
    (∀ script ∈ beforeLocks ++ rebuildLocks :: (laterMigrations ++ legacyS3DropMigrations), ∀ s ∈ script,
      s.within ["folder_locks", "folders"] keptObjects = true) ∧
    (∀ script ∈ (columnMigrations ++ lockTableMigrations) ++ (folderStorageMigrations.tail ++ featureMigrations),
      ∀ s ∈ script, s.within ["folder_locks"] keptObjects = true) ∧
    (∀ script ∈ columnMigrations ++ lockTableMigrations, ∀ s ∈ script, s.spares keptObjects "folders" = true) ∧
    ∀ o ∈ [.table "folders", .column "folder_assignments" "destination"], o ∈ keptObjects := by
  decide +kernel

/-- A start changes rows of three tables before the conversion. -/
theorem Complete.rows_bootMigrations (h : Complete db)
    (ht : t ∉ ["folder_locks", "folder_assignments", "folders"]) :
    (runEach db (bootMigrations drop)).rows t = db.rows t :=
  sr_rows (fun _ => mem_bootMigrations) (fun script hscr s hs => (sr_scripts.1 script (mem_bootMigrations hscr) s hs).1)
    h.masked h.has ht

private theorem sr_migrateMobile {rs : List TableRebuild} (h : ∀ r ∈ rs, needsRebuild db r = false) :
    migrateMobileReconnectTables db rs = (db, true) := by
  induction rs with
  | nil => rfl
  | cons r rest ih =>
    simp only [migrateMobileReconnectTables, h r (.head _), Bool.and_false, Bool.false_eq_true, if_false]
    exact ih fun r' hr' => h r' (.tail _ hr')

theorem Complete.initDb_eq (env : InitEnv) (h : Complete db) :
    initDb env drop db = ((convertLegacyAppConfig env (runEach db (bootMigrations drop))).db,
      (convertLegacyAppConfig env (runEach db (bootMigrations drop))).ok) := by
  have hmo : migrateMobileReconnectTables (runEach db (bootMigrations drop)) rebuilds =
      (runEach db (bootMigrations drop), true) := by
    refine sr_migrateMobile fun r hr => ?_
    have hsh : (runEach db (bootMigrations drop)).shape r.table = db.shape r.table :=
      shape_runEach (fun script hscr s hs => (sr_scripts.1 script (mem_bootMigrations hscr) s hs).2 r hr)
        (fun _ hscr s hs _ ho => migrations_removes (mem_bootMigrations hscr) ho s hs) h.has
    exact (needsRebuild_of_shape hsh (rebuilds_indexes r hr)).trans (h.rebuilt r hr)
  unfold bootMigrations at hmo ⊢
  simp only [initDb, h.runScript_serverSchema, Bool.not_true, Bool.false_eq_true, if_false, hmo]

/-! ### Locks -/

private theorem sr_beforeLocks : ∀ script ∈ beforeLocks, script ∈ migrations ++ legacyS3DropMigrations := by
  intro script hscr
  have hboot : script ∈ bootMigrations false := by
    rw [bootMigrations_eq]
    exact List.mem_append_left _ hscr
  exact mem_bootMigrations hboot

private theorem sr_afterLocks (drop : Bool) : ∀ script ∈ rebuildLocks :: afterLocks drop,
    script ∈ migrations ++ legacyS3DropMigrations := by
  intro script hscr
  have hboot : script ∈ bootMigrations drop := by
    rw [bootMigrations_eq]
    exact List.mem_append_right _ hscr
  exact mem_bootMigrations hboot

private theorem sr_afterLocks_within (drop : Bool) : ∀ script ∈ afterLocks drop, ∀ s ∈ script,
    s.within ["folder_assignments", "folders"] keptObjects = true := by
  refine fun script hscr => sr_scripts.2.1 script ?_
  cases drop <;> simp only [afterLocks, List.mem_cons, List.mem_append] at hscr ⊢ <;> tauto

theorem Complete.rows_folderLocks (h : Complete db) :
    (runEach db (bootMigrations drop)).rows "folder_locks" = [] := by
  rw [bootMigrations_eq, runEach_append, runEach_cons]
  have hK := sr_kept sr_beforeLocks h.has
  have hK' : ∀ o ∈ keptObjects, (runScript (runEach db beforeLocks) rebuildLocks).1.Has o := fun o ho =>
    (hK o ho).runScript (migrations_removes (sr_afterLocks drop _ (.head _)) ho)
  rw [sr_rows (fun script hscr => sr_afterLocks drop script (.tail _ hscr)) (sr_afterLocks_within drop)
    h.masked.runEach.runScript hK' (by decide)]
  obtain ⟨db', hrun, -, hrows⟩ := runScript_rebuildLocks (runEach db beforeLocks)
  simp [hrun, hrows]

/-! ### Folders -/

def withProvider (folder : SqlRow) : SqlRow := Function.update folder "s3_provider" (some (.text "other"))

def withoutCredentials (folder : SqlRow) : SqlRow := fun c => if c ∈ legacyS3Columns then none else folder c

private theorem sr_provider : beforeLocks = (columnMigrations ++ lockTableMigrations) ++
    [.addColumn "folders" (colOr "s3_provider" (.text "other"))] ::
      (folderStorageMigrations.tail ++ featureMigrations) := by
  simp only [beforeLocks, folderStorageMigrations, List.append_assoc, List.cons_append, List.tail_cons]

private theorem sr_folders (hmask : db.Masked) (hK : ∀ o ∈ keptObjects, db.Has o) :
    (db.Has (.column "folders" "s3_provider") ∧ (runEach db beforeLocks).rows "folders" = db.rows "folders") ∨
      ¬db.Has (.column "folders" "s3_provider") ∧
        (runEach db beforeLocks).rows "folders" = (db.rows "folders").map withProvider := by
  have hmem : ∀ script, script ∈ (columnMigrations ++ lockTableMigrations) ++
      (folderStorageMigrations.tail ++ featureMigrations) → script ∈ migrations ++ legacyS3DropMigrations := by
    intro script hscr
    refine sr_beforeLocks script ?_
    rw [sr_provider]
    exact (List.mem_append.1 hscr).elim (List.mem_append_left _) fun h => List.mem_append_right _ (.tail _ h)
  have hfi : ∀ script ∈ columnMigrations ++ lockTableMigrations, script ∈ migrations ++ legacyS3DropMigrations :=
    fun script h => hmem script (List.mem_append_left _ h)
  have hlast : ∀ script ∈ folderStorageMigrations.tail ++ featureMigrations,
      script ∈ migrations ++ legacyS3DropMigrations := fun script h => hmem script (List.mem_append_right _ h)
  rw [sr_provider, runEach_append, runEach_cons]
  generalize hdb₁ : runEach db (columnMigrations ++ lockTableMigrations) = db₁
  have hrows₁ : db₁.rows "folders" = db.rows "folders" := hdb₁ ▸
    sr_rows hfi (fun script h => sr_scripts.2.2.2.2.1 script (List.mem_append_left _ h)) hmask hK (by decide)
  have hsh₁ : db₁.shape "folders" = db.shape "folders" := hdb₁ ▸
    shape_runEach sr_scripts.2.2.2.2.2.1 (fun _ hscr s hs _ ho => migrations_removes (hfi _ hscr) ho s hs) hK
  have hK₁ : ∀ o ∈ keptObjects, db₁.Has o := hdb₁ ▸ sr_kept hfi hK
  have hmask₁ : db₁.Masked := hdb₁ ▸ hmask.runEach
  have hprov : [Statement.addColumn "folders" (colOr "s3_provider" (.text "other"))] ∈
      migrations ++ legacyS3DropMigrations := by
    refine sr_beforeLocks _ ?_
    rw [sr_provider]
    exact List.mem_append_right _ (.head _)
  have hrest : (runEach (runScript db₁ [.addColumn "folders" (colOr "s3_provider" (.text "other"))]).1
      (folderStorageMigrations.tail ++ featureMigrations)).rows "folders" =
        (runScript db₁ [.addColumn "folders" (colOr "s3_provider" (.text "other"))]).1.rows "folders" :=
    sr_rows hlast (fun script h => sr_scripts.2.2.2.2.1 script (List.mem_append_right _ h)) hmask₁.runScript
      (fun o ho => (hK₁ o ho).runScript (migrations_removes hprov ho)) (by decide)
  rw [hrest]
  by_cases hhas : db.Has (.column "folders" "s3_provider")
  · have hhas₁ : db₁.Has (.column "folders" "s3_provider") := hhas.of_shape hsh₁
    obtain ⟨d, hd, hc⟩ := hhas₁
    refine .inl ⟨hhas, ?_⟩
    simp only [runScript, Statement.exec, hd, colOr, hc, if_true, hrows₁]
  obtain ⟨d, hd⟩ := hK₁ (.table "folders") (sr_scripts.2.2.2.2.2.2 _ (by simp))
  have hc : "s3_provider" ∉ d.names := by
    intro hc
    have hhas₁ : db₁.Has (.column "folders" "s3_provider") := ⟨d, hd, hc⟩
    exact hhas (hhas₁.of_shape hsh₁.symm)
  refine .inr ⟨hhas, ?_⟩
  simp only [runScript, Statement.exec, hd, colOr, hc, if_false, Function.update_self, hrows₁]
  rfl

/-- No folder has a value of the old credentials to lose, or a provider column to gain. -/
def FoldersSettled (drop : Bool) (db : SqlDb) : Prop :=
  match drop with
  | true => ∀ folder ∈ db.rows "folders", ∀ c ∈ legacyS3Columns, folder c = none
  | false => db.Has (.column "folders" "s3_provider") ∨ db.rows "folders" = []

private theorem sr_map_self {f : SqlRow → SqlRow} {rows : List SqlRow} :
    rows.map f = rows ↔ ∀ row ∈ rows, f row = row := by
  simpa using List.map_inj_left (f := f) (g := id) (l := rows)

private theorem sr_withoutCredentials (folder : SqlRow) :
    withoutCredentials folder = folder ↔ ∀ c ∈ legacyS3Columns, folder c = none := by
  unfold withoutCredentials
  rw [funext_iff]
  constructor
  · intro h c hc
    simpa [hc] using (h c).symm
  intro h c
  by_cases hc : c ∈ legacyS3Columns
  · simp [hc, h c hc]
  · simp [hc]

private theorem sr_withoutCredentials_withProvider (folder : SqlRow) :
    withoutCredentials (withProvider folder) = withoutCredentials folder := by
  funext c
  by_cases hc : c = "s3_provider"
  · subst hc
    simp [withoutCredentials, legacyS3Columns]
  · simp [withoutCredentials, withProvider, Function.update_of_ne hc]

theorem Complete.rows_folders (h : Complete db) :
    (runEach db (bootMigrations drop)).rows "folders" = db.rows "folders" ↔ FoldersSettled drop db := by
  have hK := sr_kept sr_beforeLocks h.has
  have hla : (runEach (runEach db beforeLocks)
      (rebuildLocks :: [backfillBackups] :: [backfillShared] :: laterMigrations)).rows "folders" =
        (runEach db beforeLocks).rows "folders" := by
    refine sr_rows (fun script hscr => ?_) sr_scripts.2.2.1 h.masked.runEach hK (by decide)
    refine sr_afterLocks false script ?_
    simpa [afterLocks] using hscr
  have hboot : bootMigrations drop = beforeLocks ++
      ((rebuildLocks :: [backfillBackups] :: [backfillShared] :: laterMigrations) ++
        if drop then legacyS3DropMigrations else []) := by
    simp [bootMigrations_eq, afterLocks]
  rw [hboot, runEach_append, runEach_append]
  cases drop with
  | true =>
    rw [if_pos rfl, legacyS3DropMigrations, rows_dropColumns h.masked.runEach.runEach, hla]
    have hfn : ((runEach db beforeLocks).rows "folders").map withoutCredentials =
        (db.rows "folders").map withoutCredentials := by
      rcases sr_folders h.masked h.has with ⟨-, hrows⟩ | ⟨-, hrows⟩
      · rw [hrows]
      · rw [hrows, List.map_map]
        exact List.map_congr_left fun folder _ => sr_withoutCredentials_withProvider folder
    refine (Eq.congr_left hfn).trans (sr_map_self.trans ?_)
    exact forall₂_congr fun folder _ => sr_withoutCredentials folder
  | false =>
    rw [if_neg Bool.false_ne_true, runEach_nil, hla]
    rcases sr_folders h.masked h.has with ⟨hhas, hrows⟩ | ⟨hno, hrows⟩
    · exact ⟨fun _ => .inl hhas, fun _ => hrows⟩
    rw [hrows, sr_map_self]
    constructor
    · intro hall
      refine .inr (List.eq_nil_iff_forall_not_mem.2 fun folder hfol => hno ?_)
      refine h.masked "folders" folder hfol "s3_provider" ?_
      rw [← hall folder hfol]
      simp [withProvider]
    rintro (hhas | hnil)
    · exact absurd hhas hno
    · simp [hnil]

/-! ### Destinations -/

/-- The assignment has no destination, and there is something to make one from. -/
def LacksDestination (db : SqlDb) (assignment : SqlRow) : Prop :=
  assignment "destination" = none ∧ (folderName db assignment).isSome = true ∧
    ((folderIn db assignment fun folder => folder "type" = some (.text "backup")) = true ∧
        (assignment "host_id").isSome = true ∨
      (folderIn db assignment fun folder => (folder "type").isSome && folder "type" ≠ some (.text "backup")) = true)

private def SameFolders (db db' : SqlDb) : Prop :=
  ∃ f : SqlRow → SqlRow, (∀ folder, ∀ c ∈ ["id", "name", "type"], f folder c = folder c) ∧
    db'.rows "folders" = (db.rows "folders").map f

private theorem sr_folderName (h : SameFolders db db') (a : SqlRow) : folderName db' a = folderName db a := by
  obtain ⟨f, hf, hrows⟩ := h
  have hid : ∀ folder, f folder "id" = folder "id" := fun folder => hf folder "id" (by decide)
  have hname : ∀ folder, f folder "name" = folder "name" := fun folder => hf folder "name" (by decide)
  unfold folderName
  rw [hrows, List.find?_map]
  simp only [Function.comp_def, hid, Option.bind_map, hname]

private theorem sr_folderIn (h : SameFolders db db') (a : SqlRow) (kind : Option SqlValue → Bool) :
    folderIn db' a (fun folder => kind (folder "type")) = folderIn db a fun folder => kind (folder "type") := by
  obtain ⟨f, hf, hrows⟩ := h
  have hid : ∀ folder, f folder "id" = folder "id" := fun folder => hf folder "id" (by decide)
  have htype : ∀ folder, f folder "type" = folder "type" := fun folder => hf folder "type" (by decide)
  simp [folderIn, hrows, List.any_map, Function.comp_def, hid, htype]

private theorem sr_update (guard : SqlDb → SqlRow → Bool) (value : SqlDb → SqlRow → Option SqlValue)
    (hco : db.Has (.column "folder_assignments" "destination"))
    (hfree : db.Unconstrained "folder_assignments" "destination") :
    (runScript db [.update "folder_assignments" guard [("destination", value)]]).1 =
      db.setRows "folder_assignments" ((db.rows "folder_assignments").map fun a =>
        if guard db a then Function.update a "destination" (value db a) else a) := by
  obtain ⟨d, hd, hc⟩ := hco
  have hass : ∀ a, assign db [("destination", value)] a = Function.update a "destination" (value db a) := by
    intro a
    funext c
    by_cases hdest : c = "destination"
    · subst hdest; simp [assign]
    · simp [assign, List.lookup_cons, beq_false_of_ne hdest, Function.update_of_ne hdest]
  have ho : ∀ a : SqlRow, ∀ c, c ≠ "destination" →
      (if guard db a then Function.update a "destination" (value db a) else a) c = a c := by
    intro a c hdest
    split
    · exact Function.update_of_ne hdest ..
    · rfl
  simp only [runScript, Statement.exec, hd, List.all_cons, List.all_nil, hc, decide_true, Bool.and_true, if_true,
    hass, hfree.tryRows ho]

private def sr_owned (db : SqlDb) (a : SqlRow) : SqlRow :=
  if folderIn db a (fun folder => folder "type" = some (.text "backup")) && (a "destination").isNone then
    Function.update a "destination" (sqlConcat (sqlConcat (folderName db a) (some (.text "/"))) (a "host_id"))
  else a

private def sr_shared (db : SqlDb) (a : SqlRow) : SqlRow :=
  if folderIn db a (fun folder => (folder "type").isSome && folder "type" ≠ some (.text "backup")) &&
      (a "destination").isNone then
    Function.update a "destination" (folderName db a)
  else a

private theorem sr_owned_congr (h : SameFolders db db') (a : SqlRow) : sr_owned db' a = sr_owned db a := by
  have hin := sr_folderIn h a fun kind => kind = some (.text "backup")
  simp only [sr_owned, sr_folderName h, hin]

private theorem sr_shared_congr (h : SameFolders db db') (a : SqlRow) : sr_shared db' a = sr_shared db a := by
  have hin := sr_folderIn h a fun kind => kind.isSome && kind ≠ some (.text "backup")
  simp only [sr_shared, sr_folderName h, hin]

private theorem sr_update_self {a : SqlRow} {value : Option SqlValue} (h : a "destination" = none) :
    Function.update a "destination" value = a ↔ value = none := by
  rw [Function.update_eq_self_iff, h]

private theorem sr_concat (a b : Option SqlValue) (separator : SqlValue) :
    sqlConcat (sqlConcat a (some separator)) b = none ↔ ¬(a.isSome = true ∧ b.isSome = true) := by
  cases a <;> cases b <;> simp [sqlConcat]

private theorem sr_backfilled (db : SqlDb) (a : SqlRow) : sr_shared db (sr_owned db a) = a ↔ ¬LacksDestination db a := by
  have hsh : a "destination" = none → (sr_shared db a = a ↔
      ¬((folderName db a).isSome = true ∧
        (folderIn db a fun folder => (folder "type").isSome && folder "type" ≠ some (.text "backup")) = true)) := by
    intro hdest
    unfold sr_shared
    by_cases hin : (folderIn db a fun folder => (folder "type").isSome && folder "type" ≠ some (.text "backup")) = true
    · rw [if_pos (by rw [hin, hdest]; rfl), sr_update_self hdest]
      exact ⟨fun hnone hboth => (by rw [hnone] at hboth; exact absurd hboth.1 Bool.false_ne_true),
        fun hno => Option.not_isSome_iff_eq_none.1 fun hsome => hno ⟨hsome, hin⟩⟩
    · rw [if_neg (by simp only [hin, Bool.false_and]; exact Bool.false_ne_true)]
      exact ⟨fun _ hboth => hin hboth.2, fun _ => rfl⟩
  cases hdest : a "destination" with
  | some destination => simp [sr_owned, sr_shared, LacksDestination, hdest]
  | none =>
    unfold LacksDestination
    by_cases hin : (folderIn db a fun folder => folder "type" = some (.text "backup")) = true
    · have how : sr_owned db a = Function.update a "destination"
          (sqlConcat (sqlConcat (folderName db a) (some (.text "/"))) (a "host_id")) := by
        unfold sr_owned
        rw [if_pos (by rw [hin, hdest]; rfl)]
      cases hv : sqlConcat (sqlConcat (folderName db a) (some (.text "/"))) (a "host_id") with
      | none =>
        have hnone := (sr_concat (folderName db a) (a "host_id") (.text "/")).1 hv
        rw [how, hv, (sr_update_self hdest).2 rfl, hsh hdest]
        tauto
      | some value =>
        have hsome : (folderName db a).isSome = true ∧ (a "host_id").isSome = true := by
          by_contra hno
          exact nomatch hv.symm.trans ((sr_concat _ _ (.text "/")).2 hno)
        have hkept : sr_shared db (sr_owned db a) = sr_owned db a := by
          simp [sr_shared, how, hv]
        rw [hkept, how, hv, sr_update_self hdest]
        exact ⟨nofun, fun hno => absurd ⟨hdest, hsome.1, .inl ⟨hin, hsome.2⟩⟩ hno⟩
    · have how : sr_owned db a = a := by
        unfold sr_owned
        rw [if_neg (by simp only [hin, Bool.false_and]; exact Bool.false_ne_true)]
      rw [how, hsh hdest]
      tauto

theorem Complete.rows_folderAssignments (h : Complete db) :
    (runEach db (bootMigrations drop)).rows "folder_assignments" = db.rows "folder_assignments" ↔
      ∀ a ∈ db.rows "folder_assignments", ¬LacksDestination db a := by
  have hmem : ∀ script ∈ bootMigrations drop, script ∈ migrations ++ legacyS3DropMigrations :=
    fun _ => mem_bootMigrations
  have hpt : bootMigrations drop = (beforeLocks ++ [rebuildLocks]) ++ ([backfillBackups] :: [backfillShared] ::
      (laterMigrations ++ if drop then legacyS3DropMigrations else [])) := by
    simp [bootMigrations_eq, afterLocks]
  have hwi : ∀ script ∈ beforeLocks ++ [rebuildLocks] ++
      (laterMigrations ++ if drop then legacyS3DropMigrations else []),
      ∀ s ∈ script, s.within ["folder_locks", "folders"] keptObjects = true := by
    intro script hscr
    refine sr_scripts.2.2.2.1 script ?_
    cases drop <;> simp at hscr ⊢ <;> tauto
  rw [hpt] at hmem ⊢
  have hfi : ∀ script ∈ beforeLocks ++ [rebuildLocks], script ∈ migrations ++ legacyS3DropMigrations :=
    fun script hscr => hmem script (List.mem_append_left _ hscr)
  rw [runEach_append, runEach_cons, runEach_cons]
  have hrows := sr_rows (t := "folder_assignments") hfi
    (fun script hscr => hwi script (List.mem_append_left _ hscr)) h.masked h.has (by decide)
  have hK := sr_kept hfi h.has
  have hfree : (runEach db (beforeLocks ++ [rebuildLocks])).Unconstrained "folder_assignments" "destination" :=
    h.free.runEach fun script hscr => migrations_frees script (hfi script hscr)
  have hfols : SameFolders db (runEach db (beforeLocks ++ [rebuildLocks])) := by
    rw [runEach_append, runEach_cons, runEach_nil]
    obtain ⟨db₁, hrun, -, hrows⟩ := runScript_rebuildLocks (runEach db beforeLocks)
    have hsame : db₁.rows "folders" = (runEach db beforeLocks).rows "folders" := by
      rw [hrows, Function.update_of_ne (by decide)]
    rw [hrun]
    rcases sr_folders h.masked h.has with ⟨-, hfols⟩ | ⟨-, hfols⟩
    · exact ⟨id, fun _ _ _ => rfl, by rw [hsame, hfols, List.map_id]⟩
    refine ⟨withProvider, fun folder c hc => Function.update_of_ne ?_ .., hsame.trans hfols⟩
    rintro rfl
    exact absurd hc (by decide)
  have hmask : (runEach db (beforeLocks ++ [rebuildLocks])).Masked := h.masked.runEach
  generalize runEach db (beforeLocks ++ [rebuildLocks]) = db₁ at hrows hK hfree hfols hmask ⊢
  have hco := hK (.column "folder_assignments" "destination") (sr_scripts.2.2.2.2.2.2 _ (by simp))
  have how : (runScript db₁ [backfillBackups]).1 = db₁.setRows "folder_assignments"
      ((db₁.rows "folder_assignments").map (sr_owned db₁)) := sr_update _ _ hco hfree
  have hmask₂ : (runScript db₁ [backfillBackups]).1.Masked := hmask.runScript
  rw [how] at hmask₂ ⊢
  generalize hdb₂ : db₁.setRows "folder_assignments" ((db₁.rows "folder_assignments").map (sr_owned db₁)) = db₂
    at hmask₂ ⊢
  have hK₂ : ∀ o ∈ keptObjects, db₂.Has o := fun o ho => hdb₂ ▸ (hK o ho).setRows ..
  have hfree₂ : db₂.Unconstrained "folder_assignments" "destination" := hfree.of_shape (by rw [← hdb₂]; rfl)
  have hsh : (runScript db₂ [backfillShared]).1 = db₂.setRows "folder_assignments"
      ((db₂.rows "folder_assignments").map (sr_shared db₂)) :=
    sr_update _ _ (hK₂ _ (sr_scripts.2.2.2.2.2.2 _ (by simp))) hfree₂
  have hfols₂ : SameFolders db db₂ := by
    obtain ⟨f, hf, heq⟩ := hfols
    refine ⟨f, hf, ?_⟩
    rw [← hdb₂]
    exact (Db.rows_setRows_of_ne _ (by decide) _).trans heq
  have hass : db₂.rows "folder_assignments" = (db.rows "folder_assignments").map (sr_owned db) := by
    rw [← hdb₂, ← hrows, Db.rows_setRows_self]
    exact List.map_congr_left fun a _ => sr_owned_congr hfols a
  have hmask₃ : (runScript db₂ [backfillShared]).1.Masked := hmask₂.runScript
  rw [hsh] at hmask₃ ⊢
  rw [sr_rows (fun script hscr => hmem script ?_) (fun script hscr => hwi script ?_) hmask₃
    (fun o ho => (hK₂ o ho).setRows ..) (by decide)]
  · have hfn : (db₂.setRows "folder_assignments"
        ((db₂.rows "folder_assignments").map (sr_shared db₂))).rows "folder_assignments" =
          (db.rows "folder_assignments").map fun a => sr_shared db (sr_owned db a) := by
      rw [Db.rows_setRows_self, hass, List.map_map]
      exact List.map_congr_left fun a _ => sr_shared_congr hfols₂ _
    rw [hfn, sr_map_self]
    exact forall₂_congr fun a _ => sr_backfilled db a
  · exact List.mem_append_right _ (.tail _ (.tail _ hscr))
  · exact List.mem_append_right _ hscr

/-! ### Another start -/

private theorem sr_converted {env : InitEnv} (h : ∀ t ∈ ["app_profiles", "application_templates",
      "application_protections", "dotfile_manifests", "hosts"], db'.rows t = db.rows t) :
    Converted env db' ↔ Converted env db := by
  have hpr := h "app_profiles" (by decide)
  have hte := h "application_templates" (by decide)
  have hpro := h "application_protections" (by decide)
  have hma := h "dotfile_manifests" (by decide)
  have hho := h "hosts" (by decide)
  have htem : findTemplate db' = findTemplate db := by
    funext m
    simp only [findTemplate, hte]
  have hprot : HostProtected db' = HostProtected db := by
    funext m host
    simp only [HostProtected, htem, protectionExists, hpro]
  have hown : hostManifests db' = hostManifests db := by simp only [hostManifests, hma]
  have hco : (∀ p, ProfileConverted env db' p ↔ ProfileConverted env db p) ∧
      (∀ m, ManifestConverted db' m ↔ ManifestConverted db m) ∧
      ∀ work, GlobalConverted db' work ↔ GlobalConverted db work := by
    simp only [ProfileConverted, ManifestConverted, GlobalConverted, alreadyHostSpecific, hte, hho, hprot,
      hown, implies_true, and_self]
  constructor
  · intro hall
    exact ⟨fun p hp => (hco.1 p).1 (hall.profiles p (hpr ▸ hp)),
      fun m hm => (hco.2.1 m).1 (hall.hosts m (hown ▸ hm)),
      fun g hg host hhost => (hco.2.2 _).1 (hall.globals g (hma ▸ hg) host (hho ▸ hhost))⟩
  intro hall
  exact ⟨fun p hp => (hco.1 p).2 (hall.profiles p (hpr ▸ hp)),
    fun m hm => (hco.2.1 m).2 (hall.hosts m (hown ▸ hm)),
    fun g hg host hhost => (hco.2.2 _).2 (hall.globals g (hma ▸ hg) host (hho ▸ hhost))⟩

structure StartSettled (env : InitEnv) (drop : Bool) (db : SqlDb) : Prop where
  locks : db.rows "folder_locks" = []
  destinations : ∀ a ∈ db.rows "folder_assignments", ¬LacksDestination db a
  folders : FoldersSettled drop db
  converted : Converted env db

theorem Complete.initDb_folderLocks (h : Complete db) (env : InitEnv) (drop : Bool) :
    (initDb env drop db).1.rows "folder_locks" = [] := by
  have honly := (convertLegacyAppConfig_step env (runEach db (bootMigrations drop))).only
  have hem : (runEach db (bootMigrations drop)).rows "folder_locks" = [] := h.rows_folderLocks
  rw [h.initDb_eq env]
  exact (honly.rows "folder_locks" (by simp) (by simp)).trans hem

theorem Complete.initDb_rows (h : Complete db) (env : InitEnv) (drop : Bool) :
    ((initDb env drop db).2 = true ∧ (initDb env drop db).1.rows = db.rows) ↔ StartSettled env drop db := by
  rw [h.initDb_eq env]
  have hcon := convertLegacyAppConfig_rows env (runEach db (bootMigrations drop))
  have honly := (convertLegacyAppConfig_step env (runEach db (bootMigrations drop))).only
  have hco : Converted env (runEach db (bootMigrations drop)) ↔ Converted env db :=
    sr_converted fun t ht => h.rows_bootMigrations fun hmem => by revert t; decide
  constructor
  · rintro ⟨hok, hrows⟩
    have hboot : (runEach db (bootMigrations drop)).rows = db.rows := by
      funext t
      by_cases ht : t = "application_templates" ∨ t = "application_protections"
      · refine h.rows_bootMigrations ?_
        rcases ht with rfl | rfl <;> decide
      · exact (honly.rows t (fun heq => ht (.inl heq)) fun heq => ht (.inr heq)).symm.trans (congrFun hrows t)
    exact {
      locks := by rw [← hboot]; exact h.rows_folderLocks
      destinations := h.rows_folderAssignments.1 (congrFun hboot _)
      folders := h.rows_folders.1 (congrFun hboot _)
      converted := hco.1 (hcon.1 ⟨hok, hrows.trans hboot.symm⟩) }
  · intro hsett
    obtain ⟨hok, hrows⟩ := hcon.2 (hco.2 hsett.converted)
    refine ⟨hok, hrows.trans (funext fun t => ?_)⟩
    by_cases ht : t ∈ ["folder_locks", "folder_assignments", "folders"]
    · simp only [List.mem_cons, List.not_mem_nil, or_false] at ht
      rcases ht with rfl | rfl | rfl
      · exact h.rows_folderLocks.trans hsett.locks.symm
      · exact h.rows_folderAssignments.2 hsett.destinations
      · exact h.rows_folders.2 hsett.folders
    · exact h.rows_bootMigrations ht

/-- A file of the server after a start and any writes.  Values of the file stand in columns, and no version of the schema
has a constraint on the destination of an assignment. -/
inductive Started : SqlDb → Prop
  | boot {env : InitEnv} {drop : Bool} {db db' : SqlDb} (hmasked : db.Masked)
      (hfree : db.Unconstrained "folder_assignments" "destination") (h : initDb env drop db = (db', true)) : Started db'
  | write {db db' : SqlDb} {s : SqlStatement} (h : Started db) (hs : s.writes = true) (hexec : s.exec db = some db') :
      Started db'

theorem Complete.write {s : SqlStatement} (h : Complete db) (hs : s.writes = true) (hexec : s.exec db = some db') :
    Complete db' := by
  cases Statement.effect hexec with
  | writes => exact {
      has := fun o ho => (h.has o ho).setRows ..
      locks := fun o ho => (h.locks o ho).setRows ..
      rebuilt := fun r hr => (needsRebuild_of_shape rfl (rebuilds_indexes r hr)).trans (h.rebuilt r hr)
      masked := h.masked.exec hexec
      free := h.free.of_shape rfl }
  | _ => exact nomatch hs

theorem Started.complete (h : Started db) : Complete db := by
  induction h with
  | boot hmask hfree h => exact complete_of_initDb hmask hfree h
  | write _ hs hexec ih => exact ih.write hs hexec

/-- On a started file `initDb` runs through and keeps every row exactly when the rows are settled. -/
theorem initDb_idempotent (h : Started db) (env : InitEnv) (drop : Bool) :
    ((initDb env drop db).2 = true ∧ (initDb env drop db).1.rows = db.rows) ↔ StartSettled env drop db :=
  h.complete.initDb_rows env drop

/-- Surroundings in which nothing can be parsed. -/
def mutedEnv : InitEnv := ⟨fun _ => none, fun _ => "", fun n => toString n, 0⟩

def freshFile : SqlDb := (initDb mutedEnv true Db.empty).1

def acquireLock : SqlStatement := .insertOrReplace "folder_locks" fun _ => [[
  ("destination_key", some (.text "backend:b1:photos")), ("folder_id", some (.text "photos")),
  ("locked_by", some (.text "laptop")), ("locked_at", some (.int 0)), ("lock_ttl", some (.int 1200)),
  ("lock_id", some (.text "lock-1"))]]

def lockedFile : SqlDb := (acquireLock.exec freshFile).getD freshFile

/-- A host, a folder and its assignment to the host. -/
def assignFolder : List SqlStatement := [
  .insert "hosts" [("id", some (.text "laptop")), ("hostname", some (.text "laptop"))],
  .insert "folders" [("id", some (.text "photos")), ("name", some (.text "photos")), ("type", some (.text "sync"))],
  .insert "folder_assignments" [("id", some (.text "a1")), ("folder_id", some (.text "photos")),
    ("host_id", some (.text "laptop")), ("destination", some (.text "photos"))]]

def writeAll (statements : List SqlStatement) (db : SqlDb) : Option SqlDb :=
  statements.foldlM (fun db (s : SqlStatement) => s.exec db) db

def assignedFile : SqlDb := (writeAll assignFolder freshFile).getD freshFile

private theorem sr_evaluated : (initDb mutedEnv true Db.empty).2 = true ∧
    ((writeAll assignFolder freshFile).isSome = true ∧
      (∀ t ∈ ["hosts", "folders", "folder_assignments"], (assignedFile.rows t).length = 1) ∧
      (∀ t ∈ ["folder_locks", "app_profiles", "dotfile_manifests"], (assignedFile.rows t).isEmpty = true) ∧
      (∀ a ∈ assignedFile.rows "folder_assignments", a "destination" ≠ none) ∧
      ∀ folder ∈ assignedFile.rows "folders", ∀ c ∈ legacyS3Columns, folder c = none) ∧
    (acquireLock.exec freshFile).isSome = true ∧ (lockedFile.rows "folder_locks").length = 1 := by
  decide +kernel

/-- What a start of a file leaves, under one name as `freshFile` is. -/
private def sr_boot (env : InitEnv) (db : SqlDb) : SqlDb := (initDb env true db).1

private theorem sr_booted {env : InitEnv} (hmask : db.Masked)
    (hfree : db.Unconstrained "folder_assignments" "destination") (hok : (initDb env true db).2 = true) :
    Started (sr_boot env db) := by
  have hboot : initDb env true db = (sr_boot env db, true) := Prod.ext (by rw [sr_boot]) hok
  exact .boot hmask hfree hboot

private theorem sr_fresh : Started freshFile := by
  have hmask : Db.Masked (Db.empty : SqlDb) := fun _ row hrow => nomatch hrow
  have hfree : Db.Unconstrained (Db.empty : SqlDb) "folder_assignments" "destination" := fun u hu => by
    simp [Db.constraints, Db.shape, Db.empty] at hu
  exact sr_booted hmask hfree sr_evaluated.1

private theorem sr_written {statements : List SqlStatement} (hdb : Started db) (hs : ∀ s ∈ statements, s.writes = true)
    (h : writeAll statements db = some db') : Started db' := by
  induction statements generalizing db with
  | nil => exact Option.some.inj h ▸ hdb
  | cons s statements ih =>
    obtain ⟨between, hexec, hrest⟩ := Option.bind_eq_some_iff.1 h
    exact ih (.write hdb (hs s (.head _)) hexec) (fun s' hs' => hs s' (.tail _ hs')) hrest

private theorem sr_assigned : Started assignedFile := by
  obtain ⟨db', hdb'⟩ := Option.isSome_iff_exists.1 sr_evaluated.2.1.1
  rw [assignedFile, hdb']
  exact sr_written sr_fresh (by decide) hdb'

theorem initDb_assignedFile : (∀ t ∈ ["hosts", "folders", "folder_assignments"], (assignedFile.rows t).length = 1) ∧
    (initDb mutedEnv true assignedFile).2 = true ∧ (initDb mutedEnv true assignedFile).1.rows = assignedFile.rows := by
  obtain ⟨-, hrows, hem, hde, hfols⟩ := sr_evaluated.2.1
  have hnil : ∀ t ∈ ["folder_locks", "app_profiles", "dotfile_manifests"], assignedFile.rows t = [] :=
    fun t ht => List.isEmpty_iff.1 (hem t ht)
  refine ⟨hrows, (initDb_idempotent sr_assigned mutedEnv true).2 {
    locks := hnil _ (by decide)
    destinations := fun a ha hla => hde a ha hla.1
    folders := hfols
    converted := ⟨fun p hp => ?_, fun m hm => ?_, fun g hg => ?_⟩ }⟩
  · exact nomatch (hnil "app_profiles" (by decide)) ▸ hp
  · exact nomatch (hnil "dotfile_manifests" (by decide)) ▸ List.mem_of_mem_filter hm
  · exact nomatch (hnil "dotfile_manifests" (by decide)) ▸ List.mem_of_mem_filter hg

/-- The second start drops the lock, which has twenty minutes to go. -/
theorem initDb_drops_live_lock : Started lockedFile ∧ (lockedFile.rows "folder_locks").length = 1 ∧
    (initDb mutedEnv true lockedFile).1.rows "folder_locks" = [] := by
  have hsome := sr_evaluated.2.2.1
  have hst : Started lockedFile := by
    obtain ⟨db', hdb'⟩ := Option.isSome_iff_exists.1 hsome
    rw [lockedFile, hdb']
    exact .write sr_fresh rfl hdb'
  exact ⟨hst, sr_evaluated.2.2.2, hst.complete.initDb_folderLocks mutedEnv true⟩

end LamaSync
