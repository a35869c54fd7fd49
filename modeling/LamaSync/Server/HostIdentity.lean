import LamaSync.Core.InitDb
import LamaSync.Lib.References
import LamaSync.Daemon.Backups
import LamaSync.Server.Auth

/-!
# Renamed and deleted hosts

The id of a host stands in columns of many tables, without foreign keys.  `POST /register` changes the id of a renamed
host and the columns that `cascadeHostId` lists; `DELETE /hosts/:hostId` deletes the host, three tables' rows and the
archives of its snapshots in the backup directory.  What is left afterwards is what stood in the other columns, and the
archives that are somewhere else (`host_identity`).
-/

namespace LamaSync

open Relational

def hostColumns : List (String × String) := [
  ("hosts", "id"), ("folder_assignments", "host_id"), ("dotfile_manifests", "host_id"),
  ("dotfile_manifests", "original_uploader_host_id"), ("application_protections", "host_id"),
  ("application_snapshots", "source_host_id"), ("restic_snapshots", "host_id"), ("restic_restore_jobs", "target_host_id"),
  ("conflicts", "host_id"), ("operation_log", "host_id"), ("notification_events", "host_id"),
  ("seed_pilot_config", "source_host_id"), ("seed_pilot_config", "target_host_id"), ("schedule_state", "locked_by"),
  ("folder_health", "host_id"), ("folder_health_history", "host_id"), ("folder_sync_plans", "host_id"),
  ("folder_seed_plans", "host_id"), ("folder_seed_plans", "source_authority_host_id"),
  ("folder_seed_plans", "source_host_id"), ("folder_seed_plans", "target_host_id"), ("folder_seed_jobs", "host_id"),
  ("folder_seed_jobs", "source_host_id"), ("folder_seed_jobs", "lease_owner"), ("folder_locks", "locked_by"),
  ("queued_actions", "host_id"), ("pause_state", "id"), ("pause_state", "host_id"), ("api_keys", "host_id"),
  ("mobile_enrollments", "host_id"), ("mobile_registrations", "host_id"), ("web_grants", "registration_id"),
  ("web_sessions", "registration_id"), ("mobile_upload_destinations", "registration_id"),
  ("mobile_uploads", "registration_id")]

/-- Every one of them is a column of the schema. -/
example : ∀ p ∈ hostColumns, (serverSchema.any fun
    | .createTable _ t d => t = p.1 && p.2 ∈ d.names
    | _ => false) = true := by
  decide +kernel

structure RegisterBody where
  id : String
  hostname : String
  tailnetIp : Option String

def cascadeColumns : List (String × String) := [
  ("folder_assignments", "host_id"), ("application_protections", "host_id"),
  ("application_snapshots", "source_host_id"), ("queued_actions", "host_id"), ("conflicts", "host_id"),
  ("operation_log", "host_id"), ("restic_snapshots", "host_id"), ("restic_restore_jobs", "target_host_id"),
  ("notification_events", "host_id"), ("folder_locks", "locked_by"), ("schedule_state", "locked_by")]

def cascadeHostId (oldId newId : String) : List SqlStatement := cascadeColumns.map (rekey (.text oldId) (.text newId))

/-- The transaction that changes the id. -/
def rekeyHost (oldId newId : String) : List SqlStatement :=
  rekey (.text oldId) (.text newId) ("hosts", "id") :: cascadeHostId oldId newId

def sqlLower (text : String) : String := text.map Char.toLower

def renamedRow (db : SqlDb) (hostname id : String) : Option String :=
  (db.rows "hosts").findSome? fun row =>
    match row "hostname", row "id" with
    | some name, some (.text rowId) => if sqlLower name.toText = sqlLower hostname ∧ rowId ≠ id then some rowId else none
    | _, _ => none

def hostExists (db : SqlDb) (id : String) : Bool := (db.rows "hosts").any fun row => row "id" = some (.text id)

def nullableText (text : Option String) : Option SqlValue := text.map .text

def upsertHost (db : SqlDb) (body : RegisterBody) (now : Int) : Option SqlDb :=
  if hostExists db body.id then
    (Statement.update "hosts" (fun _ row => row "id" = some (.text body.id)) [
      ("hostname", fun _ _ => some (.text body.hostname)), ("tailnet_ip", fun _ _ => nullableText body.tailnetIp),
      ("last_seen", fun _ _ => some (.int now)), ("status", fun _ _ => some (.text "online"))]).exec db
  else
    (Statement.insert "hosts" [("id", some (.text body.id)), ("hostname", some (.text body.hostname)),
      ("tailnet_ip", nullableText body.tailnetIp), ("last_seen", some (.int now)),
      ("status", some (.text "online"))]).exec db

def nextRevision (row : SqlRow) : Option SqlValue :=
  match row "config_revision" with
  | some (.int n) => some (.int (n + 1))
  | _ => some (.int 1)

def bumpConfigRevisionForPeers (exceptId : String) : SqlStatement :=
  .update "hosts" (fun _ row => (row "id").isSome && row "id" ≠ some (.text exceptId))
    [("config_revision", fun _ row => nextRevision row)]

/-- The database, the old id of the `host_renamed` message if there is one, and the status of the answer. -/
structure Registered where
  db : SqlDb
  oldId : Option String
  status : Nat

def recordHost (db : SqlDb) (oldId : Option String) (body : RegisterBody) (now : Int) : Registered :=
  match upsertHost db body now with
  | none => ⟨db, oldId, 500⟩
  | some db =>
    if !hostExists db body.id then ⟨db, oldId, 500⟩
    else
      match (bumpConfigRevisionForPeers body.id).exec db with
      | none => ⟨db, oldId, 500⟩
      | some db => ⟨db, oldId, 201⟩

def register (db : SqlDb) (principal : Option AuthPrincipal) (body : RegisterBody) (now : Int) : Registered :=
  if !deviceMayAccessHost principal (some body.id) then ⟨db, none, 403⟩
  else
    match renamedRow db body.hostname body.id, hostExists db body.id with
    | some oldId, false =>
      match runScript db (rekeyHost oldId body.id) with
      | (db', true) => recordHost db' (some oldId) body now
      -- The transaction is rolled back.
      | _ => ⟨db, none, 500⟩
    | _, _ => recordHost db none body now

inductive ArchivePlace where
  | file (path : List (List Char))
  | object (backendId : SqlValue) (bucket key : Option SqlValue)
  deriving DecidableEq

/-- What the server finds around it. -/
structure ArchiveEnv where
  backupDir : Option String
  cwd : String
  unlinkFails : List (List Char) → Bool

def pathJoin (a b : String) : String := if a = "" then b else if b = "" then a else a ++ "/" ++ b

def absolutePath (cwd path : String) : List (List Char) :=
  normalSegments (if path.toList.head? = some '/' then path else cwd ++ "/" ++ path).toList

def archivePlace (env : ArchiveEnv) (db : SqlDb) (snapshot : SqlRow) : ArchivePlace :=
  match snapshot "backend_id" with
  | none => .file (absolutePath env.cwd
      (pathJoin (env.backupDir.getD "/backups") ((sqlText (snapshot "archive_path")).getD "")))
  | some backendId =>
    let object := ArchivePlace.object backendId (snapshot "s3_bucket") (snapshot "object_key")
    match (db.rows "backends").find? fun backend => backend "id" = some backendId with
    | none => object
    | some backend =>
      let localPath := trimSpaces ((sqlText (backend "local_path")).getD "").toList
      if (backend "kind" = some (.text "local") ∨ backend "kind" = some (.text "nfs")) ∧ localPath.head? = some '/' then
        .file (absolutePath env.cwd
          (pathJoin (String.ofList localPath) ((sqlText (snapshot "object_key")).getD "")))
      else object

def isOfHost (column hostId : String) (row : SqlRow) : Bool := row column = some (.text hostId)

def protectionIds (db : SqlDb) (hostId : String) : List SqlValue :=
  ((db.rows "application_protections").filter (isOfHost "host_id" hostId)).filterMap fun row => row "id"

def isProtectedBy (ids : List SqlValue) (snapshot : SqlRow) : Bool :=
  (snapshot "protection_id").any fun id => id ∈ ids

def archivePaths (db : SqlDb) (ids : List SqlValue) : List String :=
  ((db.rows "application_snapshots").filter (isProtectedBy ids)).filterMap fun row => sqlText (row "archive_path")

def hostDeletions (hostId : String) (ids : List SqlValue) : List (String × (SqlRow → Bool)) :=
  ("folder_assignments", isOfHost "host_id" hostId) ::
    (if ids.isEmpty then [] else [("application_snapshots", isProtectedBy ids)]) ++
    [("application_protections", isOfHost "host_id" hostId), ("hosts", isOfHost "id" hostId)]

def hostsBackupDir (env : ArchiveEnv) : String :=
  match env.backupDir with
  | none | some "" => "/backups"
  | some dir => dir

def unlinkedFile (env : ArchiveEnv) (archivePath : String) : List (List Char) :=
  absolutePath env.cwd (pathJoin (hostsBackupDir env) archivePath)

def unlinkArchive (env : ArchiveEnv) (stored : ArchivePlace → Bool) (archivePath : String) : ArchivePlace → Bool :=
  if env.unlinkFails (unlinkedFile env archivePath) then stored
  else Function.update stored (.file (unlinkedFile env archivePath)) false

structure HostDeleted where
  db : SqlDb
  stored : ArchivePlace → Bool
  status : Nat

def deleteHost (env : ArchiveEnv) (db : SqlDb) (stored : ArchivePlace → Bool) (principal : Option AuthPrincipal)
    (hostId : String) : HostDeleted :=
  if (requireAdmin principal).isNone then ⟨db, stored, 403⟩
  else if !hostExists db hostId then ⟨db, stored, 404⟩
  else
    let ids := protectionIds db hostId
    match runScript db ((hostDeletions hostId ids).map deletion) with
    | (db', true) => ⟨db', (archivePaths db ids).foldl (unlinkArchive env) stored, 204⟩
    | _ => ⟨db, stored, 500⟩

section Register

variable {db db' : SqlDb} {principal : Option AuthPrincipal} {body : RegisterBody} {now : Int} {oldId : String}
  {p : String × String}

def apiKeyOf (row : SqlRow) : ApiKeyRow where
  id := textCell (row "id")
  kind := textCell (row "kind")
  hostId := match row "host_id" with | some (.text hostId) => some hostId | _ => none
  tokenHash := textCell (row "token_hash")
  revokedAt := match row "revoked_at" with | some (.int revokedAt) => some revokedAt | _ => none
where
  textCell : Option SqlValue → String
    | some (.text s) => s
    | _ => ""

def KeyActsFor (db : SqlDb) (keyId hostId : String) : Prop :=
  ∃ row ∈ db.rows "api_keys", row "id" = some (.text keyId) ∧ isRowRevoked (apiKeyOf row).revokedAt = false ∧
    deviceMayAccessHost (apiKeyPrincipal (apiKeyOf row)) (some hostId) = true

structure Rekeyed (db db' : SqlDb) (oldId newId : String) : Prop where
  gone : ∀ p ∈ hostColumns, ¬db'.Refers p (.text oldId)
  keys : ∀ keyId, KeyActsFor db keyId oldId → KeyActsFor db' keyId newId

private theorem hi_upsertHost (h : upsertHost db body now = some db') :
    (∀ t, t ≠ "hosts" → db'.rows t = db.rows t) ∧
      ∀ v, body.id ≠ v → (db'.Refers ("hosts", "id") (.text v) ↔ db.Refers ("hosts", "id") (.text v)) := by
  unfold upsertHost at h
  split at h
  · refine ⟨fun t ht => ?_, fun v _ => refers_update h fun _ => by simp⟩
    rw [Statement.update_ok h]
    exact Db.rows_setRows_of_ne _ ht _
  refine ⟨fun t ht => ?_, fun v hv => refers_insert h fun _ => ⟨_, rfl, by simpa using hv⟩⟩
  obtain ⟨d, rfl⟩ := Statement.insert_ok h
  exact Db.rows_setRows_of_ne _ ht _

private theorem hi_recordHost (db : SqlDb) (renamed : Option String) (body : RegisterBody) (now : Int) :
    (∀ t, t ≠ "hosts" → (recordHost db renamed body now).db.rows t = db.rows t) ∧
      ∀ v, body.id ≠ v → ((recordHost db renamed body now).db.Refers ("hosts", "id") (.text v) ↔
        db.Refers ("hosts", "id") (.text v)) := by
  unfold recordHost
  cases hup : upsertHost db body now with
  | none => exact ⟨fun _ _ => rfl, fun _ _ => .rfl⟩
  | some db₁ =>
    obtain ⟨hrows, hids⟩ := hi_upsertHost hup
    simp only
    split
    · exact ⟨hrows, hids⟩
    cases hbump : (bumpConfigRevisionForPeers body.id).exec db₁ with
    | none => exact ⟨hrows, hids⟩
    | some db₂ =>
      refine ⟨fun t ht => ?_, fun v hv => ?_⟩
      · rw [← hrows t ht, Statement.update_ok hbump]
        exact Db.rows_setRows_of_ne _ ht _
      · rw [← hids v hv]
        exact refers_update hbump fun _ => by decide

private theorem hi_hosts : ∀ p ∈ hostColumns, p.1 = "hosts" → p = ("hosts", "id") := by decide

private theorem hi_keys : ("api_keys", "host_id") ∈ hostColumns ∧
    ("api_keys", "host_id") ∉ ("hosts", "id") :: cascadeColumns ∧ ∀ p ∈ ("hosts", "id") :: cascadeColumns,
    p.1 ≠ "api_keys" := by
  decide

private theorem hi_renamedRow {hostname id : String} (h : renamedRow db hostname id = some oldId) : id ≠ oldId := by
  obtain ⟨row, -, hrow⟩ := List.exists_of_findSome?_eq_some h
  split at hrow
  · split at hrow
    · rename_i hcond
      cases hrow
      exact hcond.2.symm
    · exact nomatch hrow
  · exact nomatch hrow

private theorem hi_register (h : (register db principal body now).oldId = some oldId) : body.id ≠ oldId ∧
    ∃ db₁, runScript db (rekeyHost oldId body.id) = (db₁, true) ∧
      register db principal body now = recordHost db₁ (some oldId) body now := by
  have hkept : ∀ db renamed, (recordHost db renamed body now).oldId = renamed := by
    intro db renamed
    unfold recordHost
    repeat' split
    all_goals rfl
  unfold register at h ⊢
  split at h
  · exact nomatch h
  rename_i hok
  rw [if_neg hok]
  split at h
  · rename_i old hren _
    split at h
    · rename_i db₁ hrun
      obtain rfl : old = oldId := Option.some.inj ((hkept _ _).symm.trans h)
      refine ⟨hi_renamedRow hren, db₁, hrun, ?_⟩
      simp only [*]
    · exact nomatch h
  · exact nomatch (hkept _ _).symm.trans h

private theorem hi_principal (row : SqlRow) (v w : String)
    (h : deviceMayAccessHost (apiKeyPrincipal (apiKeyOf row)) (some v) = true) :
    row "host_id" = some (.text v) ∨ deviceMayAccessHost (apiKeyPrincipal (apiKeyOf row)) (some w) = true := by
  unfold apiKeyPrincipal at h ⊢
  split at h
  · rename_i hkind
    rw [if_pos hkind]
    split at h
    · rename_i hostId hhost
      split at h
      · exact nomatch h
      left
      have hbd : v = hostId := by simpa [deviceMayAccessHost] using h
      subst hbd
      simp only [apiKeyOf] at hhost
      split at hhost
      · rename_i heq
        exact heq.trans (congrArg (fun s => some (SqlValue.text s)) (Option.some.inj hhost))
      · exact nomatch hhost
    · exact nomatch h
  · rename_i hkind
    rw [if_neg hkind]
    split at h
    · exact nomatch h
    rename_i hde
    rw [if_neg hde]
    split at h
    · rename_i had
      rw [if_pos had]
      exact .inr rfl
    · exact nomatch h

private theorem hi_keyActsFor {keyId v w : String} (hrows : db'.rows "api_keys" = db.rows "api_keys")
    (hfree : ¬db.Refers ("api_keys", "host_id") (.text v)) (h : KeyActsFor db keyId v) : KeyActsFor db' keyId w := by
  obtain ⟨row, hrow, hid, hlive, hacts⟩ := h
  exact ⟨row, hrows ▸ hrow, hid, hlive, (hi_principal row v w hacts).resolve_left fun hhost => hfree ⟨row, hrow, hhost⟩⟩

theorem rekeyed_iff (h : (register db principal body now).oldId = some oldId) :
    Rekeyed db (register db principal body now).db oldId body.id ↔
      ∀ p ∈ hostColumns, p ∉ ("hosts", "id") :: cascadeColumns → ¬db.Refers p (.text oldId) := by
  obtain ⟨hne, db₁, hrun, heq⟩ := hi_register h
  rw [heq]
  obtain ⟨hrows, hids⟩ := hi_recordHost db₁ (some oldId) body now
  have hscr : runScript db ((("hosts", "id") :: cascadeColumns).map (rekey (.text oldId) (.text body.id))) =
      (db₁, true) := hrun
  have hre : ∀ p ∈ hostColumns, (recordHost db₁ (some oldId) body now).db.Refers p (.text oldId) ↔
      db.Refers p (.text oldId) ∧ p ∉ ("hosts", "id") :: cascadeColumns := by
    intro p hp
    rw [← refers_rekeys (by simpa using hne) hscr]
    by_cases hho : p.1 = "hosts"
    · rw [hi_hosts p hp hho]
      exact hids oldId hne
    · exact Db.Refers.of_rows (hrows _ hho)
  constructor
  · intro hrek p hp hout hold
    exact hrek.gone p hp ((hre p hp).2 ⟨hold, hout⟩)
  intro hfree
  refine ⟨fun p hp hnew => ?_, fun keyId hkey => ?_⟩
  · obtain ⟨hold, hout⟩ := (hre p hp).1 hnew
    exact hfree p hp hout hold
  · refine hi_keyActsFor ?_ (hfree _ hi_keys.1 hi_keys.2.1) hkey
    exact (hrows _ (by decide)).trans (rows_rekeys hi_keys.2.2 hscr)

end Register

section Delete

variable {env : ArchiveEnv} {db : SqlDb} {stored : ArchivePlace → Bool} {principal : Option AuthPrincipal}
  {hostId : String}

structure Purged (env : ArchiveEnv) (db db' : SqlDb) (stored' : ArchivePlace → Bool) (hostId : String) : Prop where
  gone : ∀ p ∈ hostColumns, ¬db'.Refers p (.text hostId)
  archives : ∀ row ∈ db.rows "application_snapshots", row ∉ db'.rows "application_snapshots" →
    stored' (archivePlace env db row) = false

structure Disposable (env : ArchiveEnv) (db : SqlDb) (stored : ArchivePlace → Bool) (hostId : String) : Prop where
  others : ∀ p ∈ hostColumns, p ∉ [("hosts", "id"), ("folder_assignments", "host_id"),
    ("application_protections", "host_id"), ("application_snapshots", "source_host_id")] →
      ¬db.Refers p (.text hostId)
  snapshots : ∀ row ∈ db.rows "application_snapshots", row "source_host_id" = some (.text hostId) →
    isProtectedBy (protectionIds db hostId) row = true
  archives : ∀ row ∈ db.rows "application_snapshots", isProtectedBy (protectionIds db hostId) row = true →
    stored (archivePlace env db row) = true → ∃ path ∈ archivePaths db (protectionIds db hostId),
      archivePlace env db row = .file (unlinkedFile env path) ∧ env.unlinkFails (unlinkedFile env path) = false

private theorem hi_unlinked (paths : List String) (place : ArchivePlace) :
    paths.foldl (unlinkArchive env) stored place = false ↔ stored place = false ∨
      ∃ path ∈ paths, place = .file (unlinkedFile env path) ∧ env.unlinkFails (unlinkedFile env path) = false := by
  induction paths generalizing stored with
  | nil => simp
  | cons path rest ih =>
    rw [List.foldl_cons, ih, List.exists_mem_cons_iff, ← or_assoc]
    refine or_congr_left ?_
    unfold unlinkArchive
    by_cases hfl : env.unlinkFails (unlinkedFile env path) = true
    · simp [hfl]
    by_cases hpl : place = .file (unlinkedFile env path)
    · simp [hfl, hpl]
    · rw [if_neg hfl, Function.update_of_ne hpl]
      simp [hpl]

private theorem hi_deleted_columns : ∀ p ∈ hostColumns,
    p.1 ∈ ["folder_assignments", "application_snapshots", "application_protections", "hosts"] →
      p ∈ [("hosts", "id"), ("folder_assignments", "host_id"), ("application_protections", "host_id"),
        ("application_snapshots", "source_host_id")] := by
  decide +kernel

private theorem hi_rows {ids : List SqlValue} {db' : SqlDb} {t : String} {row : SqlRow}
    (h : runScript db ((hostDeletions hostId ids).map deletion) = (db', true)) :
    row ∈ db'.rows t ↔ row ∈ db.rows t ∧
      (t = "folder_assignments" ∨ t = "application_protections" → row "host_id" ≠ some (.text hostId)) ∧
      (t = "application_snapshots" → isProtectedBy ids row = false) ∧
      (t = "hosts" → row "id" ≠ some (.text hostId)) := by
  have hsn : (∀ d ∈ (if ids.isEmpty then [] else [("application_snapshots", isProtectedBy ids)] :
      List (String × (SqlRow → Bool))), d.1 = t → d.2 row = false) ↔
        (t = "application_snapshots" → isProtectedBy ids row = false) := by
    cases ids with
    | nil => cases hid : row "protection_id" <;> simp [isProtectedBy, hid]
    | cons id rest =>
      rw [if_neg (by simp), List.forall_mem_singleton]
      exact ⟨fun hgone ht => hgone ht.symm, fun hgone ht => hgone ht.symm⟩
  rw [mem_rows_deletions h]
  refine and_congr_right fun _ => ?_
  rw [hostDeletions, List.cons_append, List.forall_mem_cons, List.forall_mem_append, hsn]
  simp only [isOfHost, decide_eq_false_iff_not, List.mem_cons, List.not_mem_nil, or_false, forall_eq_or_imp, forall_eq,
    @eq_comm String _ t]
  tauto

theorem purged_iff (h : (deleteHost env db stored principal hostId).status = 204) :
    Purged env db (deleteHost env db stored principal hostId).db (deleteHost env db stored principal hostId).stored
      hostId ↔ Disposable env db stored hostId := by
  unfold deleteHost at h ⊢
  split at h
  · cases h
  split at h
  · cases h
  rename_i had hex
  rw [if_neg had, if_neg hex]
  simp only at h ⊢
  split at h
  swap
  · cases h
  rename_i db' hrun
  simp only
  constructor
  · intro hpu
    refine ⟨fun p hp hout hre => ?_, fun row hrow hsrc => ?_, fun row hrow hprot hstor => ?_⟩
    · obtain ⟨row, hrow, hcell⟩ := hre
      have ho : p.1 ∉ ["folder_assignments", "application_snapshots", "application_protections", "hosts"] :=
        fun hmem => hout (hi_deleted_columns p hp hmem)
      simp only [List.mem_cons, List.not_mem_nil, or_false, not_or] at ho
      refine hpu.gone p hp ⟨row, (hi_rows hrun).2 ⟨hrow, ?_⟩, hcell⟩
      tauto
    · by_contra hfree
      refine hpu.gone ("application_snapshots", "source_host_id") (by decide) ⟨row, (hi_rows hrun).2 ⟨hrow, ?_⟩, hsrc⟩
      simpa using hfree
    · have hgone : row ∉ db'.rows "application_snapshots" := by
        intro hmem
        cases hprot.symm.trans (((hi_rows hrun).1 hmem).2.2.1 rfl)
      obtain hno | hfr := (hi_unlinked _ _).1 (hpu.archives row hrow hgone)
      · cases hno.symm.trans hstor
      · exact hfr
  · intro hdisp
    refine ⟨fun p hp hre => ?_, fun row hrow hgone => ?_⟩
    · obtain ⟨row, hrow, hcell⟩ := hre
      obtain ⟨hold, hasg, hsnap, hhost⟩ := (hi_rows hrun).1 hrow
      by_cases hout : p ∈ [("hosts", "id"), ("folder_assignments", "host_id"), ("application_protections", "host_id"),
          ("application_snapshots", "source_host_id")]
      · simp only [List.mem_cons, List.not_mem_nil, or_false] at hout
        rcases hout with rfl | rfl | rfl | rfl
        · exact hhost rfl hcell
        · exact hasg (.inl rfl) hcell
        · exact hasg (.inr rfl) hcell
        · cases (hdisp.snapshots row hold hcell).symm.trans (hsnap rfl)
      · exact hdisp.others p hp hout ⟨row, hold, hcell⟩
    · rw [hi_unlinked]
      cases hstor : stored (archivePlace env db row) with
      | false => exact .inl rfl
      | true =>
        refine .inr (hdisp.archives row hrow ?_ hstor)
        by_contra hfree
        refine hgone ((hi_rows hrun).2 ⟨hrow, ?_⟩)
        simpa using hfree

end Delete

/-- A re-keyed host is complete under its new id exactly when its old id stands in no column but those that are changed,
and a deleted one leaves nothing behind exactly when it is disposable. -/
theorem host_identity (db : SqlDb) (principal : Option AuthPrincipal) :
    (∀ (body : RegisterBody) (now : Int) (oldId : String),
      (register db principal body now).oldId = some oldId →
        (Rekeyed db (register db principal body now).db oldId body.id ↔
          ∀ p ∈ hostColumns, p ∉ ("hosts", "id") :: cascadeColumns → ¬db.Refers p (.text oldId))) ∧
    ∀ (env : ArchiveEnv) (stored : ArchivePlace → Bool) (hostId : String),
      (deleteHost env db stored principal hostId).status = 204 →
        (Purged env db (deleteHost env db stored principal hostId).db
          (deleteHost env db stored principal hostId).stored hostId ↔ Disposable env db stored hostId) :=
  ⟨fun _ _ _ => rekeyed_iff, fun _ _ _ => purged_iff⟩

def fileWith (writes : List SqlStatement) : SqlDb := (runScript (runScript Db.empty serverSchema).1 writes).1

def laptopRows : List SqlStatement := [
  .insert "hosts" [("id", some (.text "laptop")), ("hostname", some (.text "desk"))],
  .insert "folder_assignments" [("id", some (.text "a1")), ("folder_id", some (.text "f1")),
    ("host_id", some (.text "laptop"))],
  .insert "application_protections" [("id", some (.text "p1")), ("template_id", some (.text "t1")),
    ("host_id", some (.text "laptop"))],
  .insert "application_snapshots" [("id", some (.text "s1")), ("protection_id", some (.text "p1")),
    ("source_host_id", some (.text "laptop")), ("archive_path", some (.text "apps/p1/s1.tar.gz"))]]

def archiveEnv : ArchiveEnv := ⟨none, "/", fun _ => false⟩

theorem host_identity_laptop :
    Rekeyed (fileWith laptopRows) (register (fileWith laptopRows) (some .master) ⟨"desk", "desk", none⟩ 0).db "laptop"
      "desk" ∧
    Purged archiveEnv (fileWith laptopRows)
      (deleteHost archiveEnv (fileWith laptopRows) (fun _ => true) (some .master) "laptop").db
      (deleteHost archiveEnv (fileWith laptopRows) (fun _ => true) (some .master) "laptop").stored "laptop" := by
  have hfc : ((register (fileWith laptopRows) (some .master) ⟨"desk", "desk", none⟩ 0).oldId = some "laptop" ∧
        ∀ p ∈ hostColumns, p ∉ [("hosts", "id"), ("folder_assignments", "host_id"),
          ("application_protections", "host_id"), ("application_snapshots", "source_host_id")] →
            ¬∃ row ∈ (fileWith laptopRows).rows p.1, row p.2 = some (.text "laptop")) ∧
      (deleteHost archiveEnv (fileWith laptopRows) (fun _ => true) (some .master) "laptop").status = 204 ∧
      (∀ row ∈ (fileWith laptopRows).rows "application_snapshots",
        isProtectedBy (protectionIds (fileWith laptopRows) "laptop") row = true ∧
        ∃ path ∈ archivePaths (fileWith laptopRows) (protectionIds (fileWith laptopRows) "laptop"),
          archivePlace archiveEnv (fileWith laptopRows) row = .file (unlinkedFile archiveEnv path)) := by
    decide +kernel
  obtain ⟨⟨hren, hco⟩, hst, hsn⟩ := hfc
  constructor
  · refine ((host_identity _ _).1 _ _ _ hren).2 fun p hp hout => hco p hp fun hmem => hout ?_
    revert p
    decide
  refine ((host_identity _ _).2 _ _ _ hst).2 ⟨hco, fun row hrow _ => (hsn row hrow).1, ?_⟩
  intro row hrow _ _
  obtain ⟨path, hpath, hpl⟩ := (hsn row hrow).2
  exact ⟨path, hpath, hpl, rfl⟩

def pairedRows : List SqlStatement := laptopRows ++ [
  .insert "api_keys" [("id", some (.text "k1")), ("kind", some (.text "device")), ("host_id", some (.text "laptop")),
    ("token_hash", some (.text "h1"))],
  .insert "application_snapshots" [("id", some (.text "s2")), ("protection_id", some (.text "p1")),
    ("source_host_id", some (.text "laptop")), ("archive_path", some (.text "lamasync/apps/p1/s2.tar.gz")),
    ("backend_id", some (.text "b1")), ("object_key", some (.text "lamasync/apps/p1/s2.tar.gz")),
    ("s3_bucket", some (.text "archives"))]]

theorem rekey_strands_device_key :
    ((register (fileWith pairedRows) (some .master) ⟨"desk", "desk", none⟩ 0).oldId = some "laptop" ∧
      (register (fileWith pairedRows) (some .master) ⟨"desk", "desk", none⟩ 0).db.Refers ("api_keys", "host_id")
        (.text "laptop") ∧
      KeyActsFor (fileWith pairedRows) "k1" "laptop" ∧
      ¬KeyActsFor (register (fileWith pairedRows) (some .master) ⟨"desk", "desk", none⟩ 0).db "k1" "desk") ∧
    (deleteHost archiveEnv (fileWith pairedRows) (fun _ => true) (some .master) "laptop").status = 204 ∧
      (deleteHost archiveEnv (fileWith pairedRows) (fun _ => true) (some .master) "laptop").db.Refers
        ("api_keys", "host_id") (.text "laptop") ∧
      (deleteHost archiveEnv (fileWith pairedRows) (fun _ => true) (some .master) "laptop").stored
        (.object (.text "b1") (some (.text "archives")) (some (.text "lamasync/apps/p1/s2.tar.gz"))) = true := by
  unfold Db.Refers KeyActsFor
  decide +kernel

end LamaSync
