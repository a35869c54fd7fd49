import LamaSync.Lib.Relational

/-!
# The schema of the server's database

`SERVER_SCHEMA` makes every table and index that is missing.  `MIGRATIONS` is the list of statements that bring an older
file to the same shape; each is tried on every start, and one that fails is passed over.  Types, `NOT NULL` and
`REFERENCES` clauses are left out: no statement below depends on them.
-/

namespace LamaSync

open Relational

inductive SqlValue where
  | text (s : String)
  | int (n : Int)
  deriving DecidableEq

abbrev SqlRow := Row String SqlValue

abbrev SqlTable := TableDef String SqlValue

abbrev SqlDb := Db String String String SqlValue

abbrev SqlStatement := Statement String String String SqlValue

/-- `a = b`, which does not hold when one of them is `NULL`. -/
def sqlEq (a b : Option SqlValue) : Bool := a.isSome && a = b

def SqlValue.toText : SqlValue → String
  | text s => s
  | int n => toString n

def sqlConcat : Option SqlValue → Option SqlValue → Option SqlValue
  | some a, some b => some (.text (a.toText ++ b.toText))
  | _, _ => none

namespace Schema

def col (name : String) : Column String SqlValue := ⟨name, none⟩

def colOr (name : String) (default : SqlValue) : Column String SqlValue := ⟨name, some default⟩

def create (name : String) (d : SqlTable) : SqlStatement := .createTable true name d

def index (name table : String) (columns : List String) : SqlStatement :=
  .createIndex ⟨name, table, columns, false, none⟩

def uniqueIndex (name table : String) (columns : List String) (covers : SqlRow → Bool) : SqlStatement :=
  .createIndex ⟨name, table, columns, true, some covers⟩

def hostsTable : SqlTable where
  columns := [col "id", col "hostname", col "tailnet_ip", col "last_seen", colOr "status" (.text "unknown"),
    col "lan_ip", col "version", colOr "config_revision" (.int 0), col "os", col "storage_used_bytes",
    colOr "demo" (.int 0), colOr "host_class" (.text "unknown"), colOr "host_class_overridden" (.int 0)]
  uniques := [["id"]]

def foldersTable : SqlTable where
  columns := [col "id", col "name", col "type", col "created_at", colOr "encrypted" (.int 0), col "crypt_password",
    col "git_provider", col "git_remote", colOr "backend" (.text "sftp"), col "backend_id", col "s3_bucket",
    colOr "demo" (.int 0)]
  uniques := [["id"]]

def folderAssignmentsTable : SqlTable where
  columns := [col "id", col "folder_id", col "host_id", col "role", col "local_path", col "remote_name",
    col "destination", col "sync_expr", colOr "enabled" (.int 1), colOr "mode" (.text "inherit"),
    col "conflict_strategy", col "pre_sync_cmd", col "post_sync_cmd", col "ignore_path", col "mount_ignore_path",
    col "timeout_sec", col "bandwidth_schedule", colOr "max_retries" (.int 3), col "available_space_threshold",
    col "cache_profile", col "cache_max_size", col "restic_repository", col "restic_password", col "retention_policy",
    colOr "watch_enabled" (.int 0), col "watch_quiet_sec", colOr "ignore_git_metadata" (.int 0),
    colOr "respect_gitignore" (.int 0), col "bisync_max_delete_percent", col "mount_cache_mode", colOr "demo" (.int 0)]
  uniques := [["id"], ["folder_id", "host_id"]]

def dotfileManifestsTable : SqlTable where
  columns := [col "id", col "host_id", col "app_name", col "paths", col "excludes", col "schedule",
    col "instructions", col "last_sync_at", col "last_sync_direction", col "original_uploader_host_id",
    col "profile_id", colOr "demo" (.int 0)]
  uniques := [["id"], ["host_id", "app_name"]]

def appProfilesTable : SqlTable where
  columns := [col "id", col "name", col "description", col "emoji", col "color", col "paths", col "install_url",
    col "install_instructions", col "restore_instructions", col "created_at", col "updated_at"]
  uniques := [["id"], ["name"]]

def dotfileVersionsTable : SqlTable where
  columns := [col "id", col "manifest_id", col "timestamp", col "tarball_path", col "size_bytes", col "checksum",
    col "description"]
  uniques := [["id"]]

def applicationTemplatesTable : SqlTable where
  columns := [col "id", col "name", colOr "origin" (.text "custom"), col "description", col "emoji", col "color",
    col "paths", col "install_url", col "install_instructions", col "restore_instructions", colOr "revision" (.int 1),
    col "created_at", col "updated_at", colOr "demo" (.int 0)]
  uniques := [["id"], ["name"]]

def applicationProtectionsTable : SqlTable where
  columns := [col "id", col "template_id", col "template_revision", col "host_id", col "name",
    colOr "enabled" (.int 1), col "schedule", colOr "destination" (.text "server_archive"), col "backend_id",
    col "s3_bucket", col "retention_policy", col "capture_spec", col "created_at", col "updated_at",
    colOr "demo" (.int 0)]
  uniques := [["id"], ["host_id", "template_id"]]

def applicationSnapshotsTable : SqlTable where
  columns := [col "id", col "protection_id", col "template_id", col "template_revision", col "source_host_id",
    col "created_at", col "archive_path", colOr "archive_format" (.text "tar.gz"), col "size_bytes",
    col "checksum_sha256", col "description", col "captured_spec", colOr "integrity_status" (.text "unverified"),
    colOr "demo" (.int 0), col "backend_id", col "object_key", col "s3_bucket"]
  uniques := [["id"]]

def resticSnapshotsTable : SqlTable where
  columns := [col "id", col "folder_id", col "host_id", col "snapshot_id", col "timestamp", col "paths",
    col "size_bytes", col "tags", colOr "demo" (.int 0)]
  uniques := [["id"]]

def resticRestoreJobsTable : SqlTable where
  columns := [col "id", col "snapshot_id", col "folder_id", col "target_host_id", col "target_path", col "include",
    colOr "status" (.text "pending"), col "created_at", col "resolved_at", col "error", colOr "demo" (.int 0)]
  uniques := [["id"]]

def conflictsTable : SqlTable where
  columns := [col "id", col "host_id", col "folder_id", col "path", col "local_mtime", col "remote_mtime",
    col "local_size", col "remote_size", colOr "status" (.text "pending"), col "resolution", col "created_at",
    col "resolved_at", colOr "demo" (.int 0)]
  uniques := [["id"], ["host_id", "folder_id", "path"]]

def operationLogTable : SqlTable where
  columns := [col "id", col "timestamp", col "host_id", col "folder_id", col "operation", col "status", col "summary",
    col "details", col "duration_ms", col "trigger", colOr "demo" (.int 0), col "dedupe_key"]
  uniques := [["id"]]

def notificationEventsTable : SqlTable where
  columns := [col "id", col "type", col "severity", col "message", col "host_id", col "folder_id", col "payload",
    col "created_at", colOr "ntfy_delivered" (.int 0), colOr "webhook_delivered" (.int 0)]
  uniques := [["id"]]

def notificationChannelsTable : SqlTable where
  columns := [col "id", col "kind", col "name", col "url", colOr "enabled" (.int 1),
    colOr "severities" (.text "[\"critical\",\"default\",\"info\"]"), col "last_delivery_status",
    col "last_delivery_at", col "created_at"]
  uniques := [["id"]]

def backendsTable : SqlTable where
  columns := [col "id", col "name", colOr "kind" (.text "s3"), colOr "s3_provider" (.text "other"), col "s3_endpoint",
    col "s3_region", col "s3_access_key_id", col "s3_secret_key_enc", col "local_path", col "restic_repository",
    col "restic_password_enc", colOr "demo" (.int 0), col "created_at", col "last_prove_at", col "last_prove_ok"]
  uniques := [["id"], ["name"]]

def b2ManagementConfigTable : SqlTable where
  columns := [col "id", col "endpoint", col "region", col "application_key_id", col "application_key_enc",
    col "updated_at"]
  uniques := [["id"]]

def seedPilotConfigTable : SqlTable where
  columns := [col "id", colOr "enabled" (.int 0), col "folder_id", col "source_host_id", col "target_host_id",
    col "backend_id", col "bucket", colOr "readiness_state" (.text "unknown"), col "readiness_bucket",
    col "readiness_checked_at", col "readiness_message", col "readiness_target_fingerprint",
    colOr "config_revision" (.int 0), col "updated_at"]
  uniques := [["id"]]

def browseJobsTable : SqlTable where
  columns := [col "id", col "operation", col "source", col "destination", colOr "status" (.text "pending"),
    col "error", col "progress_bytes", col "total_bytes", col "created_at", col "updated_at"]
  uniques := [["id"]]

def scheduleStateTable : SqlTable where
  columns := [col "folder_assignment_id", col "last_run", col "next_run", col "last_status", col "locked_by",
    col "locked_at", colOr "lock_ttl" (.int 1200)]
  uniques := [["folder_assignment_id"]]

def folderHealthTable : SqlTable where
  columns := [col "assignment_id", col "folder_id", col "host_id", col "state", col "reasons", col "facts",
    col "reported_at"]
  uniques := [["assignment_id"]]

def folderHealthHistoryTable : SqlTable where
  columns := [col "id", col "assignment_id", col "folder_id", col "host_id", col "state", col "reasons",
    col "reported_at"]
  uniques := [["id"]]

def folderSyncPlansTable : SqlTable where
  columns := [col "id", col "folder_id", col "host_id", col "assignment_id", col "intervention", col "authority",
    col "max_delete_percent", col "summary", col "changes", col "config_revision", col "filter_fingerprint",
    col "baseline_fingerprint", col "created_at", col "expires_at"]
  uniques := [["id"]]

def folderSeedPlansTable : SqlTable where
  columns := [col "id", col "folder_id", col "host_id", col "assignment_id", col "recommended", col "threshold_files",
    col "recommendation", col "source_file_count", col "source_bytes", col "source_measured_at",
    col "source_authority_host_id", col "source_authority", col "filter_universe", col "source_host_id",
    col "source_manifest_fingerprint", col "target_free_bytes", col "target_free_measured_at", col "target_host_id",
    col "staging_root", col "staging_same_filesystem", col "target_measured_entries", col "space",
    col "archive_format", col "archive_tooling", col "archive_tooling_ready", col "archive_estimate_bytes",
    col "archive_choice_reason", col "archive_fallback", col "staging_policy", col "config_revision",
    col "filter_fingerprint", col "baseline_fingerprint", col "execution_available", col "execution_reason",
    col "created_at", col "expires_at"]
  uniques := [["id"]]

def folderSeedJobsTable : SqlTable where
  columns := [col "id", col "plan_id", col "folder_id", col "host_id", col "source_host_id", col "assignment_id",
    col "status", col "phase", col "progress", col "source", col "archive", col "staging", col "lease_owner",
    col "lease_expires_at", col "error", col "summary", col "created_at", col "started_at", col "updated_at",
    col "finished_at"]
  uniques := [["id"]]

def folderLocksTable : SqlTable where
  columns := [col "destination_key", col "folder_id", col "locked_by", col "locked_at", colOr "lock_ttl" (.int 1200),
    col "lock_id"]
  uniques := [["destination_key"]]

def queuedActionsTable : SqlTable where
  columns := [col "id", col "host_id", col "type", col "payload", colOr "status" (.text "pending"), col "created_at",
    col "taken_at", col "completed_at", col "result", col "lease_expires_at"]
  uniques := [["id"]]

def sizeHistoryTable : SqlTable where
  columns := [col "id", col "scope", col "ref_id", col "bytes", col "object_count", col "measured_at"]
  uniques := [["id"]]

def folderSizeInvalidationsTable : SqlTable where
  columns := [col "folder_id", col "invalidated_at"]
  uniques := [["folder_id"]]

def pauseStateTable : SqlTable where
  columns := [col "id", col "scope", col "host_id", col "until_ms", col "mode", col "bwlimit", col "created_at"]
  uniques := [["id"]]

def healthDrillsTable : SqlTable where
  columns := [col "id", col "backend_id", col "kind", col "ran_at", col "ok", col "detail"]
  uniques := [["id"]]

def pairingSessionsTable : SqlTable where
  columns := [col "id", col "code", colOr "status" (.text "pending"), col "expires_at", col "created_at"]
  uniques := [["id"], ["code"]]

def apiKeysTable : SqlTable where
  columns := [col "id", col "name", col "kind", col "host_id", col "token_hash", col "token_enc", col "created_at",
    col "last_used_at", col "revealed_at", col "revoked_at", col "revoked_reason"]
  uniques := [["id"], ["token_hash"]]

def serverDeployJobsTable : SqlTable where
  columns := [col "id", col "requested_at", col "requested_by", colOr "status" (.text "pending"), col "started_at",
    col "completed_at", colOr "target" (.text "production"), col "summary", col "output_tail"]
  uniques := [["id"]]

def mobileEnrollmentsTable : SqlTable where
  columns := [col "id", col "secret_hash", col "host_id", colOr "kind" (.text "new"),
    colOr "client_type" (.text "android"), colOr "web_admin" (.int 0), colOr "status" (.text "pending"),
    col "expires_at", col "created_at", col "consumed_at", col "revoked_at"]
  uniques := [["id"], ["secret_hash"]]

def mobileRegistrationsTable : SqlTable where
  columns := [col "host_id", colOr "client_type" (.text "android"), col "display_name", col "app_version",
    col "native_token_hash", col "created_at", col "last_seen_at", col "revoked_at", col "revoked_reason"]
  uniques := [["host_id"], ["native_token_hash"]]

def webGrantsTable : SqlTable where
  columns := [col "id", col "grant_hash", col "registration_id", colOr "admin" (.int 0), col "created_at",
    col "revoked_at", col "revoked_reason"]
  uniques := [["id"], ["grant_hash"]]

def webSessionsTable : SqlTable where
  columns := [col "id", col "session_hash", col "registration_id", col "grant_id", colOr "admin" (.int 0),
    col "issued_at", col "expires_at", col "revoked_at"]
  uniques := [["id"], ["session_hash"]]

def mobileUploadDestinationsTable : SqlTable where
  columns := [col "id", col "registration_id", col "label", col "rel_path", col "folder_id", col "created_at",
    col "revoked_at"]
  uniques := [["id"], ["registration_id", "rel_path"]]

def mobileUploadsTable : SqlTable where
  columns := [col "id", col "registration_id", col "destination_id", col "idempotency_key", col "file_name",
    col "final_rel_path", col "target_folder_id", col "size_bytes", colOr "bytes_received" (.int 0), col "sha256",
    colOr "status" (.text "created"), col "error", col "created_at", col "updated_at", col "finalized_at"]
  uniques := [["id"], ["registration_id", "idempotency_key"]]

end Schema

open Schema

def serverSchema : List SqlStatement := [
  create "hosts" hostsTable,
  create "folders" foldersTable,
  create "folder_assignments" folderAssignmentsTable,
  create "dotfile_manifests" dotfileManifestsTable,
  create "app_profiles" appProfilesTable,
  create "dotfile_versions" dotfileVersionsTable,
  create "application_templates" applicationTemplatesTable,
  create "application_protections" applicationProtectionsTable,
  create "application_snapshots" applicationSnapshotsTable,
  index "idx_app_protections_host" "application_protections" ["host_id"],
  index "idx_app_protections_template" "application_protections" ["template_id"],
  index "idx_app_snapshots_protection_ts" "application_snapshots" ["protection_id", "created_at"],
  index "idx_app_snapshots_host" "application_snapshots" ["source_host_id"],
  create "restic_snapshots" resticSnapshotsTable,
  index "idx_restic_snapshots_folder_host" "restic_snapshots" ["folder_id", "host_id"],
  create "restic_restore_jobs" resticRestoreJobsTable,
  index "idx_restic_restore_jobs_target" "restic_restore_jobs" ["target_host_id", "status"],
  create "conflicts" conflictsTable,
  index "idx_conflicts_host_folder" "conflicts" ["host_id", "folder_id", "status"],
  create "operation_log" operationLogTable,
  create "notification_events" notificationEventsTable,
  create "notification_channels" notificationChannelsTable,
  create "backends" backendsTable,
  create "b2_management_config" b2ManagementConfigTable,
  create "seed_pilot_config" seedPilotConfigTable,
  create "browse_jobs" browseJobsTable,
  create "schedule_state" scheduleStateTable,
  index "idx_operation_log_host_ts" "operation_log" ["host_id", "timestamp"],
  index "idx_dotfile_versions_manifest_ts" "dotfile_versions" ["manifest_id", "timestamp"],
  create "folder_health" folderHealthTable,
  index "idx_folder_health_folder" "folder_health" ["folder_id"],
  index "idx_folder_health_host" "folder_health" ["host_id"],
  create "folder_health_history" folderHealthHistoryTable,
  index "idx_folder_health_history_assignment" "folder_health_history" ["assignment_id", "reported_at"],
  create "folder_sync_plans" folderSyncPlansTable,
  index "idx_folder_sync_plans_assignment" "folder_sync_plans" ["assignment_id", "created_at"],
  create "folder_seed_plans" folderSeedPlansTable,
  index "idx_folder_seed_plans_folder" "folder_seed_plans" ["folder_id", "created_at"],
  create "folder_seed_jobs" folderSeedJobsTable,
  index "idx_folder_seed_jobs_folder" "folder_seed_jobs" ["folder_id", "created_at"],
  index "idx_folder_seed_jobs_status_lease" "folder_seed_jobs" ["status", "lease_expires_at"],
  create "folder_locks" folderLocksTable,
  index "idx_folder_locks_locked_by" "folder_locks" ["locked_by"],
  create "queued_actions" queuedActionsTable,
  index "idx_queued_actions_host_status" "queued_actions" ["host_id", "status"],
  create "size_history" sizeHistoryTable,
  index "idx_size_history_ref_scope" "size_history" ["ref_id", "scope", "measured_at"],
  index "idx_size_history_scope_ref" "size_history" ["scope", "ref_id", "measured_at"],
  create "folder_size_invalidations" folderSizeInvalidationsTable,
  create "pause_state" pauseStateTable,
  index "idx_pause_state_host" "pause_state" ["host_id"],
  create "health_drills" healthDrillsTable,
  index "idx_health_drills_backend_ran_at" "health_drills" ["backend_id", "ran_at"],
  create "pairing_sessions" pairingSessionsTable,
  index "idx_pairing_sessions_expires_at" "pairing_sessions" ["expires_at"],
  create "api_keys" apiKeysTable,
  index "idx_api_keys_host_id" "api_keys" ["host_id"],
  create "server_deploy_jobs" serverDeployJobsTable,
  index "idx_server_deploy_jobs_status" "server_deploy_jobs" ["status", "requested_at"],
  create "mobile_enrollments" mobileEnrollmentsTable,
  index "idx_mobile_enrollments_status_expires" "mobile_enrollments" ["status", "expires_at"],
  index "idx_mobile_enrollments_host_id" "mobile_enrollments" ["host_id"],
  create "mobile_registrations" mobileRegistrationsTable,
  create "web_grants" webGrantsTable,
  index "idx_web_grants_registration" "web_grants" ["registration_id"],
  uniqueIndex "idx_web_grants_live_registration" "web_grants" ["registration_id"] fun row => (row "revoked_at").isNone,
  create "web_sessions" webSessionsTable,
  index "idx_web_sessions_registration" "web_sessions" ["registration_id"],
  index "idx_web_sessions_grant" "web_sessions" ["grant_id"],
  create "mobile_upload_destinations" mobileUploadDestinationsTable,
  index "idx_mobile_upload_destinations_registration" "mobile_upload_destinations" ["registration_id"],
  create "mobile_uploads" mobileUploadsTable,
  index "idx_mobile_uploads_registration_status" "mobile_uploads" ["registration_id", "status"]]

def columnMigrations : List (List SqlStatement) := [
  [.addColumn "folder_assignments" (col "mount_ignore_path")],
  [.addColumn "folder_assignments" (col "bandwidth_schedule")],
  [.addColumn "folder_assignments" (colOr "max_retries" (.int 3))],
  [.addColumn "folder_assignments" (col "available_space_threshold")],
  [.addColumn "folders" (colOr "encrypted" (.int 0))],
  [.addColumn "folders" (col "crypt_password")],
  [.addColumn "folder_assignments" (col "cache_profile")],
  [.addColumn "folder_assignments" (col "cache_max_size")],
  [.addColumn "schedule_state" (col "locked_by")],
  [.addColumn "schedule_state" (col "locked_at")],
  [.addColumn "schedule_state" (colOr "lock_ttl" (.int 1200))],
  [.addColumn "hosts" (col "lan_ip")],
  [.addColumn "folder_assignments" (col "restic_repository")],
  [.addColumn "folder_assignments" (col "restic_password")],
  [.addColumn "dotfile_manifests" (col "instructions")],
  [.addColumn "restic_restore_jobs" (col "include")],
  [index "idx_conflicts_host_folder" "conflicts" ["host_id", "folder_id", "status"]],
  [.addColumn "conflicts" (col "local_size")],
  [.addColumn "conflicts" (col "remote_size")],
  [.addColumn "conflicts" (colOr "demo" (.int 0))],
  [.addColumn "folders" (col "git_provider")],
  [.addColumn "folders" (col "git_remote")],
  [create "folder_locks" {
    columns := [col "folder_id", col "locked_by", col "locked_at", colOr "lock_ttl" (.int 1200), col "lock_id"]
    uniques := [["folder_id"]] }]]

def copyLocks : SqlStatement :=
  .insertOrReplace "folder_locks" fun db => (db.rows "folder_assignments").flatMap fun fa =>
    ((db.rows "schedule_state").filter fun ss =>
      sqlEq (ss "folder_assignment_id") (fa "id") && (ss "locked_by").isSome).map fun ss =>
      [("folder_id", fa "folder_id"), ("locked_by", ss "locked_by"), ("locked_at", ss "locked_at"),
        ("lock_ttl", ss "lock_ttl")]

def lockTableMigrations : List (List SqlStatement) :=
  [[copyLocks], [index "idx_folder_locks_locked_by" "folder_locks" ["locked_by"]]]

def folderStorageMigrations : List (List SqlStatement) := [
  [.addColumn "folders" (colOr "s3_provider" (.text "other"))],
  [.addColumn "folders" (colOr "backend" (.text "sftp"))],
  [.addColumn "folders" (col "s3_endpoint")],
  [.addColumn "folders" (col "s3_bucket")],
  [.addColumn "folders" (col "s3_access_key_id")],
  [.addColumn "folders" (col "s3_secret_access_key")],
  [.addColumn "folders" (col "s3_region")]]

def featureMigrations : List (List SqlStatement) := [
  [.addColumn "dotfile_manifests" (col "excludes")],
  [.addColumn "dotfile_manifests" (col "last_sync_at")],
  [.addColumn "dotfile_manifests" (col "last_sync_direction")],
  [.addColumn "dotfile_manifests" (col "original_uploader_host_id")],
  [.addColumn "dotfile_manifests" (col "profile_id")],
  [create "app_profiles" appProfilesTable],
  [index "idx_dotfile_manifests_profile_id" "dotfile_manifests" ["profile_id"]],
  [.addColumn "hosts" (col "version")],
  [.addColumn "hosts" (colOr "config_revision" (.int 0))],
  [.addColumn "hosts" (col "os")],
  [.addColumn "hosts" (col "storage_used_bytes")],
  [create "queued_actions" {
    columns := [col "id", col "host_id", col "type", col "payload", colOr "status" (.text "pending"),
      col "created_at", col "taken_at", col "completed_at", col "result"]
    uniques := [["id"]] }],
  [index "idx_queued_actions_host_status" "queued_actions" ["host_id", "status"]],
  [create "notification_events" notificationEventsTable],
  [.addColumn "hosts" (col "tailnet_ip")],
  [create "notification_channels" notificationChannelsTable],
  [create "backends" {
    columns := [col "id", col "name", colOr "kind" (.text "s3"), colOr "s3_provider" (.text "other"),
      col "s3_endpoint", col "s3_region", col "s3_access_key_id", col "s3_secret_key_enc", col "created_at"]
    uniques := [["id"], ["name"]] }],
  [.addColumn "backends" (col "local_path")],
  [.addColumn "backends" (col "restic_repository")],
  [.addColumn "backends" (col "restic_password_enc")],
  [.addColumn "folders" (col "backend_id")],
  [create "browse_jobs" browseJobsTable],
  [.addColumn "folder_assignments" (colOr "mode" (.text "inherit"))],
  [.addColumn "hosts" (colOr "demo" (.int 0))],
  [.addColumn "folders" (colOr "demo" (.int 0))],
  [.addColumn "folder_assignments" (colOr "demo" (.int 0))],
  [.addColumn "backends" (colOr "demo" (.int 0))],
  [.addColumn "operation_log" (colOr "demo" (.int 0))],
  [.addColumn "restic_snapshots" (colOr "demo" (.int 0))],
  [.addColumn "dotfile_manifests" (colOr "demo" (.int 0))],
  [.addColumn "restic_restore_jobs" (colOr "demo" (.int 0))],
  [create "size_history" sizeHistoryTable],
  [index "idx_size_history_ref_scope" "size_history" ["ref_id", "scope", "measured_at"]],
  [index "idx_size_history_scope_ref" "size_history" ["scope", "ref_id", "measured_at"]],
  [create "folder_size_invalidations" folderSizeInvalidationsTable],
  [create "pause_state" pauseStateTable],
  [index "idx_pause_state_host" "pause_state" ["host_id"]],
  [.addColumn "backends" (col "last_prove_at")],
  [.addColumn "backends" (col "last_prove_ok")],
  [create "health_drills" healthDrillsTable],
  [index "idx_health_drills_backend_ran_at" "health_drills" ["backend_id", "ran_at"]],
  [create "pairing_sessions" pairingSessionsTable],
  [index "idx_pairing_sessions_expires_at" "pairing_sessions" ["expires_at"]],
  [create "api_keys" apiKeysTable],
  [index "idx_api_keys_host_id" "api_keys" ["host_id"]],
  [.addColumn "folder_assignments" (col "destination")]]

def rebuildLocks : List SqlStatement := [
  .dropTable "folder_locks",
  .createTable false "folder_locks" folderLocksTable,
  index "idx_folder_locks_locked_by" "folder_locks" ["locked_by"]]

def folderName (db : SqlDb) (assignment : SqlRow) : Option SqlValue :=
  ((db.rows "folders").find? fun folder => sqlEq (folder "id") (assignment "folder_id")).bind fun folder =>
    folder "name"

def folderIn (db : SqlDb) (assignment : SqlRow) (guard : SqlRow → Bool) : Bool :=
  (db.rows "folders").any fun folder => guard folder && sqlEq (folder "id") (assignment "folder_id")

def backfillBackups : SqlStatement :=
  .update "folder_assignments"
    (fun db row => folderIn db row (fun folder => folder "type" = some (.text "backup")) && (row "destination").isNone)
    [("destination", fun db row => sqlConcat (sqlConcat (folderName db row) (some (.text "/"))) (row "host_id"))]

def backfillShared : SqlStatement :=
  .update "folder_assignments"
    (fun db row => folderIn db row (fun folder => (folder "type").isSome && folder "type" ≠ some (.text "backup")) &&
      (row "destination").isNone)
    [("destination", fun db row => folderName db row)]

def destinationMigrations : List (List SqlStatement) := [rebuildLocks, [backfillBackups], [backfillShared]]

def laterMigrations : List (List SqlStatement) := [
  [.addColumn "hosts" (colOr "host_class" (.text "unknown"))],
  [.addColumn "hosts" (colOr "host_class_overridden" (.int 0))],
  [.addColumn "operation_log" (col "trigger")],
  [.addColumn "folder_assignments" (colOr "watch_enabled" (.int 0))],
  [.addColumn "folder_assignments" (col "watch_quiet_sec")],
  [.addColumn "folder_assignments" (colOr "ignore_git_metadata" (.int 0))],
  [.addColumn "folder_assignments" (colOr "respect_gitignore" (.int 0))],
  [create "b2_management_config" b2ManagementConfigTable],
  [create "server_deploy_jobs" serverDeployJobsTable],
  [index "idx_server_deploy_jobs_status" "server_deploy_jobs" ["status", "requested_at"]],
  [create "application_templates" applicationTemplatesTable],
  [create "application_protections" {
    columns := [col "id", col "template_id", col "template_revision", col "host_id", col "name",
      colOr "enabled" (.int 1), col "schedule", colOr "destination" (.text "server_archive"), col "capture_spec",
      col "created_at", col "updated_at", colOr "demo" (.int 0)]
    uniques := [["id"], ["host_id", "template_id"]] }],
  [create "application_snapshots" {
    columns := [col "id", col "protection_id", col "template_id", col "template_revision", col "source_host_id",
      col "created_at", col "archive_path", colOr "archive_format" (.text "tar.gz"), col "size_bytes",
      col "checksum_sha256", col "description", col "captured_spec", colOr "integrity_status" (.text "unverified"),
      colOr "demo" (.int 0)]
    uniques := [["id"]] }],
  [index "idx_app_protections_host" "application_protections" ["host_id"]],
  [index "idx_app_protections_template" "application_protections" ["template_id"]],
  [index "idx_app_snapshots_protection_ts" "application_snapshots" ["protection_id", "created_at"]],
  [index "idx_app_snapshots_host" "application_snapshots" ["source_host_id"]],
  [create "mobile_enrollments" mobileEnrollmentsTable],
  [index "idx_mobile_enrollments_status_expires" "mobile_enrollments" ["status", "expires_at"]],
  [index "idx_mobile_enrollments_host_id" "mobile_enrollments" ["host_id"]],
  [create "mobile_registrations" mobileRegistrationsTable],
  [create "web_grants" webGrantsTable],
  [index "idx_web_grants_registration" "web_grants" ["registration_id"]],
  [uniqueIndex "idx_web_grants_live_registration" "web_grants" ["registration_id"]
    fun row => (row "revoked_at").isNone],
  [create "web_sessions" webSessionsTable],
  [index "idx_web_sessions_registration" "web_sessions" ["registration_id"]],
  [index "idx_web_sessions_grant" "web_sessions" ["grant_id"]],
  [create "mobile_upload_destinations" mobileUploadDestinationsTable],
  [index "idx_mobile_upload_destinations_registration" "mobile_upload_destinations" ["registration_id"]],
  [create "mobile_uploads" mobileUploadsTable],
  [index "idx_mobile_uploads_registration_status" "mobile_uploads" ["registration_id", "status"]],
  [.addColumn "mobile_upload_destinations" (col "folder_id")],
  [.addColumn "mobile_uploads" (col "target_folder_id")],
  [.addColumn "operation_log" (col "dedupe_key")],
  [uniqueIndex "idx_operation_log_dedupe_key" "operation_log" ["dedupe_key"] fun row => (row "dedupe_key").isSome],
  [.addColumn "application_protections" (col "backend_id")],
  [.addColumn "application_protections" (col "s3_bucket")],
  [.addColumn "application_snapshots" (col "backend_id")],
  [.addColumn "application_snapshots" (col "object_key")],
  [.addColumn "application_snapshots" (col "s3_bucket")],
  [.addColumn "application_protections" (col "retention_policy")],
  [.addColumn "folders" (col "retention_policy")],
  [.addColumn "folder_assignments" (col "bisync_max_delete_percent")],
  [.addColumn "folder_assignments" (col "mount_cache_mode")],
  [create "folder_health" folderHealthTable],
  [index "idx_folder_health_folder" "folder_health" ["folder_id"]],
  [index "idx_folder_health_host" "folder_health" ["host_id"]],
  [create "folder_health_history" folderHealthHistoryTable],
  [index "idx_folder_health_history_assignment" "folder_health_history" ["assignment_id", "reported_at"]],
  [create "folder_sync_plans" folderSyncPlansTable],
  [.addColumn "folder_sync_plans" (col "max_delete_percent")],
  [index "idx_folder_sync_plans_assignment" "folder_sync_plans" ["assignment_id", "created_at"]],
  [.addColumn "queued_actions" (col "lease_expires_at")],
  [create "folder_seed_plans" {
    columns := [col "id", col "folder_id", col "host_id", col "assignment_id", col "recommended",
      col "threshold_files", col "recommendation", col "source_file_count", col "source_bytes",
      col "source_measured_at", col "source_authority_host_id", col "source_authority", col "filter_universe",
      col "source_host_id", col "source_manifest_fingerprint", col "target_free_bytes", col "target_free_measured_at",
      col "target_host_id", col "staging_root", col "staging_same_filesystem", col "space", col "archive_format",
      col "archive_tooling", col "archive_tooling_ready", col "archive_estimate_bytes", col "archive_choice_reason",
      col "archive_fallback", col "staging_policy", col "config_revision", col "filter_fingerprint",
      col "baseline_fingerprint", col "execution_available", col "execution_reason", col "created_at",
      col "expires_at"]
    uniques := [["id"]] }],
  [.addColumn "folder_seed_plans" (col "source_authority_host_id")],
  [.addColumn "folder_seed_plans" (col "source_authority")],
  [.addColumn "folder_seed_plans" (col "filter_universe")],
  [index "idx_folder_seed_plans_folder" "folder_seed_plans" ["folder_id", "created_at"]],
  [create "folder_seed_jobs" {
    columns := [col "id", col "plan_id", col "folder_id", col "host_id", col "assignment_id", col "status",
      col "phase", col "progress", col "source", col "archive", col "staging", col "lease_owner",
      col "lease_expires_at", col "error", col "summary", col "created_at", col "started_at", col "updated_at",
      col "finished_at"]
    uniques := [["id"]] }],
  [.addColumn "folder_seed_jobs" (col "source_host_id")],
  [index "idx_folder_seed_jobs_folder" "folder_seed_jobs" ["folder_id", "created_at"]],
  [index "idx_folder_seed_jobs_status_lease" "folder_seed_jobs" ["status", "lease_expires_at"]],
  [create "seed_pilot_config" seedPilotConfigTable],
  [.addColumn "seed_pilot_config" (col "readiness_target_fingerprint")],
  [.addColumn "seed_pilot_config" (colOr "config_revision" (.int 0))],
  [.addColumn "folder_seed_plans" (col "target_measured_entries")]]

def migrations : List (List SqlStatement) :=
  columnMigrations ++ lockTableMigrations ++ folderStorageMigrations ++ featureMigrations ++ destinationMigrations ++
    laterMigrations

/-- The credentials that folders carried before there were backends. -/
def legacyS3Columns : List String :=
  ["s3_provider", "s3_endpoint", "s3_access_key_id", "s3_secret_access_key", "s3_region"]

def legacyS3DropMigrations : List (List SqlStatement) := legacyS3Columns.map fun c => [.dropColumn "folders" c]

end LamaSync
