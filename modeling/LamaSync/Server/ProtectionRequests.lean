import LamaSync.Server.ConfigRevision
import LamaSync.Server.FolderRequests
import LamaSync.Server.SnapshotArchives

/-!
# The writes of app templates and protections

The routes that make and change the templates of applications and their protections on the hosts, next to those of folders:
a protection refers to a host and may have a backend as its destination.

A schedule is validated when it is written, and a blank one is an error: without a schedule it is null.
-/

namespace LamaSync

structure AppTemplate where
  id : String
  name : String
  revision : Nat := 1
  paths : CaptureSpec

structure ProtectionRow extends ConfigProtection where
  templateId : String
  templateRevision : Nat
  destination : String
  backendId : Option String
  s3Bucket : Option String

/-- The rows of the folder routes and those of the app routes, with the operating systems that the hosts reported. -/
structure AppStore where
  rows : FolderStore := {}
  os : Table String String := fun _ => none
  templates : List AppTemplate := []
  protections : List ProtectionRow := []

structure EnrollBody where
  templateId : String
  hostId : String
  schedule : Option String := none
  name : Option String := none
  backendId : Option String := none
  s3Bucket : Option String := none

/-- A field that may be missing; of those that may be null as well, the inner option is the value. -/
structure ProtectionPatch where
  name : Option String := none
  enabled : Option Bool := none
  schedule : Option (Option String) := none
  backendId : Option (Option String) := none
  s3Bucket : Option (Option String) := none

inductive AppRequest where
  | folder (request : FolderRequest)
  | reportOs (hostId os : String)
  | createTemplate (id : RandomUuid) (name : String) (paths : CaptureSpec)
  | updateTemplate (id : String) (name : Option String) (paths : Option CaptureSpec)
  | deleteTemplate (id : String)
  | enroll (id : RandomUuid) (body : EnrollBody)
  | updateProtection (id : String) (patch : ProtectionPatch)
  | deleteProtection (id : String) (snapshots : Bool)

def isAllowedAppBackendKind : BackendKind → Bool
  | .s3 | .local | .nfs => true
  | .restic => false

structure DestinationChoice where
  backendId : Option String
  s3Bucket : Option String
  destination : String

def serverArchiveChoice : DestinationChoice := { backendId := none, s3Bucket := none, destination := "server_archive" }

def globalHostId : String := "_global"

namespace AppStore

/- `cronError` is what the third-party parser of schedules throws. -/
variable (cronError : String → Option String) (s : AppStore)

def validateDestination (backendId s3Bucket : Option String) : Except String DestinationChoice :=
  match presentTrimmed backendId with
  | none =>
    if (presentTrimmed s3Bucket).isSome then .error "s3Bucket is only valid with a backend" else .ok serverArchiveChoice
  | some id =>
    match s.rows.getBackend id with
    | none => .error "backend not found"
    | some backend =>
      if !isAllowedAppBackendKind backend.kind then
        .error ("backend kind '" ++ backend.kind.folderBackend.text ++
          "' is not a valid app backup destination (allowed: s3, local, nfs)")
      else
        (validateBucketForKind (presentTrimmed s3Bucket) backend.kind.folderBackend.text).map fun bucket =>
          { backendId := some id, s3Bucket := bucket.val, destination := backend.name }

def protectionScheduleError (schedule : Option String) : Option RouteError :=
  (schedule.bind (validateScheduleExpression cronError)).map fun error => ⟨400, error⟩

def createTemplate (id : RandomUuid) (name : String) (paths : CaptureSpec) : Except RouteError AppStore :=
  if s.templates.any fun t => t.id = id.val then .error ⟨409, "Failed to create template: UNIQUE constraint failed"⟩
  else .ok { s with templates := s.templates ++ [{ id := id.val, name, paths }] }

def updateTemplate (id : String) (name : Option String) (paths : Option CaptureSpec) : Except RouteError AppStore :=
  if s.templates.any fun t => t.id = id then
    .ok { s with templates := s.templates.map fun t =>
      if t.id = id then { t with name := name.getD t.name, paths := paths.getD t.paths, revision := t.revision + 1 } else t }
  else .error ⟨404, "Template not found"⟩

def deleteTemplate (id : String) : Except RouteError AppStore :=
  if !s.templates.any fun t => t.id = id then .error ⟨404, "Template not found"⟩
  else if s.protections.any fun p => p.templateId = id then
    .error ⟨409, "Template has active protections; delete those first"⟩
  else .ok { s with templates := s.templates.filter fun t => t.id ≠ id }

def newProtection (id : RandomUuid) (body : EnrollBody) (template : AppTemplate) (choice : DestinationChoice) : ProtectionRow where
  id := id.val
  hostId := body.hostId
  name := body.name.getD template.name
  schedule := body.schedule
  enabled := true
  captureSpec := template.paths
  templateId := template.id
  templateRevision := template.revision
  destination := choice.destination
  backendId := choice.backendId
  s3Bucket := choice.s3Bucket

def noPaths (key : OsKey) : String := "Template has no capture paths for this host's " ++ key.name ++ " OS"

def enroll (id : RandomUuid) (body : EnrollBody) : Except RouteError AppStore :=
  if body.hostId = globalHostId then .error ⟨400, "Protections must be bound to a real host, not _global"⟩
  else match s.templates.find? fun t => t.id = body.templateId with
    | none => .error ⟨404, "Template not found"⟩
    | some template =>
      if body.hostId ∉ s.rows.hosts then .error ⟨404, "Host not found"⟩
      else if s.protections.any fun p => p.hostId = body.hostId ∧ p.templateId = body.templateId then
        .error ⟨409, "A protection already exists for this host and template"⟩
      else match s.validateDestination body.backendId body.s3Bucket with
        | .error error => .error ⟨400, error⟩
        | .ok choice =>
          let os := osKeyFor (s.os body.hostId)
          match firstError [
            protectionScheduleError cronError body.schedule,
            refuseIf (template.paths.paths os).isEmpty 409 (noPaths os),
            refuseIf (s.protections.any fun p => p.id = id.val) 500
              "UNIQUE constraint failed: application_protections.id"] with
          | some error => .error error
          | none => .ok { s with protections := s.protections ++ [newProtection id body template choice] }

def patchedDestination (old : ProtectionRow) (patch : ProtectionPatch) : Except String DestinationChoice :=
  if patch.backendId.isNone ∧ patch.s3Bucket.isNone then
    .ok { backendId := old.backendId, s3Bucket := old.s3Bucket, destination := old.destination }
  else s.validateDestination (patch.backendId.getD old.backendId)
    (patch.s3Bucket.getD (if patch.backendId = some none then none else old.s3Bucket))

def patchedProtection (old : ProtectionRow) (patch : ProtectionPatch) (choice : DestinationChoice) : ProtectionRow :=
  { old with
    name := patch.name.getD old.name
    enabled := patch.enabled.getD old.enabled
    schedule := patch.schedule.getD old.schedule
    backendId := choice.backendId
    s3Bucket := choice.s3Bucket
    destination := choice.destination }

def updateProtection (id : String) (patch : ProtectionPatch) : Except RouteError AppStore :=
  match s.protections.find? fun p => p.id = id with
  | none => .error ⟨404, "Protection not found"⟩
  | some old =>
    match protectionScheduleError cronError (patch.schedule.getD none) with
    | some error => .error error
    | none =>
      match s.patchedDestination old patch with
      | .error error => .error ⟨400, error⟩
      | .ok choice => .ok { s with protections := s.protections.map fun p =>
          if p.id = id then patchedProtection old patch choice else p }

def deleteProtection (id : String) (snapshots : Bool) : Except RouteError AppStore :=
  if !s.protections.any fun p => p.id = id then .error ⟨404, "Protection not found"⟩
  else if snapshots then
    .error ⟨409, "Protection has snapshots; disable it to stop capture and retain its history"⟩
  else .ok { s with protections := s.protections.filter fun p => p.id ≠ id }

def serve : AppRequest → Except RouteError AppStore
  | .folder request => (s.rows.serve cronError request).map fun rows => { s with rows }
  | .reportOs hostId os => .ok { s with os := s.os.put hostId os }
  | .createTemplate id name paths => s.createTemplate id name paths
  | .updateTemplate id name paths => s.updateTemplate id name paths
  | .deleteTemplate id => s.deleteTemplate id
  | .enroll id body => s.enroll cronError id body
  | .updateProtection id patch => s.updateProtection cronError id patch
  | .deleteProtection id snapshots => s.deleteProtection id snapshots

def step (request : AppRequest) : AppStore := (s.serve cronError request).toOption.getD s

def after (requests : List AppRequest) : AppStore := requests.foldl (step cronError) {}

end AppStore

section Schedules

variable {cronError : String → Option String}

structure AppStore.SchedulesValidated (cronError : String → Option String) (s : AppStore) : Prop where
  assignments : ∀ a ∈ s.rows.assignments, scheduleError cronError a.syncExpr = none
  protections : ∀ p ∈ s.protections, AppStore.protectionScheduleError cronError p.schedule = none

theorem scheduled_of_serve {s s' : FolderStore} {request : FolderRequest} (hsv : s.serve cronError request = .ok s')
    (h : ∀ a ∈ s.assignments, scheduleError cronError a.syncExpr = none) :
    ∀ a ∈ s'.assignments, scheduleError cronError a.syncExpr = none := by
  -- the requests on other tables, and those that take rows away
  have hkept : (∀ a ∈ s'.assignments, a ∈ s.assignments) →
      ∀ a ∈ s'.assignments, scheduleError cronError a.syncExpr = none := fun hsub a ha => h a (hsub a ha)
  cases request with
  | addHost _ | createBackend _ _ | updateBackend _ _ | deleteBackend _ _ _ | createFolder _ _ _ _ | updateFolder _ _ _ =>
    dsimp only [FolderStore.serve, FolderStore.createBackend, FolderStore.updateBackend, FolderStore.deleteBackend,
      FolderStore.createFolder, FolderStore.updateFolder] at hsv
    repeat (split at hsv; · cases hsv)
    obtain rfl := Except.ok.inj hsv
    exact hkept fun a ha => ha
  | deleteFolder _ | unassign _ _ =>
    dsimp only [FolderStore.serve, FolderStore.deleteFolder, FolderStore.unassign] at hsv
    split at hsv
    · obtain rfl := Except.ok.inj hsv
      exact hkept fun a ha => (List.mem_filter.1 ha).1
    · cases hsv
  | assign id folderId body =>
    dsimp only [FolderStore.serve, FolderStore.assign] at hsv
    split at hsv
    · cases hsv
    split at hsv
    · cases hsv
    · rename_i her
      split at hsv
      · cases hsv
      obtain rfl := Except.ok.inj hsv
      simp only [firstError_eq_none, List.forall_mem_cons] at her
      obtain ⟨-, -, -, -, -, hsc, -⟩ := her
      exact List.forall_mem_append.2 ⟨h, List.forall_mem_singleton.2 hsc⟩
  | patchAssignment folderId hostId patch =>
    dsimp only [FolderStore.serve, FolderStore.patchAssignment] at hsv
    split at hsv
    · cases hsv
    rename_i her
    obtain rfl := Except.ok.inj hsv
    simp only [firstError_eq_none, List.forall_mem_cons] at her
    obtain ⟨-, hsc, -⟩ := her
    intro a ha
    obtain ⟨old, hold, rfl⟩ := List.mem_map.1 ha
    split
    · -- a patch without a schedule keeps the old one
      show scheduleError cronError (patch.syncExpr.getD old.syncExpr) = none
      cases hpa : patch.syncExpr with
      | none => exact h old hold
      | some syncExpr =>
        rw [hpa] at hsc
        exact hsc
    · exact h old hold

theorem AppStore.SchedulesValidated.step {s : AppStore} {request : AppRequest} (h : s.SchedulesValidated cronError) :
    (s.step cronError request).SchedulesValidated cronError := by
  unfold AppStore.step
  cases hsv : s.serve cronError request with
  | error error => exact h
  | ok s' =>
    show s'.SchedulesValidated cronError
    cases request with
    | folder request =>
      dsimp only [AppStore.serve] at hsv
      cases hrows : s.rows.serve cronError request with
      | error error =>
        rw [hrows] at hsv
        cases hsv
      | ok rows =>
        rw [hrows] at hsv
        obtain rfl := Except.ok.inj hsv
        exact ⟨scheduled_of_serve hrows h.assignments, h.protections⟩
    | reportOs _ _ | createTemplate _ _ _ | deleteTemplate _ =>
      dsimp only [AppStore.serve, AppStore.createTemplate, AppStore.deleteTemplate] at hsv
      repeat (split at hsv; · cases hsv)
      obtain rfl := Except.ok.inj hsv
      exact ⟨h.assignments, h.protections⟩
    | updateTemplate id name paths =>
      dsimp only [AppStore.serve, AppStore.updateTemplate] at hsv
      split at hsv
      · obtain rfl := Except.ok.inj hsv
        exact ⟨h.assignments, h.protections⟩
      · cases hsv
    | enroll id body =>
      dsimp only [AppStore.serve, AppStore.enroll] at hsv
      repeat (split at hsv; · cases hsv)
      rename_i her
      obtain rfl := Except.ok.inj hsv
      simp only [firstError_eq_none, List.forall_mem_cons] at her
      exact ⟨h.assignments, List.forall_mem_append.2 ⟨h.protections, List.forall_mem_singleton.2 her.1⟩⟩
    | updateProtection id patch =>
      dsimp only [AppStore.serve, AppStore.updateProtection] at hsv
      split at hsv
      · cases hsv
      rename_i old hold
      split at hsv
      · cases hsv
      rename_i hsc
      split at hsv
      · cases hsv
      obtain rfl := Except.ok.inj hsv
      refine ⟨h.assignments, ?_⟩
      intro p hp
      obtain ⟨row, hrow, rfl⟩ := List.mem_map.1 hp
      split
      · show AppStore.protectionScheduleError cronError (patch.schedule.getD old.schedule) = none
        cases hpa : patch.schedule with
        | none => exact h.protections old (List.mem_of_find?_eq_some hold)
        | some schedule =>
          rw [hpa] at hsc
          exact hsc
      · exact h.protections row hrow
    | deleteProtection id snapshots =>
      dsimp only [AppStore.serve, AppStore.deleteProtection] at hsv
      split at hsv
      · cases hsv
      split at hsv
      · cases hsv
      · obtain rfl := Except.ok.inj hsv
        exact ⟨h.assignments, fun p hp => h.protections p (List.mem_filter.1 hp).1⟩

theorem schedulesValidated_after (cronError : String → Option String) (requests : List AppRequest) :
    (AppStore.after cronError requests).SchedulesValidated cronError := by
  have hrun : ∀ (requests : List AppRequest) (s : AppStore), s.SchedulesValidated cronError →
      (requests.foldl (AppStore.step cronError) s).SchedulesValidated cronError := by
    intro requests
    induction requests with
    | nil => exact fun _ h => h
    | cons request requests ih => exact fun s h => ih _ h.step
  exact hrun requests {} ⟨fun a ha => absurd ha List.not_mem_nil, fun p hp => absurd hp List.not_mem_nil⟩

end Schedules

end LamaSync
