import LamaSync.Daemon.DryRunChanges
import LamaSync.Daemon.Executor

/-!
# Reviewed plans

A plan says what was reviewed (the intervention, the side that wins, the share of files that may be deleted) and against
what: the revision of the configuration, the filters and the saved listings, until it expires.  An intervention is checked
against its plan, and the run is given the plan's own values.

`verifyPlanAgainstLive_ok` says what a passed check tells.
-/

namespace LamaSync

inductive PlannedIntervention where
  | initialise | seed | resync
  deriving DecidableEq, Repr

def PlannedIntervention.mode : PlannedIntervention → BisyncMode
  | .initialise => .initialise
  | .seed => .seed
  | .resync => .resync

inductive FolderIntervention where
  | planned (intervention : PlannedIntervention)
  | resume
  | cancel
  deriving DecidableEq, Repr

def FolderIntervention.text : FolderIntervention → String
  | .planned .initialise => "initialize"
  | .planned .seed => "seed"
  | .planned .resync => "resync"
  | .resume => "resume"
  | .cancel => "cancel"

structure FolderSyncPlan where
  id : String
  hostId : String
  folderId : String
  assignmentId : String
  intervention : PlannedIntervention
  authority : BisyncAuthority
  /-- Without one the plan was made with rclone's own threshold. -/
  maxDeletePercent : Option Int := none
  changes : PlanChanges := {}
  configRevision : Int := 0
  filterFingerprint : Option String := none
  baselineFingerprint : Option String := none
  expiresAt : Int
  deriving DecidableEq

/-- What a queued intervention asks for. -/
structure PlanSemanticRequest where
  intervention : FolderIntervention
  authority : Option BisyncAuthority := none
  maxDeletePercent : Option Int := none

structure FolderPlanExecution where
  intervention : PlannedIntervention
  authority : BisyncAuthority
  maxDeletePercent : Option Int
  deriving DecidableEq

structure LivePlanState where
  assignmentId : String
  hostId : String
  folderId : String
  configRevision : Int
  filterFingerprint : Option String
  baselineFingerprint : Option String
  now : Int

inductive PlanRefusal where
  | missing | semantics | expired | configChanged | filterChanged | baselineChanged
  deriving DecidableEq, Repr

def requiredAuthority : FolderIntervention → Option BisyncAuthority
  | .planned .initialise => some .remote
  | .planned .seed => some .local
  | .planned .resync | .resume | .cancel => none

def formatDeletePercent : Option Int → String
  | none => "rclone's default (50%)"
  | some percent => toString percent ++ "%"

def BisyncAuthority.winner : BisyncAuthority → String
  | .remote => "the remote"
  | .local => "this device"

def checkPlanSemantics (plan : FolderSyncPlan) (requested : PlanSemanticRequest) : Except String FolderPlanExecution :=
  if requested.intervention ≠ .planned plan.intervention then
    .error ("This plan was reviewed as \"" ++ (FolderIntervention.planned plan.intervention).text ++ "\", not \"" ++
      requested.intervention.text ++ "\". Plan again for the operation you want.")
  else match (requested.authority.or (requiredAuthority (.planned plan.intervention))).filter fun a => a ≠ plan.authority with
    | some wanted =>
      .error ("This plan was reviewed with " ++ plan.authority.winner ++ " authoritative, not " ++ wanted.winner ++
        ". Plan again with the side you want to win.")
    | none =>
      if requested.maxDeletePercent.isSome ∧ requested.maxDeletePercent ≠ plan.maxDeletePercent then
        .error ("This plan was reviewed with a " ++ formatDeletePercent plan.maxDeletePercent ++
          " deletion threshold, not " ++ formatDeletePercent requested.maxDeletePercent ++
          ". Plan again with the threshold you want.")
      else .ok ⟨plan.intervention, plan.authority, plan.maxDeletePercent⟩

def checkFolderPlanValidity (plan : FolderSyncPlan) (live : LivePlanState) : Option (PlanRefusal × String) :=
  if plan.expiresAt ≤ live.now then some (.expired, "This plan has expired — plan again.")
  else if live.configRevision ≠ plan.configRevision then
    some (.configChanged, "The assignment changed since this plan was built — plan again.")
  else if live.filterFingerprint ≠ plan.filterFingerprint then
    some (.filterChanged, "The ignore/filter set changed since this plan was built — plan again.")
  else if live.baselineFingerprint ≠ plan.baselineFingerprint then
    some (.baselineChanged, "The saved sync record changed since this plan was built — plan again.")
  else none

def verifyPlanAgainstLive (plan : FolderSyncPlan) (live : LivePlanState) (requested : PlanSemanticRequest) :
    Except (PlanRefusal × String) FolderPlanExecution :=
  if plan.assignmentId ≠ live.assignmentId ∨ plan.hostId ≠ live.hostId ∨ plan.folderId ≠ live.folderId then
    .error (.missing, "This plan belongs to a different assignment.")
  else match checkPlanSemantics plan requested with
    | .error message => .error (.semantics, message)
    | .ok execution =>
      match checkFolderPlanValidity plan live with
      | some refusal => .error refusal
      | none => .ok execution

def runControlFor (intervention : FolderIntervention) (authority : Option BisyncAuthority) (maxDeletePercent : Option Int) :
    BisyncRunControl :=
  match intervention with
  | .planned .initialise => { mode := .initialise, authority := some .remote, maxDeletePercent }
  | .planned .seed => { mode := .seed, authority := some .local, maxDeletePercent }
  | .planned .resync => { mode := .resync, authority := some (authority.getD .remote), maxDeletePercent }
  | .resume => { mode := .normal, maxDeletePercent }
  | .cancel => { mode := .normal }

def runControlFromExecution (execution : FolderPlanExecution) : BisyncRunControl where
  mode := execution.intervention.mode
  authority := some execution.authority
  maxDeletePercent := execution.maxDeletePercent

def FolderSyncPlan.control (plan : FolderSyncPlan) : BisyncRunControl :=
  runControlFromExecution ⟨plan.intervention, plan.authority, plan.maxDeletePercent⟩

def baselineFingerprint (sha256 : String → String) (inspection : BisyncBaselineInspection) : String :=
  if !inspection.present then "none"
  else sha256 (",".intercalate inspection.stems ++ "|" ++ toString (inspection.updatedAt.getD 0))

def liveFilterFingerprint (sha256 : String → String) (assignment : FolderAssignment) (type : FolderType)
    (machine : Surroundings) : Option (Option String) :=
  (loadFilterPatterns machine.filterFile
    (resolveFilterPath assignment.ignorePath assignment.mountIgnorePath (type = .mount)) assignment.localPath).map
      fun configured => (filterUniverse assignment.respectGitignore machine.snapshot
        (effectiveSyncFilterPatterns configured type assignment.ignoreGitMetadata)).fingerprint sha256

structure FolderSyncPlan.IsCurrent (plan : FolderSyncPlan) (live : LivePlanState) : Prop where
  notExpired : live.now < plan.expiresAt
  configRevision : live.configRevision = plan.configRevision
  filterFingerprint : live.filterFingerprint = plan.filterFingerprint
  baselineFingerprint : live.baselineFingerprint = plan.baselineFingerprint

variable {plan : FolderSyncPlan}

theorem checkFolderPlanValidity_none {live : LivePlanState} :
    checkFolderPlanValidity plan live = none ↔ plan.IsCurrent live := by
  unfold checkFolderPlanValidity
  constructor
  · intro h
    by_cases hexp : plan.expiresAt ≤ live.now
    · simp [hexp] at h
    by_cases hrev : live.configRevision = plan.configRevision
    · by_cases hfilt : live.filterFingerprint = plan.filterFingerprint
      · by_cases hba : live.baselineFingerprint = plan.baselineFingerprint
        · exact ⟨by omega, hrev, hfilt, hba⟩
        · simp [hexp, hrev, hfilt, hba] at h
      · simp [hexp, hrev, hfilt] at h
    · simp [hexp, hrev] at h
  · intro h
    have hexp : ¬plan.expiresAt ≤ live.now := by
      have hlt := h.notExpired
      omega
    simp [hexp, h.configRevision, h.filterFingerprint, h.baselineFingerprint]

theorem checkPlanSemantics_ok {requested : PlanSemanticRequest} {execution : FolderPlanExecution}
    (h : checkPlanSemantics plan requested = .ok execution) :
    execution = ⟨plan.intervention, plan.authority, plan.maxDeletePercent⟩ := by
  unfold checkPlanSemantics at h
  split at h
  · cases h
  split at h
  · cases h
  · split at h
    · cases h
    · exact (Except.ok.inj h).symm

theorem verifyPlanAgainstLive_ok {live : LivePlanState} {requested : PlanSemanticRequest}
    {execution : FolderPlanExecution} (h : verifyPlanAgainstLive plan live requested = .ok execution) :
    plan.IsCurrent live ∧ runControlFromExecution execution = plan.control := by
  unfold verifyPlanAgainstLive at h
  split at h
  · cases h
  cases hse : checkPlanSemantics plan requested with
  | error message =>
    rw [hse] at h
    cases h
  | ok executed =>
    rw [hse] at h
    dsimp only at h
    cases hv : checkFolderPlanValidity plan live with
    | some refusal =>
      rw [hv] at h
      cases h
    | none =>
      rw [hv] at h
      rw [← Except.ok.inj h, checkPlanSemantics_ok hse]
      exact ⟨checkFolderPlanValidity_none.1 hv, rfl⟩

theorem FolderSyncPlan.control_mode (plan : FolderSyncPlan) : plan.control.mode ≠ .normal := by
  show plan.intervention.mode ≠ .normal
  cases plan.intervention with
  | initialise | seed | resync => decide

end LamaSync
