import LamaSync.Daemon.FolderPlan
import LamaSync.Daemon.Launches
import LamaSync.Lib.Trace

/-!
# Interventions with a reviewed plan

The handler of an intervention looks its folder up in the configuration that is cached, fetches the plan, checks it, and
calls `runOnce`.  A plan without content changes is tried in a dry run first.  A run waits for the mutex of its folder and
for the destination lock before it starts; meanwhile other runs of the folder come to their turn, the configuration is
refreshed, files change and time passes.

`reviewed_plan_executed` says under which steps every rclone that the intervention launches is the reviewed one.
-/

namespace LamaSync

open Trace

structure DaemonConfig where
  configRevision : Option Int := none
  assignments : List FolderAssignment := []
  folders : List Folder := []
  hostConfig : HostConfig := {}

def DaemonConfig.revision (config : DaemonConfig) : Int := config.configRevision.getD 0

def DaemonConfig.findFolder (config : DaemonConfig) (folderId : String) : Option Folder :=
  config.folders.find? fun f => f.id == folderId

structure FolderInstruction where
  intervention : FolderIntervention
  authority : Option BisyncAuthority := none
  planId : Option String := none
  maxDeletePercent : Option Int := none

/-- What the handler has in its hands when it calls `runOnce`. -/
structure ReviewedRun where
  plan : Option FolderSyncPlan
  assignment : FolderAssignment
  control : BisyncRunControl

inductive InterventionStage where
  | idle
  | fetching (instruction : FolderInstruction) (assignment : FolderAssignment) (folder : Folder) (config : DaemonConfig)
  | waiting (review : ReviewedRun) (opts : ExecuteOptions)
  | running (review : ReviewedRun) (dryRun : Bool)

structure DaemonRun where
  opts : ExecuteOptions
  env : Surroundings
  found : Host
  rest : List ExecutorEvent

structure PlanSystem where
  now : Int
  config : Option DaemonConfig
  /-- What a run would find on the machine now. -/
  machine : Surroundings
  host : Host := {}
  current : Option DaemonRun := none
  intervention : InterventionStage := .idle

inductive PlanEvent where
  | passes (ms : Nat)
  | refreshConfig (config : DaemonConfig)
  | machineChanges (machine : Surroundings)
  /-- A run that is scheduled, watched for or queued gets the mutex and the lock. -/
  | otherRun (opts : ExecuteOptions)
  | dispatch (instruction : FolderInstruction)
  | planArrives (plan : Option FolderSyncPlan)
  /-- The run of the intervention gets the mutex and the lock. -/
  | runStarts
  /-- It gets the mutex and not the lock. -/
  | deferred
  | runEvent
  | runEnds (report : Option DryRunReport)

namespace PlanSystem

variable (sha256 : String → String) (hostId folderId : String) (s : PlanSystem)

def resolveInterventionTarget (config : DaemonConfig) : Option (FolderAssignment × Folder) :=
  match config.assignments.find? fun a => a.folderId == folderId with
  | none => none
  | some assignment => (config.findFolder folderId).map fun folder => (assignment, folder)

def runOnce (assignment : FolderAssignment) (control : BisyncRunControl) (dryRun : Bool) : Option ExecuteOptions :=
  s.config.bind fun config => (config.findFolder assignment.folderId).map fun folder => {
    assignment
    folder := { folder with type := effectiveFolderType folder assignment }
    hostConfig := config.hostConfig
    hostId
    dryRun
    bisync := some control }

def callRunOnce (review : ReviewedRun) (dryRun : Bool) : PlanSystem :=
  { s with
    intervention :=
      match s.runOnce hostId review.assignment review.control dryRun with
      | none => .idle
      | some opts => .waiting review opts }

def idle : PlanSystem := { s with intervention := .idle }

def started (opts : ExecuteOptions) : DaemonRun where
  opts
  env := { s.machine with now := s.now }
  found := s.host
  rest := (executeAssignment sha256 opts { s.machine with now := s.now }).log Host.step s.host

def dispatch (instruction : FolderInstruction) : PlanSystem :=
  match s.intervention, s.config with
  | .idle, some config =>
    match resolveInterventionTarget folderId config with
    | none => s
    | some (assignment, folder) =>
      if instruction.intervention = .cancel then s
      else if effectiveFolderType folder assignment ≠ .sync then s
      else if instruction.planId.isSome then { s with intervention := .fetching instruction assignment folder config }
      else s.callRunOnce hostId ⟨none, assignment, runControlFor instruction.intervention none none⟩ false
  | _, _ => s

def live (config : DaemonConfig) (assignment : FolderAssignment) (fingerprint : Option String) : LivePlanState where
  assignmentId := assignment.id
  hostId
  folderId
  configRevision := config.revision
  filterFingerprint := fingerprint
  baselineFingerprint := some (baselineFingerprint sha256 (inspectBisyncBaseline s.host.files false))
  now := s.now

def approved (plan : FolderSyncPlan) (assignment : FolderAssignment) (execution : FolderPlanExecution) : PlanSystem :=
  s.callRunOnce hostId ⟨some plan, assignment, runControlFromExecution execution⟩ (!planHasContentChanges plan.changes)

def planArrives (found : Option FolderSyncPlan) : PlanSystem :=
  match s.intervention, found with
  | .fetching instruction assignment folder config, some plan =>
    match liveFilterFingerprint sha256 assignment (effectiveFolderType folder assignment) s.machine with
    | none => s.idle
    | some fingerprint =>
      match verifyPlanAgainstLive plan (s.live sha256 hostId folderId config assignment fingerprint)
          ⟨instruction.intervention, instruction.authority, instruction.maxDeletePercent⟩ with
      | .error _ => s.idle
      | .ok execution => s.approved hostId plan assignment execution
  | .fetching .., none => s.idle
  | _, _ => s

def otherRun (opts : ExecuteOptions) : PlanSystem :=
  match s.current with
  | none => { s with current := some (s.started sha256 opts) }
  | some _ => s

def runStarts : PlanSystem :=
  match s.intervention, s.current with
  | .waiting review opts, none =>
    { s with current := some (s.started sha256 opts), intervention := .running review opts.dryRun }
  | _, _ => s

def deferred : PlanSystem :=
  match s.intervention, s.current with
  | .waiting .., none => s.idle
  | _, _ => s

def runEvent : PlanSystem :=
  match s.current with
  | none => s
  | some run =>
    match run.rest with
    | [] => s
    | e :: rest => { s with host := s.host.step e, current := some { run with rest := rest } }

def returned (report : Option DryRunReport) : PlanSystem :=
  match s.intervention with
  | .running review true =>
    if (recheckZeroContentExecution report).isOk then s.callRunOnce hostId review false else s.idle
  | .running _ false => s.idle
  | .idle | .fetching .. | .waiting .. => s

def runEnds (report : Option DryRunReport) : PlanSystem :=
  match s.current with
  | none => s
  | some run => if run.rest = [] then { s with current := none }.returned hostId report else s

def step : PlanEvent → PlanSystem
  | .passes ms => { s with now := s.now + ms }
  | .refreshConfig config => { s with config := some config }
  | .machineChanges machine => { s with machine := machine }
  | .otherRun opts => s.otherRun sha256 opts
  | .dispatch instruction => s.dispatch hostId folderId instruction
  | .planArrives plan => s.planArrives sha256 hostId folderId plan
  | .runStarts => s.runStarts sha256
  | .deferred => s.deferred
  | .runEvent => s.runEvent
  | .runEnds report => s.runEnds hostId report

end PlanSystem

def BisyncAuthority.resyncMode : BisyncAuthority → ResyncMode
  | .remote => .path1
  | .local => .path2

namespace PlanSystem

variable (sha256 : String → String) (folderId : String) (s : PlanSystem)

/-- The identity of the listings that are in the work directory. -/
def baseline : String := baselineFingerprint sha256 (inspectBisyncBaseline s.host.files false)

structure ReviewedLaunch (plan : FolderSyncPlan) (run : DaemonRun) (command : List Arg) (filter : Option String) : Prop where
  mode : run.opts.bisync.map BisyncRunControl.mode = some plan.intervention.mode
  authority : optionValue "--resync-mode" command = some plan.authority.resyncMode.text
  threshold : optionValue "--max-delete" command = plan.maxDeletePercent.map toString
  revision : s.config.map DaemonConfig.revision = some plan.configRevision
  filters : ∃ inputs, preparedInputs run.opts run.env = .ok inputs ∧ filter = inputs.filters.filterFrom ∧
    inputs.filters.fingerprint sha256 = plan.filterFingerprint
  baseline : some (baselineFingerprint sha256 (inspectBisyncBaseline run.found.files false)) = plan.baselineFingerprint
  notExpired : s.now < plan.expiresAt

def reviewedLaunch : PlanEvent → Option (FolderSyncPlan × DaemonRun × List Arg × Option String)
  | .runEvent =>
    match s.intervention, s.current with
    | .running ⟨some plan, _, _⟩ false, some run =>
      match run.rest with
      | .rclone command filter _ :: _ => some (plan, run, command, filter)
      | _ => none
    | _, _ => none
  | _ => none

def LaunchAsReviewed (e : PlanEvent) : Prop :=
  ∀ plan run command filter, s.reviewedLaunch e = some (plan, run, command, filter) →
    s.ReviewedLaunch sha256 plan run command filter

def KeepsConfig (config : DaemonConfig) : Prop :=
  ∀ cached ∈ s.config, config.revision = cached.revision ∧ config.findFolder folderId = cached.findFolder folderId

def KeepsFetching (assignment : FolderAssignment) : PlanEvent → Prop
  | .refreshConfig config => s.KeepsConfig folderId config
  | .planArrives (some plan) => plan.maxDeletePercent = none → assignment.bisyncMaxDeletePercent = none
  | .planArrives none | .passes _ | .machineChanges _ | .otherRun _ | .dispatch _ | .runStarts | .deferred | .runEvent
  | .runEnds _ => True

def KeepsWaiting (plan : FolderSyncPlan) (assignment : FolderAssignment) : PlanEvent → Prop
  | .refreshConfig config => s.KeepsConfig folderId config
  | .passes ms => s.now + ms < plan.expiresAt
  | .machineChanges machine =>
    liveFilterFingerprint sha256 assignment .sync machine = liveFilterFingerprint sha256 assignment .sync s.machine
  | .runEvent => s.runEvent.baseline sha256 = s.baseline sha256
  | .otherRun _ | .dispatch _ | .planArrives _ | .runStarts | .deferred | .runEnds _ => True

def KeepsRunning (plan : FolderSyncPlan) : PlanEvent → Prop
  | .refreshConfig config => s.KeepsConfig folderId config
  | .passes ms => s.now + ms < plan.expiresAt
  | .machineChanges _ | .otherRun _ | .dispatch _ | .planArrives _ | .runStarts | .deferred | .runEvent | .runEnds _ => True

/-- In a stage of the handler the step leaves the review as it is. -/
def KeepsReviewAt (e : PlanEvent) : InterventionStage → Prop
  | .idle => True
  | .fetching _ assignment _ _ => s.KeepsFetching folderId assignment e
  | .waiting review _ | .running review true =>
    ∀ plan ∈ review.plan, s.KeepsWaiting sha256 folderId plan review.assignment e
  | .running review false => ∀ plan ∈ review.plan, s.KeepsRunning folderId plan e

/-- The step leaves the review as it is. -/
def KeepsReview (e : PlanEvent) : Prop := s.KeepsReviewAt sha256 folderId e s.intervention

instance (config : DaemonConfig) : Decidable (s.KeepsConfig folderId config) :=
  inferInstanceAs (Decidable (∀ cached ∈ s.config,
    config.revision = cached.revision ∧ config.findFolder folderId = cached.findFolder folderId))

instance (assignment : FolderAssignment) : ∀ e : PlanEvent, Decidable (s.KeepsFetching folderId assignment e)
  | .refreshConfig config => inferInstanceAs (Decidable (s.KeepsConfig folderId config))
  | .planArrives (some plan) =>
    inferInstanceAs (Decidable (plan.maxDeletePercent = none → assignment.bisyncMaxDeletePercent = none))
  | .planArrives none | .passes _ | .machineChanges _ | .otherRun _ | .dispatch _ | .runStarts | .deferred | .runEvent
  | .runEnds _ => isTrue trivial

instance (plan : FolderSyncPlan) (assignment : FolderAssignment) :
    ∀ e : PlanEvent, Decidable (s.KeepsWaiting sha256 folderId plan assignment e)
  | .refreshConfig config => inferInstanceAs (Decidable (s.KeepsConfig folderId config))
  | .passes ms => inferInstanceAs (Decidable (s.now + ms < plan.expiresAt))
  | .machineChanges machine => inferInstanceAs (Decidable
      (liveFilterFingerprint sha256 assignment .sync machine = liveFilterFingerprint sha256 assignment .sync s.machine))
  | .runEvent => inferInstanceAs (Decidable (s.runEvent.baseline sha256 = s.baseline sha256))
  | .otherRun _ | .dispatch _ | .planArrives _ | .runStarts | .deferred | .runEnds _ => isTrue trivial

instance (plan : FolderSyncPlan) : ∀ e : PlanEvent, Decidable (s.KeepsRunning folderId plan e)
  | .refreshConfig config => inferInstanceAs (Decidable (s.KeepsConfig folderId config))
  | .passes ms => inferInstanceAs (Decidable (s.now + ms < plan.expiresAt))
  | .machineChanges _ | .otherRun _ | .dispatch _ | .planArrives _ | .runStarts | .deferred | .runEvent | .runEnds _ =>
    isTrue trivial

instance (e : PlanEvent) : ∀ stage : InterventionStage, Decidable (s.KeepsReviewAt sha256 folderId e stage)
  | .idle => isTrue trivial
  | .fetching _ assignment _ _ => inferInstanceAs (Decidable (s.KeepsFetching folderId assignment e))
  | .waiting review _ | .running review true =>
    inferInstanceAs (Decidable (∀ plan ∈ review.plan, s.KeepsWaiting sha256 folderId plan review.assignment e))
  | .running review false => inferInstanceAs (Decidable (∀ plan ∈ review.plan, s.KeepsRunning folderId plan e))

instance (e : PlanEvent) : Decidable (s.KeepsReview sha256 folderId e) :=
  inferInstanceAs (Decidable (s.KeepsReviewAt sha256 folderId e s.intervention))

structure ReviewOf (review : ReviewedRun) (plan : FolderSyncPlan) : Prop where
  control : review.control = plan.control
  assigned : review.assignment.folderId = folderId
  threshold : plan.maxDeletePercent = none → review.assignment.bisyncMaxDeletePercent = none

structure Timely (plan : FolderSyncPlan) : Prop where
  revision : s.config.map DaemonConfig.revision = some plan.configRevision
  notExpired : s.now < plan.expiresAt

/-- The check would pass now. -/
structure Verified (plan : FolderSyncPlan) (assignment : FolderAssignment) : Prop where
  timely : s.Timely plan
  folder : ∃ folder, s.config.bind (fun config => config.findFolder folderId) = some folder ∧
    effectiveFolderType folder assignment = .sync
  filters : liveFilterFingerprint sha256 assignment .sync s.machine = some plan.filterFingerprint
  baseline : some (s.baseline sha256) = plan.baselineFingerprint

/-- What `runOnce` was called with. -/
structure OptionsOf (review : ReviewedRun) (opts : ExecuteOptions) : Prop where
  assignment : opts.assignment = review.assignment
  isSync : opts.folder.type = .sync
  control : opts.bisync = some review.control

structure RunOf (plan : FolderSyncPlan) (run : DaemonRun) : Prop where
  isSync : run.opts.folder.type = .sync
  real : run.opts.dryRun = false
  control : run.opts.bisync = some plan.control
  threshold : maxDeletePercent run.opts = plan.maxDeletePercent
  filters : liveFilterFingerprint sha256 run.opts.assignment .sync run.env = some plan.filterFingerprint
  baseline : some (baselineFingerprint sha256 (inspectBisyncBaseline run.found.files false)) = plan.baselineFingerprint
  rest : run.rest <:+ (executeAssignment sha256 run.opts run.env).log Host.step run.found

/-- What the handler can rely on in a stage. -/
def ReviewedAt : InterventionStage → Prop
  | .idle => True
  | .fetching _ assignment folder config =>
    (∃ cached, s.config = some cached ∧ cached.revision = config.revision ∧ cached.findFolder folderId = some folder) ∧
      effectiveFolderType folder assignment = .sync ∧ assignment.folderId = folderId
  | .waiting review opts => ∀ plan, review.plan = some plan →
      ReviewOf folderId review plan ∧ s.Verified sha256 folderId plan review.assignment ∧ OptionsOf review opts
  | .running review true => ∀ plan, review.plan = some plan →
      ReviewOf folderId review plan ∧ s.Verified sha256 folderId plan review.assignment ∧ s.current.isSome = true
  | .running review false => ∀ plan, review.plan = some plan →
      s.Timely plan ∧ ∃ run, s.current = some run ∧ RunOf sha256 plan run

/-- What the handler can rely on. -/
def Reviewed : Prop := s.ReviewedAt sha256 folderId s.intervention

section Stages

variable {sha256 : String → String} {hostId folderId : String} {s : PlanSystem} {plan : FolderSyncPlan}
  {assignment : FolderAssignment} {review : ReviewedRun}

private theorem rp_revision (h : s.Timely plan) :
    ∃ cached, s.config = some cached ∧ cached.revision = plan.configRevision := by
  have hrev := h.revision
  cases hcfg : s.config with
  | none =>
    rw [hcfg] at hrev
    cases hrev
  | some cached =>
    rw [hcfg] at hrev
    exact ⟨cached, rfl, Option.some.inj hrev⟩

variable {config : DaemonConfig}

private theorem rp_timely_refresh (h : s.Timely plan) (hkp : s.KeepsConfig folderId config) :
    Timely { s with config := some config } plan := by
  obtain ⟨cached, hcfg, hrev⟩ := rp_revision h
  exact ⟨congrArg some ((hkp cached hcfg).1.trans hrev), h.notExpired⟩

private theorem rp_verified_refresh (h : s.Verified sha256 folderId plan assignment)
    (hkp : s.KeepsConfig folderId config) :
    Verified sha256 folderId { s with config := some config } plan assignment := by
  refine ⟨rp_timely_refresh h.timely hkp, ?_, h.filters, h.baseline⟩
  obtain ⟨cached, hcfg, -⟩ := rp_revision h.timely
  obtain ⟨folder, hfol, hsync⟩ := h.folder
  rw [hcfg] at hfol
  exact ⟨folder, (hkp cached hcfg).2.trans hfol, hsync⟩

private theorem rp_runEvent (s : PlanSystem) :
    s.runEvent = s ∨ ∃ run host, s.current.isSome = true ∧ s.runEvent = { s with host := host, current := some run } := by
  unfold runEvent
  cases hcur : s.current with
  | none => exact Or.inl rfl
  | some run =>
    dsimp only
    cases run.rest with
    | nil => exact Or.inl rfl
    | cons e rest => exact Or.inr ⟨_, _, rfl, rfl⟩

private theorem rp_verified_event (h : s.Verified sha256 folderId plan assignment)
    (hkp : s.runEvent.baseline sha256 = s.baseline sha256) : s.runEvent.Verified sha256 folderId plan assignment := by
  rcases rp_runEvent s with hsame | ⟨run, host, -, hev⟩
  · rw [hsame]
    exact h
  · rw [hev] at hkp ⊢
    exact ⟨⟨h.timely.revision, h.timely.notExpired⟩, h.folder, h.filters, (congrArg some hkp).trans h.baseline⟩

theorem liveFilterFingerprint_of_prepared {opts : ExecuteOptions} {env : Surroundings} {inputs : RunInputs}
    (hsync : opts.folder.type = .sync) (h : preparedInputs opts env = .ok inputs) :
    liveFilterFingerprint sha256 opts.assignment .sync env = some (inputs.filters.fingerprint sha256) := by
  unfold preparedInputs at h
  split at h
  · cases h
  split at h
  · cases h
  · split at h
    · cases h
    · rename_i configured _ _ hco
      rw [hsync] at hco
      rw [← Except.ok.inj h]
      unfold liveFilterFingerprint
      rw [hco]
      unfold runUniverse
      rw [hsync]
      simp
    · cases h

private theorem rp_callRunOnce {dryRun : Bool} (h : ∀ plan, review.plan = some plan →
      ReviewOf folderId review plan ∧ s.Verified sha256 folderId plan review.assignment) :
    (s.callRunOnce hostId review dryRun).Reviewed sha256 folderId := by
  unfold Reviewed callRunOnce
  dsimp only
  cases hcall : s.runOnce hostId review.assignment review.control dryRun with
  | none => trivial
  | some opts =>
    intro plan hplan
    obtain ⟨hrev, hver⟩ := h plan hplan
    refine ⟨hrev, ⟨⟨hver.timely.revision, hver.timely.notExpired⟩, hver.folder, hver.filters,
      hver.baseline⟩, ?_⟩
    obtain ⟨folder, hfol, hsync⟩ := hver.folder
    obtain ⟨config, hcfg, hf⟩ := Option.bind_eq_some_iff.1 hfol
    unfold runOnce at hcall
    rw [hcfg, Option.bind_some, hrev.assigned, hf, Option.map_some] at hcall
    rw [← Option.some.inj hcall]
    exact ⟨rfl, hsync, rfl⟩

private theorem rp_dispatch (instruction : FolderInstruction) (h : s.Reviewed sha256 folderId) :
    (s.dispatch hostId folderId instruction).Reviewed sha256 folderId := by
  unfold dispatch
  split
  · rename_i config hidle hcfg
    split
    · exact h
    rename_i assignment folder htgt
    unfold resolveInterventionTarget at htgt
    split at htgt
    · cases htgt
    rename_i found hasg
    obtain ⟨folder', hfol, hpair⟩ := Option.map_eq_some_iff.1 htgt
    obtain ⟨rfl, rfl⟩ := Prod.mk.inj hpair
    split
    · exact h
    split
    · exact h
    · rename_i hsync
      split
      · refine ⟨⟨config, hcfg, rfl, hfol⟩, Classical.not_not.1 hsync, ?_⟩
        simpa using List.find?_some hasg
      -- without a plan there is nothing to keep to
      apply rp_callRunOnce
      intro plan hplan
      cases hplan
  · exact h

private theorem rp_planArrives {found : Option FolderSyncPlan} (h : s.Reviewed sha256 folderId)
    (hkp : s.KeepsReview sha256 folderId (.planArrives found)) :
    (s.planArrives sha256 hostId folderId found).Reviewed sha256 folderId := by
  unfold planArrives
  split
  · rename_i instruction assignment folder config plan hsg
    unfold Reviewed at h
    unfold KeepsReview at hkp
    rw [hsg] at h hkp
    obtain ⟨⟨cached, hcach, hrev, hfol⟩, hsync, hasg⟩ := h
    split
    · trivial
    rename_i fingerprint hfp
    split
    · trivial
    rename_i execution hverd
    obtain ⟨hcur, hctl⟩ := verifyPlanAgainstLive_ok hverd
    apply rp_callRunOnce
    intro plan' hplan
    cases hplan
    refine ⟨⟨hctl, hasg, hkp⟩, ⟨⟨?_, hcur.notExpired⟩, ⟨folder, ?_, hsync⟩, ?_, ?_⟩⟩
    · rw [hcach]
      exact congrArg some (hrev.trans hcur.configRevision)
    · rw [hcach]
      exact hfol
    · rw [hsync] at hfp
      exact hfp.trans (congrArg some hcur.filterFingerprint)
    · exact hcur.baselineFingerprint
  · trivial
  · exact h

private theorem rp_runStarts (h : s.Reviewed sha256 folderId) : (s.runStarts sha256).Reviewed sha256 folderId := by
  unfold runStarts
  split
  · rename_i review opts hsg hfree
    unfold Reviewed at h ⊢
    rw [hsg] at h
    dsimp only
    cases hdry : opts.dryRun with
    | true =>
      intro plan hplan
      obtain ⟨hrev, hver, -⟩ := h plan hplan
      exact ⟨hrev, ⟨⟨hver.timely.revision, hver.timely.notExpired⟩, hver.folder, hver.filters,
        hver.baseline⟩, rfl⟩
    | false =>
      intro plan hplan
      obtain ⟨hrev, hver, hopts⟩ := h plan hplan
      refine ⟨⟨hver.timely.revision, hver.timely.notExpired⟩, s.started sha256 opts, rfl, ?_⟩
      refine ⟨hopts.isSync, hdry, ?_, ?_, ?_, hver.baseline, List.suffix_refl _⟩
      · exact hopts.control.trans (congrArg some hrev.control)
      · show (opts.bisync.bind BisyncRunControl.maxDeletePercent).or opts.assignment.bisyncMaxDeletePercent =
          plan.maxDeletePercent
        rw [hopts.control, hrev.control, hopts.assignment]
        show plan.maxDeletePercent.or review.assignment.bisyncMaxDeletePercent = plan.maxDeletePercent
        cases hpct : plan.maxDeletePercent with
        | none => exact hrev.threshold hpct
        | some percent => rfl
      · show liveFilterFingerprint sha256 opts.assignment .sync s.machine = some plan.filterFingerprint
        rw [hopts.assignment]
        exact hver.filters
  · exact h

/-! The steps of others, in a stage. -/

variable {stage : InterventionStage}

/-- A step that leaves the current run, and in each stage what it relies on, leaves the review. -/
private theorem rp_kept {s' : PlanSystem} {e : PlanEvent} (hcur : s'.current = s.current)
    (hfe : ∀ {instruction assignment folder config}, s.ReviewedAt sha256 folderId (.fetching instruction assignment folder
      config) → s.KeepsFetching folderId assignment e →
      s'.ReviewedAt sha256 folderId (.fetching instruction assignment folder config))
    (hver : ∀ {plan assignment}, s.Verified sha256 folderId plan assignment →
      s.KeepsWaiting sha256 folderId plan assignment e → s'.Verified sha256 folderId plan assignment)
    (hti : ∀ {plan}, s.Timely plan → s.KeepsRunning folderId plan e → s'.Timely plan)
    (h : s.ReviewedAt sha256 folderId stage) (hkp : s.KeepsReviewAt sha256 folderId e stage) :
    s'.ReviewedAt sha256 folderId stage := by
  cases stage with
  | idle => trivial
  | fetching instruction assignment folder config => exact hfe h hkp
  | waiting review opts =>
    intro plan hplan
    obtain ⟨hrev, hh, hopts⟩ := h plan hplan
    exact ⟨hrev, hver hh (hkp plan hplan), hopts⟩
  | running review dryRun =>
    cases dryRun with
    | true =>
      intro plan hplan
      obtain ⟨hrev, hh, hsome⟩ := h plan hplan
      exact ⟨hrev, hver hh (hkp plan hplan), hcur ▸ hsome⟩
    | false =>
      intro plan hplan
      obtain ⟨hh, hrun⟩ := h plan hplan
      exact ⟨hti hh (hkp plan hplan), hcur ▸ hrun⟩

private theorem rp_passes {ms : Nat} (h : s.ReviewedAt sha256 folderId stage)
    (hkp : s.KeepsReviewAt sha256 folderId (.passes ms) stage) :
    ReviewedAt sha256 folderId { s with now := s.now + ms } stage := by
  refine rp_kept (s := s) (e := .passes ms) rfl (fun h _ => h) (fun h hkp => ?_) (fun h hkp => ⟨h.revision, hkp⟩)
    h hkp
  exact ⟨⟨h.timely.revision, hkp⟩, h.folder, h.filters, h.baseline⟩

private theorem rp_refreshConfig
    (h : s.ReviewedAt sha256 folderId stage) (hkp : s.KeepsReviewAt sha256 folderId (.refreshConfig config) stage) :
    ReviewedAt sha256 folderId { s with config := some config } stage := by
  refine rp_kept (s := s) (e := .refreshConfig config) rfl ?_ rp_verified_refresh rp_timely_refresh h hkp
  rintro instruction assignment folder captured ⟨⟨cached, hcach, hrev, hfol⟩, hsync⟩ hkept
  obtain ⟨hsame, hfind⟩ := hkept cached hcach
  exact ⟨⟨config, rfl, hsame.trans hrev, hfind.trans hfol⟩, hsync⟩

private theorem rp_machineChanges {machine : Surroundings}
    (h : s.ReviewedAt sha256 folderId stage) (hkp : s.KeepsReviewAt sha256 folderId (.machineChanges machine) stage) :
    ReviewedAt sha256 folderId { s with machine := machine } stage := by
  refine rp_kept (s := s) (e := .machineChanges machine) rfl (fun h _ => h) (fun h hkp => ?_)
    (fun h _ => ⟨h.revision, h.notExpired⟩) h hkp
  exact ⟨⟨h.timely.revision, h.timely.notExpired⟩, h.folder, Eq.trans hkp h.filters, h.baseline⟩

private theorem rp_event (h : s.ReviewedAt sha256 folderId stage)
    (hkp : s.KeepsReviewAt sha256 folderId .runEvent stage) : s.runEvent.ReviewedAt sha256 folderId stage := by
  cases stage with
  | idle => trivial
  | fetching instruction assignment folder config =>
    rcases rp_runEvent s with hsame | ⟨run, host, -, hev⟩
    · rw [hsame]
      exact h
    · rw [hev]
      exact h
  | waiting review opts =>
    intro plan hplan
    obtain ⟨hrev, hh, hopts⟩ := h plan hplan
    exact ⟨hrev, rp_verified_event hh (hkp plan hplan), hopts⟩
  | running review dryRun =>
    cases dryRun with
    | true =>
      intro plan hplan
      obtain ⟨hrev, hh, hcur⟩ := h plan hplan
      refine ⟨hrev, rp_verified_event hh (hkp plan hplan), ?_⟩
      rcases rp_runEvent s with hsame | ⟨run, host, -, hev⟩
      · rw [hsame]
        exact hcur
      · rw [hev]
        rfl
    | false =>
      intro plan hplan
      obtain ⟨hti, run, hcur, hrun⟩ := h plan hplan
      unfold runEvent
      rw [hcur]
      dsimp only
      cases hrest : run.rest with
      | nil => exact ⟨hti, run, hcur, hrun⟩
      | cons e rest =>
        -- what is still to come stays an end of the run
        have hsuf : rest <:+ (executeAssignment sha256 run.opts run.env).log Host.step run.found :=
          List.IsSuffix.trans (List.suffix_cons e rest) (hrest ▸ hrun.rest)
        exact ⟨⟨hti.revision, hti.notExpired⟩, _, rfl,
          ⟨hrun.isSync, hrun.real, hrun.control, hrun.threshold, hrun.filters, hrun.baseline, hsuf⟩⟩

private theorem rp_otherRun {opts : ExecuteOptions} (h : s.ReviewedAt sha256 folderId stage) :
    (s.otherRun sha256 opts).ReviewedAt sha256 folderId stage := by
  unfold otherRun
  cases hcur : s.current with
  | some run => exact h
  | none =>
    dsimp only
    cases stage with
    | idle => trivial
    | fetching instruction assignment folder config => exact h
    | waiting review opts =>
      intro plan hplan
      obtain ⟨hrev, hh, hopts⟩ := h plan hplan
      exact ⟨hrev, ⟨⟨hh.timely.revision, hh.timely.notExpired⟩, hh.folder, hh.filters,
        hh.baseline⟩, hopts⟩
    | running review dryRun =>
      -- the run of the intervention has the mutex
      cases dryRun with
      | true =>
        intro plan hplan
        have hsome := (h plan hplan).2.2
        rw [hcur] at hsome
        cases hsome
      | false =>
        intro plan hplan
        obtain ⟨-, run, hrun, -⟩ := h plan hplan
        rw [hcur] at hrun
        cases hrun

private theorem rp_freed (h : s.ReviewedAt sha256 folderId stage)
    (hwt : ∀ review dryRun, stage ≠ .running review dryRun) :
    ReviewedAt sha256 folderId { s with current := none } stage := by
  cases stage with
  | idle => trivial
  | fetching instruction assignment folder config => exact h
  | waiting review opts =>
    intro plan hplan
    obtain ⟨hrev, hh, hopts⟩ := h plan hplan
    exact ⟨hrev, ⟨⟨hh.timely.revision, hh.timely.notExpired⟩, hh.folder, hh.filters,
      hh.baseline⟩, hopts⟩
  | running review dryRun => exact absurd rfl (hwt review dryRun)

private theorem rp_returned {report : Option DryRunReport} (h : s.Reviewed sha256 folderId) :
    (returned hostId { s with current := none } report).Reviewed sha256 folderId := by
  unfold Reviewed at h
  unfold returned
  dsimp only
  split
  · rename_i review hsg
    rw [hsg] at h
    split
    · apply rp_callRunOnce
      intro plan hplan
      obtain ⟨hrev, hh, -⟩ := h plan hplan
      exact ⟨hrev, ⟨⟨hh.timely.revision, hh.timely.notExpired⟩, hh.folder, hh.filters, hh.baseline⟩⟩
    · trivial
  · trivial
  all_goals
    rename_i hsg
    exact rp_freed h (by simp [hsg])

private theorem rp_runEnds {report : Option DryRunReport} (h : s.Reviewed sha256 folderId) :
    (s.runEnds hostId report).Reviewed sha256 folderId := by
  unfold runEnds
  split
  · exact h
  split
  · exact rp_returned h
  · exact h

private theorem rp_deferred (h : s.Reviewed sha256 folderId) : s.deferred.Reviewed sha256 folderId := by
  unfold deferred
  split
  · trivial
  · exact h

theorem Reviewed.step {e : PlanEvent} (h : s.Reviewed sha256 folderId) (hkp : s.KeepsReview sha256 folderId e) :
    (s.step sha256 hostId folderId e).Reviewed sha256 folderId := by
  cases e with
  | passes ms => exact rp_passes h hkp
  | refreshConfig config => exact rp_refreshConfig h hkp
  | machineChanges machine => exact rp_machineChanges h hkp
  | otherRun opts =>
    have hsg : (s.otherRun sha256 opts).intervention = s.intervention := by
      unfold otherRun
      split <;> rfl
    show (s.otherRun sha256 opts).ReviewedAt sha256 folderId (s.otherRun sha256 opts).intervention
    rw [hsg]
    exact rp_otherRun h
  | dispatch instruction => exact rp_dispatch instruction h
  | planArrives plan => exact rp_planArrives h hkp
  | runStarts => exact rp_runStarts h
  | deferred => exact rp_deferred h
  | runEvent =>
    have hsg : s.runEvent.intervention = s.intervention := by
      rcases rp_runEvent s with hsame | ⟨run, host, -, hev⟩
      · rw [hsame]
      · rw [hev]
    show s.runEvent.ReviewedAt sha256 folderId s.runEvent.intervention
    rw [hsg]
    exact rp_event h hkp
  | runEnds report => exact rp_runEnds h

private theorem rp_launch {run : DaemonRun} {command : List Arg} {filter : Option String} {files : List ListingFile}
    {rest : List ExecutorEvent} (hti : s.Timely plan) (hrun : RunOf sha256 plan run)
    (hrest : run.rest = .rclone command filter files :: rest) : s.ReviewedLaunch sha256 plan run command filter := by
  have hmem : ExecutorEvent.rclone command filter files ∈
      (executeAssignment sha256 run.opts run.env).log Host.step run.found := by
    apply hrun.rest.subset
    rw [hrest]
    exact .head _
  have hmode := plan.control_mode
  obtain ⟨inputs, hins, inspection, verdict, peer, files', hlau⟩ :=
    launches_of_intervention hrun.isSync hrun.real hrun.control hmode hmem (by simp [launched])
  obtain ⟨rfl, rfl, -⟩ := ExecutorEvent.rclone.inj hlau
  refine ⟨?_, ?_, ?_, hti.revision, ⟨inputs, hins, rfl, ?_⟩, hrun.baseline, hti.notExpired⟩
  · rw [hrun.control]
    rfl
  · rw [optionValue_resyncMode hrun.control hmode]
    show some (if some plan.authority = some .local then "path2" else "path1") = some plan.authority.resyncMode.text
    cases plan.authority with
    | remote | «local» => rfl
  · rw [optionValue_maxDelete hrun.control hmode, hrun.threshold]
  have hread : liveFilterFingerprint sha256 run.opts.assignment .sync run.env =
      some (inputs.filters.fingerprint sha256) := liveFilterFingerprint_of_prepared hrun.isSync hins
  exact Option.some.inj (hread.symm.trans hrun.filters)

/-- What the intervention launches while the handler can rely on its review. -/
theorem Reviewed.launch {e : PlanEvent} (h : s.Reviewed sha256 folderId) : s.LaunchAsReviewed sha256 e := by
  intro plan run command filter hla
  cases e with
  | runEvent =>
    unfold reviewedLaunch at hla
    dsimp only at hla
    split at hla
    · rename_i hsg hcur
      split at hla
      · rename_i files rest hrest
        obtain ⟨rfl, rfl, rfl, rfl⟩ : _ ∧ _ ∧ _ ∧ _ := by simpa using hla
        unfold Reviewed at h
        rw [hsg] at h
        obtain ⟨hti, run', hrun', hrun⟩ := h _ rfl
        obtain rfl := Option.mem_unique hcur hrun'
        exact rp_launch hti hrun hrest
      · cases hla
    · cases hla
  | passes | refreshConfig | machineChanges | otherRun | dispatch | planArrives | runStarts | deferred | runEnds =>
    cases hla

end Stages

end PlanSystem

open PlanSystem

/-- Every rclone that an intervention launches with a plan is the reviewed one, if every step leaves the review as it is. -/
theorem reviewed_plan_executed {sha256 : String → String} {hostId folderId : String} {s : PlanSystem}
    (hidle : s.intervention = .idle) {es : List PlanEvent}
    (hkeeps : Always (PlanSystem.step sha256 hostId folderId) (PlanSystem.KeepsReview sha256 folderId) s es) :
    Always (PlanSystem.step sha256 hostId folderId) (PlanSystem.LaunchAsReviewed sha256) s es := by
  apply hkeeps.of_invariant (I := PlanSystem.Reviewed sha256 folderId)
  · unfold Reviewed
    rw [hidle]
    trivial
  · exact fun s e hre hstep => hre.step hstep
  · exact fun s e hre _ => hre.launch

/-! A folder with a plan, and what can come between its check and its run. -/

def savedListings (mtimeMs : Int) : List ListingFile :=
  [⟨"docs.path1.lst", "# v1\n", mtimeMs⟩, ⟨"docs.path2.lst", "# v1\n", mtimeMs⟩]

def plannedFolder : Folder := { id := "f", name := "docs", type := .sync }

def plannedAssignment (maxDeletePercent : Option Int) : FolderAssignment := {
  id := "a", folderId := "f", hostId := "h", localPath := "/home/docs", bisyncMaxDeletePercent := maxDeletePercent }

def plannedConfig (revision : Int) (maxDeletePercent : Option Int) : DaemonConfig where
  configRevision := some revision
  assignments := [plannedAssignment maxDeletePercent]
  folders := [plannedFolder]

def plannedSystem (maxDeletePercent : Option Int) : PlanSystem where
  now := 0
  config := some (plannedConfig 3 maxDeletePercent)
  machine := { rclone := fun _ => some { result := .exited 0 "", files := savedListings 2 } }
  host := { stateDir := some { files := savedListings 1 } }

def seedPlan (maxDeletePercent : Option Int) : FolderSyncPlan where
  id := "p"
  hostId := "h"
  folderId := "f"
  assignmentId := "a"
  intervention := .seed
  authority := .local
  maxDeletePercent := maxDeletePercent
  changes := { wouldCopy := ["a.txt"], files := 1 }
  configRevision := 3
  baselineFingerprint := some "docs|1"
  expiresAt := 1800000

def checks (maxDeletePercent : Option Int) : List PlanEvent :=
  [.dispatch ⟨.planned .seed, some .local, some "p", none⟩, .planArrives (some (seedPlan maxDeletePercent))]

def comesToLaunch : List PlanEvent := .runStarts :: List.replicate 5 .runEvent

/-- The intervention runs undisturbed: it launches what was reviewed. -/
theorem reviewed_plan_executed_undisturbed :
    ((run (PlanSystem.step id "h" "f") (plannedSystem none) (checks (some 10) ++ comesToLaunch)).reviewedLaunch
        .runEvent).isSome = true ∧
      Always (PlanSystem.step id "h" "f") (PlanSystem.LaunchAsReviewed id) (plannedSystem none)
        (checks (some 10) ++ comesToLaunch ++ [.runEvent]) :=
  ⟨by decide +kernel, reviewed_plan_executed rfl (by decide +kernel)⟩

private theorem rp_refuted {s : PlanSystem} {es : List PlanEvent}
    {test : FolderSyncPlan × DaemonRun × List Arg × Option String → Bool}
    (hla : ((run (PlanSystem.step id "h" "f") s es).reviewedLaunch .runEvent).any test = true)
    (hbad : ∀ plan r command filter, (run (PlanSystem.step id "h" "f") s es).ReviewedLaunch id plan r command filter →
      test (plan, r, command, filter) ≠ true) :
    ¬Always (PlanSystem.step id "h" "f") (PlanSystem.LaunchAsReviewed id) s (es ++ [.runEvent]) := by
  intro hal
  obtain ⟨⟨plan, r, command, filter⟩, hf, htest⟩ := (Option.any_eq_true _ _).1 hla
  exact hbad plan r command filter (hal.at plan r command filter hf) htest

/-- A plan without a threshold is executed with the one of the assignment.  While the run of an intervention waits, a run
that was before it writes new listings, the plan expires, or the configuration changes; it starts all the same. -/
theorem unreviewed_launches :
    ¬Always (PlanSystem.step id "h" "f") (PlanSystem.LaunchAsReviewed id) (plannedSystem (some 90))
        (checks none ++ comesToLaunch ++ [.runEvent]) ∧
      ¬Always (PlanSystem.step id "h" "f") (PlanSystem.LaunchAsReviewed id) (plannedSystem none)
        (.otherRun { assignment := plannedAssignment none, folder := plannedFolder, hostId := "h" } ::
          checks (some 10) ++ List.replicate 4 .runEvent ++ [.runEnds none] ++ comesToLaunch ++ [.runEvent]) ∧
      ¬Always (PlanSystem.step id "h" "f") (PlanSystem.LaunchAsReviewed id) (plannedSystem none)
        (checks (some 10) ++ [.passes 1800000] ++ comesToLaunch ++ [.runEvent]) ∧
      ¬Always (PlanSystem.step id "h" "f") (PlanSystem.LaunchAsReviewed id) (plannedSystem none)
        (checks (some 10) ++ [.refreshConfig (plannedConfig 4 none)] ++ comesToLaunch ++ [.runEvent]) := by
  refine ⟨?_, ?_, ?_, ?_⟩
  · have hla : ((run (PlanSystem.step id "h" "f") (plannedSystem (some 90)) (checks none ++ comesToLaunch)).reviewedLaunch
        .runEvent).any (fun l => optionValue "--max-delete" l.2.2.1 ≠ l.1.maxDeletePercent.map toString) = true := by
      decide +kernel
    refine rp_refuted hla ?_
    intro plan r command filter h htest
    exact of_decide_eq_true htest h.threshold
  · have hla : ((run (PlanSystem.step id "h" "f") (plannedSystem none) (.otherRun {
          assignment := plannedAssignment none, folder := plannedFolder, hostId := "h" } ::
        checks (some 10) ++ List.replicate 4 .runEvent ++ [.runEnds none] ++ comesToLaunch)).reviewedLaunch
        .runEvent).any (fun l => some (baselineFingerprint id (inspectBisyncBaseline l.2.1.found.files false)) ≠
          l.1.baselineFingerprint) = true := by
      decide +kernel
    refine rp_refuted hla ?_
    intro plan r command filter h htest
    exact of_decide_eq_true htest h.baseline
  · have hla : ((run (PlanSystem.step id "h" "f") (plannedSystem none) (checks (some 10) ++ [.passes 1800000] ++
        comesToLaunch)).reviewedLaunch .runEvent).any (fun l => l.1.expiresAt ≤ (run (PlanSystem.step id "h" "f")
          (plannedSystem none) (checks (some 10) ++ [.passes 1800000] ++ comesToLaunch)).now) = true := by
      decide +kernel
    refine rp_refuted hla ?_
    intro plan r command filter h htest
    exact absurd h.notExpired (Int.not_lt.2 (of_decide_eq_true htest))
  · have hla : ((run (PlanSystem.step id "h" "f") (plannedSystem none) (checks (some 10) ++
        [.refreshConfig (plannedConfig 4 none)] ++ comesToLaunch)).reviewedLaunch .runEvent).any (fun l =>
          (run (PlanSystem.step id "h" "f") (plannedSystem none) (checks (some 10) ++
            [.refreshConfig (plannedConfig 4 none)] ++ comesToLaunch)).config.map DaemonConfig.revision ≠
              some l.1.configRevision) = true := by
      decide +kernel
    refine rp_refuted hla ?_
    intro plan r command filter h htest
    exact of_decide_eq_true htest h.revision

end LamaSync
