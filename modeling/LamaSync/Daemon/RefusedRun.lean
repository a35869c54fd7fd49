import LamaSync.Daemon.BaselinePair

/-!
# Runs that are refused

A real run of a sync folder moves the old pair away while it makes its command.  The disk check, the session with a peer
and the hook before rclone come later, and each of them can still refuse the run.  Then no bisync has been launched, and
the work directory is empty.

`refused_run_keeps_baseline_iff` says when a run without a launch leaves the work directory as it was.
-/

namespace LamaSync

open Script (wp_bind wp_leaveIf wp_pure)

def LaunchesBisync (e : ExecutorEvent) : Prop := ∃ command, launched e = some command ∧ HasSubcommand "bisync" command

/-- A run that returns without having launched a bisync leaves what is in the work directory. -/
def KeepsBaseline (p : Exec OperationReport) (host : Host) : Prop :=
  (∀ e ∈ p.log Host.step host, ¬ LaunchesBisync e) → p.result Host.step host ≠ .error .threw →
    (p.final Host.step host).dir = host.dir

section Condition

variable (sha256 : String → String) (opts : ExecuteOptions) (env : Surroundings) (host : Host)

def RefusedAttempt (n : Nat) : Prop :=
  if (hookCommand opts.assignment.preSyncCmd).isSome then
    ∃ exitCode, env.preHook n = some exitCode ∧ (exitCode = 0 → env.rclone n = none)
  else env.rclone n = none

def RefusedAfterPlan : Prop :=
  env.availableBytes.all (fun bytes => requiredSpace opts.assignment ≤ bytes) = false ∨
    ((servesPeer opts = true → env.peerServes = true) ∧ RefusedAttempt opts env 1)

structure LosesBaseline (inputs : RunInputs) : Prop where
  isSync : opts.folder.type = .sync
  real : opts.dryRun = false
  prepared : preparedInputs opts env = .ok inputs
  stateDir : env.stateDirMade = true
  moves : movesBefore opts env (inspectBisyncBaseline host.files false)
    ((filterVerdict sha256 inputs host).any FingerprintVerdict.changed) = true
  refused : RefusedAfterPlan opts env

end Condition

section Parts

variable {sha256 : String → String} {opts : ExecuteOptions} {env : Surroundings} {inputs : RunInputs} {plan : RunPlan}
  {filter : Option String} {dir : WorkDir} {host : Host}

/-- The rules below are for runs that lose the baseline: no bisync is launched, and the run returns with another work
directory than `dir`. -/
private abbrev rr_wp {α : Type} (dir : WorkDir) (post : α → Host → Prop) (p : Exec α) (host : Host) : Prop :=
  Script.wp Host.step (fun _ e => ¬ LaunchesBisync e) post (fun stop h => stop ≠ .threw ∧ h.dir ≠ dir) p host

theorem not_launchesBisync {e : ExecutorEvent} (h : launched e = none) : ¬ LaunchesBisync e := by
  rintro ⟨command, hcmd, -⟩
  rw [h] at hcmd
  cases hcmd

theorem keepsBaseline_iff {p : Exec OperationReport} : KeepsBaseline p host ↔
    ¬ Script.wp Host.step (fun _ e => ¬ LaunchesBisync e) (fun _ h => h.dir ≠ host.dir)
      (fun stop h => stop ≠ .threw ∧ h.dir ≠ host.dir) p host := by
  have hall : Trace.Always Host.step (fun _ e => ¬ LaunchesBisync e) host (p.log Host.step host) ↔
      ∀ e ∈ p.log Host.step host, ¬ LaunchesBisync e := ⟨fun h => h.forall_mem, Trace.always_of_forall⟩
  unfold KeepsBaseline
  rw [Script.wp_iff, hall]
  cases p.result Host.step host with
  | ok report | error stop => simp [Script.Ends]

private theorem rr_runAttempts {post : Nat × AttemptEnd → Host → Prop} {remaining n : Nat} {command : List Arg}
    {isRecovery : Bool} (hbi : HasSubcommand "bisync" command) :
    rr_wp dir post (runAttempts opts env filter remaining n command isRecovery) host ↔
      host.dir ≠ dir ∧ RefusedAttempt opts env n := by
  have hat : ∀ post : AttemptEnd → Host → Prop,
      rr_wp dir post (runAttempt opts env filter n command isRecovery) host ↔ host.dir ≠ dir ∧ RefusedAttempt opts env n := by
    intro post
    have hhook : ∀ cmd, ¬ LaunchesBisync (.hook .pre cmd) := fun _ => not_launchesBisync rfl
    have hfail : ∀ body, failed body ≠ .threw := fun _ => ExecuteEnd.noConfusion
    have hla : ∀ files, LaunchesBisync (.rclone command filter files) := fun _ => ⟨command, rfl, hbi⟩
    unfold runAttempt RefusedAttempt rr_wp
    rw [wp_bind, wp_requireHook]
    simp only [wp_bind, wp_runCommand, hla, not_true_eq_false, false_and, Script.wp_orLeave, hfail, ne_eq,
      not_false_eq_true, true_and, hhook]
    cases hookCommand opts.assignment.preSyncCmd with
    | none =>
      cases env.rclone n with
      | none | some ended => simp
    | some cmd =>
      cases env.preHook n with
      | none => simp
      | some exitCode =>
        by_cases hzero : exitCode = 0
        · cases env.rclone n with
          | none | some ended => simp [hzero]
        · simp [hzero]
  cases remaining with
  | zero | succ remaining => exact (wp_bind _ _).trans (hat _)

private theorem rr_runPlanned {post : OperationReport → Host → Prop} (hsync : opts.folder.type = .sync)
    (hbi : HasSubcommand "bisync" plan.command) :
    rr_wp dir post (runPlanned sha256 opts env inputs plan) host ↔ host.dir ≠ dir ∧ RefusedAfterPlan opts env := by
  have hmo : opts.folder.type ≠ .mount := by
    rw [hsync]
    decide
  have hdisk : ¬ LaunchesBisync (.diskFree opts.assignment.localPath) := not_launchesBisync rfl
  have hsv : ¬ LaunchesBisync (.serveSftp opts.assignment.localPath) := not_launchesBisync rfl
  have hfail : ∀ body, failed body ≠ .threw := fun _ => ExecuteEnd.noConfusion
  have hatt : ∀ peer, Script.wp Host.step (fun _ e => ¬ LaunchesBisync e) post
      (fun stop h => stop ≠ .threw ∧ h.dir ≠ dir) (do
        let ended ← runAttempts opts env inputs.filters.filterFrom (maxRetries opts.assignment) 1
          (peerCommand opts env inputs plan peer) false
        finishRun sha256 opts env inputs plan ended.1 ended.2) host ↔
      host.dir ≠ dir ∧ RefusedAttempt opts env 1 :=
    fun peer => (wp_bind _ _).trans (rr_runAttempts (hbi.peerCommand (by decide) peer))
  unfold rr_wp runPlanned requireSpace requireDiskSpace RefusedAfterPlan
  rw [if_neg hmo, wp_bind, wp_bind, wp_checkDiskSpace, wp_leaveIf, wp_bind,
    wp_startLanPeerSession fun _ => not_launchesBisync rfl, and_iff_right hdisk]
  simp only [hatt, hsv, not_false_eq_true, true_and]
  cases env.availableBytes.all fun bytes => decide (requiredSpace opts.assignment ≤ bytes) with
  | false => simp [hfail]
  | true =>
    cases servesPeer opts with
    | false => simp
    | true =>
      cases env.peerServes with
      | false | true => simp

theorem dir_plannedHost : (plannedHost sha256 opts env inputs host).dir ≠ host.dir ↔
    movesBefore opts env (inspectBisyncBaseline host.files false)
      ((filterVerdict sha256 inputs host).any FingerprintVerdict.changed) = true := by
  unfold plannedHost movesBefore
  cases har : archivesBefore opts (inspectBisyncBaseline host.files false)
      ((filterVerdict sha256 inputs host).any FingerprintVerdict.changed) with
  | false => simp [Host.step, Host.setDir, Host.dir]
  | true =>
    -- there is a pair or an error, so the directory is not empty
    have hfull : ({} : WorkDir) ≠ host.dir := by
      intro hem
      have hf : host.files = [] := by
        unfold Host.files
        rw [← hem]
      unfold archivesBefore at har
      rw [hf, inspect_nil] at har
      simp at har
    unfold Host.moved
    cases env.archive with
    | renameFails => simp [Host.step, Host.setDir, Host.dir]
    | pruneFails => simpa [Host.step, Host.dir] using hfull
    | done => simpa [Host.step, Host.setDir, Host.dir] using hfull

private theorem rr_keeps {p : Exec OperationReport} (h : p.Only fun e => ∀ h : Host, (h.step e).dir = h.dir) :
    KeepsBaseline p host := by
  intro _ _
  have hrun : ∀ (events : List ExecutorEvent) (h : Host), (∀ e ∈ events, ∀ h : Host, (h.step e).dir = h.dir) →
      (Trace.run Host.step h events).dir = h.dir := by
    intro events
    induction events with
    | nil => exact fun _ _ => rfl
    | cons e events ih =>
      intro h hevs
      rw [Trace.run_cons, ih _ fun e' he' => hevs e' (.tail _ he')]
      exact hevs e (.head _) h
  exact hrun _ host h.mem_log

private theorem rr_keepsDir (e : ExecutorEvent) (he : e.isAside = true) (h : Host) : (h.step e).dir = h.dir := by
  rw [h.step_of_isAside he]

private theorem rr_other (ho : opts.folder.type ≠ .sync) (hwork : usesWorkdir plan.command = false)
    (hpend : plan.pendingFilterFingerprint = none) :
    (runPlanned sha256 opts env inputs plan).Only fun e => ∀ h : Host, (h.step e).dir = h.dir := by
  refine runPlanned_only (Q := fun command => usesWorkdir command = false) ?_ (fun peer => ?_) fun attempts ended => ?_
  · refine ⟨rr_keepsDir, fun command files hcmd h => ?_, fun hsync => absurd hsync ho,
      fun hsync => absurd hsync ho, fun hsync => absurd hsync ho⟩
    unfold Host.step
    dsimp only
    rw [hcmd]
    rfl
  · exact (usesWorkdir_peerCommand peer).trans hwork
  · unfold finishRun acknowledgeFilter
    rw [hpend]
    refine Script.only_get.bind fun host => Script.Only.bind trivial fun _ => ?_
    rw [if_neg fun h => ho h.1]
    trivial

end Parts

section Runs

variable {sha256 : String → String} {opts : ExecuteOptions} {env : Surroundings} {inputs : RunInputs} {host : Host}

private theorem rr_runSync (hsync : opts.folder.type = .sync) (hprep : preparedInputs opts env = .ok inputs) :
    Script.wp Host.step (fun _ e => ¬ LaunchesBisync e) (fun _ h => h.dir ≠ host.dir)
      (fun stop h => stop ≠ .threw ∧ h.dir ≠ host.dir) (runSync sha256 opts env inputs) host ↔
      LosesBaseline sha256 opts env host inputs := by
  have hrest : ∀ {plan : RunPlan} {h : Host}, HasSubcommand "bisync" plan.command →
      (Script.wp Host.step (fun _ e => ¬ LaunchesBisync e) (fun _ h => h.dir ≠ host.dir)
        (fun stop h => stop ≠ .threw ∧ h.dir ≠ host.dir) (runPlanned sha256 opts env inputs plan) h ↔
        h.dir ≠ host.dir ∧ RefusedAfterPlan opts env) := fun hbi => rr_runPlanned hsync hbi
  unfold runSync
  rw [wp_bind]
  cases hdry : opts.dryRun with
  | true =>
    -- a dry run has the directory that it found
    refine iff_of_false ?_ fun hlo => absurd (hdry.symm.trans hlo.real) (by decide)
    unfold planSync planDryRun
    rw [hdry, if_pos rfl]
    cases opts.bisync with
    | none =>
      dsimp only
      rw [wp_pure, hrest (show HasSubcommand "bisync" (previewPlan opts inputs).command from rfl)]
      exact fun h => h.1 rfl
    | some control =>
      dsimp only
      unfold makeStateDir
      rw [wp_bind, wp_bind, wp_leaveIf, Script.wp_act, wp_bind, Script.wp_get, wp_pure]
      cases env.stateDirMade with
      | false => exact fun h => (h.1 rfl).1 rfl
      | true =>
        rintro ⟨-, h⟩
        have haf := (h (by decide)).2
        rw [hrest (by rfl)] at haf
        exact haf.1 rfl
  | false =>
    rw [wp_planSync_iff (fun _ _ => not_launchesBisync) hdry]
    rw [hrest (by rfl), dir_plannedHost]
    constructor
    · rintro ⟨hfl, hgoes⟩
      cases hdir : env.stateDirMade with
      | false => exact absurd rfl (hfl hdir).1
      | true => exact ⟨hsync, hdry, hprep, hdir, (hgoes hdir).1, (hgoes hdir).2⟩
    intro hlo
    refine ⟨fun hfl => ?_, fun _ => ⟨hlo.moves, hlo.refused⟩⟩
    rw [hlo.stateDir] at hfl
    cases hfl

end Runs

/-- A run that returns without having launched a bisync keeps the baseline unless it is a real run of a sync folder that
moves the old pair away and is refused by what comes after its plan. -/
theorem refused_run_keeps_baseline_iff (sha256 : String → String) (opts : ExecuteOptions) (env : Surroundings)
    (host : Host) : KeepsBaseline (executeAssignment sha256 opts env) host ↔
      ∀ inputs, ¬ LosesBaseline sha256 opts env host inputs := by
  have hloc : ∀ _ : Host, ¬ LaunchesBisync .makeLocalDir := fun _ => not_launchesBisync rfl
  have hva : opts.folder.type ≠ .sync → ∀ inputs, ¬ LosesBaseline sha256 opts env host inputs :=
    fun ho _ hlo => ho hlo.isSync
  by_cases hsync : opts.folder.type = .sync
  · rw [keepsBaseline_iff]
    unfold executeAssignment
    rw [wp_bind, wp_prepareRun hloc, hsync]
    cases hpr : preparedInputs opts env with
    | error stop =>
      -- nothing has been done to the work directory
      refine iff_of_true (fun h => h.2 rfl) fun inputs hlo => ?_
      have hok := hlo.prepared
      rw [hpr] at hok
      cases hok
    | ok inputs =>
      dsimp only [Script.Ends]
      rw [rr_runSync hsync hpr]
      refine ⟨fun hkp inputs' hlo => ?_, fun h => h inputs⟩
      obtain rfl : inputs' = inputs := Except.ok.inj (hlo.prepared.symm.trans hpr)
      exact hkp hlo
  · refine iff_of_true ?_ (hva hsync)
    have hprep : (prepareRun opts env).Only fun e => ∀ h : Host, (h.step e).dir = h.dir :=
      prepareRun_stays_quiet.staysAside.mono rr_keepsDir
    apply rr_keeps
    unfold executeAssignment
    refine hprep.bind fun inputs => ?_
    cases htype : opts.folder.type with
    | sync => exact absurd htype hsync
    | backup =>
      dsimp only
      split
      · exact runResticBackupAssignment_stays_aside.mono rr_keepsDir
      · exact rr_other hsync usesWorkdir_planBackup rfl
    | mount =>
      dsimp only
      unfold runMount planMount
      simp only [Script.bind_assoc]
      refine (Script.only_orLeaveNone _ _).bind fun _ => (Script.only_act.2 (rr_keepsDir _ rfl)).bind fun _ => ?_
      exact rr_other hsync usesWorkdir_mountPlan rfl
    | dotfile => exact runDotfile_stays_aside.mono rr_keepsDir
    | git => exact runGit_stays_quiet.staysAside.mono rr_keepsDir

def seededOptions : ExecuteOptions where
  assignment := { id := "a", folderId := "f", hostId := "h", localPath := "/home/docs" }
  folder := { id := "f", name := "docs", type := .sync }
  hostId := "h"
  bisync := some { mode := .resync, authority := some .local }

/-- The pair and the acknowledged fingerprint are gone when the disk check refuses the run. -/
theorem full_disk_loses_baseline :
    ¬ KeepsBaseline (executeAssignment id seededOptions { availableBytes := some 0 })
      { stateDir := some { files := oldPair.files, filterFingerprint := some "f" } } := by
  intro h
  have hlog : (executeAssignment id seededOptions { availableBytes := some 0 }).log Host.step
      { stateDir := some { files := oldPair.files, filterFingerprint := some "f" } } =
      [.makeLocalDir, .makeStateDir, .archiveState true, .makeStateDir, .diskFree "/home/docs"] := by
    decide +kernel
  have hkept := h (by simp [hlog, LaunchesBisync, launched]) (by decide +kernel)
  revert hkept
  decide +kernel

end LamaSync
