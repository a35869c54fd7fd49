import LamaSync.Daemon.Executor

/-!
# Dry runs

A dry run should change nothing.  Only some branches of the executor look at `dryRun`: the run loop calls its hooks in
any case and archives a corrupted state, the session with a peer serves the local tree, a mount is a real one, and the
backups into restic, the captures of applications and the git folders are carried out.

`dry_run_changes_nothing_iff` says for every run what has to be the case for a dry run to change nothing.
-/

namespace LamaSync

open Script (wp_bind wp_act wp_ite wp_leaveIf wp_pure)

section Condition

variable (opts : ExecuteOptions) (env : Surroundings)

def hookRuns (command : Option String) (ended : Option Int) : Bool := (hookCommand command).isSome && ended.isSome

def HarmlessAttempt (dry hasDir : Bool) (n : Nat) : Prop :=
  ∀ ended, env.rclone n = some ended → dry = true ∧
    if needsRecovery opts.folder.type ended.result then hasDir = false ∨ env.recoveryArchive n = .renameFails
    else ended.result.exitCode = 0 → hookRuns opts.assignment.postSyncCmd (env.postHook n) = false

/-- Attempt `n` is followed by another one, when there may be one. -/
def IsRetried (n : Nat) : Prop :=
  ∃ ended, env.rclone n = some ended ∧ needsRecovery opts.folder.type ended.result = false ∧
    (ended.result.exitCode = 0 → hookCommand opts.assignment.postSyncCmd = none) ∧
    runSucceeded ended.result = false ∧ isRetryable opts.folder.type ended.result = true

def HarmlessAttempts (dry hasDir : Bool) (remaining attempt : Nat) : Prop :=
  if (hookCommand opts.assignment.preSyncCmd).isSome then env.preHook attempt = none
  else ∀ k ≤ remaining, (∀ j < k, IsRetried opts env (attempt + j)) → HarmlessAttempt opts env dry hasDir (attempt + k)

/-- Nothing is changed by the common rest of the executor: there is too little space, or no tree is served and the
attempts are harmless. -/
def HarmlessRest (dry hasDir : Bool) : Prop :=
  if opts.folder.type = .mount then env.mountCacheFits = false ∨ rest
  else env.availableBytes.all (fun bytes => requiredSpace opts.assignment ≤ bytes) = false ∨ rest
where
  rest : Prop :=
    if servesPeer opts then env.peerServes = false
    else HarmlessAttempts opts env dry hasDir (maxRetries opts.assignment) 1

/-- A dotfile run stops before it stores anything. -/
def HarmlessDotfile : Prop :=
  if (hookCommand opts.assignment.preSyncCmd).isSome then env.preHook 1 = none
  else if hasResticConfig opts.assignment then
    env.which "restic" = false ∨
      ∀ app ∈ dotfileApp opts, env.restic.init = none ∨ ∃ path ∈ dotfilePaths app env, env.pathExists path = false
  else ∀ app ∈ opts.hostConfig.apps.find? fun app => app.appName == opts.folder.name, uploadsCapture app env = false

/-- A git run stops before its fetch, without a clone and without a new `origin`. -/
def HarmlessGit : Prop :=
  (opts.folder.gitProvider = some .gh ∧ GhStops opts env) ∨
    ((opts.folder.gitProvider = some .gh → GhReady opts env) ∧
      (env.git.dotGitAfter = false ∨ env.which "git" = false ∨ env.git.fetch = none))

/-- When a dry run changes nothing: it is refused, or its folder type has nothing to change. -/
def DryRunHarmless (host : Host) : Prop :=
  (preparedInputs opts env).toOption.isNone ∨
    match opts.folder.type with
    | .sync => (opts.bisync.isSome ∧ env.stateDirMade = false) ∨
        HarmlessRest opts env true (opts.bisync.isSome || host.stateDir.isSome)
    | .backup =>
      if hasResticConfig opts.assignment then env.which "restic" = false ∨ env.restic.init = none
      else HarmlessRest opts env true host.stateDir.isSome
    | .mount => env.localDir.isSome ∨ HarmlessRest opts env false host.stateDir.isSome
    | .dotfile => HarmlessDotfile opts env
    | .git => HarmlessGit opts env

end Condition

structure ChangesNothing (p : Exec OperationReport) (host : Host) : Prop where
  events : ∀ e ∈ p.log Host.step host, e.changes = false
  state : (p.final Host.step host).daemonState = host.daemonState
  files : (p.final Host.step host).files = filesLeft host.files (p.log Host.step host)

theorem changesNothing_iff_still {p : Exec OperationReport} {host : Host} : ChangesNothing p host ↔ p.Still host := by
  unfold Exec.Still
  rw [Script.wp_events]
  have hall : ∀ (events : List ExecutorEvent) (h : Host),
      Trace.Always Host.step (fun _ e => e.changes = false) h events ↔ ∀ e ∈ events, e.changes = false := by
    intro events
    induction events with
    | nil => simp
    | cons e events ih => simp [ih]
  rw [hall]
  constructor
  · exact fun h => h.events
  intro h
  obtain ⟨hs, hf⟩ := host.run_still ((hall _ _).2 h)
  exact ⟨h, hs, hf⟩

section Parts

variable {opts : ExecuteOptions} {env : Surroundings} {filter : Option String} {host : Host}

/-- The rules below are for scripts whose events change nothing; how a script is left does not matter. -/
private abbrev dr_wp {α : Type} (post : α → Host → Prop) (p : Exec α) (host : Host) : Prop :=
  Script.wp Host.step (fun _ e => e.changes = false) post (fun _ _ => True) p host

private theorem dr_requireHook {post : Unit → Host → Prop} {command : Option String} {phase : HookPhase}
    {ended : Option Int} {body : Int → ReportBody} :
    dr_wp post (requireHook command phase ended body) host ↔
      if (hookCommand command).isSome then ended = none else post () host := by
  unfold dr_wp
  rw [wp_requireHook]
  cases hookCommand command with
  | none => simp
  | some cmd =>
    cases ended with
    | none => simp
    | some exitCode => simp [ExecutorEvent.changes]

variable {post : AttemptEnd → Host → Prop} {n remaining : Nat} {command : List Arg} {sha256 : String → String}
  {inputs : RunInputs}

private theorem dr_recoverState :
    dr_wp post (recoverState env filter n command) host ↔
      host.stateDir.isSome = false ∨ env.recoveryArchive n = .renameFails := by
  unfold dr_wp recoverState
  rw [wp_bind, wp_archiveBisyncState]
  cases host.stateDir with
  | none => simp
  | some dir =>
    by_cases hfl : env.recoveryArchive n = .renameFails
    · simp [hfl]
    · simp [hfl, ExecutorEvent.changes]

def HasItsDir (command : List Arg) (host : Host) : Prop := usesWorkdir command = true → host.stateDir.isSome = true

private theorem dr_rclone {files : List ListingFile} (h : HasItsDir command host) :
    (host.step (.rclone command filter files)).stateDir.isSome = host.stateDir.isSome := by
  unfold Host.step
  dsimp only
  split
  · rename_i hwork
    rw [h hwork]
    rfl
  · rfl

private theorem dr_runAttempt {isRecovery : Bool} :
    dr_wp post (runAttempt opts env filter n command isRecovery) host ↔
      if (hookCommand opts.assignment.preSyncCmd).isSome then env.preHook n = none
      else ∀ ended, env.rclone n = some ended → isDry command = true ∧
        if needsRecovery opts.folder.type ended.result then
          (host.step (.rclone command filter ended.files)).stateDir.isSome = false ∨
            env.recoveryArchive n = .renameFails
        else if ended.result.exitCode = 0 ∧ (hookCommand opts.assignment.postSyncCmd).isSome then env.postHook n = none
        else post ⟨command, ended.result, isRecovery⟩ (host.step (.rclone command filter ended.files)) := by
  unfold runAttempt dr_wp
  rw [wp_bind]
  refine dr_requireHook.trans ?_
  by_cases hpre : (hookCommand opts.assignment.preSyncCmd).isSome = true
  · rw [if_pos hpre, if_pos hpre]
  rw [if_neg hpre, if_neg hpre, wp_bind, wp_runCommand]
  cases env.rclone n with
  | none => simp
  | some ended =>
    have hsome : ∀ e, some ended = some e ↔ e = ended := by simp [eq_comm]
    simp only [reduceCtorEq, false_imp_iff, true_and, hsome, forall_eq, ExecutorEvent.changes, Bool.not_eq_false',
      wp_bind, Script.wp_orLeave]
    refine and_congr_right fun _ => ?_
    have hres : ∀ r, some ended.result = some r ↔ r = ended.result := by simp [eq_comm]
    simp only [hres, forall_eq]
    unfold recoverIfNeeded
    dsimp only
    by_cases hrcv : needsRecovery opts.folder.type ended.result = true
    · rw [if_pos hrcv, if_pos hrcv]
      exact dr_recoverState
    rw [if_neg hrcv, if_neg hrcv]
    show dr_wp _ (requireHook _ _ _ _) _ ↔ _
    rw [dr_requireHook]
    by_cases hzero : ended.result.exitCode = 0
    · simp [hzero]
    · simp [hzero, hookCommand]

private theorem dr_harmless {dry hasDir : Bool} {next : RcloneEnd → Prop} :
    (∀ ended, env.rclone n = some ended → dry = true ∧
      if needsRecovery opts.folder.type ended.result then hasDir = false ∨ env.recoveryArchive n = .renameFails
      else if ended.result.exitCode = 0 ∧ (hookCommand opts.assignment.postSyncCmd).isSome then env.postHook n = none
      else next ended) ↔
    HarmlessAttempt opts env dry hasDir n ∧ ∀ ended, env.rclone n = some ended →
      needsRecovery opts.folder.type ended.result = false →
        (ended.result.exitCode = 0 → hookCommand opts.assignment.postSyncCmd = none) → next ended := by
  unfold HarmlessAttempt
  rw [← forall_and]
  apply forall_congr'
  intro ended
  by_cases hnd : env.rclone n = some ended
  · simp only [hnd, true_imp_iff, and_assoc]
    refine and_congr_right fun _ => ?_
    cases hrcv : needsRecovery opts.folder.type ended.result with
    | true => simp
    | false =>
      by_cases hzero : ended.result.exitCode = 0
      · cases hhook : hookCommand opts.assignment.postSyncCmd with
        | none | some cmd => simp [hhook, hzero, hookRuns]
      · simp [hzero]
  · simp [hnd]

private theorem dr_upTo {harmless retried : Nat → Prop} {attempt : Nat} :
    (∀ k ≤ remaining + 1, (∀ j < k, retried (attempt + j)) → harmless (attempt + k)) ↔
      harmless attempt ∧ (retried attempt →
        ∀ k ≤ remaining, (∀ j < k, retried (attempt + 1 + j)) → harmless (attempt + 1 + k)) := by
  constructor
  · intro h
    refine ⟨h 0 (by omega) (by omega), ?_⟩
    intro hfi k hk hla
    have hnext := h (k + 1) (by omega) ?_
    · rwa [show attempt + (k + 1) = attempt + 1 + k by omega] at hnext
    intro j hj
    cases j with
    | zero => exact hfi
    | succ j =>
      rw [show attempt + (j + 1) = attempt + 1 + j by omega]
      exact hla j (by omega)
  · rintro ⟨hfi, hrest⟩ k hk hbef
    cases k with
    | zero => exact hfi
    | succ k =>
      rw [show attempt + (k + 1) = attempt + 1 + k by omega]
      refine hrest (hbef 0 (by omega)) k (by omega) ?_
      intro j hj
      rw [show attempt + 1 + j = attempt + (j + 1) by omega]
      exact hbef (j + 1) (by omega)

private theorem dr_runAttempts {post : Nat × AttemptEnd → Host → Prop} (hpost : ∀ ended h, post ended h)
    :
    ∀ {attempt : Nat} {isRecovery : Bool} {host : Host}, HasItsDir command host →
      (dr_wp post (runAttempts opts env filter remaining attempt command isRecovery) host ↔
        HarmlessAttempts opts env (isDry command) host.stateDir.isSome remaining attempt) := by
  induction remaining with
  | zero =>
    intro attempt isRecovery host hdir
    unfold runAttempts HarmlessAttempts
    refine (wp_bind _ _).trans (dr_runAttempt.trans ?_)
    by_cases hpre : (hookCommand opts.assignment.preSyncCmd).isSome = true
    · rw [if_pos hpre, if_pos hpre]
    rw [if_neg hpre, if_neg hpre]
    simp only [dr_rclone hdir]
    rw [dr_harmless]
    simp [hpost]
  | succ remaining ih =>
    intro attempt isRecovery host hdir
    unfold runAttempts HarmlessAttempts
    refine (wp_bind _ _).trans (dr_runAttempt.trans ?_)
    by_cases hpre : (hookCommand opts.assignment.preSyncCmd).isSome = true
    · rw [if_pos hpre, if_pos hpre]
    rw [if_neg hpre, if_neg hpre]
    simp only [dr_rclone hdir]
    rw [dr_harmless, dr_upTo]
    refine and_congr_right fun _ => ?_
    -- what comes after the attempt is the rest of the loop
    have hnext : ∀ ended : RcloneEnd, dr_wp post
        (if runSucceeded ended.result || !isRetryable opts.folder.type ended.result then
          pure (attempt, ⟨command, ended.result, isRecovery⟩)
        else do
          Script.act (.reportRetry attempt)
          runAttempts opts env filter remaining (attempt + 1) command isRecovery)
        (host.step (.rclone command filter ended.files)) ↔
        (runSucceeded ended.result = false → isRetryable opts.folder.type ended.result = true →
          HarmlessAttempts opts env (isDry command) host.stateDir.isSome remaining (attempt + 1)) := by
      intro ended
      have hth : HasItsDir command (host.step (.rclone command filter ended.files)) := by
        intro hwork
        rw [dr_rclone hdir]
        exact hdir hwork
      have hrest := @ih (attempt + 1) isRecovery _ hth
      rw [dr_rclone hdir] at hrest
      unfold dr_wp at hrest ⊢
      rw [wp_ite, wp_bind, wp_act]
      cases runSucceeded ended.result with
      | true => simp [hpost]
      | false =>
        cases isRetryable opts.folder.type ended.result with
        | false => simp [hpost]
        | true =>
          have hq : (ExecutorEvent.reportRetry attempt).changes = false := rfl
          have hsame : ∀ h : Host, h.step (.reportRetry attempt) = h := fun _ => rfl
          simp only [hq, hsame, hrest, Bool.or_false, Bool.not_true, Bool.false_eq_true, false_imp_iff, true_and,
            not_false_eq_true, true_imp_iff]
    unfold IsRetried
    unfold HarmlessAttempts at hnext
    rw [if_neg hpre] at hnext
    constructor
    · rintro h ⟨ended, hnd, hrcv, hhook, hfail, hre⟩
      exact (hnext ended).1 (h ended hnd hrcv hhook) hfail hre
    intro h ended hnd hrcv hhook
    refine (hnext ended).2 fun hfail hre => ?_
    exact h ⟨ended, hnd, hrcv, hhook, hfail, hre⟩

private theorem dr_runPlanned {plan : RunPlan}
    (hpend : plan.pendingFilterFingerprint = none) (hdry : opts.folder.type = .sync → opts.dryRun = true)
    (hdir : HasItsDir plan.command host) :
    dr_wp (fun _ _ => True) (runPlanned sha256 opts env inputs plan) host ↔
      HarmlessRest opts env (isDry plan.command) host.stateDir.isSome := by
  have hatt : ∀ peer, dr_wp (fun ended => Script.wp Host.step (fun _ e => e.changes = false) (fun _ _ => True)
      (fun _ _ => True) (finishRun sha256 opts env inputs plan ended.1 ended.2))
      (runAttempts opts env inputs.filters.filterFrom (maxRetries opts.assignment) 1 (peerCommand opts env inputs plan peer)
        false) host ↔
      HarmlessAttempts opts env (isDry plan.command) host.stateDir.isSome (maxRetries opts.assignment) 1 := by
    intro peer
    have hits : HasItsDir (peerCommand opts env inputs plan peer) host := by
      unfold HasItsDir
      rw [usesWorkdir_peerCommand]
      exact hdir
    rw [dr_runAttempts (fun _ _ => wp_finishRun_dry hpend hdry fun _ => trivial) hits, isDry_peerCommand]
  have hpb : ∀ ip, (ExecutorEvent.probePeer ip).changes = false := fun _ => rfl
  have hsv : (ExecutorEvent.serveSftp opts.assignment.localPath).changes = true := rfl
  have hrest : dr_wp (fun peer => Script.wp Host.step (fun _ e => e.changes = false) (fun _ _ => True) (fun _ _ => True)
      (runAttempts opts env inputs.filters.filterFrom (maxRetries opts.assignment) 1 (peerCommand opts env inputs plan peer)
        false >>= fun ended => finishRun sha256 opts env inputs plan ended.1 ended.2))
      (startLanPeerSession opts env) host ↔
      HarmlessRest.rest opts env (isDry plan.command) host.stateDir.isSome := by
    unfold dr_wp at hatt ⊢
    rw [wp_startLanPeerSession hpb]
    simp only [wp_bind, hatt, hsv]
    unfold HarmlessRest.rest
    cases servesPeer opts with
    | true => cases env.peerServes with
      | true | false => simp
    | false => simp
  unfold dr_wp at hrest ⊢
  unfold runPlanned HarmlessRest requireSpace requireDiskSpace
  rw [wp_bind, wp_ite]
  have hdisk : ∀ path, (ExecutorEvent.diskFree path).changes = false := fun _ => rfl
  have hsame : ∀ path, host.step (.diskFree path) = host := fun _ => rfl
  by_cases hmo : opts.folder.type = .mount
  · simp only [hmo, true_imp_iff, not_true_eq_false, false_imp_iff, and_true, if_true]
    rw [wp_bind, wp_act, hsame, wp_leaveIf, wp_bind, hrest]
    cases env.mountCacheFits with
    | true | false => simp [hdisk]
  simp only [hmo, false_imp_iff, not_false_eq_true, true_imp_iff, true_and, if_false]
  rw [wp_bind, wp_checkDiskSpace, wp_leaveIf, wp_bind, hrest]
  dsimp only
  cases env.availableBytes.all fun bytes => decide (requiredSpace opts.assignment ≤ bytes) with
  | true | false => simp [hdisk]

private theorem dr_runSync (hdry : opts.dryRun = true) :
    dr_wp (fun _ _ => True) (runSync sha256 opts env inputs) host ↔
      (opts.bisync.isSome ∧ env.stateDirMade = false) ∨
        HarmlessRest opts env true (opts.bisync.isSome || host.stateDir.isSome) := by
  unfold dr_wp runSync planSync
  rw [wp_bind, hdry, if_pos rfl]
  unfold planDryRun
  cases opts.bisync with
  | none =>
    have hdir : HasItsDir (previewPlan opts inputs).command host := by
      intro hwork
      rw [usesWorkdir_previewPlan] at hwork
      cases hwork
    refine (dr_runPlanned rfl (fun _ => hdry) hdir).trans ?_
    rw [isDry_previewPlan]
    simp
  | some control =>
    have hmade : (host.step .makeStateDir).stateDir.isSome = true := rfl
    have hq : ExecutorEvent.makeStateDir.changes = false := rfl
    have hplan : ∀ resync, dr_wp (fun _ _ => True) (runPlanned sha256 opts env inputs (dryPlan opts env inputs resync))
        (host.step .makeStateDir) ↔ HarmlessRest opts env true true := by
      intro resync
      rw [dr_runPlanned rfl (fun _ => hdry) fun _ => hmade, isDry_dryPlan, hmade]
    unfold dr_wp at hplan
    unfold makeStateDir
    simp only [wp_bind, wp_leaveIf, wp_act, Script.wp_get, wp_pure, hplan, hq]
    cases env.stateDirMade with
    | true | false => simp

private theorem dr_runMount (hdry : opts.dryRun = true) :
    dr_wp (fun _ _ => True) (runMount sha256 opts env inputs) host ↔
      env.localDir.isSome ∨ HarmlessRest opts env false host.stateDir.isSome := by
  have hdir : HasItsDir (mountPlan opts inputs).command host := by
    intro hwork
    rw [usesWorkdir_mountPlan] at hwork
    cases hwork
  have hplan : dr_wp (fun _ _ => True) (runPlanned sha256 opts env inputs (mountPlan opts inputs)) host ↔ _ :=
    dr_runPlanned rfl (fun _ => hdry) hdir
  have hsame : host.step .makeLocalDir = host := rfl
  have hq : ExecutorEvent.makeLocalDir.changes = false := rfl
  rw [isDry_mountPlan] at hplan
  unfold dr_wp at hplan ⊢
  unfold runMount planMount
  rw [wp_bind, wp_bind, Script.wp_orLeaveNone]
  cases env.localDir with
  | some error => simp
  | none =>
    simp only [reduceCtorEq, implies_true, true_imp_iff, true_and, wp_bind, wp_act,
      wp_pure, hsame, hq, hplan, Option.isSome_none, Bool.false_eq_true, false_or]

private theorem dr_runDotfile :
    dr_wp (fun _ _ => True) (runDotfile opts env) host ↔ HarmlessDotfile opts env := by
  unfold dr_wp runDotfile HarmlessDotfile
  rw [wp_bind]
  refine dr_requireHook.trans ?_
  have hre : (runResticDotfileUpload opts env).Still host ↔ _ := runResticDotfileUpload_still
  have hpl : (runDotfileUpload opts env).Still host ↔ _ := runDotfileUpload_still
  unfold Exec.Still at hre hpl
  rw [wp_ite, hre, hpl]
  cases hasResticConfig opts.assignment with
  | true | false => simp

private theorem dr_runBackup (hdry : opts.dryRun = true) :
    dr_wp (fun _ _ => True) (if hasResticConfig opts.assignment then runResticBackupAssignment opts env
      else runPlanned sha256 opts env inputs (planBackup opts inputs)) host ↔
      if hasResticConfig opts.assignment then env.which "restic" = false ∨ env.restic.init = none
      else HarmlessRest opts env true host.stateDir.isSome := by
  have hdir : HasItsDir (planBackup opts inputs).command host := by
    intro hwork
    rw [usesWorkdir_planBackup] at hwork
    cases hwork
  have hplan : dr_wp (fun _ _ => True) (runPlanned sha256 opts env inputs (planBackup opts inputs)) host ↔ _ :=
    dr_runPlanned rfl (fun _ => hdry) hdir
  have hre : (runResticBackupAssignment opts env).Still host ↔ _ := runResticBackupAssignment_still
  rw [isDry_planBackup, hdry] at hplan
  cases hasResticConfig opts.assignment with
  | true => exact hre
  | false => exact hplan

private theorem dr_executeAssignment (hdry : opts.dryRun = true) :
    (executeAssignment sha256 opts env).Still host ↔ DryRunHarmless opts env host := by
  unfold Exec.Still executeAssignment DryRunHarmless
  have hlo : ∀ _ : Host, ExecutorEvent.makeLocalDir.changes = false := fun _ => rfl
  rw [wp_bind, wp_prepareRun (P := fun _ e => e.changes = false) hlo]
  cases preparedInputs opts env with
  | error stop => simp [Script.Ends, Except.toOption]
  | ok inputs =>
    simp only [Script.Ends, Except.toOption, Option.isNone_some, Bool.false_eq_true, false_or]
    cases opts.folder.type with
    | sync => exact dr_runSync hdry
    | backup => exact dr_runBackup hdry
    | mount => exact dr_runMount hdry
    | dotfile => exact dr_runDotfile
    | git => exact runGit_still

end Parts

/-- A dry run changes nothing exactly when it is refused, or when its folder type has nothing to change: no hook that is
run, no tree that is served to a peer, no corrupted state that is archived, and no mount, snapshot, capture or
repository. -/
theorem dry_run_changes_nothing_iff (sha256 : String → String) (opts : ExecuteOptions) (env : Surroundings) (host : Host)
    (hdry : opts.dryRun = true) :
    ChangesNothing (executeAssignment sha256 opts env) host ↔ DryRunHarmless opts env host :=
  changesNothing_iff_still.trans (dr_executeAssignment hdry)

def previewOptions : ExecuteOptions where
  assignment := { id := "a", folderId := "f", hostId := "h", localPath := "/home/docs" }
  folder := { id := "f", name := "docs", type := .sync }
  hostId := "h"
  dryRun := true

def rcloneEnds (exitCode : Int) (stderrTail : String) : Surroundings where
  rclone := fun _ => some { result := .exited exitCode stderrTail }
  recoveryRun := fun _ => some { result := .exited exitCode "" }

/-- A plain preview that succeeds changes nothing. -/
theorem plain_preview_changes_nothing :
    ChangesNothing (executeAssignment id previewOptions (rcloneEnds 0 "")) {} := by
  apply (dry_run_changes_nothing_iff id previewOptions (rcloneEnds 0 "") {} rfl).2
  refine Or.inr (Or.inr ?_)
  refine Or.inr ?_
  intro k _ _ ended hnd
  rw [← Option.some.inj hnd]
  exact ⟨rfl, fun _ => rfl⟩

/-- Previews that change something: the hook before the attempt is run, and after a corrupted state the work directory is
moved away. -/
theorem preview_runs_hook_and_archives :
    ¬ ChangesNothing (executeAssignment id
        { previewOptions with assignment := { previewOptions.assignment with preSyncCmd := some "make clean" } }
        (rcloneEnds 0 "")) {} ∧
      ¬ ChangesNothing (executeAssignment id previewOptions (rcloneEnds 7 "Bisync aborted. Must run --resync"))
        { stateDir := some { filterFingerprint := some "f" } } := by
  constructor
  · intro h
    have hq := h.events (.hook .pre "make clean") (by decide +kernel)
    cases hq
  intro h
  have hs := h.state
  revert hs
  decide +kernel

end LamaSync
