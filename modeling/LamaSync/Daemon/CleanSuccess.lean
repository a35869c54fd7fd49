import LamaSync.Daemon.BaselinePair

/-!
# What a success means

A run of a sync folder is reported as a success in two places.  The tail of the executor asks for an exit code, for the
baseline, and that rclone was not stopped.  The branch of the conflicts, when all of them were treated, asks for the same
without the exit code.  A dry run is asked for neither its conflicts nor the baseline.

`success_is_clean_iff` says which runs are reported as a success although their last invocation of rclone was none.
-/

namespace LamaSync

open Script (wp_bind wp_pure wp_act wp_actIf wp_leaveIf wp_get wp_orLeave)

section Outcome

variable (opts : ExecuteOptions) (env : Surroundings) (worksInDir hasDir : Bool)

def attemptOutcome (files : List ListingFile) (n : Nat) : Option (CommandResult × List ListingFile) :=
  let left := fun (ended : RcloneEnd) (found : List ListingFile) =>
    (ended.result, if worksInDir then ended.files else found)
  if hookPasses opts.assignment.preSyncCmd (env.preHook n) then
    ((env.rclone n).bind fun ended =>
      if needsRecovery opts.folder.type ended.result then
        if hasDir && env.recoveryArchive n = .done && env.recoveryDirMade n then
          (env.recoveryRun n).map fun again => left again []
        else none
      else some (left ended files)).filter fun outcome =>
        outcome.1.exitCode ≠ 0 || hookPasses opts.assignment.postSyncCmd (env.postHook n)
  else none

def lastOutcome : (remaining attempt : Nat) → List ListingFile → Option (CommandResult × List ListingFile)
  | 0, attempt, files => attemptOutcome opts env worksInDir hasDir files attempt
  | remaining + 1, attempt, files =>
    (attemptOutcome opts env worksInDir hasDir files attempt).bind fun outcome =>
      if runSucceeded outcome.1 || !isRetryable opts.folder.type outcome.1 then some outcome
      else lastOutcome remaining (attempt + 1) outcome.2

end Outcome

section Condition

variable (opts : ExecuteOptions) (env : Surroundings)

def ConflictsOf (result : CommandResult) : List (ParsedConflict × Nat) :=
  (parseBisyncConflicts result.stdoutTail result.stderrTail).zipIdx

def conflictResolved (c : ParsedConflict × Nat) : Bool :=
  let strategy := opts.assignment.conflictStrategy.getD .manual
  !opts.dryRun && strategy ≠ .manual && conflictTreated strategy opts.assignment.role env.automaticEnd c

structure CleanSuccess (result : CommandResult) (files : List ListingFile) : Prop where
  succeeded : runSucceeded result = true
  resolved : ∀ c ∈ ConflictsOf result, conflictResolved opts env c = true
  ready : (inspectBisyncBaseline files false).ready = true

def SuccessIsClean (p : Exec OperationReport) (host : Host) : Prop :=
  ∀ report, (p.result Host.step host = .ok report ∨ p.result Host.step host = .error (.reported report)) →
    report.succeeded → ∃ result, lastResult opts env (maxRetries opts.assignment) 1 = some result ∧
      CleanSuccess opts env result (p.final Host.step host).files

def worksInDir : Bool := !opts.dryRun || opts.bisync.isSome

/-- What is asked of the last attempt for a report of success. -/
def AcceptsOutcome (result : CommandResult) (files : List ListingFile) : Prop :=
  if opts.dryRun then runSucceeded result = true
  else (if ConflictsOf result = [] then result.exitCode = 0 ∨ result.exitCode = 9
    else opts.assignment.conflictStrategy.getD .manual ≠ .manual ∧
      ∀ c ∈ ConflictsOf result, conflictResolved opts env c = true) ∧
    result.timedOut = false ∧ result.aborted = false ∧ (inspectBisyncBaseline files false).ready = true

/-- The run gets to its attempts. -/
structure ReachesAttempts : Prop where
  prepared : (preparedInputs opts env).isOk = true
  stateDir : worksInDir opts = true → env.stateDirMade = true
  space : env.availableBytes.all (fun bytes => requiredSpace opts.assignment ≤ bytes) = true
  peer : servesPeer opts = true → env.peerServes = true

/-- The last attempt is hidden by a success.  In a real run it was not stopped and has left a ready pair and conflicts that
are all treated, but its exit code is none of a success; in a dry run it has reported conflicts, or there is no ready
pair. -/
def HidesFailure (outcome : CommandResult × List ListingFile) : Prop :=
  if opts.dryRun then
    runSucceeded outcome.1 = true ∧
      (ConflictsOf outcome.1 ≠ [] ∨ (inspectBisyncBaseline outcome.2 false).ready = false)
  else
    (outcome.1.exitCode ≠ 0 ∧ outcome.1.exitCode ≠ 9) ∧ outcome.1.timedOut = false ∧ outcome.1.aborted = false ∧
      (inspectBisyncBaseline outcome.2 false).ready = true ∧ ConflictsOf outcome.1 ≠ [] ∧
      ∀ c ∈ ConflictsOf outcome.1, conflictResolved opts env c = true

end Condition

section Parts

variable {sha256 : String → String} {opts : ExecuteOptions} {env : Surroundings} {inputs : RunInputs} {plan : RunPlan}
  {filter : Option String} {host : Host} {works hasDir : Bool} {bad : List ListingFile → Prop}

/-- The rules below are for runs that end with a success and a condition on the files; nothing is asked of the events. -/
private abbrev cs_wp {α : Type} (bad : List ListingFile → Prop) (post : α → Host → Prop) (p : Exec α) (host : Host) : Prop :=
  Script.wp Host.step (fun _ _ => True) post
    (fun stop h => ∃ report, stop = .reported report ∧ report.succeeded ∧ bad h.files) p host

variable {files : List ListingFile}

private theorem cs_failed {body : ReportBody} :
    ¬ ∃ report, failed body = .reported report ∧ report.succeeded ∧ bad files := by
  rintro ⟨report, hrep, hsucc, -⟩
  obtain rfl := ExecuteEnd.reported.inj hrep
  rcases hsucc with h | h <;> cases h

private theorem cs_requireHook {post : Unit → Host → Prop} {command : Option String} {phase : HookPhase}
    {ended : Option Int} {body : Int → ReportBody} :
    cs_wp bad post (requireHook command phase ended body) host ↔ hookPasses command ended = true ∧ post () host := by
  unfold cs_wp hookPasses
  rw [wp_requireHook]
  simp only [cs_failed]
  cases hookCommand command with
  | none => simp
  | some cmd =>
    cases ended with
    | none => simp
    | some exitCode =>
      by_cases hzero : exitCode = 0
      · simp [hzero]
      · simp [hzero]

private theorem cs_rclone {command : List Arg} {files : List ListingFile} (hwo : usesWorkdir command = works) :
    (host.step (.rclone command filter files)).files = (if works then files else host.files) ∧
      (host.step (.rclone command filter files)).stateDir.isSome = (works || host.stateDir.isSome) := by
  subst hwo
  unfold Host.step
  dsimp only
  cases usesWorkdir command with
  | true | false => exact ⟨rfl, rfl⟩

private def cs_Reads (works hasDir : Bool) (post : AttemptEnd → Host → Prop)
    (holds : CommandResult → List ListingFile → Prop) : Prop :=
  ∀ ended h, usesWorkdir ended.command = works → h.stateDir.isSome = hasDir →
    (post ended h ↔ holds ended.result h.files)

variable {command : List Arg}

private theorem cs_recoverState {post : AttemptEnd → Host → Prop} {holds : CommandResult → List ListingFile → Prop}
    {n : Nat} (hwo : usesWorkdir command = works) (hdir : host.stateDir.isSome = hasDir)
    (hpost : cs_Reads works hasDir post holds) : cs_wp bad post (recoverState env filter n command) host ↔
      (hasDir && env.recoveryArchive n = .done && env.recoveryDirMade n) = true ∧
        ∃ again, env.recoveryRun n = some again ∧ holds again.result (if works then again.files else []) := by
  unfold cs_wp recoverState
  rw [wp_bind, wp_archiveBisyncState]
  simp only [wp_bind, wp_leaveIf, cs_failed, wp_act, wp_runCommand, wp_orLeave, true_and]
  have hnone : host.stateDir.isNone = !hasDir := by rw [← Option.not_isSome, hdir]
  rw [hnone]
  cases hasDir with
  | false => simp
  | true =>
    cases env.recoveryArchive n with
    | renameFails | pruneFails => simp
    | done =>
      cases env.recoveryDirMade n with
      | false => simp
      | true =>
        cases env.recoveryRun n with
        | none => simp
        | some again =>
          have hleft := @cs_rclone filter ((host.step (.archiveState true)).step .makeStateDir) works (withResync command)
            again.files ((usesWorkdir_withResync command).trans hwo)
          have hread := hpost ⟨withResync command, again.result, true⟩ _
            ((usesWorkdir_withResync command).trans hwo) (hleft.2.trans (Bool.or_true works))
          have hem : ((host.step (.archiveState true)).step .makeStateDir).files = [] := rfl
          rw [hleft.1, hem] at hread
          simpa using hread

private theorem cs_runAttempt {post : AttemptEnd → Host → Prop} {holds : CommandResult → List ListingFile → Prop}
    {n : Nat} {isRecovery : Bool} (hwo : usesWorkdir command = works)
    (hdir : (works || host.stateDir.isSome) = hasDir) (hpost : cs_Reads works hasDir post holds) :
    cs_wp bad post (runAttempt opts env filter n command isRecovery) host ↔
      ∃ outcome, attemptOutcome opts env works hasDir host.files n = some outcome ∧ holds outcome.1 outcome.2 := by
  have hlast : ∀ (last : AttemptEnd) (h : Host), cs_wp bad post (do
      requireHook (if last.result.exitCode = 0 then opts.assignment.postSyncCmd else none) .post (env.postHook n)
        (.postHook (some n))
      pure last) h ↔
      (last.result.exitCode ≠ 0 || hookPasses opts.assignment.postSyncCmd (env.postHook n)) = true ∧ post last h := by
    intro last h
    refine (wp_bind _ _).trans (cs_requireHook.trans ?_)
    by_cases hzero : last.result.exitCode = 0
    · simp [hzero]
    · simp [hzero, hookPasses, hookCommand]
  unfold runAttempt attemptOutcome cs_wp
  rw [wp_bind]
  refine cs_requireHook.trans ?_
  cases hookPasses opts.assignment.preSyncCmd (env.preHook n) with
  | false => simp
  | true =>
    rw [and_iff_right rfl, if_pos rfl, wp_bind, wp_runCommand]
    simp only [wp_bind, wp_orLeave, cs_failed, true_and]
    cases env.rclone n with
    | none => simp
    | some ended =>
      have hleft := @cs_rclone filter host works command ended.files hwo
      have hth : (host.step (.rclone command filter ended.files)).stateDir.isSome = hasDir := hleft.2.trans hdir
      have hst : ∀ rclone, some ended = some rclone ↔ rclone = ended := by simp [eq_comm]
      have hres : ∀ r, some ended.result = some r ↔ r = ended.result := by simp [eq_comm]
      simp only [reduceCtorEq, false_imp_iff, true_and, hst, forall_eq, hres, Option.bind_some]
      unfold recoverIfNeeded
      simp only [wp_bind] at hlast
      by_cases hrcv : needsRecovery opts.folder.type ended.result = true
      · rw [if_pos hrcv, if_pos hrcv]
        have hrd : cs_Reads works hasDir _ fun result files =>
            (result.exitCode ≠ 0 || hookPasses opts.assignment.postSyncCmd (env.postHook n)) = true ∧ holds result files :=
          fun last h hw hd => (hlast last h).trans (and_congr_right fun _ => hpost last h hw hd)
        refine (cs_recoverState hwo hth hrd).trans ?_
        cases hasDir && decide (env.recoveryArchive n = .done) && env.recoveryDirMade n with
        | false => simp
        | true =>
          cases env.recoveryRun n with
          | none => simp
          | some again => simp [Option.filter_some]
      · rw [if_neg hrcv, if_neg hrcv]
        refine (hlast _ _).trans ?_
        rw [hpost _ _ hwo hth, hleft.1]
        simp [Option.filter_some]

private theorem cs_runAttempts {post : Nat × AttemptEnd → Host → Prop} {holds : CommandResult → List ListingFile → Prop}
    (hpost : ∀ n, cs_Reads works hasDir (fun ended => post (n, ended)) holds) {remaining : Nat} :
    ∀ {n : Nat} {command : List Arg} {isRecovery : Bool} {host : Host}, usesWorkdir command = works →
      (works || host.stateDir.isSome) = hasDir →
        (cs_wp bad post (runAttempts opts env filter remaining n command isRecovery) host ↔
          ∃ outcome, lastOutcome opts env works hasDir remaining n host.files = some outcome ∧
            holds outcome.1 outcome.2) := by
  induction remaining with
  | zero =>
    intro n command isRecovery host hwo hdir
    unfold runAttempts lastOutcome
    exact (wp_bind _ _).trans (cs_runAttempt hwo hdir (hpost n))
  | succ remaining ih =>
    intro n command isRecovery host hwo hdir
    unfold runAttempts lastOutcome
    have hrd : cs_Reads works hasDir (fun ended => cs_wp bad post
        (if runSucceeded ended.result || !isRetryable opts.folder.type ended.result then pure (n, ended)
        else do
          Script.act (.reportRetry n)
          runAttempts opts env filter remaining (n + 1) ended.command ended.isRecovery))
        fun result files =>
          if runSucceeded result || !isRetryable opts.folder.type result then holds result files
          else ∃ outcome, lastOutcome opts env works hasDir remaining (n + 1) files = some outcome ∧
            holds outcome.1 outcome.2 := by
      intro ended h hw hd
      have hth : (works || h.stateDir.isSome) = hasDir := by
        rw [hd, ← hdir, ← Bool.or_assoc, Bool.or_self]
      have hnext := @ih (n + 1) ended.command ended.isRecovery h hw hth
      unfold cs_wp at hnext ⊢
      dsimp only
      by_cases hsp : (runSucceeded ended.result || !isRetryable opts.folder.type ended.result) = true
      · rw [if_pos hsp, if_pos hsp, wp_pure]
        exact hpost n ended h hw hd
      · rw [if_neg hsp, if_neg hsp, wp_bind, wp_act, and_iff_right trivial,
          show h.step (.reportRetry n) = h from rfl, hnext]
    refine (wp_bind _ _).trans ((cs_runAttempt hwo hdir hrd).trans ?_)
    cases attemptOutcome opts env works hasDir host.files n with
    | none => simp
    | some outcome =>
      have hsome : ∀ o, some outcome = some o ↔ o = outcome := by simp [eq_comm]
      simp only [hsome, exists_eq_left, Option.bind_some]
      by_cases hsp : (runSucceeded outcome.1 || !isRetryable opts.folder.type outcome.1) = true
      · simp only [if_pos hsp, hsome, exists_eq_left]
      · simp only [if_neg hsp]

private theorem cs_acknowledgeFilter {post : Unit → Host → Prop} {succeeded established : Bool} {holds : Prop}
    (hpost : ∀ h : Host, h.files = host.files → (post () h ↔ holds)) :
    cs_wp bad post (acknowledgeFilter env plan succeeded established) host ↔ holds := by
  unfold acknowledgeFilter cs_wp
  cases plan.pendingFilterFingerprint with
  | none => exact hpost host rfl
  | some fingerprint =>
    dsimp only
    by_cases hack : shouldAcknowledgeFilter plan.filterResync succeeded established = true
    · rw [if_pos hack, wp_bind, wp_actIf]
      have hwr := hpost (host.step (.writeFingerprint fingerprint)) rfl
      have hrem := hpost (host.step .removeMarker) rfl
      have hboth := hpost ((host.step (.writeFingerprint fingerprint)).step .removeMarker) rfl
      have hnei := hpost host rfl
      rw [wp_actIf, wp_actIf]
      cases env.fingerprintWritten <;> cases env.markerRemoved <;> simp [hwr, hrem, hboth, hnei]
    · rw [if_neg hack, wp_actIf]
      have hmar := hpost (host.step (.writeMarker fingerprint)) rfl
      have hnei := hpost host rfl
      by_cases hma : plan.filterResync = true ∧ env.markerWritten = true
      · simp [hma, hmar]
      · simp [hma, hnei]

private theorem cs_finalStatus {ok aborted : Bool} {run : FinishedRun} {body : ReportBody}
    (hcan : run.cancelled = true → aborted = true) :
    OperationReport.succeeded ⟨finalStatus ok run aborted, body⟩ ↔
      ok = true ∧ run.timedOut = false ∧ aborted = false ∧ run.baselineEstablished = true := by
  unfold finalStatus OperationReport.succeeded
  cases hrun : run.cancelled with
  | true => simp [hcan hrun]
  | false =>
    cases ok <;> cases run.timedOut <;> cases aborted <;> cases run.baselineEstablished <;> cases run.isRecovery <;> simp

private theorem cs_handleConflicts {conflicts : List ParsedConflict} {run : FinishedRun} {aborted : Bool}
    (hreal : opts.dryRun = false) (hcan : run.cancelled = true → aborted = true) :
    cs_wp bad (fun report h => report.succeeded ∧ bad h.files) (handleConflicts opts env conflicts run aborted) host ↔
      bad host.files ∧ (opts.assignment.conflictStrategy.getD .manual ≠ .manual ∧
        ∀ c ∈ conflicts.zipIdx, conflictResolved opts env c = true) ∧
        run.timedOut = false ∧ aborted = false ∧ run.baselineEstablished = true := by
  have hconf : ∀ body : ReportBody, ¬ OperationReport.succeeded ⟨.conflict, body⟩ := by
    intro body h
    rcases h with h | h <;> cases h
  unfold handleConflicts cs_wp
  dsimp only
  by_cases hman : opts.assignment.conflictStrategy.getD .manual = .manual
  · rw [if_pos hman, wp_bind, wp_act, wp_pure]
    simp [hconf, hman]
  obtain ⟨hres, hfn⟩ := @applyAutomaticConflicts_result (opts.assignment.conflictStrategy.getD .manual)
    opts.assignment.role env conflicts host
  rw [if_neg hman, wp_bind, Script.wp_of_result Trace.always_true hres, hfn]
  have hun : ((conflicts.zipIdx.map fun c => (c.1, conflictTreated
      (opts.assignment.conflictStrategy.getD .manual) opts.assignment.role env.automaticEnd c)).filter
      fun c => !c.2).map (fun c => c.1.path) = [] ↔ ∀ c ∈ conflicts.zipIdx, conflictResolved opts env c = true := by
    rw [List.map_eq_nil_iff, List.filter_eq_nil_iff, List.forall_mem_map]
    refine forall₂_congr fun c _ => ?_
    simp [conflictResolved, hreal, hman]
  by_cases hall : ∀ c ∈ conflicts.zipIdx, conflictResolved opts env c = true
  · rw [if_neg (not_not_intro (hun.2 hall)), wp_pure, cs_finalStatus hcan]
    simp only [true_and, hman, ne_eq, not_false_eq_true]
    tauto
  · rw [if_pos (mt hun.1 hall), wp_bind, wp_act, wp_pure]
    exact iff_of_false (fun h => hconf _ h.2.1) fun h => hall h.2.1.2

variable {attempts : Nat} {ended : AttemptEnd}

private theorem cs_cancelled
    (h : (finishedRun sha256 opts inputs plan host attempts ended).cancelled = true) : ended.result.aborted = true :=
  (Bool.and_eq_true_iff.1 h).1

private theorem cs_finishRun_real (hsync : opts.folder.type = .sync)
    (hreal : opts.dryRun = false) (hdir : plan.usesStateDir = true) :
    cs_wp bad (fun report h => report.succeeded ∧ bad h.files) (finishRun sha256 opts env inputs plan attempts ended) host ↔
      bad host.files ∧ AcceptsOutcome opts env ended.result host.files := by
  have hest : (finishedRun sha256 opts inputs plan host attempts ended).baselineEstablished =
      (inspectBisyncBaseline host.files false).ready := by
    unfold finishedRun baselineEstablished baselineAfter
    dsimp only
    rw [if_pos ⟨hsync, by rw [hreal]; rfl, hdir⟩, Option.all_some]
    exact inspect_ready host.files true
  have hco : ConflictsOf ended.result = [] ↔
      parseBisyncConflicts ended.result.stdoutTail ended.result.stderrTail = [] := List.zipIdx_eq_nil_iff
  unfold finishRun cs_wp AcceptsOutcome
  rw [hreal, if_neg Bool.false_ne_true, wp_bind, wp_get, wp_bind]
  refine cs_acknowledgeFilter fun h hf => ?_
  by_cases hnone : ConflictsOf ended.result = []
  · rw [if_pos hnone, if_neg fun hsome => hsome.2.2 (hco.1 hnone), wp_pure, cs_finalStatus cs_cancelled, hf,
      hest]
    simp only [Bool.or_eq_true, decide_eq_true_eq]
    tauto
  rw [if_neg hnone, if_pos ⟨hsync, rfl, mt hco.2 hnone⟩]
  refine (cs_handleConflicts hreal cs_cancelled).trans ?_
  rw [hf, hest]
  rfl

private theorem cs_finishRun_dry (hdry : opts.dryRun = true) :
    cs_wp bad (fun report h => report.succeeded ∧ bad h.files) (finishRun sha256 opts env inputs plan attempts ended) host ↔
      bad host.files ∧ AcceptsOutcome opts env ended.result host.files := by
  have hest : (finishedRun sha256 opts inputs plan host attempts ended).baselineEstablished = true := by
    unfold finishedRun baselineEstablished baselineAfter
    dsimp only
    rw [if_neg fun h => by simp [hdry] at h]
    rfl
  unfold finishRun cs_wp AcceptsOutcome
  rw [if_pos hdry, wp_bind, wp_get, wp_bind]
  refine cs_acknowledgeFilter fun h hf => ?_
  rw [if_neg fun h => by simp [hdry] at h, wp_pure, cs_finalStatus cs_cancelled, hf, hest]
  unfold runSucceeded
  simp only [Bool.or_eq_true, decide_eq_true_eq, Bool.and_eq_true, Bool.not_eq_true']
  tauto

theorem lastResult_of_lastOutcome {remaining : Nat} :
    ∀ {n : Nat} {files : List ListingFile} {outcome : CommandResult × List ListingFile},
      lastOutcome opts env works hasDir remaining n files = some outcome →
        lastResult opts env remaining n = some outcome.1 := by
  have hat : ∀ {n : Nat} {files : List ListingFile} {outcome : CommandResult × List ListingFile},
      attemptOutcome opts env works hasDir files n = some outcome → attemptResult opts env n = some outcome.1 := by
    intro n files outcome h
    unfold attemptOutcome at h
    unfold attemptResult
    dsimp only at h
    split at h
    · have hsome := Option.eq_some_of_filter_eq_some h
      cases hrun : env.rclone n with
      | none =>
        rw [hrun] at hsome
        cases hsome
      | some ended =>
        rw [hrun, Option.bind_some] at hsome
        rw [Option.bind_some]
        by_cases hrcv : needsRecovery opts.folder.type ended.result = true
        · rw [if_pos hrcv] at hsome ⊢
          split at hsome
          · cases hag : env.recoveryRun n with
            | none =>
              rw [hag] at hsome
              cases hsome
            | some again =>
              rw [hag] at hsome
              exact congrArg (Option.map Prod.fst) hsome
          · cases hsome
        · rw [if_neg hrcv] at hsome ⊢
          exact congrArg (Option.map Prod.fst) hsome
    · cases h
  induction remaining with
  | zero => exact fun h => hat h
  | succ remaining ih =>
    intro n files outcome h
    unfold lastOutcome at h
    unfold lastResult
    obtain ⟨first, hfi, hrest⟩ := Option.bind_eq_some_iff.1 h
    have hres := hat hfi
    have hre : isRepeated opts env n = (!runSucceeded first.1 && isRetryable opts.folder.type first.1) := by
      unfold isRepeated
      rw [hres]
      rfl
    rw [hre]
    split at hrest
    · rename_i hsp
      rw [if_neg, hres, ← Option.some.inj hrest]
      cases hsucc : runSucceeded first.1 <;> simp_all
    rename_i hsp
    rw [if_pos]
    · exact ih hrest
    · cases hsucc : runSucceeded first.1 <;> simp_all

private abbrev cs_bad (opts : ExecuteOptions) (env : Surroundings) (files : List ListingFile) : Prop :=
  ¬ ∃ result, lastResult opts env (maxRetries opts.assignment) 1 = some result ∧ CleanSuccess opts env result files

variable {outcome : CommandResult × List ListingFile}

private theorem cs_bad_iff (hlast : lastResult opts env (maxRetries opts.assignment) 1 = some outcome.1) :
    cs_bad opts env outcome.2 ↔ ¬ CleanSuccess opts env outcome.1 outcome.2 := by
  unfold cs_bad
  rw [hlast]
  refine not_congr ⟨?_, fun h => ⟨_, rfl, h⟩⟩
  rintro ⟨result, hres, hcl⟩
  cases hres
  exact hcl

private theorem cs_hides_real (hreal : opts.dryRun = false) :
    (¬ CleanSuccess opts env outcome.1 outcome.2 ∧ AcceptsOutcome opts env outcome.1 outcome.2) ↔
      HidesFailure opts env outcome := by
  have hsucc : outcome.1.timedOut = false → outcome.1.aborted = false →
      (runSucceeded outcome.1 = true ↔ outcome.1.exitCode = 0 ∨ outcome.1.exitCode = 9) := by
    intro htime habt
    simp [runSucceeded, htime, habt]
  unfold HidesFailure AcceptsOutcome
  rw [hreal, if_neg Bool.false_ne_true, if_neg Bool.false_ne_true]
  constructor
  · rintro ⟨hun, hends, htime, habt, hrd⟩
    by_cases hnone : ConflictsOf outcome.1 = []
    · rw [if_pos hnone] at hends
      refine absurd ⟨(hsucc htime habt).2 hends, ?_, hrd⟩ hun
      rw [hnone]
      exact fun c hc => absurd hc List.not_mem_nil
    rw [if_neg hnone] at hends
    refine ⟨?_, htime, habt, hrd, hnone, hends.2⟩
    rw [← not_or]
    exact fun hexit => hun ⟨(hsucc htime habt).2 hexit, hends.2, hrd⟩
  · rintro ⟨hexit, htime, habt, hrd, hsome, hres⟩
    rw [if_neg hsome]
    refine ⟨fun hcl => ?_, ⟨?_, hres⟩, htime, habt, hrd⟩
    · rcases (hsucc htime habt).1 hcl.succeeded with h | h
      · exact hexit.1 h
      · exact hexit.2 h
    -- there is a conflict, and it is treated by the strategy
    obtain ⟨c, hc⟩ := List.exists_mem_of_ne_nil _ hsome
    have htr := hres c hc
    unfold conflictResolved at htr
    rw [Bool.and_eq_true, Bool.and_eq_true, decide_eq_true_eq] at htr
    exact htr.1.2

private theorem cs_hides_dry (hdry : opts.dryRun = true) :
    (¬ CleanSuccess opts env outcome.1 outcome.2 ∧ AcceptsOutcome opts env outcome.1 outcome.2) ↔
      HidesFailure opts env outcome := by
  have hres : (∀ c ∈ ConflictsOf outcome.1, conflictResolved opts env c = true) ↔ ConflictsOf outcome.1 = [] := by
    rw [List.eq_nil_iff_forall_not_mem]
    refine forall_congr' fun c => ?_
    simp [conflictResolved, hdry]
  have hcl : CleanSuccess opts env outcome.1 outcome.2 ↔ runSucceeded outcome.1 = true ∧
      ConflictsOf outcome.1 = [] ∧ (inspectBisyncBaseline outcome.2 false).ready = true :=
    ⟨fun h => ⟨h.succeeded, hres.1 h.resolved, h.ready⟩, fun h => ⟨h.1, hres.2 h.2.1, h.2.2⟩⟩
  unfold HidesFailure AcceptsOutcome
  rw [if_pos hdry, if_pos hdry, hcl, ← Bool.not_eq_true]
  tauto

private theorem cs_attempts (hsync : opts.folder.type = .sync) (hwo : usesWorkdir command = works)
    (hplan : opts.dryRun = false → plan.usesStateDir = true) :
    cs_wp (cs_bad opts env) (fun report h => report.succeeded ∧ cs_bad opts env h.files) (do
        let ended ← runAttempts opts env filter (maxRetries opts.assignment) 1 command false
        finishRun sha256 opts env inputs plan ended.1 ended.2) host ↔
      ∃ outcome, lastOutcome opts env works (works || host.stateDir.isSome) (maxRetries opts.assignment) 1 host.files =
        some outcome ∧ HidesFailure opts env outcome := by
  have hfi : ∀ n, cs_Reads works (works || host.stateDir.isSome)
      (fun ended => cs_wp (cs_bad opts env) (fun report h => report.succeeded ∧ cs_bad opts env h.files)
        (finishRun sha256 opts env inputs plan n ended))
      fun result files => cs_bad opts env files ∧ AcceptsOutcome opts env result files := by
    intro n ended h _ _
    cases hdry : opts.dryRun with
    | false => exact cs_finishRun_real hsync hdry (hplan hdry)
    | true => exact cs_finishRun_dry hdry
  refine (wp_bind _ _).trans ((@cs_runAttempts opts env filter works (works || host.stateDir.isSome)
    (cs_bad opts env) (fun ended => cs_wp (cs_bad opts env) (fun report h => report.succeeded ∧ cs_bad opts env h.files)
      (finishRun sha256 opts env inputs plan ended.1 ended.2)) _ hfi _ _ _ _ _ hwo rfl).trans ?_)
  refine exists_congr fun outcome => and_congr_right fun hlast => ?_
  rw [cs_bad_iff (lastResult_of_lastOutcome hlast)]
  cases hdry : opts.dryRun with
  | false => exact cs_hides_real hdry
  | true => exact cs_hides_dry hdry

private theorem cs_threw : ¬ ∃ report, ExecuteEnd.threw = .reported report ∧ report.succeeded ∧ bad files := by
  rintro ⟨report, hrep, -⟩
  cases hrep

private theorem cs_runPlanned (hsync : opts.folder.type = .sync) (hwo : usesWorkdir plan.command = works)
    (hplan : opts.dryRun = false → plan.usesStateDir = true) :
    cs_wp (cs_bad opts env) (fun report h => report.succeeded ∧ cs_bad opts env h.files)
      (runPlanned sha256 opts env inputs plan) host ↔
      (env.availableBytes.all (fun bytes => requiredSpace opts.assignment ≤ bytes) = true ∧
        (servesPeer opts = true → env.peerServes = true)) ∧
        ∃ outcome, lastOutcome opts env works (works || host.stateDir.isSome) (maxRetries opts.assignment) 1 host.files =
          some outcome ∧ HidesFailure opts env outcome := by
  have hmo : opts.folder.type ≠ .mount := by
    rw [hsync]
    decide
  have hloop : ∀ peer, Script.wp Host.step _ _ _ (do
      let ended ← runAttempts opts env inputs.filters.filterFrom (maxRetries opts.assignment) 1
        (peerCommand opts env inputs plan peer) false
      finishRun sha256 opts env inputs plan ended.1 ended.2) host ↔ _ :=
    fun peer => cs_attempts hsync ((usesWorkdir_peerCommand peer).trans hwo) hplan
  unfold cs_wp runPlanned requireSpace requireDiskSpace
  rw [if_neg hmo, wp_bind, wp_bind, wp_checkDiskSpace, wp_leaveIf, wp_bind,
    wp_startLanPeerSession fun _ => trivial, and_iff_right trivial]
  simp only [hloop, cs_failed, cs_threw]
  cases env.availableBytes.all fun bytes => decide (requiredSpace opts.assignment ≤ bytes) with
  | false => simp
  | true =>
    cases servesPeer opts with
    | false => simp
    | true =>
      cases env.peerServes with
      | false | true => simp

private theorem cs_lastOutcome_files {remaining n : Nat} {files' : List ListingFile} :
    lastOutcome opts env true hasDir remaining n files = lastOutcome opts env true hasDir remaining n files' := by
  cases remaining with
  | zero | succ remaining => rfl

private theorem cs_runSync (hsync : opts.folder.type = .sync) :
    cs_wp (cs_bad opts env) (fun report h => report.succeeded ∧ cs_bad opts env h.files) (runSync sha256 opts env inputs)
      host ↔
      (worksInDir opts = true → env.stateDirMade = true) ∧
        (env.availableBytes.all (fun bytes => requiredSpace opts.assignment ≤ bytes) = true ∧
          (servesPeer opts = true → env.peerServes = true)) ∧
        ∃ outcome, lastOutcome opts env (worksInDir opts) (worksInDir opts || host.stateDir.isSome)
          (maxRetries opts.assignment) 1 host.files = some outcome ∧ HidesFailure opts env outcome := by
  have hrest : ∀ {plan : RunPlan} {h : Host} {works : Bool}, usesWorkdir plan.command = works →
      (opts.dryRun = false → plan.usesStateDir = true) → (Script.wp Host.step _ _ _ (runPlanned sha256 opts env inputs plan) h ↔ _) :=
    fun hwo hplan => cs_runPlanned hsync hwo hplan
  have hf : ∀ h : Host, lastOutcome opts env true true (maxRetries opts.assignment) 1 h.files =
      lastOutcome opts env true true (maxRetries opts.assignment) 1 host.files := fun _ => cs_lastOutcome_files
  unfold cs_wp runSync worksInDir
  rw [wp_bind]
  cases hdry : opts.dryRun with
  | false =>
    rw [wp_planSync_iff (fun _ _ _ => trivial) hdry, hrest (usesWorkdir_realPlan _ _) fun _ => rfl, Bool.true_or, hf]
    simp only [cs_threw, Bool.not_false, Bool.true_or, true_imp_iff]
    cases env.stateDirMade with
    | false | true => simp
  | true =>
    have hreal : opts.dryRun = false → (false : Bool) = true := fun h => absurd (hdry.symm.trans h) (by decide)
    unfold planSync planDryRun
    rw [if_pos hdry]
    cases hctl : opts.bisync with
    | none =>
      dsimp only
      rw [wp_pure, hrest usesWorkdir_previewPlan hreal]
      simp
    | some control =>
      have hwo : ∀ resync, usesWorkdir (dryPlan opts env inputs resync).command = true := by
        intro resync
        simp [usesWorkdir, dryPlan]
      dsimp only
      unfold makeStateDir
      rw [wp_bind, wp_bind, wp_leaveIf, wp_act, wp_bind, wp_get, wp_pure,
        hrest (hwo _) fun _ => rfl, Bool.true_or, hf]
      simp only [cs_threw, Option.isSome_some, Bool.or_true, Bool.true_or, true_imp_iff]
      cases env.stateDirMade with
      | false | true => simp

end Parts

theorem preparedInputs_error {opts : ExecuteOptions} {env : Surroundings} {stop : ExecuteEnd}
    (h : preparedInputs opts env = .error stop) : stop = .threw ∨ ∃ body, stop = failed body := by
  unfold preparedInputs at h
  split at h
  · exact .inr ⟨_, (Except.error.inj h).symm⟩
  split at h
  · exact .inr ⟨_, (Except.error.inj h).symm⟩
  split at h
  · exact .inr ⟨_, (Except.error.inj h).symm⟩
  · cases h
  · exact .inl (Except.error.inj h).symm

private theorem cs_clean_iff {opts : ExecuteOptions} {env : Surroundings} {p : Exec OperationReport} {host : Host} :
    SuccessIsClean opts env p host ↔
      ¬ cs_wp (cs_bad opts env) (fun report h => report.succeeded ∧ cs_bad opts env h.files) p host := by
  unfold SuccessIsClean cs_wp
  rw [Script.wp_iff, and_iff_right Trace.always_true]
  cases p.result Host.step host with
  | ok report =>
    constructor
    · exact fun h hbad => hbad.2 (h report (.inl rfl) hbad.1)
    rintro h report' (hrep | hrep) hsucc
    · obtain rfl := Except.ok.inj hrep
      by_contra hbad
      exact h ⟨hsucc, hbad⟩
    · cases hrep
  | error stop =>
    constructor
    · rintro h ⟨report, hstop, hsucc, hbad⟩
      exact hbad (h report (.inr (congrArg Except.error hstop)) hsucc)
    rintro h report (hrep | hrep) hsucc
    · cases hrep
    · by_contra hbad
      exact h ⟨report, Except.error.inj hrep, hsucc, hbad⟩

/-- Every success of a run of a sync folder is a clean one exactly when the last attempt, if the run gets to one, hides no
failure. -/
theorem success_is_clean_iff {stateDir : String} (sha256 : String → String) (run : SyncRun stateDir) (host : Host) :
    SuccessIsClean run.opts run.env (run.script sha256) host ↔
      (ReachesAttempts run.opts run.env → ∀ outcome, lastOutcome run.opts run.env (worksInDir run.opts)
        (worksInDir run.opts || host.stateDir.isSome) (maxRetries run.opts.assignment) 1 host.files = some outcome →
          ¬ HidesFailure run.opts run.env outcome) := by
  rw [cs_clean_iff]
  unfold SyncRun.script executeAssignment cs_wp
  rw [wp_bind, wp_prepareRun fun _ => trivial, run.isSync]
  cases hprep : preparedInputs run.opts run.env with
  | error stop =>
    refine iff_of_true ?_ fun hr => ?_
    · rcases preparedInputs_error hprep with rfl | ⟨body, rfl⟩
      · exact cs_threw
      · exact cs_failed
    have hok := hr.prepared
    rw [hprep] at hok
    cases hok
  | ok inputs =>
    have hsyncRun := @cs_runSync sha256 run.opts run.env inputs host run.isSync
    unfold cs_wp at hsyncRun
    dsimp only [Script.Ends]
    rw [hsyncRun]
    constructor
    · intro h hr outcome hlast hhi
      exact h ⟨hr.stateDir, ⟨hr.space, hr.peer⟩, outcome, hlast, hhi⟩
    rintro h ⟨hdir, ⟨hsp, hpeer⟩, outcome, hlast, hhi⟩
    have hok : (preparedInputs run.opts run.env).isOk = true := by
      rw [hprep]
      rfl
    exact h ⟨hok, hdir, hsp, hpeer⟩ outcome hlast hhi

def conflictThenError : Surroundings where
  rclone := fun _ => some {
    result := { CommandResult.exited 2 "" with stdoutTail := "CONFLICT  a.txt" }
    files := [⟨"s.path1.lst", "# bisync\n", 0⟩, ⟨"s.path2.lst", "# bisync\n", 0⟩] }

def newerWinsRun : SyncRun "/home/.local/share/lamasync/bisync/f" where
  opts := {
    assignment := { id := "a", folderId := "f", hostId := "h", localPath := "/home/docs",
                    conflictStrategy := some .newerWins }
    folder := { id := "f", name := "docs", type := .sync }
    hostId := "h" }
  env := conflictThenError
  isSync := rfl
  inDir := rfl

/-- The run is reported as a success, and its only invocation of rclone has exited with 2. -/
theorem treated_conflict_hides_exit_code :
    ¬ SuccessIsClean newerWinsRun.opts newerWinsRun.env (newerWinsRun.script id) {} := by
  intro h
  have hrep : ∃ report, (newerWinsRun.script id).result Host.step {} = .ok report ∧ report.status = .success := by
    refine ⟨_, rfl, ?_⟩
    decide +kernel
  obtain ⟨report, hres, hsu⟩ := hrep
  obtain ⟨result, hlast, hcl⟩ := h report (.inl hres) (.inl hsu)
  have hfi : lastResult newerWinsRun.opts newerWinsRun.env (maxRetries newerWinsRun.opts.assignment) 1 =
      some { exitCode := 2, stdoutTail := "CONFLICT  a.txt" } := by
    decide +kernel
  obtain rfl := Option.mem_unique hlast hfi
  exact absurd hcl.succeeded (by decide)

end LamaSync
