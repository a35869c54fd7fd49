import LamaSync.Daemon.Launches

/-!
# Runs of a sync folder

The runs of one sync folder follow each other in one work directory.  This module says what one run can do to it.  The
plan moves the old directory away or keeps it.  What comes then, up to the end of the attempts, forgets the acknowledged
fingerprint or keeps it, and rclone writes its listings with the filters of the run only (`Host.Worn`).  The end of the
run acknowledges the fingerprint of these filters, or keeps what there is.

`wp_syncRun` puts this together.
-/

namespace LamaSync

open Script (wp_bind wp_ite wp_act wp_mono wp_leaveIf wp_orLeave wp_actIf)

structure SyncRun (stateDir : String) where
  opts : ExecuteOptions
  env : Surroundings
  isSync : opts.folder.type = .sync
  inDir : bisyncStateDir opts.folder.id env.home = stateDir

namespace SyncRun

variable {stateDir : String} (sha256 : String → String) (run : SyncRun stateDir) (host : Host)

def script : Exec OperationReport := executeAssignment sha256 run.opts run.env

def log : List ExecutorEvent := (run.script sha256).log Host.step host

def after : Host := (run.script sha256).final Host.step host

def inputs : Except ExecuteEnd RunInputs := preparedInputs run.opts run.env

end SyncRun

namespace Host

def acknowledged (host : Host) : Option String := host.dir.readAcknowledgedFingerprint

def hasPair (host : Host) : Bool := (inspectBisyncBaseline host.files false).present

/-- The host has become `host'` in a run with the given filters: what was acknowledged is kept or forgotten, and the
listings are as they were or written with these filters. -/
structure Worn (filter : Option String) (host host' : Host) : Prop where
  acknowledged : host'.acknowledged = host.acknowledged ∨ host'.acknowledged = none
  pairFilter : host'.pairFilter = host.pairFilter ∨ host'.pairFilter = filter
  hasPair : (host.hasPair = true → host.pairFilter = filter) → host'.hasPair = true → host'.pairFilter = filter

variable {filter : Option String} {host host' host'' : Host}

theorem Worn.refl : Worn filter host host := ⟨.inl rfl, .inl rfl, fun h => h⟩

theorem Worn.trans (h : Worn filter host host') (h' : Worn filter host' host'') : Worn filter host host'' where
  acknowledged := by
    rcases h'.acknowledged with hkept | hnone
    · rw [hkept]
      exact h.acknowledged
    · exact .inr hnone
  pairFilter := by
    rcases h'.pairFilter with hkept | hfilt
    · rw [hkept]
      exact h.pairFilter
    · exact .inr hfilt
  hasPair := fun hst => h'.hasPair (h.hasPair hst)

end Host

/-- An event between the plan of a run and its end.  Every launch of rclone has the filters of the run, is dry as the run is
and a resync when the run is planned as one; no file of the daemon is written. -/
def RestEvent (filter : Option String) (dry resync : Bool) : ExecutorEvent → Prop
  | .rclone command launched _ =>
    launched = filter ∧ isDry command = dry ∧ (resync = true → isResync command = true)
  | .writeFingerprint _ | .writeMarker _ | .removeMarker => False
  | _ => True

private theorem sy_hasPair_nil : (inspectBisyncBaseline [] false).present = false := by
  rw [inspect_nil]

theorem RestEvent.worn {filter : Option String} {dry resync : Bool} {e : ExecutorEvent} (h : RestEvent filter dry resync e)
    (host : Host) : Host.Worn filter host (host.step e) := by
  cases e with
  | rclone command launched after =>
    obtain ⟨rfl, -, -⟩ := h
    unfold Host.step
    dsimp only
    split
    · -- the listings are as they were, or they are those of this run
      by_cases hli : listings after = listings host.files
      · rw [if_pos hli]
        refine ⟨.inl rfl, .inl rfl, fun hst hpair => hst ?_⟩
        exact (present_listings hli false).symm.trans hpair
      · rw [if_neg hli]
        exact ⟨.inl rfl, .inr rfl, fun _ _ => rfl⟩
    · exact .refl
  | archiveState pruned =>
    refine ⟨.inr rfl, .inl rfl, fun _ hpair => ?_⟩
    exact absurd (hpair.symm.trans sy_hasPair_nil) (by decide)
  | makeStateDir => exact ⟨.inl rfl, .inl rfl, fun hst => hst⟩
  | writeFingerprint _ | writeMarker _ | removeMarker => cases h
  | _ => exact .refl

section Attempts

variable (opts : ExecuteOptions) (env : Surroundings)

def recoversAt (n : Nat) : Bool := (env.rclone n).any fun ended => needsRecovery opts.folder.type ended.result

def attemptResult (n : Nat) : Option CommandResult :=
  (env.rclone n).bind fun ended =>
    if needsRecovery opts.folder.type ended.result then (env.recoveryRun n).map RcloneEnd.result else some ended.result

def isRepeated (n : Nat) : Bool :=
  (attemptResult opts env n).any fun result => !runSucceeded result && isRetryable opts.folder.type result

def recovers : (remaining attempt : Nat) → Bool
  | 0, attempt => recoversAt opts env attempt
  | remaining + 1, attempt =>
    recoversAt opts env attempt || (isRepeated opts env attempt && recovers remaining (attempt + 1))

def lastResult : (remaining attempt : Nat) → Option CommandResult
  | 0, attempt => attemptResult opts env attempt
  | remaining + 1, attempt =>
    if isRepeated opts env attempt then lastResult remaining (attempt + 1) else attemptResult opts env attempt

end Attempts

section Rest

variable {opts : ExecuteOptions} {env : Surroundings} {filter : Option String} {dry resync : Bool} {host : Host}

private def sy_Suits (dry resync : Bool) (command : List Arg) : Prop :=
  isDry command = dry ∧ (resync = true → isResync command = true)

variable {command : List Arg}

private theorem sy_withResync (h : sy_Suits dry resync command) : sy_Suits dry resync (withResync command) := by
  refine ⟨(isDry_withResync command).trans h.1, fun hrs => ?_⟩
  have hword := h.2 hrs
  unfold isResync at hword ⊢
  unfold withResync
  split
  · exact hword
  · rw [List.contains_eq_mem, decide_eq_true_iff] at hword ⊢
    exact List.mem_append_left _ hword

private abbrev sy_wp {α : Type} (filter : Option String) (dry resync : Bool) (post : α → Host → Prop) (p : Exec α)
    (host : Host) : Prop :=
  Script.wp Host.step (fun _ e => RestEvent filter dry resync e) post (fun _ _ => True) p host

private theorem sy_requireHook {post : Unit → Host → Prop} {command : Option String} {phase : HookPhase}
    {ended : Option Int} {body : Int → ReportBody} (h : post () host) :
    sy_wp filter dry resync post (requireHook command phase ended body) host := by
  unfold sy_wp
  rw [wp_requireHook]
  refine ⟨fun _ => h, fun cmd _ => ⟨fun _ => trivial, fun exitCode _ => ?_⟩⟩
  exact ⟨trivial, fun _ => trivial, fun _ => h⟩

private theorem sy_recoverState {n : Nat} (h : sy_Suits dry resync command) :
    sy_wp filter dry resync (fun ended host' => sy_Suits dry resync ended.command ∧
      (env.recoveryRun n).map RcloneEnd.result = some ended.result ∧ host'.acknowledged = none)
      (recoverState env filter n command) host := by
  unfold sy_wp recoverState
  rw [wp_bind, wp_archiveBisyncState]
  refine ⟨fun _ => ?_, fun _ => ⟨trivial, ?_⟩⟩
  · rw [wp_bind, wp_leaveIf]
    exact ⟨fun _ => trivial, fun hgoes => absurd (by simp) hgoes⟩
  rw [wp_bind, wp_leaveIf]
  refine ⟨fun _ => trivial, fun _ => ?_⟩
  rw [wp_bind, wp_act, wp_bind, wp_runCommand]
  refine ⟨trivial, fun _ => ?_, fun rclone hrun => ?_⟩
  · rw [wp_bind, wp_orLeave]
    exact ⟨fun _ => trivial, fun _ hres => (Option.some_ne_none _ hres.symm).elim⟩
  refine ⟨⟨rfl, sy_withResync h⟩, ?_⟩
  rw [wp_bind, wp_orLeave]
  refine ⟨fun _ => trivial, fun result hres => ?_⟩
  rw [hrun, Option.map_some]
  refine ⟨sy_withResync h, hres, ?_⟩
  unfold Host.step
  dsimp only
  split
  · rfl
  · rfl

private theorem sy_runAttempt {n : Nat} {isRecovery : Bool} (h : sy_Suits dry resync command) :
    sy_wp filter dry resync (fun ended host' => sy_Suits dry resync ended.command ∧
      attemptResult opts env n = some ended.result ∧
      host'.acknowledged = if recoversAt opts env n then none else host.acknowledged)
      (runAttempt opts env filter n command isRecovery) host := by
  unfold runAttempt sy_wp
  rw [wp_bind]
  apply sy_requireHook
  rw [wp_bind, wp_runCommand]
  refine ⟨fun _ => ?_, fun rclone hrun => ⟨⟨rfl, h⟩, ?_⟩⟩
  · rw [wp_bind, wp_orLeave]
    exact ⟨fun _ => trivial, fun _ hres => (Option.some_ne_none _ hres.symm).elim⟩
  rw [wp_bind, wp_orLeave]
  refine ⟨fun hnone => (Option.some_ne_none _ hnone).elim, fun result hres => ?_⟩
  cases hres
  have hkept : (host.step (.rclone command filter rclone.files)).acknowledged = host.acknowledged := by
    unfold Host.step
    dsimp only
    split
    · rfl
    · rfl
  have hhook : ∀ (ended : AttemptEnd) (host' : Host), (sy_Suits dry resync ended.command ∧
      attemptResult opts env n = some ended.result ∧
      host'.acknowledged = if recoversAt opts env n then none else host.acknowledged) →
      sy_wp filter dry resync (fun ended host' => sy_Suits dry resync ended.command ∧
        attemptResult opts env n = some ended.result ∧
        host'.acknowledged = if recoversAt opts env n then none else host.acknowledged) (do
          requireHook (if ended.result.exitCode = 0 then opts.assignment.postSyncCmd else none) .post (env.postHook n)
            (.postHook (some n))
          pure ended) host' := by
    intro ended host' hen
    unfold sy_wp
    rw [wp_bind]
    exact sy_requireHook hen
  unfold recoverIfNeeded
  rw [wp_bind]
  by_cases hnd : needsRecovery opts.folder.type rclone.result = true
  · rw [if_pos hnd]
    refine wp_mono (sy_recoverState h) (fun _ _ h => h) ?_ (fun _ _ h => h)
    rintro ended host' ⟨hsu, hen, hnone⟩
    refine hhook ended host' ⟨hsu, ?_, ?_⟩
    · unfold attemptResult
      rw [hrun, Option.bind_some, if_pos hnd, hen]
    · unfold recoversAt
      rw [hrun, Option.any_some, if_pos hnd, hnone]
  · rw [if_neg hnd]
    refine hhook _ _ ⟨h, ?_, ?_⟩
    · unfold attemptResult
      rw [hrun, Option.bind_some, if_neg hnd]
    · unfold recoversAt
      rw [hrun, Option.any_some, if_neg hnd, hkept]

private theorem sy_runAttempts {remaining : Nat} :
    ∀ {attempt : Nat} {command : List Arg} {isRecovery : Bool} {host : Host}, sy_Suits dry resync command →
      sy_wp filter dry resync (fun ended host' => lastResult opts env remaining attempt = some ended.2.result ∧
        host'.acknowledged = if recovers opts env remaining attempt then none else host.acknowledged)
        (runAttempts opts env filter remaining attempt command isRecovery) host := by
  induction remaining with
  | zero =>
    intro attempt command isRecovery host h
    unfold runAttempts sy_wp
    rw [wp_bind]
    refine wp_mono (sy_runAttempt h) (fun _ _ h => h) ?_ (fun _ _ h => h)
    rintro ended host' ⟨-, hres, hack⟩
    exact ⟨hres, hack⟩
  | succ remaining ih =>
    intro attempt command isRecovery host h
    unfold runAttempts sy_wp
    rw [wp_bind]
    refine wp_mono (sy_runAttempt h) (fun _ _ h => h) ?_ (fun _ _ h => h)
    rintro ended host' ⟨hsu, hres, hack⟩
    have hre : isRepeated opts env attempt =
        (!runSucceeded ended.result && isRetryable opts.folder.type ended.result) := by
      unfold isRepeated
      rw [hres, Option.any_some]
    unfold lastResult recovers
    rw [wp_ite]
    refine ⟨fun hends => ?_, fun hgoes => ?_⟩
    · have hno : isRepeated opts env attempt = false := by
        rw [hre]
        revert hends
        cases runSucceeded ended.result <;> simp
      rw [hno, Bool.false_and, Bool.or_false]
      exact ⟨hres, hack⟩
    · have hyes : isRepeated opts env attempt = true := by
        rw [hre]
        revert hgoes
        cases runSucceeded ended.result <;> simp
      rw [hyes, Bool.true_and, if_pos rfl, wp_bind, wp_act]
      refine ⟨trivial, ?_⟩
      refine wp_mono (ih hsu) (fun _ _ h => h) ?_ (fun _ _ h => h)
      rintro last host'' ⟨hlast, hkept⟩
      refine ⟨hlast, hkept.trans ?_⟩
      have hsame : (host'.step (.reportRetry attempt)).acknowledged = host'.acknowledged := rfl
      rw [hsame, hack]
      -- what one attempt has forgotten stays forgotten
      cases recoversAt opts env attempt <;> cases recovers opts env remaining (attempt + 1) <;> rfl

end Rest

section Parts

variable {P : Host → ExecutorEvent → Prop} {left : ExecuteEnd → Host → Prop} {opts : ExecuteOptions} {env : Surroundings}
  {host : Host}

def movesBefore (opts : ExecuteOptions) (env : Surroundings) (inspection : BisyncBaselineInspection)
    (filterResync : Bool) : Bool :=
  archivesBefore opts inspection filterResync && env.archive ≠ .renameFails

structure Host.Planned (moved : Bool) (host host' : Host) : Prop where
  acknowledged : host'.acknowledged = if moved then none else host.acknowledged
  files : host'.files = if moved then [] else host.files
  pairFilter : host'.pairFilter = host.pairFilter

variable {sha256 : String → String} {inputs : RunInputs}

theorem Host.planned_plannedHost : Host.Planned (movesBefore opts env (inspectBisyncBaseline host.files false)
      ((filterVerdict sha256 inputs host).any FingerprintVerdict.changed)) host (plannedHost sha256 opts env inputs host) := by
  unfold movesBefore plannedHost
  cases archivesBefore opts (inspectBisyncBaseline host.files false)
      ((filterVerdict sha256 inputs host).any FingerprintVerdict.changed) with
  | false => exact ⟨rfl, rfl, rfl⟩
  | true =>
    rw [if_pos rfl]
    cases env.archive with
    | renameFails | pruneFails | done => exact ⟨rfl, rfl, rfl⟩

theorem wp_planSync_real {post : RunPlan → Host → Prop}
    (hP : ∀ h e, launched e = none → P h e) (hreal : opts.dryRun = false) (hleft : left .threw host)
    (hpost : ∀ h, Host.Planned (movesBefore opts env (inspectBisyncBaseline host.files false)
        ((filterVerdict sha256 inputs host).any FingerprintVerdict.changed)) host h →
      post (realPlan opts env inputs (inspectBisyncBaseline host.files false) (filterVerdict sha256 inputs host)) h) :
    Script.wp Host.step P post left (planSync sha256 opts env inputs) host := by
  rw [wp_planSync_iff hP hreal]
  exact ⟨fun _ => hleft, fun _ => hpost _ Host.planned_plannedHost⟩

variable {plan : RunPlan} {post : OperationReport → Host → Prop}

theorem wp_runPlanned (hP : ∀ h e, Host.Worn inputs.filters.filterFrom host h →
      RestEvent inputs.filters.filterFrom (isDry plan.command) (isResync plan.command) e → P h e)
    (hleft : ∀ r h, Host.Worn inputs.filters.filterFrom host h → left r h)
    (hfi : ∀ attempts ended h, Host.Worn inputs.filters.filterFrom host h →
      lastResult opts env (maxRetries opts.assignment) 1 = some ended.result →
      h.acknowledged = (if recovers opts env (maxRetries opts.assignment) 1 then none else host.acknowledged) →
      Script.wp Host.step P post left (finishRun sha256 opts env inputs plan attempts ended) h) :
    Script.wp Host.step P post left (runPlanned sha256 opts env inputs plan) host := by
  have hlift : ∀ {α : Type} {mid post : α → Host → Prop} {p : Exec α} {h : Host}, Host.Worn inputs.filters.filterFrom host h →
      sy_wp inputs.filters.filterFrom (isDry plan.command) (isResync plan.command) mid p h →
      (∀ a h', mid a h' → Host.Worn inputs.filters.filterFrom host h' → post a h') → Script.wp Host.step P post left p h := by
    intro α mid post p h hworn hwp hnext
    refine wp_mono (Script.wp_strengthen (Q := P) hworn ?_ hwp) (fun _ _ h => h) ?_ ?_
    · exact fun s e hs he => ⟨hP s e hs he, hs.trans (he.worn s)⟩
    · exact fun a s' hs' => hnext a s' hs'.1 hs'.2
    · exact fun r s' hs' => hleft r s' hs'.2
  have hsp : sy_wp inputs.filters.filterFrom (isDry plan.command) (isResync plan.command) (fun _ h => h = host)
      (requireSpace opts env) host := by
    unfold requireSpace requireDiskSpace sy_wp
    rw [wp_ite]
    refine ⟨fun _ => ?_, fun _ => ?_⟩
    · rw [wp_bind, wp_act, wp_leaveIf]
      exact ⟨trivial, fun _ => trivial, fun _ => rfl⟩
    · rw [wp_bind, wp_checkDiskSpace, wp_leaveIf]
      exact ⟨trivial, fun _ => trivial, fun _ => rfl⟩
  have hpeer : sy_wp inputs.filters.filterFrom (isDry plan.command) (isResync plan.command) (fun _ h => h = host)
      (startLanPeerSession opts env) host := by
    unfold sy_wp
    rw [wp_startLanPeerSession fun _ => trivial]
    exact ⟨fun _ => ⟨fun _ => trivial, fun _ => ⟨trivial, rfl⟩⟩, fun _ => rfl⟩
  unfold runPlanned
  rw [wp_bind]
  refine hlift .refl hsp ?_
  rintro _ _ rfl -
  rw [wp_bind]
  refine hlift .refl hpeer ?_
  rintro peer _ rfl -
  rw [wp_bind]
  have hsu : sy_Suits (isDry plan.command) (isResync plan.command) (peerCommand opts env inputs plan peer) :=
    ⟨isDry_peerCommand peer, fun h => (isResync_peerCommand peer).trans h⟩
  refine hlift .refl (sy_runAttempts hsu) ?_
  rintro ⟨attempts, ended⟩ h ⟨hlast, hack⟩ hworn
  exact hfi attempts ended h hworn hlast hack

def OperationReport.succeeded (report : OperationReport) : Prop := report.status = .success ∨ report.status = .recovery

instance (report : OperationReport) : Decidable report.succeeded :=
  inferInstanceAs (Decidable (report.status = .success ∨ report.status = .recovery))

/-- What a success says of the last attempt and of the baseline. -/
structure CleanEnd (opts : ExecuteOptions) (plan : RunPlan) (result : CommandResult) (host : Host) : Prop where
  timedOut : result.timedOut = false
  aborted : result.aborted = false
  established : baselineEstablished opts plan host = true

variable {attempts : Nat} {ended : AttemptEnd}

private theorem sy_cleanEnd {ok : Bool} {body : ReportBody}
    (h : OperationReport.succeeded ⟨finalStatus ok (finishedRun sha256 opts inputs plan host attempts ended)
      ended.result.aborted, body⟩) : CleanEnd opts plan ended.result host := by
  unfold OperationReport.succeeded finalStatus at h
  dsimp only at h
  split at h
  · rcases h with h | h <;> cases h
  split at h
  · rename_i hcl
    rw [Bool.and_eq_true, Bool.and_eq_true, Bool.and_eq_true, Bool.not_eq_true', Bool.not_eq_true'] at hcl
    exact ⟨hcl.1.1.2, hcl.1.2, hcl.2⟩
  · rcases h with h | h <;> cases h

private theorem sy_handleConflicts {conflicts : List ParsedConflict} {before : Host}
    (hP : ∀ h e, launched e = none → P h e)
    (hpost : ∀ report : OperationReport, (report.succeeded → CleanEnd opts plan ended.result before) → post report host) :
    Script.wp Host.step P post left (handleConflicts opts env conflicts
      (finishedRun sha256 opts inputs plan before attempts ended) ended.result.aborted) host := by
  unfold handleConflicts
  dsimp only
  rw [wp_ite]
  refine ⟨fun _ => ?_, fun _ => ?_⟩
  · rw [wp_bind, wp_act]
    exact ⟨hP _ _ rfl, hpost _ fun h => by rcases h with h | h <;> cases h⟩
  rw [wp_bind, wp_applyAutomaticConflicts hP, wp_ite]
  refine ⟨fun _ => ?_, fun _ => hpost _ sy_cleanEnd⟩
  rw [wp_bind, wp_act]
  exact ⟨hP _ _ rfl, hpost _ fun h => by rcases h with h | h <;> cases h⟩

def acknowledges (opts : ExecuteOptions) (env : Surroundings) (plan : RunPlan) (result : CommandResult) (host : Host) : Bool :=
  shouldAcknowledgeFilter plan.filterResync (runSucceeded result) (baselineEstablished opts plan host) &&
    env.fingerprintWritten

private theorem sy_acknowledgeFilter {plan : RunPlan} {result : CommandResult} {post : Unit → Host → Prop}
    (hP : ∀ h e, launched e = none → P h e)
    (hdig : ∀ fingerprint, plan.pendingFilterFingerprint = some fingerprint →
      readTrimmed (some fingerprint) = some fingerprint)
    (hpost : ∀ h : Host, h.files = host.files → h.pairFilter = host.pairFilter →
      h.acknowledged = (if acknowledges opts env plan result host then
        plan.pendingFilterFingerprint.or host.acknowledged else host.acknowledged) → post () h) :
    Script.wp Host.step P post left
      (acknowledgeFilter env plan (runSucceeded result) (baselineEstablished opts plan host)) host := by
  unfold acknowledgeFilter
  cases hpend : plan.pendingFilterFingerprint with
  | none =>
    apply hpost host rfl rfl
    rw [hpend, Option.none_or, ite_self]
  | some fingerprint =>
    dsimp only
    rw [wp_ite]
    refine ⟨fun hack => ?_, fun hpendingStays => ?_⟩
    · have hma : ∀ h : Host, h.files = host.files → h.pairFilter = host.pairFilter →
          h.acknowledged = (if acknowledges opts env plan result host then some fingerprint else host.acknowledged) →
          Script.wp Host.step P post left (Script.actIf (env.markerRemoved = true) .removeMarker) h := by
        intro h hf hpair hacknowledged
        have hfo : h.acknowledged = (if acknowledges opts env plan result host then
            plan.pendingFilterFingerprint.or host.acknowledged else host.acknowledged) := by
          rw [hpend]
          exact hacknowledged
        rw [wp_actIf]
        exact ⟨fun _ => ⟨hP _ _ rfl, hpost _ hf hpair hfo⟩, fun _ => hpost _ hf hpair hfo⟩
      have hac : acknowledges opts env plan result host = env.fingerprintWritten := by
        unfold acknowledges
        rw [hack, Bool.true_and]
      rw [wp_bind, wp_actIf]
      refine ⟨fun hwr => ⟨hP _ _ rfl, hma _ rfl rfl ?_⟩, fun hfl => hma _ rfl rfl ?_⟩
      · rw [hac, if_pos hwr]
        show (readTrimmed (some fingerprint)).or _ = some fingerprint
        rw [hdig fingerprint hpend]
        rfl
      · rw [hac, if_neg hfl]
    · have hfo : ∀ h : Host, h.acknowledged = host.acknowledged → h.acknowledged =
          (if acknowledges opts env plan result host then
            plan.pendingFilterFingerprint.or host.acknowledged else host.acknowledged) := by
        intro h hkept
        have hnot : acknowledges opts env plan result host = false := by
          unfold acknowledges
          rw [Bool.not_eq_true] at hpendingStays
          rw [hpendingStays, Bool.false_and]
        rw [hnot, hkept]
        rfl
      rw [wp_actIf]
      exact ⟨fun _ => ⟨hP _ _ rfl, hpost _ rfl rfl (hfo _ rfl)⟩, fun _ => hpost _ rfl rfl (hfo _ rfl)⟩

theorem wp_finishRun (hP : ∀ h e, launched e = none → P h e)
    (hdig : ∀ fingerprint, plan.pendingFilterFingerprint = some fingerprint →
      readTrimmed (some fingerprint) = some fingerprint)
    (hpost : ∀ (report : OperationReport) (h : Host), (report.succeeded → CleanEnd opts plan ended.result host) →
      h.files = host.files → h.pairFilter = host.pairFilter →
      h.acknowledged = (if acknowledges opts env plan ended.result host then
        plan.pendingFilterFingerprint.or host.acknowledged else host.acknowledged) → post report h) :
    Script.wp Host.step P post left (finishRun sha256 opts env inputs plan attempts ended) host := by
  unfold finishRun
  rw [wp_bind, Script.wp_get]
  dsimp only
  rw [wp_bind]
  refine @sy_acknowledgeFilter P left opts env host plan ended.result _ hP hdig ?_
  intro h hf hpair hack
  rw [wp_ite]
  refine ⟨fun _ => ?_, fun _ => ?_⟩
  · exact sy_handleConflicts hP fun report hcl => hpost report h hcl hf hpair hack
  · exact hpost _ h sy_cleanEnd hf hpair hack

theorem wp_syncRun {stateDir : String} {run : SyncRun stateDir} (hP : ∀ h, P h .makeLocalDir)
    (hleft : ∀ stop, run.inputs = .error stop → left stop host) (hsync : ∀ inputs, run.inputs = .ok inputs →
      Script.wp Host.step P post left (runSync sha256 run.opts run.env inputs) host) :
    Script.wp Host.step P post left (run.script sha256) host := by
  unfold SyncRun.script executeAssignment
  rw [wp_bind, wp_prepareRun hP, run.isSync]
  cases hins : run.inputs with
  | error stop =>
    unfold SyncRun.inputs at hins
    rw [hins]
    exact hleft stop hins
  | ok inputs =>
    unfold SyncRun.inputs at hins
    rw [hins]
    exact hsync inputs hins

end Parts

section RealPlan

variable {sha256 : String → String} {opts : ExecuteOptions} {env : Surroundings} {inputs : RunInputs}
  {inspection : BisyncBaselineInspection} {host : Host}

theorem pending_realPlan : (realPlan opts env inputs inspection
    (filterVerdict sha256 inputs host)).pendingFilterFingerprint = inputs.filters.fingerprint sha256 := by
  unfold realPlan filterVerdict
  dsimp only
  cases inputs.filters.fingerprint sha256 with
  | none => rfl
  | some live => rw [Option.map_some, Option.map_some, reconcileFingerprint_acknowledge]

theorem fingerprint_of_changed (h : (filterVerdict sha256 inputs host).any FingerprintVerdict.changed = true) :
    (inputs.filters.fingerprint sha256).isSome := by
  unfold filterVerdict at h
  cases hlive : inputs.filters.fingerprint sha256 with
  | none =>
    rw [hlive] at h
    cases h
  | some live => rfl

theorem readTrimmed_fingerprint (hdig : ∀ text, readTrimmed (some (sha256 text)) = some (sha256 text))
    {u : FilterUniverse} {fingerprint : String} (h : u.fingerprint sha256 = some fingerprint) :
    readTrimmed (some fingerprint) = some fingerprint := by
  unfold FilterUniverse.fingerprint at h
  split at h
  · cases h
    exact hdig _
  · cases h

theorem baselineEstablished_realPlan (hsync : opts.folder.type = .sync) (hreal : opts.dryRun = false)
    {verdict : Option FingerprintVerdict} : baselineEstablished opts (realPlan opts env inputs inspection verdict) host =
      (inspectBisyncBaseline host.files false).ready := by
  unfold baselineEstablished baselineAfter
  rw [if_pos ⟨hsync, by rw [hreal]; rfl, rfl⟩, Option.all_some]
  exact inspect_ready host.files true

end RealPlan

end LamaSync
