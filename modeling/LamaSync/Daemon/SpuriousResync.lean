import LamaSync.Daemon.FilterBaseline

/-!
# Resyncs that nothing asks for

After a successful run with a ready pair, an ordinary run with the same filters should trust the pair.  It does so when its
fingerprint is the acknowledged one.  But a run that moves the old directory away moves the acknowledged fingerprint with
it, and acknowledges its own only when the filters had changed: after a requested seed the next run finds nothing
acknowledged, and resyncs with the remote side as the authority.

`no_spurious_resync_iff` says for every history which runs have to keep the acknowledged fingerprint, and when they do.
-/

namespace LamaSync

variable {stateDir : String}

section History

variable (sha256 : String → String)

structure Followed (host : Host) (runs : List (SyncRun stateDir)) (found : Host) (run : SyncRun stateDir) (foundNext : Host)
    (next : SyncRun stateDir) (command : List Arg) : Prop where
  inHistory : ∃ before between after, runs = before ++ run :: (between ++ next :: after) ∧
    found = Trace.run (fun host run => run.after sha256 host) host before ∧
    foundNext = Trace.run (fun host run => run.after sha256 host) (run.after sha256 found) between
  real : run.opts.dryRun = false
  succeeded : ((run.script sha256).result Host.step found).toOption.any (fun report => report.succeeded) = true
  ready : (inspectBisyncBaseline (run.after sha256 found).files false).ready = true
  untouched : foundNext.stateDir = (run.after sha256 found).stateDir
  nextReal : next.opts.dryRun = false
  normal : resyncRequested next.opts.bisync = false
  prepared : next.inputs.toOption.isSome = true
  sameInputs : next.inputs = run.inputs
  samePath : next.opts.assignment.localPath = run.opts.assignment.localPath
  launch : (next.script sha256).first Host.step launched foundNext = some command

/-- No ordinary run after a successful one is launched with `--resync`. -/
def NoSpuriousResync (host : Host) (runs : List (SyncRun stateDir)) : Prop :=
  ∀ found run foundNext next command, Followed sha256 host runs found run foundNext next command →
    isResync command = false

def keepsBaseline (run : SyncRun stateDir) (host : Host) : Bool :=
  run.inputs.toOption.all fun inputs => (inputs.filters.fingerprint sha256).isNone ||
    if (filterVerdict sha256 inputs host).any FingerprintVerdict.changed then
      run.env.fingerprintWritten && (lastResult run.opts run.env (maxRetries run.opts.assignment) 1).any
        fun result => result.exitCode = 0 || result.exitCode = 9
    else !movesBefore run.opts run.env (inspectBisyncBaseline host.files false) false &&
      !recovers run.opts run.env (maxRetries run.opts.assignment) 1

end History

section Launch

variable {sha256 : String → String} {opts : ExecuteOptions} {env : Surroundings} {host : Host} {inputs : RunInputs}

variable {filter : Option String} {command found : List Arg} {isRecovery : Bool}

private theorem sp_first_runAttempt {γ : Type} {n : Nat}
    {k : AttemptEnd → Exec γ}
    (h : (runAttempt opts env filter n command isRecovery >>= k).first Host.step launched host = some found) :
    found = command := by
  unfold runAttempt at h
  rw [Script.bind_assoc] at h
  have hhook : Script.wp Host.step (fun _ e => launched e = none) (fun _ _ => True) (fun _ _ => True)
      (requireHook opts.assignment.preSyncCmd .pre (env.preHook n) (.preHook (some n))) host := by
    rw [wp_requireHook]
    exact ⟨fun _ => trivial, fun _ _ => ⟨fun _ => trivial, fun _ _ => ⟨rfl, fun _ => trivial, fun _ => trivial⟩⟩⟩
  obtain ⟨-, s, -, hrest⟩ := Script.first_bind_of_none hhook h
  rw [Script.bind_assoc] at hrest
  unfold runCommand at hrest
  cases hrun : env.rclone n with
  | none =>
    rw [hrun] at hrest
    cases hrest
  | some rclone =>
    rw [hrun] at hrest
    have hfi : Script.first Host.step launched (show Exec (Option CommandResult) from do
        Script.act (.rclone command filter rclone.files)
        pure (some rclone.result)) s = some command := rfl
    exact (Option.some.inj ((Script.first_bind_of_some hfi).symm.trans hrest)).symm

private theorem sp_first_runAttempts {γ : Type} {remaining attempt : Nat}
    {k : Nat × AttemptEnd → Exec γ}
    (h : (runAttempts opts env filter remaining attempt command isRecovery >>= k).first Host.step launched host =
      some found) : found = command := by
  cases remaining with
  | zero | succ remaining =>
    unfold runAttempts at h
    rw [Script.bind_assoc] at h
    exact sp_first_runAttempt h

private theorem sp_first_runPlanned {plan : RunPlan}
    (h : (runPlanned sha256 opts env inputs plan).first Host.step launched host = some found) :
    isResync found = isResync plan.command := by
  unfold runPlanned at h
  have hsp : Script.wp Host.step (fun _ e => launched e = none) (fun _ _ => True) (fun _ _ => True)
      (requireSpace opts env) host := by
    unfold requireSpace requireDiskSpace
    rw [Script.wp_ite]
    refine ⟨fun _ => ?_, fun _ => ?_⟩
    · rw [Script.wp_bind, Script.wp_act, Script.wp_leaveIf]
      exact ⟨rfl, fun _ => trivial, fun _ => trivial⟩
    · rw [Script.wp_bind, wp_checkDiskSpace, Script.wp_leaveIf]
      exact ⟨rfl, fun _ => trivial, fun _ => trivial⟩
  obtain ⟨-, afterSpace, -, hpeer⟩ := Script.first_bind_of_none hsp h
  have hpb : ∀ ip, launched (.probePeer ip) = none := fun _ => rfl
  have hsess : Script.wp Host.step (fun _ e => launched e = none) (fun _ _ => True) (fun _ _ => True)
      (startLanPeerSession opts env) afterSpace := by
    rw [wp_startLanPeerSession hpb]
    exact ⟨fun _ => ⟨fun _ => trivial, fun _ => ⟨rfl, trivial⟩⟩, fun _ => trivial⟩
  obtain ⟨peer, afterPeer, -, hatt⟩ := Script.first_bind_of_none hsess hpeer
  rw [sp_first_runAttempts hatt, isResync_peerCommand]

private theorem sp_first_run {run : SyncRun stateDir} (hreal : run.opts.dryRun = false)
    (hno : resyncRequested run.opts.bisync = false) (hins : run.inputs = .ok inputs)
    (hrd : (inspectBisyncBaseline host.files false).ready = true)
    (h : (run.script sha256).first Host.step launched host = some found) :
    isResync found = (filterVerdict sha256 inputs host).any FingerprintVerdict.changed := by
  unfold SyncRun.script executeAssignment at h
  have hprep : Script.wp Host.step (fun _ e => launched e = none) (fun a s => a = inputs ∧ s = host) (fun _ _ => True)
      (prepareRun run.opts run.env) host := by
    have hlo : ∀ _ : Host, launched .makeLocalDir = none := fun _ => rfl
    rw [wp_prepareRun (P := fun _ e => launched e = none) hlo]
    unfold SyncRun.inputs at hins
    rw [hins]
    exact ⟨rfl, rfl⟩
  obtain ⟨prepared, start, ⟨hpr, hst⟩, hsync⟩ := Script.first_bind_of_none hprep h
  rw [hpr, hst, run.isSync] at hsync
  have hplan : Script.wp Host.step (fun _ e => launched e = none)
      (fun plan _ => plan = realPlan run.opts run.env inputs (inspectBisyncBaseline host.files false)
        (filterVerdict sha256 inputs host)) (fun _ _ => True) (planSync sha256 run.opts run.env inputs) host :=
    wp_planSync_real (fun _ _ he => he) hreal trivial fun _ _ => rfl
  obtain ⟨plan, planned, rfl, hrest⟩ := Script.first_bind_of_none hplan hsync
  rw [sp_first_runPlanned hrest, isResync_realPlan, Bool.eq_iff_iff, Option.isSome_iff_ne_none, ne_eq,
    bisyncResyncPlan_none]
  simp [hno, hrd]

end Launch

section Left

variable {sha256 : String → String} {run : SyncRun stateDir} {host : Host} {inputs : RunInputs}

def acknowledgedAfter (sha256 : String → String) (run : SyncRun stateDir) (inputs : RunInputs) (host : Host) :
    Option String :=
  let changed := (filterVerdict sha256 inputs host).any FingerprintVerdict.changed
  if changed && run.env.fingerprintWritten && (lastResult run.opts run.env (maxRetries run.opts.assignment) 1).any
      (fun result => result.exitCode = 0 || result.exitCode = 9) then inputs.filters.fingerprint sha256
  else if movesBefore run.opts run.env (inspectBisyncBaseline host.files false) changed ||
      recovers run.opts run.env (maxRetries run.opts.assignment) 1 then none
  else host.acknowledged

private theorem sp_acknowledgedAfter (hdig : ∀ text, readTrimmed (some (sha256 text)) = some (sha256 text))
    (host : Host) (hreal : run.opts.dryRun = false) (hins : run.inputs = .ok inputs) :
    Script.wp Host.step (fun _ _ => True)
      (fun report h => report.succeeded → h.acknowledged = acknowledgedAfter sha256 run inputs host) (fun _ _ => True)
      (run.script sha256) host := by
  refine wp_syncRun (fun _ => trivial) (fun _ _ => trivial) ?_
  intro found hf
  obtain rfl := Except.ok.inj (hins.symm.trans hf)
  unfold runSync
  rw [Script.wp_bind]
  refine wp_planSync_real (fun _ _ _ => trivial) hreal trivial ?_
  intro planned hplan
  refine wp_runPlanned (fun _ _ _ _ => trivial) (fun _ _ _ => trivial) ?_
  intro attempts ended h _ hlast hrest
  refine wp_finishRun (fun _ _ _ => trivial) ?_ ?_
  · intro fingerprint hpend
    rw [pending_realPlan] at hpend
    exact readTrimmed_fingerprint hdig hpend
  intro report h' hcl _ _ hack hsucc
  obtain ⟨htimedOut, habt, hest⟩ := hcl hsucc
  have hruns : runSucceeded ended.result = (ended.result.exitCode = 0 || ended.result.exitCode = 9) := by
    unfold runSucceeded
    rw [htimedOut, habt, Bool.not_false, Bool.and_true, Bool.and_true]
  have hmine : acknowledges run.opts run.env (realPlan run.opts run.env inputs (inspectBisyncBaseline host.files false)
      (filterVerdict sha256 inputs host)) ended.result h =
      ((filterVerdict sha256 inputs host).any FingerprintVerdict.changed && run.env.fingerprintWritten &&
        (ended.result.exitCode = 0 || ended.result.exitCode = 9)) := by
    unfold acknowledges shouldAcknowledgeFilter
    rw [hest, hruns, Bool.and_true, Bool.and_right_comm]
    rfl
  unfold acknowledgedAfter
  dsimp only
  rw [hlast, Option.any_some, hack, hmine]
  split
  · rename_i hacks
    rw [Bool.and_eq_true, Bool.and_eq_true] at hacks
    rw [pending_realPlan]
    exact Option.or_of_isSome (fingerprint_of_changed hacks.1.1)
  -- the fingerprint has been moved away before the attempts, or by one of them, or it is still there
  rw [hrest, hplan.acknowledged]
  cases recovers run.opts run.env (maxRetries run.opts.assignment) 1 with
  | true =>
    rw [Bool.or_true]
    rfl
  | false =>
    rw [Bool.or_false]
    rfl

private theorem sp_keepsBaseline (hins : run.inputs = .ok inputs) {hostNext : Host}
    (hnext : hostNext.acknowledged = acknowledgedAfter sha256 run inputs host) :
    (filterVerdict sha256 inputs hostNext).any FingerprintVerdict.changed = false ↔
      keepsBaseline sha256 run host = true := by
  unfold keepsBaseline
  rw [hins]
  dsimp only [Except.toOption, Option.all_some]
  unfold acknowledgedAfter at hnext
  dsimp only at hnext
  cases hlive : inputs.filters.fingerprint sha256 with
  | none =>
    unfold filterVerdict
    rw [hlive]
    simp
  | some live =>
    have hverd : ∀ h : Host, (filterVerdict sha256 inputs h).any FingerprintVerdict.changed =
        (reconcileFingerprint h.acknowledged live (inputs.filters.legacyFingerprint sha256)).changed := by
      intro h
      unfold filterVerdict
      rw [hlive]
      rfl
    rw [hlive] at hnext
    rw [hverd hostNext, hnext, Option.isNone_some, Bool.false_or]
    cases hchg : (filterVerdict sha256 inputs host).any FingerprintVerdict.changed with
    | true =>
      -- the run has to acknowledge its own fingerprint
      rw [Bool.true_and, if_pos rfl]
      cases (run.env.fingerprintWritten && (lastResult run.opts run.env (maxRetries run.opts.assignment) 1).any
          fun result => result.exitCode = 0 || result.exitCode = 9) with
      | true => simp [reconcileFingerprint]
      | false =>
        rw [if_neg Bool.false_ne_true]
        split
        · simp [reconcileFingerprint]
        · rw [← hverd host, hchg]
          simp
    | false =>
      -- the fingerprint has to stay
      rw [Bool.false_and, Bool.false_and, if_neg Bool.false_ne_true, if_neg Bool.false_ne_true, ← Bool.not_or]
      cases (movesBefore run.opts run.env (inspectBisyncBaseline host.files false) false ||
          recovers run.opts run.env (maxRetries run.opts.assignment) 1) with
      | true => simp [reconcileFingerprint]
      | false =>
        rw [if_neg Bool.false_ne_true, ← hverd host, hchg]
        simp

end Left

section Histories

variable {sha256 : String → String} {host found foundNext : Host} {runs : List (SyncRun stateDir)}
  {run next : SyncRun stateDir} {command : List Arg}

private theorem sp_followed (hdig : ∀ text, readTrimmed (some (sha256 text)) = some (sha256 text))
    (h : Followed sha256 host runs found run foundNext next command) :
    isResync command = false ↔ keepsBaseline sha256 run found = true := by
  cases hnext : next.inputs with
  | error stop =>
    have hprep := h.prepared
    rw [hnext] at hprep
    cases hprep
  | ok inputs =>
    have hins : run.inputs = .ok inputs := h.sameInputs.symm.trans hnext
    have hf : foundNext.files = (run.after sha256 found).files :=
      congrArg (fun dir : Option WorkDir => (dir.getD {}).files) h.untouched
    have hrd : (inspectBisyncBaseline foundNext.files false).ready = true := by
      rw [hf]
      exact h.ready
    have hkept : foundNext.acknowledged = (run.after sha256 found).acknowledged :=
      congrArg (fun dir : Option WorkDir => (dir.getD {}).readAcknowledgedFingerprint) h.untouched
    have haf : (run.after sha256 found).acknowledged = acknowledgedAfter sha256 run inputs found := by
      have hends := (Script.wp_iff.1 (sp_acknowledgedAfter hdig found h.real hins)).2
      have hsucc := h.succeeded
      unfold SyncRun.after
      cases hres : (run.script sha256).result Host.step found with
      | error stop =>
        rw [hres] at hsucc
        cases hsucc
      | ok report =>
        rw [hres] at hends hsucc
        exact hends (of_decide_eq_true hsucc)
    rw [sp_first_run h.nextReal h.normal hnext hrd h.launch]
    exact sp_keepsBaseline hins (hkept.trans haf)

/-- A history has no spurious resync exactly when every run that an ordinary one follows, and that succeeds with a ready pair,
keeps the baseline. -/
theorem no_spurious_resync_iff (hdigest : ∀ text, readTrimmed (some (sha256 text)) = some (sha256 text))
    (host : Host) (runs : List (SyncRun stateDir)) :
    NoSpuriousResync sha256 host runs ↔
      ∀ found run foundNext next command, Followed sha256 host runs found run foundNext next command →
        keepsBaseline sha256 run found = true := by
  constructor
  · intro hno found run foundNext next command hfo
    exact (sp_followed hdigest hfo).1 (hno found run foundNext next command hfo)
  · intro hkp found run foundNext next command hfo
    exact (sp_followed hdigest hfo).2 (hkp found run foundNext next command hfo)

end Histories

/-- Two runs with the same filters: the second one trusts the pair that the first has left. -/
theorem docsHistory_no_spurious_resync : NoSpuriousResync someDigests {} docsHistory := by
  refine (no_spurious_resync_iff someDigests_trimmed {} docsHistory).2 ?_
  intro found run foundNext next command hfo
  obtain ⟨before, between, after, hruns, hf, -⟩ := hfo.inHistory
  have hlen := congrArg List.length hruns
  have hbef : before = [] := by
    rw [← List.length_eq_zero_iff]
    simp only [docsHistory, List.length_cons, List.length_nil, List.length_append] at hlen
    omega
  subst hbef
  obtain ⟨rfl, -⟩ := List.cons.inj hruns
  subst hf
  decide +kernel

def seedHistory : List (SyncRun (bisyncStateDir "f" "/home")) :=
  [docsRun "- *.tmp\n" 1 none, docsRun "- *.tmp\n" 2 (some { mode := .seed, authority := some .local }),
    docsRun "- *.tmp\n" 3 none]

private def sp_beforeSeed : Host := (docsRun "- *.tmp\n" 1 none).after someDigests {}

private def sp_seed : SyncRun (bisyncStateDir "f" "/home") :=
  docsRun "- *.tmp\n" 2 (some { mode := .seed, authority := some .local })

private def sp_afterSeed : List Arg :=
  (((docsRun "- *.tmp\n" 3 none).script someDigests).first Host.step launched
    (sp_seed.after someDigests sp_beforeSeed)).getD []

private theorem sp_seed_evaluated :
    ((sp_seed.script someDigests).result Host.step sp_beforeSeed).toOption.any (fun report => report.succeeded) = true ∧
      (inspectBisyncBaseline (sp_seed.after someDigests sp_beforeSeed).files false).ready = true ∧
      (docsRun "- *.tmp\n" 3 none).inputs.toOption.isSome = true ∧
      (((docsRun "- *.tmp\n" 3 none).script someDigests).first Host.step launched
        (sp_seed.after someDigests sp_beforeSeed)).isSome = true ∧
      isResync sp_afterSeed = true := by
  decide +kernel

private theorem sp_seed_followed : Followed someDigests {} seedHistory sp_beforeSeed sp_seed
    (sp_seed.after someDigests sp_beforeSeed) (docsRun "- *.tmp\n" 3 none) sp_afterSeed where
  inHistory := by
    refine ⟨[docsRun "- *.tmp\n" 1 none], [], [], rfl, ?_, ?_⟩
    · simp only [sp_beforeSeed, Trace.run_cons, Trace.run_nil]
    · rw [Trace.run_nil]
  real := rfl
  succeeded := sp_seed_evaluated.1
  ready := sp_seed_evaluated.2.1
  untouched := rfl
  nextReal := rfl
  normal := by decide
  prepared := sp_seed_evaluated.2.2.1
  sameInputs := rfl
  samePath := rfl
  launch := by
    obtain ⟨command, hla⟩ := Option.isSome_iff_exists.1 sp_seed_evaluated.2.2.2.1
    rw [sp_afterSeed, hla, Option.getD_some]

/-- The seed moves the acknowledged fingerprint away, so the remote side wins in the run after it. -/
theorem seedHistory_resyncs : ¬ NoSpuriousResync someDigests {} seedHistory := by
  intro hno
  have hrs := hno _ _ _ _ _ sp_seed_followed
  exact nomatch sp_seed_evaluated.2.2.2.2.symm.trans hrs

end LamaSync
