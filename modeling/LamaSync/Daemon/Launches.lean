import LamaSync.Daemon.ConflictTreatment

/-!
# The launches of rclone

Most of a run launches no rclone at all: the parts that do not are gathered here.  The attempts of a planned run launch
the plan's command, and the recovery of a corrupted state the same one with `--resync`.  So a run that resyncs has one
command, whatever is repeated or recovered (`runPlanned_launches`, `launches_of_intervention`).
-/

namespace LamaSync

open Script (only_leaveIf only_ite only_actIf bind_assoc only_orLeave only_whenDo wp_bind only_orLeaveNone wp_of_result wp_whenDo)

def launched : ExecutorEvent → Option (List Arg)
  | .rclone command .. => some command
  | _ => none

def ExecutorEvent.isAside : ExecutorEvent → Bool
  | .rclone .. | .makeStateDir | .archiveState _ | .writeFingerprint _ | .writeMarker _ | .removeMarker | .copyto .. => false
  | .hook .. | .serveSftp _ | .probePeer _ | .diskFree _ | .keepLocalConflictCopy _ | .resticInit _
  | .resticBackup _ | .tar .. | .ghClone .. | .git _ | .uploadAppSnapshot _ | .reportResticSnapshot _ | .reportRetry _
  | .createConflicts _ | .resolveConflict _ | .makeLocalDir => true

/-- The event starts nothing that writes to one of the two sides, and leaves the work directory. -/
def ExecutorEvent.isQuiet : ExecutorEvent → Bool
  | .hook .. | .serveSftp _ => false
  | e => e.isAside

def ExecutorEvent.isCopy : ExecutorEvent → Bool
  | .copyto .. => true
  | _ => false

section LaunchesNothing

variable {sha256 : String → String} {opts : ExecuteOptions} {env : Surroundings} {inputs : RunInputs} {plan : RunPlan}

/-- The part launches no rclone. -/
abbrev LaunchesNothing {α : Type} (p : Exec α) : Prop := p.Only fun e => launched e = none

/-- The part launches no rclone, copies nothing and leaves the work directory. -/
abbrev StaysAside {α : Type} (p : Exec α) : Prop := p.Only fun e => e.isAside = true

abbrev StaysQuiet {α : Type} (p : Exec α) : Prop := p.Only fun e => e.isQuiet = true

abbrev CopiesNothing {α : Type} (p : Exec α) : Prop := p.Only fun e => e.isCopy = false

variable {e : ExecutorEvent}

theorem ExecutorEvent.launched_of_isAside (h : e.isAside = true) : launched e = none := by
  cases e with
  | rclone command filter after => cases h
  | _ => rfl

theorem Host.step_of_isAside (host : Host) (h : e.isAside = true) : host.step e = host := by
  cases e with
  | rclone command filter after | makeStateDir | archiveState pruned | writeFingerprint text | writeMarker text
  | removeMarker => cases h
  | _ => rfl

theorem ExecutorEvent.isCopy_of_isAside (h : e.isAside = true) : e.isCopy = false := by
  cases e with
  | copyto source path => cases h
  | _ => rfl

theorem StaysAside.launchesNothing {α : Type} {p : Exec α} (h : StaysAside p) : LaunchesNothing p :=
  h.mono fun _ => ExecutorEvent.launched_of_isAside

theorem ExecutorEvent.isAside_of_isQuiet (h : e.isQuiet = true) : e.isAside = true := by
  cases e with
  | hook phase command | serveSftp localPath => rfl
  | _ => exact h

theorem StaysQuiet.staysAside {α : Type} {p : Exec α} (h : StaysQuiet p) : StaysAside p :=
  h.mono fun _ => ExecutorEvent.isAside_of_isQuiet

variable {ended : Option Int}

theorem runHook_stays_aside {command : Option String} {phase : HookPhase} :
    StaysAside (runHook command phase ended) := by
  unfold runHook
  cases hookCommand command with
  | none => trivial
  | some command =>
    cases ended with
    | none => trivial
    | some exitCode => exact ⟨rfl, trivial⟩

theorem requireHook_stays_aside {command : Option String} {phase : HookPhase}
    {body : Int → ReportBody} : StaysAside (requireHook command phase ended body) :=
  runHook_stays_aside.bind fun _ => only_leaveIf _ _

theorem requireDiskSpace_stays_quiet : StaysQuiet (requireDiskSpace opts env) :=
  Script.Only.bind ⟨rfl, trivial⟩ fun _ => only_leaveIf _ _

theorem requireSpace_stays_quiet : StaysQuiet (requireSpace opts env) := by
  unfold requireSpace
  apply only_ite
  · exact fun _ => Script.Only.bind ⟨rfl, trivial⟩ fun _ => only_leaveIf _ _
  · exact fun _ => requireDiskSpace_stays_quiet

variable {P : ExecutorEvent → Prop}

theorem archiveBisyncState_only {ended : ArchiveEnd} (hP : ∀ pruned, P (.archiveState pruned)) :
    (archiveBisyncState ended).Only P := by
  unfold archiveBisyncState
  apply Script.only_get.bind
  intro host
  apply only_ite
  · exact fun _ => trivial
  · exact fun _ => ⟨hP _, trivial⟩

theorem treatConflict_launches_nothing {action : ConflictAction} {path : String} {ended : ConflictEnd} :
    LaunchesNothing (treatConflict action path ended) := by
  cases action with
  | localWins | remoteWins => exact ⟨rfl, trivial⟩
  | keepBoth =>
    unfold treatConflict
    apply only_ite
    · exact fun _ => trivial
    · exact fun _ => Script.Only.bind (only_actIf fun _ => rfl) fun _ => ⟨rfl, trivial⟩

theorem startLanPeerSession_stays_aside : StaysAside (startLanPeerSession opts env) := by
  unfold startLanPeerSession
  cases findPeerForFolder opts.hostConfig.peers opts.folder.id with
  | none => trivial
  | some peer =>
    dsimp only
    cases pickPeerRole opts.hostId peer.peerHostId with
    | serve => exact (only_leaveIf _ _).bind fun _ => ⟨rfl, trivial⟩
    | use =>
      dsimp only
      induction peerCandidates peer with
      | nil => trivial
      | cons candidate rest ih =>
        refine Script.Only.bind ⟨rfl, trivial⟩ fun _ => ?_
        exact only_ite (fun _ => trivial) fun _ => ih

theorem applyAutomaticConflicts_launches_nothing {conflicts : List ParsedConflict} {strategy : ConflictStrategy}
    {role : String} : LaunchesNothing (applyAutomaticConflicts conflicts strategy role env) :=
  Script.Only.each fun _ _ => treatConflict_launches_nothing.bind fun _ => trivial

/-! The preparation and the plans. -/

theorem prepareRun_stays_quiet : StaysQuiet (prepareRun opts env) := by
  unfold prepareRun
  refine (only_leaveIf _ _).bind fun _ => (only_leaveIf _ _).bind fun _ => ?_
  refine (only_orLeaveNone _ _).bind fun _ => Script.Only.bind (only_actIf fun _ => rfl) fun _ => ?_
  exact (only_orLeave _ _).bind fun _ => (only_orLeave _ _).bind fun _ => trivial

theorem makeStateDir_only (hP : P .makeStateDir) : (makeStateDir env).Only P :=
  (only_leaveIf _ _).bind fun _ => ⟨hP, trivial⟩

theorem planDryRun_only (hP : P .makeStateDir) : (planDryRun opts env inputs).Only P := by
  unfold planDryRun
  cases opts.bisync with
  | none => trivial
  | some control => exact (makeStateDir_only hP).bind fun _ => Script.only_get.bind fun _ => trivial

theorem planRealRun_only (hmake : P .makeStateDir) (har : ∀ pruned, P (.archiveState pruned)) :
    (planRealRun sha256 opts env inputs).Only P := by
  unfold planRealRun
  refine (makeStateDir_only hmake).bind fun _ => Script.only_get.bind fun host => ?_
  have hbef : (archiveBefore env).Only P := (archiveBisyncState_only har).bind fun _ => only_actIf fun _ => hmake
  exact (only_whenDo fun _ => hbef).bind fun _ => trivial

theorem applyResolvedConflicts_launches_nothing : LaunchesNothing (applyResolvedConflicts env) := by
  refine Script.Only.bind (Script.Only.each fun c _ => ?_) fun _ => trivial
  exact treatConflict_launches_nothing.bind fun _ => only_actIf fun _ => rfl

theorem planMount_stays_quiet : StaysQuiet (planMount opts env inputs) :=
  (only_orLeaveNone _ _).bind fun _ => Script.Only.bind ⟨rfl, trivial⟩ fun _ => trivial

/-! The end of a run. -/

theorem acknowledgeFilter_only (hw : ∀ text, P (.writeFingerprint text))
    (hrem : P .removeMarker) (hmark : ∀ text, P (.writeMarker text)) {succeeded established : Bool} :
    (acknowledgeFilter env plan succeeded established).Only P := by
  unfold acknowledgeFilter
  cases plan.pendingFilterFingerprint with
  | none => trivial
  | some fingerprint =>
    apply only_ite
    · exact fun _ => Script.Only.bind (only_actIf fun _ => hw _) fun _ => only_actIf fun _ => hrem
    · exact fun _ => only_actIf fun _ => hmark _

theorem finishRun_launches_nothing {attempts : Nat} {ended : AttemptEnd} :
    LaunchesNothing (finishRun sha256 opts env inputs plan attempts ended) := by
  unfold finishRun
  refine Script.only_get.bind fun host => Script.Only.bind ?_ fun _ => ?_
  · exact acknowledgeFilter_only (fun _ => rfl) (by rfl) fun _ => rfl
  apply only_ite
  · intro _
    unfold handleConflicts
    apply only_ite
    · exact fun _ => ⟨rfl, trivial⟩
    · intro _
      refine applyAutomaticConflicts_launches_nothing.bind fun treated => ?_
      apply only_ite
      · exact fun _ => ⟨rfl, trivial⟩
      · exact fun _ => trivial
  · exact fun _ => trivial

theorem finishRun_copies_nothing {attempts : Nat} {ended : AttemptEnd}
    (hman : opts.assignment.conflictStrategy = some .manual) :
    CopiesNothing (finishRun sha256 opts env inputs plan attempts ended) := by
  unfold finishRun
  refine Script.only_get.bind fun host => Script.Only.bind ?_ fun _ => ?_
  · exact acknowledgeFilter_only (fun _ => rfl) (by rfl) fun _ => rfl
  apply only_ite
  · intro _
    unfold handleConflicts
    rw [hman]
    exact ⟨rfl, trivial⟩
  · exact fun _ => trivial

/-! The folders that rclone does not run for. -/

private theorem ln_initResticRepo {repository : String} : StaysQuiet (initResticRepo repository env) := by
  unfold initResticRepo
  cases env.restic.init with
  | none => trivial
  | some ended => exact ⟨rfl, trivial⟩

private theorem ln_runResticBackup {repository : String} {paths tags : List String} :
    StaysQuiet (runResticBackup repository paths tags env) := by
  unfold runResticBackup
  cases env.restic.backup with
  | none => trivial
  | some ended => exact ⟨rfl, trivial⟩

theorem runResticBackupAssignment_stays_aside : StaysAside (runResticBackupAssignment opts env) := by
  unfold runResticBackupAssignment
  refine (only_leaveIf _ _).bind fun _ => ln_initResticRepo.staysAside.bind fun _ => (only_leaveIf _ _).bind fun _ => ?_
  refine requireDiskSpace_stays_quiet.staysAside.bind fun _ => requireHook_stays_aside.bind fun _ => ?_
  refine ln_runResticBackup.staysAside.bind fun _ => ?_
  exact requireHook_stays_aside.bind fun _ => (only_leaveIf _ _).bind fun _ => ⟨rfl, trivial⟩

theorem captureDotfiles_stays_quiet :
    StaysQuiet (if hasResticConfig opts.assignment then runResticDotfileUpload opts env else runDotfileUpload opts env) := by
  apply only_ite
  · intro _
    unfold runResticDotfileUpload
    refine (only_leaveIf _ _).bind fun _ => (only_orLeave _ _).bind fun app => ?_
    unfold uploadDotfiles
    refine (only_orLeaveNone _ _).bind fun _ => ln_initResticRepo.bind fun _ => (only_leaveIf _ _).bind fun _ => ?_
    exact ln_runResticBackup.bind fun _ => (only_leaveIf _ _).bind fun _ => ⟨rfl, trivial⟩
  · intro _
    unfold runDotfileUpload
    cases opts.hostConfig.apps.find? fun app => app.appName == opts.folder.name with
    | none => trivial
    | some app =>
      show StaysQuiet (captureAppSnapshot app env)
      unfold captureAppSnapshot
      cases captureProblem app env with
      | some problem => trivial
      | none =>
        cases env.tar with
        | none => trivial
        | some ended =>
          refine Script.Only.bind ⟨rfl, trivial⟩ fun _ => (only_leaveIf _ _).bind fun _ => ?_
          exact Script.Only.bind ⟨rfl, trivial⟩ fun _ => (only_leaveIf _ _).bind fun _ => trivial

theorem runDotfile_stays_aside : StaysAside (runDotfile opts env) :=
  requireHook_stays_aside.bind fun _ => captureDotfiles_stays_quiet.staysAside

private theorem ln_runGitCommand {command : GitCommand} {body : Int → ReportBody} :
    StaysQuiet (runGitCommand command ended body) := by
  cases ended with
  | none => trivial
  | some exitCode => exact Script.Only.bind ⟨rfl, trivial⟩ fun _ => only_leaveIf _ _

private theorem ln_readGit {α : Type} {command : GitCommand} {output : Option α} :
    StaysQuiet (readGit command output) := by
  cases output with
  | none => trivial
  | some a => exact ⟨rfl, trivial⟩

theorem runGit_stays_quiet : StaysQuiet (runGit opts env) := by
  have hprep : StaysQuiet (prepareRepository opts env) := by
    unfold prepareRepository
    apply only_ite
    · intro _
      unfold prepareGh
      refine (only_orLeave _ _).bind fun remote => (only_leaveIf _ _).bind fun _ => ?_
      apply only_ite
      · intro _
        unfold ghCloneRepository
        cases env.git.clone with
        | none => trivial
        | some exitCode => exact Script.Only.bind ⟨rfl, trivial⟩ fun _ => only_leaveIf _ _
      intro _
      unfold addOrigin
      cases env.git.remotes with
      | none => trivial
      | some remotes =>
        refine Script.Only.bind ⟨rfl, trivial⟩ fun _ => ?_
        apply only_ite
        · exact fun _ => trivial
        intro _
        cases env.git.addOrigin with
        | none => trivial
        | some exitCode => exact Script.Only.bind ⟨rfl, trivial⟩ fun _ => only_leaveIf _ _
    · exact fun _ => trivial
  unfold runGit pullRepository
  refine hprep.bind fun _ => (only_leaveIf _ _).bind fun _ => (only_leaveIf _ _).bind fun _ => ?_
  refine ln_runGitCommand.bind fun _ => ln_readGit.bind fun _ => ln_runGitCommand.bind fun _ => ?_
  exact ln_readGit.bind fun _ => ln_runGitCommand.bind fun _ => ln_readGit.bind fun _ => trivial

end LaunchesNothing

def Host.moved (ended : ArchiveEnd) (host : Host) : Host :=
  match ended with
  | .renameFails => host
  | .pruneFails => host.step (.archiveState false)
  | .done => (host.step (.archiveState true)).step .makeStateDir

def plannedHost (sha256 : String → String) (opts : ExecuteOptions) (env : Surroundings) (inputs : RunInputs) (host : Host) :
    Host :=
  if archivesBefore opts (inspectBisyncBaseline host.files false)
      ((filterVerdict sha256 inputs host).any FingerprintVerdict.changed) then
    (host.step .makeStateDir).moved env.archive
  else host.step .makeStateDir

section Plans

variable {P : Host → ExecutorEvent → Prop} {left : ExecuteEnd → Host → Prop} {sha256 : String → String}
  {opts : ExecuteOptions} {env : Surroundings} {inputs : RunInputs} {host : Host}

theorem wp_applyResolvedConflicts {post : Unit → Host → Prop} (hP : ∀ h e, launched e = none → P h e) :
    Script.wp Host.step P post left (applyResolvedConflicts env) host ↔ post () host := by
  obtain ⟨-, hres, hfn⟩ := applyResolvedConflicts_runs env host
  have hevs : Script.wp Host.step P (fun _ _ => True) (fun _ _ => True) (applyResolvedConflicts env) host :=
    applyResolvedConflicts_launches_nothing.wp hP
  rw [wp_of_result (Script.wp_events.1 hevs) hres, hfn]

theorem wp_applyAutomaticConflicts {post : List (ParsedConflict × Bool) → Host → Prop}
    (hP : ∀ h e, launched e = none → P h e) {conflicts : List ParsedConflict} {strategy : ConflictStrategy} {role : String} :
    Script.wp Host.step P post left (applyAutomaticConflicts conflicts strategy role env) host ↔
      post (conflicts.zipIdx.map fun c => (c.1, conflictTreated strategy role env.automaticEnd c)) host := by
  obtain ⟨hres, hfn⟩ := @applyAutomaticConflicts_result strategy role env conflicts host
  have hevs : Script.wp Host.step P (fun _ _ => True) (fun _ _ => True)
      (applyAutomaticConflicts conflicts strategy role env) host := applyAutomaticConflicts_launches_nothing.wp hP
  rw [wp_of_result (Script.wp_events.1 hevs) hres, hfn]

private theorem ln_archiveBefore {post : Unit → Host → Prop} (hP : ∀ h e, launched e = none → P h e)
    (hdir : host.stateDir.isSome = true) (hmade : env.stateDirMade = true) :
    Script.wp Host.step P post left (archiveBefore env) host ↔ post () (host.moved env.archive) := by
  have hsome : host.stateDir.isNone = false := by
    rw [← Option.not_isSome, hdir]
    rfl
  have hmv : ∀ pruned, P host (.archiveState pruned) := fun _ => hP _ _ rfl
  have hma : ∀ h, P h .makeStateDir := fun _ => hP _ _ rfl
  unfold archiveBefore Host.moved
  rw [wp_bind, wp_archiveBisyncState]
  cases env.archive with
  | renameFails => simp
  | pruneFails => simp [hsome, hmv]
  | done => simp [hsome, hmade, hmv, hma]

theorem wp_planSync_iff {post : RunPlan → Host → Prop} (hP : ∀ h e, launched e = none → P h e)
    (hreal : opts.dryRun = false) :
    Script.wp Host.step P post left (planSync sha256 opts env inputs) host ↔
      (env.stateDirMade = false → left .threw host) ∧
        (env.stateDirMade = true → post (realPlan opts env inputs (inspectBisyncBaseline host.files false)
          (filterVerdict sha256 inputs host)) (plannedHost sha256 opts env inputs host)) := by
  have hres : Script.wp Host.step P post left (planSync sha256 opts env inputs) host ↔
      Script.wp Host.step P post left (planRealRun sha256 opts env inputs) host := by
    unfold planSync
    rw [hreal, if_neg (by decide), wp_bind, wp_whenDo, wp_applyResolvedConflicts hP]
    tauto
  have hev : P host .makeStateDir := hP _ _ rfl
  rw [hres]
  unfold planRealRun makeStateDir plannedHost
  rw [wp_bind, wp_bind, Script.wp_leaveIf, Script.wp_act, and_iff_right hev, wp_bind, Script.wp_get,
    wp_bind, wp_whenDo, show (host.step .makeStateDir).files = host.files from rfl,
    show filterVerdict sha256 inputs (host.step .makeStateDir) = filterVerdict sha256 inputs host from rfl]
  cases hmade : env.stateDirMade with
  | false => simp
  | true =>
    rw [ln_archiveBefore hP rfl hmade]
    cases archivesBefore opts (inspectBisyncBaseline host.files false)
        ((filterVerdict sha256 inputs host).any FingerprintVerdict.changed) with
    | true => simp
    | false => simp

end Plans

section Launches

variable {sha256 : String → String} {opts : ExecuteOptions} {env : Surroundings} {inputs : RunInputs} {plan : RunPlan}
  {filter : Option String} {command : List Arg}

/-- What the attempts need for their events to meet a condition: rclone is run with commands of a kind, and a recovery keeps
to that kind. -/
structure AttemptEvents (opts : ExecuteOptions) (filter : Option String) (Q : List Arg → Prop) (P : ExecutorEvent → Prop) :
    Prop where
  aside : ∀ e, e.isAside = true → P e
  rclone : ∀ command files, Q command → P (.rclone command filter files)
  archive : opts.folder.type = .sync → ∀ pruned, P (.archiveState pruned)
  stateDir : opts.folder.type = .sync → P .makeStateDir
  resync : opts.folder.type = .sync → ∀ command, Q command → Q (withResync command)

section Attempts

variable {Q : List Arg → Prop} {P : ExecutorEvent → Prop}

private theorem ln_runCommand {ended : Option RcloneEnd} (hevs : AttemptEvents opts filter Q P) (hcmd : Q command) :
    (runCommand command filter ended).Only P := by
  unfold runCommand
  cases ended with
  | none => trivial
  | some rclone => exact ⟨hevs.rclone command rclone.files hcmd, trivial⟩

private theorem ln_runAttempt {γ : Type} {n : Nat} {isRecovery : Bool} {k : AttemptEnd → Exec γ}
    (hevs : AttemptEvents opts filter Q P) (hcmd : Q command)
    (hk : ∀ ended : AttemptEnd, Q ended.command → (k ended).Only P) :
    (runAttempt opts env filter n command isRecovery >>= k).Only P := by
  unfold runAttempt
  simp only [bind_assoc]
  refine (requireHook_stays_aside.mono hevs.aside).bind fun _ => (ln_runCommand hevs hcmd).bind fun started => ?_
  refine (only_orLeave _ _).bind fun result => ?_
  have hend : ∀ ended : AttemptEnd, Q ended.command → Script.Only P (do
      requireHook (if ended.result.exitCode = 0 then opts.assignment.postSyncCmd else none) .post (env.postHook n)
        (.postHook (some n))
      k ended) := fun ended hen => (requireHook_stays_aside.mono hevs.aside).bind fun _ => hk ended hen
  unfold recoverIfNeeded
  dsimp only
  by_cases hnd : needsRecovery opts.folder.type result = true
  · -- only a sync folder recovers
    have hsync : opts.folder.type = .sync := by
      unfold needsRecovery at hnd
      rw [Bool.and_eq_true, Bool.and_eq_true, decide_eq_true_eq] at hnd
      exact hnd.1.1
    rw [if_pos hnd]
    unfold recoverState
    simp only [bind_assoc]
    refine (archiveBisyncState_only (hevs.archive hsync)).bind fun archived => (only_leaveIf _ _).bind fun _ => ?_
    refine (Script.only_act.2 (hevs.stateDir hsync)).bind fun _ => ?_
    refine (ln_runCommand hevs (hevs.resync hsync command hcmd)).bind fun started => ?_
    exact (only_orLeave _ _).bind fun result => hend _ (hevs.resync hsync command hcmd)
  · rw [if_neg hnd]
    exact hend _ hcmd

theorem runAttempts_only {γ : Type} {remaining : Nat} {k : Nat × AttemptEnd → Exec γ}
    (hevs : AttemptEvents opts filter Q P) (hk : ∀ a, (k a).Only P) :
    ∀ {n : Nat} {command : List Arg} {isRecovery : Bool}, Q command →
      (runAttempts opts env filter remaining n command isRecovery >>= k).Only P := by
  induction remaining with
  | zero =>
    intro n command isRecovery hcmd
    unfold runAttempts
    simp only [bind_assoc]
    exact ln_runAttempt hevs hcmd fun ended _ => hk (n, ended)
  | succ remaining ih =>
    intro n command isRecovery hcmd
    unfold runAttempts
    simp only [bind_assoc]
    apply ln_runAttempt hevs hcmd
    intro ended hnd
    by_cases hsp : (runSucceeded ended.result || !isRetryable opts.folder.type ended.result) = true
    · rw [if_pos hsp]
      exact hk (n, ended)
    rw [if_neg hsp]
    simp only [bind_assoc]
    exact (Script.only_act.2 (hevs.aside _ rfl)).bind fun _ => ih hnd

theorem runPlanned_only (hevs : AttemptEvents opts inputs.filters.filterFrom Q P)
    (hpeer : ∀ peer, Q (peerCommand opts env inputs plan peer))
    (hfi : ∀ attempts ended, (finishRun sha256 opts env inputs plan attempts ended).Only P) :
    (runPlanned sha256 opts env inputs plan).Only P := by
  unfold runPlanned
  refine Script.Only.bind (requireSpace_stays_quiet.staysAside.mono hevs.aside) fun _ => ?_
  refine Script.Only.bind (startLanPeerSession_stays_aside.mono hevs.aside) fun peer => ?_
  exact runAttempts_only hevs (fun _ => hfi _ _) (hpeer peer)

abbrev LaunchesOnly {α : Type} (filter : Option String) (Q : List Arg → Prop) (p : Exec α) : Prop :=
  p.Only fun e => launched e = none ∨ ∃ command files, Q command ∧ e = .rclone command filter files

private theorem ln_launchEvents (hrs : ∀ command, Q command → Q (withResync command)) :
    AttemptEvents opts filter Q fun e => launched e = none ∨ ∃ command files, Q command ∧ e = .rclone command filter files where
  aside _ h := Or.inl (ExecutorEvent.launched_of_isAside h)
  rclone command files hcmd := Or.inr ⟨command, files, hcmd, rfl⟩
  archive _ _ := Or.inl rfl
  stateDir _ := Or.inl rfl
  resync _ := hrs

theorem runAttempts_launches {γ : Type} {remaining : Nat} {k : Nat × AttemptEnd → Exec γ}
    (hrs : ∀ command, Q command → Q (withResync command)) (hk : ∀ a, LaunchesOnly filter Q (k a)) {n : Nat}
    {command : List Arg} {isRecovery : Bool} (hcmd : Q command) :
    LaunchesOnly filter Q (runAttempts opts env filter remaining n command isRecovery >>= k) :=
  runAttempts_only (ln_launchEvents hrs) hk hcmd

theorem runPlanned_launches_only (hrs : ∀ command, Q command → Q (withResync command))
    (hpeer : ∀ peer, Q (peerCommand opts env inputs plan peer)) :
    LaunchesOnly inputs.filters.filterFrom Q (runPlanned sha256 opts env inputs plan) :=
  runPlanned_only (ln_launchEvents hrs) hpeer fun _ _ => finishRun_launches_nothing.mono fun _ => Or.inl

end Attempts

theorem runPlanned_launches (hrs : isResync plan.command = true) :
    (runPlanned sha256 opts env inputs plan).Only fun e => launched e = none ∨
      ∃ peer files, e = .rclone (peerCommand opts env inputs plan peer) inputs.filters.filterFrom files := by
  have hsame : ∀ peer, withResync (peerCommand opts env inputs plan peer) = peerCommand opts env inputs plan peer := by
    intro peer
    have hmem : Arg.word "--resync" ∈ peerCommand opts env inputs plan peer := by
      rw [← List.contains_iff_mem]
      exact (isResync_peerCommand peer).trans hrs
    unfold withResync
    rw [if_pos]
    rw [List.contains_iff_mem]
    exact List.mem_map_of_mem hmem
  have hla : LaunchesOnly inputs.filters.filterFrom
      (fun command => ∃ peer, command = peerCommand opts env inputs plan peer) (runPlanned sha256 opts env inputs plan) := by
    refine runPlanned_launches_only ?_ fun peer => ⟨peer, rfl⟩
    rintro _ ⟨peer, rfl⟩
    exact ⟨peer, hsame peer⟩
  apply hla.mono
  rintro e (hnone | ⟨_, files, ⟨peer, rfl⟩, rfl⟩)
  · exact Or.inl hnone
  · exact Or.inr ⟨peer, files, rfl⟩

theorem bisyncResyncPlan_intervention {baselineReady filterChanged : Bool} {control : BisyncRunControl}
    (hmode : control.mode ≠ .normal) : bisyncResyncPlan baselineReady filterChanged (some control) =
      some (if control.authority = some .local then .path2 else .path1) := by
  unfold bisyncResyncPlan
  rw [Option.filter_some, if_pos (by simpa using hmode)]

theorem launches_of_intervention {host : Host} {control : BisyncRunControl} {e : ExecutorEvent}
    (hsync : opts.folder.type = .sync) (hreal : opts.dryRun = false) (hctl : opts.bisync = some control)
    (hmode : control.mode ≠ .normal) (he : e ∈ (executeAssignment sha256 opts env).log Host.step host)
    (hla : launched e ≠ none) :
    ∃ inputs, preparedInputs opts env = .ok inputs ∧ ∃ inspection verdict peer files,
      e = .rclone (peerCommand opts env inputs (realPlan opts env inputs inspection verdict) peer)
        inputs.filters.filterFrom files := by
  have hplan : ∀ inputs, (runSync sha256 opts env inputs).Only fun e => launched e = none ∨
      ∃ inspection verdict peer files,
        e = .rclone (peerCommand opts env inputs (realPlan opts env inputs inspection verdict) peer)
          inputs.filters.filterFrom files := by
    intro inputs
    have hrest : ∀ inspection verdict, (runPlanned sha256 opts env inputs
        (realPlan opts env inputs inspection verdict)).Only fun e => launched e = none ∨
          ∃ inspection verdict peer files,
            e = .rclone (peerCommand opts env inputs (realPlan opts env inputs inspection verdict) peer)
              inputs.filters.filterFrom files := by
      intro inspection verdict
      have hrs : isResync (realPlan opts env inputs inspection verdict).command = true := by
        unfold isResync realPlan
        rw [List.contains_iff_mem, hctl, bisyncResyncPlan_intervention hmode]
        exact List.mem_append_right _ (.head _)
      apply (runPlanned_launches hrs).mono
      rintro e (hnone | ⟨peer, files, rfl⟩)
      · exact Or.inl hnone
      · exact Or.inr ⟨inspection, verdict, peer, files, rfl⟩
    unfold runSync planSync
    rw [hreal, if_neg (by decide)]
    simp only [bind_assoc]
    refine ((only_whenDo fun _ => applyResolvedConflicts_launches_nothing).mono fun _ => Or.inl).bind fun _ => ?_
    unfold planRealRun
    simp only [bind_assoc]
    refine (makeStateDir_only (.inl rfl)).bind fun _ => Script.only_get.bind fun host => ?_
    refine Script.Only.bind (only_whenDo fun _ => ?_) fun _ => hrest _ _
    exact (archiveBisyncState_only fun _ => .inl rfl).bind fun _ => only_actIf fun _ => .inl rfl
  obtain ⟨before, after, hlog⟩ := List.append_of_mem he
  unfold executeAssignment at hlog
  obtain ⟨inputs, hins, rest, -, hrest⟩ := prepareRun_stays_quiet.staysAside.launchesNothing.split hlog hla
  refine ⟨inputs, prepareRun_result.symm.trans hins, ?_⟩
  rw [hsync] at hrest
  have hlat : (runSync sha256 opts env inputs).log Host.step ((prepareRun opts env).final Host.step host) =
      rest ++ e :: after := hrest
  have hmem : e ∈ (runSync sha256 opts env inputs).log Host.step ((prepareRun opts env).final Host.step host) := by
    rw [hlat]
    exact List.mem_append_right _ (.head _)
  rcases (hplan inputs).mem_log e hmem with hnone | hf
  · exact absurd hnone hla
  · exact hf

end Launches

def optionValue (option : String) (command : List Arg) : Option String :=
  ((command.dropWhile fun arg => arg ≠ .word option).drop 1).head?.map Arg.text

section Options

variable {opts : ExecuteOptions} {env : Surroundings} {inputs : RunInputs} {plan : RunPlan}
  {inspection : BisyncBaselineInspection} {verdict : Option FingerprintVerdict}

private def ln_options (opts : ExecuteOptions) (env : Surroundings) (inputs : RunInputs)
    (inspection : BisyncBaselineInspection) (verdict : Option FingerprintVerdict) : List Arg :=
  [.value opts.assignment.localPath, .word "--config", .value opts.configPath, .word "--use-json-log", .word "-v",
    .word "--workdir", stateDirArg opts env, .word "--resilient", .word "--recover", .word "--max-lock", .word "10m"] ++
    maxDeleteArgs opts ++ resyncArgs (bisyncResyncPlan inspection.ready (verdict.any FingerprintVerdict.changed) opts.bisync) ++
    (inputs.filters.filterFrom.elim [] fun _ => [.word "--filter-from", .value "exclude-file"]) ++
    (effectiveBandwidthSchedule opts.assignment.bandwidthSchedule opts.hostConfig.pause env.now).elim [] fun limit =>
      [.word "--bwlimit", .value limit]

private theorem ln_swapped {rest : List Arg}
    (h : fullCommand opts env inputs plan = .word "bisync" :: .value inputs.remotePath :: rest) (peer : Option String) :
    peerCommand opts env inputs plan peer =
      .word "bisync" :: .value (peer.elim inputs.remotePath fun remote => remote ++ ":" ++ inputs.destination) :: rest := by
  unfold peerCommand
  rw [h]
  cases peer with
  | none => rfl
  | some remote =>
    show swapRemote _ _ _ = _
    unfold swapRemote
    rw [if_neg (show (Arg.word "bisync").text ≠ inputs.remotePath from ne_remotePath (by decide))]
    unfold swapRemote
    rw [if_pos (show (Arg.value inputs.remotePath).text = inputs.remotePath from rfl)]
    rfl

private theorem ln_peerCommand (peer : Option String) :
    peerCommand opts env inputs (realPlan opts env inputs inspection verdict) peer =
      .word "bisync" :: .value (peer.elim inputs.remotePath fun remote => remote ++ ":" ++ inputs.destination) ::
        ln_options opts env inputs inspection verdict :=
  ln_swapped (by simp [fullCommand, realPlan, bisyncArgs, ln_options]) peer

/-- A peer takes the place of the remote; the local tree stays the second path. -/
theorem peerCommand_paths (hplan : bisyncArgs opts inputs <+: plan.command) (peer : Option String) :
    ∃ rest, peerCommand opts env inputs plan peer =
      .word "bisync" :: .value (peer.elim inputs.remotePath fun remote => remote ++ ":" ++ inputs.destination) ::
        .value opts.assignment.localPath :: rest := by
  obtain ⟨options, hop⟩ := hplan
  exact ⟨_, ln_swapped (by simp only [fullCommand, ← hop, bisyncArgs, List.append_assoc, List.cons_append]; rfl) peer⟩

theorem bisyncArgs_prefix_realPlan : bisyncArgs opts inputs <+: (realPlan opts env inputs inspection verdict).command := by
  simp only [realPlan, List.append_assoc]
  exact List.prefix_append _ _

theorem mem_values_peerCommand {v : String} (hco : ':' ∉ v.toList) (hfilt : v ≠ "exclude-file")
    (hpct : ∀ percent : Int, v ≠ toString percent) (hdir : v ≠ bisyncStateDir opts.folder.id env.home)
    (hplan : bisyncResyncPlan inspection.ready (verdict.any FingerprintVerdict.changed) opts.bisync = none)
    (peer : Option String) :
    Arg.value v ∈ peerCommand opts env inputs (realPlan opts env inputs inspection verdict) peer ↔
      v = opts.assignment.localPath ∨ v = opts.configPath ∨
        effectiveBandwidthSchedule opts.assignment.bandwidthSchedule opts.hostConfig.pause env.now = some v := by
  have hrem : ∀ remote : String, v ≠ remote ++ ":" ++ inputs.destination := by
    rintro remote rfl
    apply hco
    simp
  have hfi : v ≠ peer.elim inputs.remotePath fun remote => remote ++ ":" ++ inputs.destination := by
    cases peer with
    | none => exact hrem inputs.remoteName
    | some remote => exact hrem remote
  rw [ln_peerCommand peer]
  unfold ln_options
  rw [hplan]
  have hmax : Arg.value v ∉ maxDeleteArgs opts := by
    unfold maxDeleteArgs
    cases maxDeletePercent opts with
    | none => simp
    | some percent =>
      simp only [Option.elim_some, List.mem_cons, reduceCtorEq, Arg.value.injEq, List.not_mem_nil, false_or, or_false]
      exact hpct percent
  have hli : Arg.value v ∈ ((effectiveBandwidthSchedule opts.assignment.bandwidthSchedule opts.hostConfig.pause
      env.now).elim [] fun limit => [Arg.word "--bwlimit", .value limit]) ↔
      effectiveBandwidthSchedule opts.assignment.bandwidthSchedule opts.hostConfig.pause env.now = some v := by
    cases effectiveBandwidthSchedule opts.assignment.bandwidthSchedule opts.hostConfig.pause env.now with
    | none => simp
    | some limit => simp [eq_comm]
  have hfrom : Arg.value v ∉ (inputs.filters.filterFrom.elim [] fun _ => [Arg.word "--filter-from", .value "exclude-file"]) := by
    cases inputs.filters.filterFrom with
    | none => simp
    | some text => simp [hfilt]
  simp only [List.mem_cons, List.mem_append, hli, hmax, hfrom, resyncArgs, stateDirArg, Option.elim_none, Arg.value.injEq,
    hfi, hdir, reduceCtorEq, List.not_mem_nil, false_or, or_false, or_assoc]

theorem optionValue_resyncMode {control : BisyncRunControl} (hctl : opts.bisync = some control)
    (hmode : control.mode ≠ .normal) (peer : Option String) :
    optionValue "--resync-mode" (peerCommand opts env inputs (realPlan opts env inputs inspection verdict) peer) =
      some (if control.authority = some .local then "path2" else "path1") := by
  rw [ln_peerCommand peer]
  unfold ln_options
  rw [hctl, bisyncResyncPlan_intervention hmode]
  cases hpct : maxDeletePercent opts with
  | none => split <;> simp [optionValue, maxDeleteArgs, hpct, resyncArgs, stateDirArg, ResyncMode.text, Arg.text]
  | some percent =>
    split <;> simp [optionValue, maxDeleteArgs, hpct, resyncArgs, stateDirArg, ResyncMode.text, Arg.text]

theorem optionValue_maxDelete {control : BisyncRunControl} (hctl : opts.bisync = some control)
    (hmode : control.mode ≠ .normal) (peer : Option String) :
    optionValue "--max-delete" (peerCommand opts env inputs (realPlan opts env inputs inspection verdict) peer) =
      (maxDeletePercent opts).map toString := by
  rw [ln_peerCommand peer]
  unfold ln_options
  rw [hctl, bisyncResyncPlan_intervention hmode]
  cases hpct : maxDeletePercent opts with
  | some percent => simp [optionValue, maxDeleteArgs, hpct, stateDirArg, Arg.text]
  | none =>
    -- the option is none of those that follow
    cases inputs.filters.filterFrom <;>
      cases effectiveBandwidthSchedule opts.assignment.bandwidthSchedule opts.hostConfig.pause env.now <;>
      split <;> simp [optionValue, maxDeleteArgs, hpct, resyncArgs, stateDirArg, ResyncMode.text]

/-- The local tree is the second path of a bisync command. -/
def NamesLocalSecond (localPath : String) (command : List Arg) : Prop :=
  ∃ remote options, command = .word "bisync" :: .value remote :: .value localPath :: options

theorem sync_launches_paths {sha256 : String → String} (hsync : opts.folder.type = .sync) :
    (executeAssignment sha256 opts env).Only fun e => launched e = none ∨
      ∃ command filter files, NamesLocalSecond opts.assignment.localPath command ∧ e = .rclone command filter files := by
  have hrs : ∀ command, NamesLocalSecond opts.assignment.localPath command →
      NamesLocalSecond opts.assignment.localPath (withResync command) := by
    rintro _ ⟨remote, options, rfl⟩
    unfold withResync
    split
    · exact ⟨remote, options, rfl⟩
    · exact ⟨remote, options ++ [.word "--resync"], rfl⟩
  have hrest : ∀ inputs plan, bisyncArgs opts inputs <+: plan.command →
      (runPlanned sha256 opts env inputs plan).Only fun e => launched e = none ∨
        ∃ command filter files, NamesLocalSecond opts.assignment.localPath command ∧ e = .rclone command filter files := by
    intro inputs plan hplan
    refine (runPlanned_launches_only hrs ?_).mono ?_
    · intro peer
      obtain ⟨rest, hrest⟩ := peerCommand_paths hplan peer
      exact ⟨_, rest, hrest⟩
    · rintro e (hnone | ⟨command, files, hcmd, rfl⟩)
      · exact Or.inl hnone
      · exact Or.inr ⟨command, _, files, hcmd, rfl⟩
  unfold executeAssignment
  refine Script.Only.bind (prepareRun_stays_quiet.staysAside.launchesNothing.mono fun _ => Or.inl) fun inputs => ?_
  rw [hsync]
  show (runSync sha256 opts env inputs).Only _
  unfold runSync planSync
  by_cases hdry : opts.dryRun = true
  · rw [if_pos hdry]
    unfold planDryRun
    cases opts.bisync with
    | none => exact hrest inputs _ (List.prefix_append _ _)
    | some control =>
      simp only [bind_assoc]
      refine (makeStateDir_only (.inl rfl)).bind fun _ => Script.only_get.bind fun host => hrest inputs _ ?_
      simp only [dryPlan, List.append_assoc]
      exact List.prefix_append _ _
  · rw [if_neg hdry]
    unfold planRealRun
    simp only [bind_assoc]
    refine ((only_whenDo fun _ => applyResolvedConflicts_launches_nothing).mono fun _ => Or.inl).bind fun _ => ?_
    refine (makeStateDir_only (.inl rfl)).bind fun _ => Script.only_get.bind fun host => ?_
    refine Script.Only.bind (only_whenDo fun _ => ?_) fun _ => hrest inputs _ bisyncArgs_prefix_realPlan
    exact (archiveBisyncState_only fun _ => .inl rfl).bind fun _ => only_actIf fun _ => .inl rfl

end Options

end LamaSync
