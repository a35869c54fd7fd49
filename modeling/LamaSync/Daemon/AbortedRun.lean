import LamaSync.Daemon.Launches

/-!
# The abort of a run

The signal of a run is looked at in `runCommand` alone: it kills rclone, and a run of rclone that was aborted is neither
repeated nor recovered.  Everything else that a run starts, it starts whether it was aborted or not.

`runWriters` lists what a run starts that can write to one of its sides, from the inputs of the run and the ends of what
it starts.  An abort is final exactly when nothing of the list is left (`abort_final_iff`).
-/

namespace LamaSync

open Script (bind_assoc selected_act_bind selected_pure_bind selected_bind_of_ok)

def ExecutorEvent.startsWriter : ExecutorEvent → Bool
  | .hook .. | .copyto .. | .serveSftp _ => true
  | .rclone command .. => !isDry command
  | _ => false

def ExecutorEvent.isLaunch (e : ExecutorEvent) : Bool := (launched e).isSome

section Launches

variable (opts : ExecuteOptions) (env : Surroundings)

def attemptLaunches (n : Nat) : List (Nat × CommandResult) :=
  match env.rclone n with
  | none => []
  | some ended =>
    (n, ended.result) ::
      if needsRecovery opts.folder.type ended.result then ((env.recoveryRun n).map fun r => (n, r.result)).toList else []

def launchResults : (remaining attempt : Nat) → List (Nat × CommandResult)
  | 0, attempt => attemptLaunches opts env attempt
  | remaining + 1, attempt => attemptLaunches opts env attempt ++ launchResults remaining (attempt + 1)

def ranLaunches (events : List ExecutorEvent) : List (Nat × CommandResult) :=
  (launchResults opts env (maxRetries opts.assignment) 1).take (events.countP ExecutorEvent.isLaunch)

end Launches

section Abort

variable (sha256 : String → String) (opts : ExecuteOptions) (env : Surroundings) (host : Host)

/-- The signal fires during the last of the events `before` or behind it: `runCommand` has killed no rclone that ended by
then, and it kills every one that is started later. -/
structure AbortAt (before after : List ExecutorEvent) : Prop where
  log : (executeAssignment sha256 opts env).log Host.step host = before ++ after
  earlier : ∀ launch ∈ ranLaunches opts env before.dropLast, launch.2.aborted = false
  later : ∀ launch ∈ (ranLaunches opts env (before ++ after)).drop (before.countP ExecutorEvent.isLaunch),
    launch.2.aborted = true

/-- Wherever the signal fires, the run starts nothing more that can write. -/
def AbortFinal : Prop := ∀ before after, AbortAt sha256 opts env host before after → ∀ e ∈ after, e.startsWriter = false

end Abort

/-- A process that can write to one of the two sides. -/
inductive Writer where
  | hook (phase : HookPhase) (command : String)
  | rclone
  | copyto (source : ConflictSide) (path : String)
  | serveSftp (localPath : String)
  deriving DecidableEq, Repr

def ExecutorEvent.writer : ExecutorEvent → Option Writer
  | .hook phase command => some (.hook phase command)
  | .copyto source path => some (.copyto source path)
  | .serveSftp localPath => some (.serveSftp localPath)
  | .rclone command .. => if isDry command then none else some .rclone
  | _ => none

section Writers

variable (opts : ExecuteOptions) (env : Surroundings)

/-- A hook that cannot be started or fails ends the run. -/
def hookWriters (command : Option String) (phase : HookPhase) (ended : Option Int) (rest : List Writer) : List Writer :=
  match hookCommand command, ended with
  | none, _ => rest
  | some _, none => []
  | some command, some exitCode => .hook phase command :: if exitCode = 0 then rest else []

/-- rclone is told to write nothing.  A mount is made in a dry run as well. -/
def runsDry : Bool := opts.dryRun && opts.folder.type ≠ .mount

def rcloneWriters (ended : Option RcloneEnd) (rest : CommandResult → List Writer) : List Writer :=
  match ended with
  | none => []
  | some rclone => (if runsDry opts then [] else [.rclone]) ++ rest rclone.result

/-- `hasDir` says that there is a work directory to be archived. -/
def recoveryWriters (hasDir : Bool) (n : Nat) (result : CommandResult) (rest : CommandResult → List Writer) :
    List Writer :=
  if needsRecovery opts.folder.type result then
    if hasDir ∧ env.recoveryArchive n = .done ∧ env.recoveryDirMade n then rcloneWriters opts (env.recoveryRun n) rest
    else []
  else rest result

def attemptWriters (hasDir : Bool) (n : Nat) (rest : CommandResult → List Writer) : List Writer :=
  hookWriters opts.assignment.preSyncCmd .pre (env.preHook n) <|
    rcloneWriters opts (env.rclone n) fun result =>
      recoveryWriters opts env hasDir n result fun result =>
        hookWriters (if result.exitCode = 0 then opts.assignment.postSyncCmd else none) .post (env.postHook n) (rest result)

/-- The conflicts that are treated without anybody being asked. -/
def conflictWriters (result : CommandResult) : List Writer :=
  let strategy := opts.assignment.conflictStrategy.getD .manual
  if opts.folder.type = .sync ∧ opts.dryRun = false ∧ strategy ≠ .manual then
    ((parseBisyncConflicts result.stdoutTail result.stderrTail).zipIdx.flatMap
      (conflictSteps strategy opts.assignment.role env.automaticEnd)).filterMap ExecutorEvent.writer
  else []

def attemptsWriters (hasDir : Bool) : (remaining attempt : Nat) → List Writer
  | 0, n => attemptWriters opts env hasDir n (conflictWriters opts env)
  | remaining + 1, n => attemptWriters opts env hasDir n fun result =>
      if runSucceeded result || !isRetryable opts.folder.type result then conflictWriters opts env result
      else attemptsWriters hasDir remaining (n + 1)

def spaceFits : Bool :=
  if opts.folder.type = .mount then env.mountCacheFits
  else env.availableBytes.all fun bytes => requiredSpace opts.assignment ≤ bytes

def plannedWriters (hasDir : Bool) : List Writer :=
  let attempts := attemptsWriters opts env hasDir (maxRetries opts.assignment) 1
  if !spaceFits opts env then []
  else if servesPeer opts then
    if env.peerServes then .serveSftp opts.assignment.localPath :: attempts else []
  else attempts

def resolvedWriters : List Writer :=
  if opts.assignment.conflictStrategy = some .manual then
    ((env.resolvedConflicts.getD []).zipIdx.flatMap (resolvedSteps env.resolvedEnd)).filterMap ExecutorEvent.writer
  else []

def syncWriters (hasDir : Bool) : List Writer :=
  if opts.dryRun then
    if opts.bisync.isNone then plannedWriters opts env hasDir
    else if env.stateDirMade then plannedWriters opts env true else []
  else resolvedWriters opts env ++ if env.stateDirMade then plannedWriters opts env true else []

def resticInitialised : Bool :=
  env.restic.init.any fun ended => ended.1 = 0 ∨ includesText "already initialized".toList ended.2.toList

def resticWriters : List Writer :=
  if env.which "restic" && resticInitialised env && spaceFits opts env then
    hookWriters opts.assignment.preSyncCmd .pre (env.preHook 1) <|
      match env.restic.backup with
      | none => []
      | some (exitCode, timedOut) =>
        hookWriters (if !timedOut && exitCode = 0 then opts.assignment.postSyncCmd else none) .post (env.postHook 1) []
  else []

/-- What a run starts that can write, in order. -/
def runWriters (host : Host) : List Writer :=
  match preparedInputs opts env with
  | .error _ => []
  | .ok _ =>
    match opts.folder.type with
    | .sync => syncWriters opts env host.stateDir.isSome
    | .backup =>
      if hasResticConfig opts.assignment then resticWriters opts env else plannedWriters opts env host.stateDir.isSome
    | .mount => if env.localDir.isSome then [] else plannedWriters opts env host.stateDir.isSome
    | .dotfile => hookWriters opts.assignment.preSyncCmd .pre (env.preHook 1) []
    | .git => []

/-- What the run is to start next, after the events `before`. -/
def dueWriter (host : Host) (before : List ExecutorEvent) : Option Writer :=
  (runWriters opts env host)[(before.filterMap ExecutorEvent.writer).length]?

end Writers

theorem ExecutorEvent.writer_of_isQuiet {e : ExecutorEvent} (h : e.isQuiet = true) : e.writer = none := by
  cases e with
  | hook phase command | serveSftp localPath | copyto source path | rclone command filter files => cases h
  | _ => rfl

theorem ExecutorEvent.startsWriter_eq (e : ExecutorEvent) : e.startsWriter = e.writer.isSome := by
  cases e with
  | rclone command filter files =>
    show (!isDry command) = (if isDry command then none else some Writer.rclone).isSome
    cases isDry command with
    | true | false => rfl
  | _ => rfl

/-- What a part of a run starts that can write. -/
abbrev writers {α : Type} (p : Exec α) (host : Host) : List Writer := p.selected Host.step ExecutorEvent.writer host

section Parts

variable {γ : Type} {sha256 : String → String} {opts : ExecuteOptions} {env : Surroundings} {inputs : RunInputs}
  {plan : RunPlan} {host : Host}

theorem StaysQuiet.starts_nothing {α : Type} {p : Exec α} (h : StaysQuiet p) : p.Only fun e => e.writer = none :=
  h.mono fun _ => ExecutorEvent.writer_of_isQuiet

theorem StaysAside.final_eq {α : Type} {p : Exec α} (h : StaysAside p) : p.final Host.step host = host :=
  (h.mono fun _ he host => host.step_of_isAside he).final_eq

theorem writers_requireHook {command : Option String} {phase : HookPhase} {ended : Option Int} {body : Int → ReportBody}
    (k : Unit → Exec γ) :
    writers (requireHook command phase ended body >>= k) host = hookWriters command phase ended (writers (k ()) host) := by
  unfold requireHook runHook hookWriters
  cases hookCommand command with
  | none => simp [bind_assoc]
  | some command =>
    cases ended with
    | none => simp [bind_assoc]
    | some exitCode => simp [bind_assoc, ExecutorEvent.writer, Host.step]

variable {rest : CommandResult → List Writer}

theorem writers_runCommand {command : List Arg} {filter : Option String} {ended : Option RcloneEnd} {stop : ExecuteEnd}
    (hdry : isDry command = runsDry opts) {k : CommandResult → Exec γ} (hk : ∀ rclone, ended = some rclone →
      writers (k rclone.result) (host.step (.rclone command filter rclone.files)) = rest rclone.result) :
    writers (runCommand command filter ended >>= fun started => Script.orLeave stop started >>= k) host =
      rcloneWriters opts ended rest := by
  unfold runCommand rcloneWriters
  cases ended with
  | none => rfl
  | some rclone =>
    simp only [bind_assoc, selected_act_bind, selected_pure_bind]
    rw [← hk rclone rfl, ← hdry]
    show (if isDry command then none else some Writer.rclone).toList ++ writers (k rclone.result) _ = _
    cases isDry command with
    | true | false => rfl

/-- What is known when a command is started: whether it is dry, and whether there will be a work directory behind it. -/
structure Startable (opts : ExecuteOptions) (hasDir : Bool) (command : List Arg) (host : Host) : Prop where
  dry : isDry command = runsDry opts
  workdir : usesWorkdir command = true → hasDir = true
  dir : usesWorkdir command = false → host.stateDir.isSome = hasDir

variable {hasDir : Bool} {command : List Arg} {filter : Option String} {n : Nat}

theorem Startable.behind {files : List ListingFile} (h : Startable opts hasDir command host) :
    (host.step (.rclone command filter files)).stateDir.isSome = hasDir := by
  show (if usesWorkdir command = true then _ else host : Host).stateDir.isSome = hasDir
  cases huses : usesWorkdir command with
  | true => exact (h.workdir huses).symm
  | false => exact h.dir huses

theorem writers_archiveBisyncState {ended : ArchiveEnd} (k : Bool → Exec γ) :
    writers (archiveBisyncState ended >>= k) host =
      if host.stateDir.isSome ∧ ended ≠ .renameFails then
        writers (k (ended = .done)) (host.step (.archiveState (ended = .done)))
      else writers (k false) host := by
  unfold archiveBisyncState
  simp only [bind_assoc, Script.selected_get_bind]
  by_cases harch : host.stateDir.isSome ∧ ended ≠ .renameFails
  · have hnot : ¬ (host.stateDir.isNone = true ∨ ended = .renameFails) := by
      rw [not_or, Bool.not_eq_true, Option.isNone_eq_false_iff]
      exact harch
    rw [if_neg hnot, if_pos harch, bind_assoc, selected_act_bind, selected_pure_bind]
    rfl
  · have hfl : host.stateDir.isNone = true ∨ ended = .renameFails := by
      by_contra hnot
      rw [not_or, Bool.not_eq_true, Option.isNone_eq_false_iff] at hnot
      exact harch hnot
    rw [if_pos hfl, if_neg harch, selected_pure_bind]

theorem writers_recoverIfNeeded {ended : AttemptEnd} {k : AttemptEnd → Exec γ}
    (hst : Startable opts hasDir ended.command host) (hdir : host.stateDir.isSome = hasDir)
    (hk : ∀ ended host, Startable opts hasDir ended.command host → writers (k ended) host = rest ended.result) :
    writers (recoverIfNeeded opts env filter n ended >>= k) host = recoveryWriters opts env hasDir n ended.result rest := by
  unfold recoverIfNeeded recoveryWriters
  by_cases hnd : needsRecovery opts.folder.type ended.result = true
  · rw [if_pos hnd, if_pos hnd]
    unfold recoverState
    simp only [bind_assoc]
    rw [writers_archiveBisyncState, hdir]
    unfold writers
    by_cases hrcv : hasDir = true ∧ env.recoveryArchive n = .done ∧ env.recoveryDirMade n = true
    · obtain ⟨rfl, hdone, hmade⟩ := hrcv
      rw [if_pos ⟨rfl, by rw [hdone]; decide⟩, if_pos ⟨rfl, hdone, hmade⟩, hdone, hmade, Script.selected_leaveIf_bind,
        if_neg (by decide), selected_act_bind]
      refine writers_runCommand ((isDry_withResync _).trans hst.dry) fun rclone _ => ?_
      have hag : Startable opts true (withResync ended.command)
          ((host.step (.archiveState (ArchiveEnd.done = .done))).step .makeStateDir) :=
        ⟨(isDry_withResync _).trans hst.dry, fun _ => rfl, fun _ => rfl⟩
      exact hk ⟨withResync ended.command, rclone.result, true⟩ _ ⟨hag.dry, hag.workdir, fun _ => hag.behind⟩
    · rw [if_neg hrcv]
      split
      · rename_i harch
        have hsp : (!decide (env.recoveryArchive n = .done) || !env.recoveryDirMade n) = true := by
          by_contra hgoes
          apply hrcv
          simpa [harch.1] using hgoes
        rw [Script.selected_leaveIf_bind, if_pos hsp]
      · rfl
  · rw [if_neg hnd, if_neg hnd]
    exact hk ended host hst

theorem writers_runAttempt {isRecovery : Bool} {k : AttemptEnd → Exec γ} (hst : Startable opts hasDir command host)
    (hk : ∀ ended host, Startable opts hasDir ended.command host → writers (k ended) host = rest ended.result) :
    writers (runAttempt opts env filter n command isRecovery >>= k) host = attemptWriters opts env hasDir n rest := by
  unfold runAttempt attemptWriters
  simp only [bind_assoc]
  rw [writers_requireHook]
  congr 1
  refine writers_runCommand hst.dry fun rclone _ => ?_
  refine writers_recoverIfNeeded ⟨hst.dry, hst.workdir, fun _ => hst.behind⟩ hst.behind ?_
  intro ended host hnd
  rw [writers_requireHook]
  congr 1
  exact hk ended host hnd

theorem writers_runAttempts {remaining : Nat} {k : Nat × AttemptEnd → Exec γ}
    (hk : ∀ n ended host, writers (k (n, ended)) host = conflictWriters opts env ended.result) :
    ∀ {n : Nat} {command : List Arg} {isRecovery : Bool} {host : Host}, Startable opts hasDir command host →
      writers (runAttempts opts env filter remaining n command isRecovery >>= k) host =
        attemptsWriters opts env hasDir remaining n := by
  induction remaining with
  | zero =>
    intro n command isRecovery host hst
    unfold runAttempts attemptsWriters
    simp only [bind_assoc]
    exact writers_runAttempt hst fun ended host _ => hk n ended host
  | succ remaining ih =>
    intro n command isRecovery host hst
    unfold runAttempts attemptsWriters
    simp only [bind_assoc]
    apply writers_runAttempt hst
    intro ended host hnd
    by_cases hsp : (runSucceeded ended.result || !isRetryable opts.folder.type ended.result) = true
    · rw [if_pos hsp, if_pos hsp]
      exact hk n ended host
    rw [if_neg hsp, if_neg hsp]
    exact ih hnd

theorem writers_startLanPeerSession (k : Option String → Exec γ) :
    writers (startLanPeerSession opts env >>= k) host =
      if servesPeer opts then
        if env.peerServes then .serveSftp opts.assignment.localPath :: writers (k none) host else []
      else writers (k (usedRemote opts env)) host := by
  unfold startLanPeerSession servesPeer usedRemote lanPeer
  cases findPeerForFolder opts.hostConfig.peers opts.folder.id with
  | none => rfl
  | some peer =>
    by_cases hserv : pickPeerRole opts.hostId peer.peerHostId = .serve
    · cases env.peerServes with
      | true | false => simp [hserv, bind_assoc, ExecutorEvent.writer, Host.step]
    · have huses : pickPeerRole opts.hostId peer.peerHostId = .use := by
        cases hrole : pickPeerRole opts.hostId peer.peerHostId with
        | serve => exact absurd hrole hserv
        | use => rfl
      simp only [huses, Option.map_some, Option.any_some, Option.bind_some, reduceCtorEq, decide_false, Bool.false_eq_true,
        if_false, if_true]
      unfold reachedRemote
      induction peerCandidates peer with
      | nil => rfl
      | cons candidate rest ih =>
        unfold usePeer
        rw [List.find?_cons]
        cases env.peerReachable candidate.1 with
        | true => simp [bind_assoc, ExecutorEvent.writer, Host.step]
        | false => simpa [bind_assoc, ExecutorEvent.writer, Host.step] using ih

theorem writers_applyAutomaticConflicts {strategy : ConflictStrategy} {role : String} {conflicts : List ParsedConflict}
    (k : List (ParsedConflict × Bool) → Exec γ) (hk : ∀ treated host, writers (k treated) host = []) :
    writers (applyAutomaticConflicts conflicts strategy role env >>= k) host =
      (conflicts.zipIdx.flatMap (conflictSteps strategy role env.automaticEnd)).filterMap ExecutorEvent.writer := by
  have hrest := hk (conflicts.zipIdx.map fun c => (c.1, conflictTreated strategy role env.automaticEnd c))
    ((applyAutomaticConflicts conflicts strategy role env).final Host.step host)
  unfold writers at hrest ⊢
  rw [selected_bind_of_ok (applyAutomaticConflicts_result env conflicts host).1, hrest, List.append_nil]
  unfold Script.selected
  rw [applyAutomaticConflicts_log]

theorem writers_handleConflicts {conflicts : List ParsedConflict} {run : FinishedRun} {aborted : Bool} :
    writers (handleConflicts opts env conflicts run aborted) host =
      let strategy := opts.assignment.conflictStrategy.getD .manual
      if strategy = .manual then []
      else (conflicts.zipIdx.flatMap (conflictSteps strategy opts.assignment.role env.automaticEnd)).filterMap
        ExecutorEvent.writer := by
  unfold handleConflicts
  dsimp only
  by_cases hman : opts.assignment.conflictStrategy.getD .manual = .manual
  · rw [if_pos hman, if_pos hman]
    rfl
  rw [if_neg hman, if_neg hman]
  refine writers_applyAutomaticConflicts _ fun treated host => ?_
  split
  · rfl
  · rfl

theorem writers_acknowledgeFilter {succeeded established : Bool} {ws : List Writer} {k : Unit → Exec γ}
    (hk : ∀ host, writers (k ()) host = ws) : writers (acknowledgeFilter env plan succeeded established >>= k) host = ws := by
  unfold writers at hk
  unfold acknowledgeFilter
  cases plan.pendingFilterFingerprint with
  | none => exact hk host
  | some fingerprint =>
    dsimp only
    split
    · simp [bind_assoc, ExecutorEvent.writer, hk]
    · simp [ExecutorEvent.writer, hk]

theorem writers_finishRun {attempts : Nat} {ended : AttemptEnd} :
    writers (finishRun sha256 opts env inputs plan attempts ended) host = conflictWriters opts env ended.result := by
  unfold finishRun conflictWriters
  rw [writers, Script.selected_get_bind]
  apply writers_acknowledgeFilter
  intro host
  by_cases hreal : opts.folder.type = .sync ∧ opts.dryRun = false
  · by_cases hnone : parseBisyncConflicts ended.result.stdoutTail ended.result.stderrTail = []
    · rw [if_neg fun h => h.2.2 hnone, hnone]
      simp
    · rw [if_pos ⟨hreal.1, by rw [hreal.2]; rfl, hnone⟩, writers_handleConflicts]
      by_cases hman : opts.assignment.conflictStrategy.getD .manual = .manual
      · rw [if_pos hman, if_neg fun h => h.2.2 hman]
      · rw [if_neg hman, if_pos ⟨hreal.1, hreal.2, hman⟩]
  · rw [if_neg fun h => hreal ⟨h.1, by simpa using h.2.1⟩, if_neg fun h => hreal ⟨h.1, h.2.1⟩]
    rfl

theorem writers_requireSpace (k : Unit → Exec γ) :
    writers (requireSpace opts env >>= k) host = if spaceFits opts env then writers (k ()) host else [] := by
  unfold requireSpace requireDiskSpace checkDiskSpace spaceFits
  by_cases hmo : opts.folder.type = .mount
  · rw [if_pos hmo, if_pos hmo]
    cases env.mountCacheFits with
    | true | false => rfl
  · rw [if_neg hmo, if_neg hmo]
    cases (env.availableBytes.all fun bytes => decide (requiredSpace opts.assignment ≤ bytes)) with
    | true | false => simp [bind_assoc, ExecutorEvent.writer, Host.step]

theorem writers_runPlanned (hst : Startable opts hasDir plan.command host) :
    writers (runPlanned sha256 opts env inputs plan) host = plannedWriters opts env hasDir := by
  have hatt : ∀ peer, writers (runAttempts opts env inputs.filters.filterFrom (maxRetries opts.assignment) 1
      (peerCommand opts env inputs plan peer) false >>= fun ended =>
        finishRun sha256 opts env inputs plan ended.1 ended.2) host =
          attemptsWriters opts env hasDir (maxRetries opts.assignment) 1 := by
    intro peer
    apply writers_runAttempts fun n ended host => writers_finishRun
    exact ⟨(isDry_peerCommand peer).trans hst.dry, fun h => hst.workdir ((usesWorkdir_peerCommand peer).symm.trans h),
      fun h => hst.dir ((usesWorkdir_peerCommand peer).symm.trans h)⟩
  unfold runPlanned plannedWriters
  rw [writers_requireSpace, writers_startLanPeerSession, hatt, hatt]
  cases spaceFits opts env with
  | true | false => rfl

theorem runsDry_sync (hsync : opts.folder.type = .sync) : runsDry opts = opts.dryRun := by
  simp [runsDry, hsync]

private theorem ab_planSync (hreal : opts.dryRun = false) :
    writers (planSync sha256 opts env inputs) host = resolvedWriters opts env := by
  have hpl : (planRealRun sha256 opts env inputs).Only fun e => e.writer = none := planRealRun_only (by rfl) fun _ => rfl
  unfold planSync resolvedWriters
  rw [hreal, if_neg (by decide)]
  unfold Script.whenDo
  by_cases hman : opts.assignment.conflictStrategy = some .manual
  · obtain ⟨hlog, hres, -⟩ := applyResolvedConflicts_runs env host
    rw [if_pos hman, if_pos hman, writers, selected_bind_of_ok hres, hpl.selected_eq_nil,
      List.append_nil]
    unfold Script.selected
    rw [hlog]
  · rw [if_neg hman, if_neg hman]
    exact hpl.selected_eq_nil

theorem writers_runSync (hsync : opts.folder.type = .sync) :
    writers (runSync sha256 opts env inputs) host = syncWriters opts env host.stateDir.isSome := by
  unfold runSync syncWriters
  by_cases hdry : opts.dryRun = true
  · rw [if_pos hdry]
    unfold planSync planDryRun
    rw [if_pos hdry]
    cases opts.bisync with
    | none =>
      exact writers_runPlanned ⟨isDry_previewPlan.trans ((runsDry_sync hsync).trans hdry).symm,
        fun h => (by rw [usesWorkdir_previewPlan] at h; cases h), fun _ => rfl⟩
    | some control =>
      dsimp only
      unfold makeStateDir
      cases env.stateDirMade with
      | false => rfl
      | true =>
        have hpl : ∀ resync, writers (runPlanned sha256 opts env inputs (dryPlan opts env inputs resync))
            (host.step .makeStateDir) = plannedWriters opts env true := by
          intro resync
          exact writers_runPlanned ⟨(isDry_dryPlan resync).trans ((runsDry_sync hsync).trans hdry).symm, fun _ => rfl,
            fun _ => rfl⟩
        exact hpl _
  · have hreal : opts.dryRun = false := by simpa using hdry
    rw [if_neg hdry]
    have hends : Script.wp Host.step (fun _ _ => True)
        (fun plan _ => env.stateDirMade = true ∧ ∃ inspection verdict, plan = realPlan opts env inputs inspection verdict)
        (fun _ _ => env.stateDirMade = false) (planSync sha256 opts env inputs) host := by
      rw [wp_planSync_iff (fun _ _ _ => trivial) hreal]
      exact ⟨id, fun hmade => ⟨hmade, _, _, rfl⟩⟩
    have hres := (Script.wp_iff.1 hends).2
    cases hplan : (planSync sha256 opts env inputs).result Host.step host with
    | ok plan =>
      rw [hplan] at hres
      obtain ⟨hmade, inspection, verdict, rfl⟩ := hres
      rw [writers, selected_bind_of_ok hplan, hmade, if_pos rfl, ← ab_planSync hreal]
      congr 1
      exact writers_runPlanned ⟨(isDry_realPlan _ _).trans ((runsDry_sync hsync).trans hreal).symm, fun _ => rfl,
        fun h => (by rw [usesWorkdir_realPlan] at h; cases h)⟩
    | error stop =>
      rw [hplan] at hres
      have hmade : env.stateDirMade = false := hres
      rw [hmade, if_neg (by decide), List.append_nil, ← ab_planSync hreal]
      unfold writers Script.selected
      rw [Script.log_bind_of_error hplan]

theorem writers_requireDiskSpace (hba : opts.folder.type = .backup) (k : Unit → Exec γ) :
    writers (requireDiskSpace opts env >>= k) host = if spaceFits opts env then writers (k ()) host else [] := by
  rw [← writers_requireSpace]
  unfold requireSpace
  rw [if_neg (by simp [hba])]

theorem writers_initResticRepo {repository : String} {stop : ExecuteEnd} (k : Unit → Exec γ) :
    writers (initResticRepo repository env >>= fun initialised => Script.leaveIf (!initialised) stop >>= k) host =
      if resticInitialised env then writers (k ()) host else [] := by
  have hgoes : ∀ initialised : Bool, writers (Script.leaveIf (!initialised) stop >>= k) host =
      if initialised then writers (k ()) host else [] := by
    intro initialised
    cases initialised with
    | true | false => rfl
  unfold initResticRepo resticInitialised
  cases env.restic.init with
  | none => rfl
  | some ended => exact hgoes _

theorem writers_runResticBackupAssignment (hba : opts.folder.type = .backup) :
    writers (runResticBackupAssignment opts env) host = resticWriters opts env := by
  unfold runResticBackupAssignment resticWriters
  cases env.which "restic" with
  | false => rfl
  | true =>
    simp only [Script.selected_leaveIf_bind, Bool.not_true, Bool.false_eq_true, if_false, writers_initResticRepo,
      writers_requireDiskSpace hba, writers_requireHook]
    cases resticInitialised env with
    | false => rfl
    | true =>
      cases spaceFits opts env with
      | false => rfl
      | true =>
        unfold runResticBackup
        cases env.restic.backup with
        | none => rfl
        | some backup => simp [bind_assoc, writers_requireHook, ExecutorEvent.writer]

/-- What a run starts that can write is what its inputs call for. -/
theorem executeAssignment_writers :
    writers (executeAssignment sha256 opts env) host = runWriters opts env host := by
  have hprep : StaysQuiet (prepareRun opts env) := prepareRun_stays_quiet
  unfold executeAssignment runWriters
  rw [writers, hprep.starts_nothing.selected_bind, prepareRun_result, hprep.staysAside.final_eq]
  cases preparedInputs opts env with
  | error stop => rfl
  | ok inputs =>
    dsimp only
    cases htype : opts.folder.type with
    | sync => exact writers_runSync htype
    | backup =>
      dsimp only
      by_cases hre : hasResticConfig opts.assignment = true
      · rw [if_pos hre, if_pos hre]
        exact writers_runResticBackupAssignment htype
      · rw [if_neg hre, if_neg hre]
        apply writers_runPlanned
        exact ⟨isDry_planBackup.trans (by simp [runsDry, htype]),
          fun h => (by rw [usesWorkdir_planBackup] at h; cases h), fun _ => rfl⟩
    | mount =>
      dsimp only
      unfold runMount planMount
      cases env.localDir with
      | some error => rfl
      | none =>
        show writers (runPlanned sha256 opts env inputs (mountPlan opts inputs)) host = _
        apply writers_runPlanned
        exact ⟨isDry_mountPlan.trans (by simp [runsDry, htype]),
          fun h => (by rw [usesWorkdir_mountPlan] at h; cases h), fun _ => rfl⟩
    | dotfile =>
      show writers (runDotfile opts env) host = _
      unfold runDotfile
      rw [writers_requireHook]
      congr 1
      exact captureDotfiles_stays_quiet.starts_nothing.selected_eq_nil
    | git => exact runGit_stays_quiet.starts_nothing.selected_eq_nil

end Parts

/-- A real run of a sync folder without filters, in which rclone may be started twice. -/
def twoAttempts (conflictStrategy : ConflictStrategy) (postSyncCmd : Option String) : ExecuteOptions where
  assignment := {
    id := "a", folderId := "f", hostId := "h", localPath := "/home/docs", conflictStrategy := some conflictStrategy
    postSyncCmd := postSyncCmd, maxRetries := some 1 }
  folder := { id := "f", name := "docs", type := .sync }
  hostId := "h"

def docsCommand : List Arg := [
  .word "bisync", .value "lamasync-f:docs", .value "/home/docs", .word "--config", .value "rclone.conf",
  .word "--use-json-log", .word "-v", .word "--workdir", .value "/home/.local/share/lamasync/bisync/f",
  .word "--resilient", .word "--recover", .word "--max-lock", .word "10m", .word "--resync", .word "--resync-mode",
  .word "path1"]

def killedRclone (exitCode : Int) (stderrTail : String) : RcloneEnd where
  result := { exitCode := exitCode, timedOut := true, aborted := true, stderrTail := stderrTail }

end LamaSync
