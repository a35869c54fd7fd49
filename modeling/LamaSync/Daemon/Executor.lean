import LamaSync.Daemon.GitFolder

/-!
# The executor

`executeAssignment` runs one assignment.  A sync folder is planned first: the work directory is inspected, the filter
universe compared with the acknowledged one, and the old pair archived when the run is a resync.  Then rclone is run,
again after a transient failure, and once more with `--resync` after a corrupted state.  In the end the baseline is
read back, a changed universe is acknowledged or left pending, and the conflicts are treated.
-/

namespace LamaSync

def treatConflict (action : ConflictAction) (path : String) (ended : ConflictEnd) : Exec Bool :=
  match action with
  | .localWins => do
    Script.act (.copyto .local path)
    pure ended.copied
  | .remoteWins => do
    Script.act (.copyto .remote path)
    pure ended.copied
  | .keepBoth =>
    if ended.localExists ∧ !ended.moved then pure false
    else do
      Script.actIf ended.localExists (.keepLocalConflictCopy path)
      Script.act (.copyto .remote path)
      pure ended.copied

def ConflictResolution.action : ConflictResolution → ConflictAction
  | .local => .localWins
  | .remote => .remoteWins
  | .both => .keepBoth

def applyResolvedConflict (env : Surroundings) (c : ResolvedConflict × Nat) : Exec Unit := do
  let applied ← treatConflict c.1.resolution.action c.1.path (env.resolvedEnd c.2)
  Script.actIf applied (.resolveConflict c.1.id)

def applyResolvedConflicts (env : Surroundings) : Exec Unit := do
  let _ ← Script.each (applyResolvedConflict env) ((env.resolvedConflicts.getD []).zipIdx)
  pure ()

def applyAutomaticConflicts (conflicts : List ParsedConflict) (strategy : ConflictStrategy) (role : String)
    (env : Surroundings) : Exec (List (ParsedConflict × Bool)) :=
  Script.each (fun c => do
    let treated ← treatConflict (pickConflictAction strategy c.1.localMtime c.1.remoteMtime role) c.1.path
      (env.automaticEnd c.2)
    pure (c.1, treated)) conflicts.zipIdx

structure RunPlan where
  command : List Arg
  filterResync : Bool := false
  pendingFilterFingerprint : Option String := none
  /-- The run has the work directory of the folder. -/
  usesStateDir : Bool := false
  baselineBefore : Option BisyncBaselineInspection := none
  deriving DecidableEq

structure RunInputs where
  remoteName : String
  destination : String
  filters : FilterUniverse

def RunInputs.remotePath (inputs : RunInputs) : String := inputs.remoteName ++ ":" ++ inputs.destination

section Plan

variable (sha256 : String → String) (opts : ExecuteOptions) (env : Surroundings) (inputs : RunInputs)

def bisyncArgs : List Arg :=
  [.word "bisync", .value inputs.remotePath, .value opts.assignment.localPath, .word "--config",
    .value opts.configPath, .word "--use-json-log", .word "-v"]

def maxDeletePercent : Option Int :=
  (opts.bisync.bind BisyncRunControl.maxDeletePercent).or opts.assignment.bisyncMaxDeletePercent

def maxDeleteArgs : List Arg :=
  (maxDeletePercent opts).elim [] fun percent => [.word "--max-delete", .value (toString percent)]

def resyncArgs (mode : Option ResyncMode) : List Arg :=
  mode.elim [] fun m => [.word "--resync", .word "--resync-mode", .word m.text]

def stateDirArg : Arg := .value (bisyncStateDir opts.folder.id env.home)

/-- The work directory is made; a failure is an exception. -/
def makeStateDir : Exec Unit := do
  Script.leaveIf (!env.stateDirMade) .threw
  Script.act .makeStateDir

def previewPlan : RunPlan where
  command := bisyncArgs opts inputs ++ [.word "--dry-run"]

def dryPlan (resync : Option ResyncMode) : RunPlan where
  command := bisyncArgs opts inputs ++ [.word "--dry-run", .word "--workdir", stateDirArg opts env, .word "--max-lock",
    .word "10m"] ++ maxDeleteArgs opts ++ resyncArgs resync
  usesStateDir := true

def planDryRun : Exec RunPlan :=
  match opts.bisync with
  | some control => do
    makeStateDir env
    let host ← Script.get
    pure (dryPlan opts env inputs
      (bisyncResyncPlan (inspectBisyncBaseline host.files false).ready false (some control)))
  | none => pure (previewPlan opts inputs)

def filterVerdict (host : Host) : Option FingerprintVerdict :=
  (inputs.filters.fingerprint sha256).map fun live =>
    reconcileFingerprint host.dir.readAcknowledgedFingerprint live (inputs.filters.legacyFingerprint sha256)

def archivesBefore (inspection : BisyncBaselineInspection) (filterResync : Bool) : Bool :=
  (resyncRequested opts.bisync || !inspection.ready || filterResync) && (inspection.present || inspection.error)

/-- The old pair is archived.  When that fails the run goes on. -/
def archiveBefore : Exec Unit := do
  let archived ← archiveBisyncState env.archive
  Script.actIf (archived ∧ env.stateDirMade) .makeStateDir

def realPlan (inspection : BisyncBaselineInspection) (verdict : Option FingerprintVerdict) : RunPlan where
  command := bisyncArgs opts inputs ++ [.word "--workdir", stateDirArg opts env, .word "--resilient", .word "--recover",
    .word "--max-lock", .word "10m"] ++ maxDeleteArgs opts ++
    resyncArgs (bisyncResyncPlan inspection.ready (verdict.any FingerprintVerdict.changed) opts.bisync)
  filterResync := verdict.any FingerprintVerdict.changed
  pendingFilterFingerprint := verdict.map FingerprintVerdict.acknowledge
  usesStateDir := true
  baselineBefore := some inspection

def planRealRun : Exec RunPlan := do
  makeStateDir env
  let host ← Script.get
  let inspection := inspectBisyncBaseline host.files false
  let verdict := filterVerdict sha256 inputs host
  Script.whenDo (archivesBefore opts inspection (verdict.any FingerprintVerdict.changed)) (archiveBefore env)
  pure (realPlan opts env inputs inspection verdict)

def planSync : Exec RunPlan :=
  if opts.dryRun then planDryRun opts env inputs
  else do
    Script.whenDo (opts.assignment.conflictStrategy = some .manual) (applyResolvedConflicts env)
    planRealRun sha256 opts env inputs

def planBackup : RunPlan where
  command := [.word "copy", .value opts.assignment.localPath, .value inputs.remotePath, .word "--config",
    .value opts.configPath, .word "--use-json-log", .word "-v"] ++ if opts.dryRun then [.word "--dry-run"] else []

def mountPlan : RunPlan where
  command := [.word "mount", .value inputs.remotePath, .value opts.assignment.localPath, .word "--config",
    .value opts.configPath, .word "--daemon"] ++
    (presentText opts.assignment.mountCacheMode).elim [] fun mode => [.word "--vfs-cache-mode", .value mode]

def planMount : Exec RunPlan := do
  Script.orLeaveNone env.localDir fun error => failed (.localDirCreate error)
  Script.act .makeLocalDir
  pure (mountPlan opts inputs)

end Plan

structure AttemptEnd where
  command : List Arg
  result : CommandResult
  isRecovery : Bool
  deriving DecidableEq

def runSucceeded (result : CommandResult) : Bool :=
  (result.exitCode = 0 || result.exitCode = 9) && !result.timedOut && !result.aborted

def isRetryable (type : FolderType) (result : CommandResult) : Bool :=
  !result.aborted && (classifyRcloneExit result.exitCode type = .retryable || result.timedOut)

/-- The state of rclone has to be rebuilt. -/
def needsRecovery (type : FolderType) (result : CommandResult) : Bool :=
  type = .sync && !result.aborted && hasBisyncCorruption result.stderrTail

def withResync (command : List Arg) : List Arg :=
  if (command.map Arg.text).contains "--resync" then command else command ++ [.word "--resync"]

section Attempts

variable (opts : ExecuteOptions) (env : Surroundings) (filter : Option String)

def recoverState (attempt : Nat) (command : List Arg) : Exec AttemptEnd := do
  let archived ← archiveBisyncState (env.recoveryArchive attempt)
  Script.leaveIf (!archived || !env.recoveryDirMade attempt) (failed (.recoveryFailed attempt))
  Script.act .makeStateDir
  let started ← runCommand (withResync command) filter (env.recoveryRun attempt)
  let result ← Script.orLeave (failed (.recoveryFailed attempt)) started
  pure ⟨withResync command, result, true⟩

def recoverIfNeeded (attempt : Nat) (ended : AttemptEnd) : Exec AttemptEnd :=
  if needsRecovery opts.folder.type ended.result then recoverState env filter attempt ended.command else pure ended

def runAttempt (attempt : Nat) (command : List Arg) (isRecovery : Bool) : Exec AttemptEnd := do
  requireHook opts.assignment.preSyncCmd .pre (env.preHook attempt) (.preHook (some attempt))
  let started ← runCommand command filter (env.rclone attempt)
  let result ← Script.orLeave (failed (.executorError attempt)) started
  let ended ← recoverIfNeeded opts env filter attempt ⟨command, result, isRecovery⟩
  requireHook (if ended.result.exitCode = 0 then opts.assignment.postSyncCmd else none) .post (env.postHook attempt)
    (.postHook (some attempt))
  pure ended

def runAttempts : (remaining attempt : Nat) → List Arg → Bool → Exec (Nat × AttemptEnd)
  | 0, attempt, command, isRecovery => do
    let ended ← runAttempt opts env filter attempt command isRecovery
    pure (attempt, ended)
  | remaining + 1, attempt, command, isRecovery => do
    let ended ← runAttempt opts env filter attempt command isRecovery
    if runSucceeded ended.result || !isRetryable opts.folder.type ended.result then pure (attempt, ended)
    else do
      Script.act (.reportRetry attempt)
      runAttempts remaining (attempt + 1) ended.command ended.isRecovery

end Attempts

def maxRetries (assignment : FolderAssignment) : Nat := (assignment.maxRetries.getD 3).toNat

section Finish

variable (sha256 : String → String) (opts : ExecuteOptions) (env : Surroundings) (inputs : RunInputs) (plan : RunPlan)

def baselineAfter (host : Host) : Option BisyncBaselineInspection :=
  if opts.folder.type = .sync ∧ !opts.dryRun ∧ plan.usesStateDir then some (inspectBisyncBaseline host.files true) else none

def baselineEstablished (host : Host) : Bool := (baselineAfter opts plan host).all BisyncBaselineInspection.ready

def acknowledgeFilter (succeeded established : Bool) : Exec Unit :=
  match plan.pendingFilterFingerprint with
  | none => pure ()
  | some fingerprint =>
    if shouldAcknowledgeFilter plan.filterResync succeeded established then do
      Script.actIf env.fingerprintWritten (.writeFingerprint fingerprint)
      Script.actIf env.markerRemoved .removeMarker
    else Script.actIf (plan.filterResync ∧ env.markerWritten) (.writeMarker fingerprint)

def finishedRun (host : Host) (attempts : Nat) (ended : AttemptEnd) : FinishedRun where
  exitCode := ended.result.exitCode
  exitCategory := classifyRcloneExit ended.result.exitCode opts.folder.type
  timedOut := ended.result.timedOut
  cancelled := ended.result.aborted && ended.result.abortReason = some "cancelled"
  baselineEstablished := baselineEstablished opts plan host
  baselineCounts := (baselineAfter opts plan host).map fun after => (after.path1Count.getD 0, after.path2Count.getD 0)
  baselineBefore := plan.baselineBefore
  filterResync := plan.filterResync
  filterFingerprint := if opts.folder.type = .sync then inputs.filters.fingerprint sha256 else none
  attempts := attempts
  isRecovery := ended.isRecovery
  lanPeer := ((lanPeer opts).map fun session => session.2.peerHostId).getD "no LAN peer"

def finalStatus (ok : Bool) (run : FinishedRun) (aborted : Bool) : OperationStatus :=
  if run.cancelled then .cancelled
  else if ok && !run.timedOut && !aborted && run.baselineEstablished then
    if run.isRecovery then .recovery else .success
  else .failed

def handleConflicts (conflicts : List ParsedConflict) (run : FinishedRun) (aborted : Bool) : Exec OperationReport := do
  let strategy := opts.assignment.conflictStrategy.getD .manual
  if strategy = .manual then do
    Script.act (.createConflicts (conflicts.map ParsedConflict.path))
    pure ⟨.conflict, .conflicts (conflicts.map ParsedConflict.path)⟩
  else do
    let treated ← applyAutomaticConflicts conflicts strategy opts.assignment.role env
    let unresolved := (treated.filter fun c => !c.2).map fun c => c.1.path
    if unresolved ≠ [] then do
      Script.act (.createConflicts unresolved)
      pure ⟨.conflict, .unresolved (treated.filter Prod.snd).length unresolved⟩
    else pure ⟨finalStatus true run aborted, .autoResolved (conflicts.map ParsedConflict.path) run⟩

def finishRun (attempts : Nat) (ended : AttemptEnd) : Exec OperationReport := do
  let host ← Script.get
  let run := finishedRun sha256 opts inputs plan host attempts ended
  acknowledgeFilter env plan (runSucceeded ended.result) run.baselineEstablished
  let conflicts := parseBisyncConflicts ended.result.stdoutTail ended.result.stderrTail
  if opts.folder.type = .sync ∧ !opts.dryRun ∧ conflicts ≠ [] then handleConflicts opts env conflicts run ended.result.aborted
  else
    let ok : Bool := ended.result.exitCode = 0 || ended.result.exitCode = 9
    pure ⟨finalStatus ok run ended.result.aborted, .finished run⟩

def fullCommand : List Arg :=
  plan.command ++ (inputs.filters.filterFrom.elim [] fun _ => [.word "--filter-from", .value "exclude-file"]) ++
    (effectiveBandwidthSchedule opts.assignment.bandwidthSchedule opts.hostConfig.pause env.now).elim [] fun limit =>
      [.word "--bwlimit", .value limit]

def requireSpace : Exec Unit :=
  if opts.folder.type = .mount then do
    Script.act (.diskFree "vfs-cache")
    Script.leaveIf (!env.mountCacheFits) (failed .mountCacheSpace)
  else requireDiskSpace opts env

def peerCommand (peer : Option String) : List Arg :=
  let command := fullCommand opts env inputs plan
  peer.elim command fun remote => swapRemote inputs.remotePath (remote ++ ":" ++ inputs.destination) command

def runPlanned : Exec OperationReport := do
  requireSpace opts env
  let peer ← startLanPeerSession opts env
  let ended ← runAttempts opts env inputs.filters.filterFrom (maxRetries opts.assignment) 1
    (peerCommand opts env inputs plan peer) false
  finishRun sha256 opts env inputs plan ended.1 ended.2

end Finish

section Execute

variable (sha256 : String → String) (opts : ExecuteOptions) (env : Surroundings)

def runUniverse (configured : FilterPatterns) : FilterUniverse :=
  filterUniverse (opts.folder.type = .sync && opts.assignment.respectGitignore) env.snapshot
    (effectiveSyncFilterPatterns configured opts.folder.type opts.assignment.ignoreGitMetadata)

def prepareRun : Exec RunInputs := do
  Script.leaveIf (isPauseActive opts.hostConfig.pause env.now) (failed .paused)
  Script.leaveIf (!env.which "rclone") (failed .rcloneMissing)
  Script.orLeaveNone (if opts.folder.type = .sync then env.localDir else none) fun error =>
    failed (.localDirCreate error)
  Script.actIf (opts.folder.type = .sync) .makeLocalDir
  let destination ← Script.orLeave .threw (resolveDestination opts.folder opts.assignment.identity).toOption
  let configured ← Script.orLeave .threw (loadFilterPatterns env.filterFile
    (resolveFilterPath opts.assignment.ignorePath opts.assignment.mountIgnorePath (opts.folder.type = .mount))
    opts.assignment.localPath)
  pure {
    remoteName := getRemoteName opts.assignment.remoteName opts.folder.id
    destination
    filters := runUniverse opts env configured }

def runDotfile : Exec OperationReport := do
  requireHook opts.assignment.preSyncCmd .pre (env.preHook 1) (.preHook none)
  if hasResticConfig opts.assignment then runResticDotfileUpload opts env else runDotfileUpload opts env

def runSync (inputs : RunInputs) : Exec OperationReport := do
  let plan ← planSync sha256 opts env inputs
  runPlanned sha256 opts env inputs plan

def runMount (inputs : RunInputs) : Exec OperationReport := do
  let plan ← planMount opts env inputs
  runPlanned sha256 opts env inputs plan

def executeAssignment : Exec OperationReport := do
  let inputs ← prepareRun opts env
  match opts.folder.type with
  | .sync => runSync sha256 opts env inputs
  | .backup =>
    if hasResticConfig opts.assignment then runResticBackupAssignment opts env
    else runPlanned sha256 opts env inputs (planBackup opts inputs)
  | .mount => runMount sha256 opts env inputs
  | .dotfile => runDotfile opts env
  | .git => runGit opts env

def preparedInputs : Except ExecuteEnd RunInputs :=
  if isPauseActive opts.hostConfig.pause env.now then .error (failed .paused)
  else if !env.which "rclone" then .error (failed .rcloneMissing)
  else match (if opts.folder.type = .sync then env.localDir else none),
      (resolveDestination opts.folder opts.assignment.identity).toOption,
      loadFilterPatterns env.filterFile
        (resolveFilterPath opts.assignment.ignorePath opts.assignment.mountIgnorePath (opts.folder.type = .mount))
        opts.assignment.localPath with
    | some error, _, _ => .error (failed (.localDirCreate error))
    | none, some destination, some configured => .ok {
        remoteName := getRemoteName opts.assignment.remoteName opts.folder.id
        destination
        filters := runUniverse opts env configured }
    | none, _, _ => .error .threw

end Execute

section Words

variable {opts : ExecuteOptions} {env : Surroundings} {inputs : RunInputs} {plan : RunPlan}

private theorem ec_swapRemote {w remotePath peerPath : String} (h : w ≠ remotePath) (command : List Arg) :
    Arg.word w ∈ swapRemote remotePath peerPath command ↔ Arg.word w ∈ command := by
  induction command with
  | nil => exact Iff.rfl
  | cons arg rest ih =>
    unfold swapRemote
    split
    · rename_i harg
      have hne : Arg.word w ≠ arg := by
        rintro rfl
        exact h harg
      simp [hne]
    · simp [ih]

/-- A remote path has a colon, so it is none of the code's own words. -/
theorem ne_remotePath {w : String} (h : ':' ∉ w.toList) : w ≠ inputs.remotePath := by
  rintro rfl
  apply h
  unfold RunInputs.remotePath
  simp

theorem word_mem_peerCommand {w : String} (hco : ':' ∉ w.toList) (hfilt : w ≠ "--filter-from")
    (hbw : w ≠ "--bwlimit") (peer : Option String) :
    Arg.word w ∈ peerCommand opts env inputs plan peer ↔ Arg.word w ∈ plan.command := by
  have hfull : Arg.word w ∈ fullCommand opts env inputs plan ↔ Arg.word w ∈ plan.command := by
    unfold fullCommand
    cases inputs.filters.filterFrom with
    | none =>
      cases effectiveBandwidthSchedule opts.assignment.bandwidthSchedule opts.hostConfig.pause env.now with
      | none => simp
      | some limit => simp [hbw]
    | some text =>
      cases effectiveBandwidthSchedule opts.assignment.bandwidthSchedule opts.hostConfig.pause env.now with
      | none => simp [hfilt]
      | some limit => simp [hfilt, hbw]
  unfold peerCommand
  cases peer with
  | none => exact hfull
  | some remote => exact (ec_swapRemote (ne_remotePath hco) _).trans hfull

theorem isDry_peerCommand (peer : Option String) : isDry (peerCommand opts env inputs plan peer) = isDry plan.command := by
  rw [Bool.eq_iff_iff]
  unfold isDry
  simpa using word_mem_peerCommand (by decide) (by decide) (by decide) peer

theorem usesWorkdir_peerCommand (peer : Option String) :
    usesWorkdir (peerCommand opts env inputs plan peer) = usesWorkdir plan.command := by
  rw [Bool.eq_iff_iff]
  unfold usesWorkdir
  simpa using word_mem_peerCommand (by decide) (by decide) (by decide) peer

theorem isResync_peerCommand (peer : Option String) :
    isResync (peerCommand opts env inputs plan peer) = isResync plan.command := by
  rw [Bool.eq_iff_iff]
  unfold isResync
  simpa using word_mem_peerCommand (by decide) (by decide) (by decide) peer

theorem isDry_withResync (command : List Arg) : isDry (withResync command) = isDry command := by
  unfold withResync isDry
  split
  · rfl
  · simp

theorem usesWorkdir_withResync (command : List Arg) : usesWorkdir (withResync command) = usesWorkdir command := by
  unfold withResync usesWorkdir
  split
  · rfl
  · simp

theorem isDry_previewPlan : isDry (previewPlan opts inputs).command = true := by
  simp [isDry, previewPlan]

theorem usesWorkdir_previewPlan : usesWorkdir (previewPlan opts inputs).command = false := by
  simp [usesWorkdir, previewPlan, bisyncArgs]

theorem isDry_dryPlan (resync : Option ResyncMode) : isDry (dryPlan opts env inputs resync).command = true := by
  simp [isDry, dryPlan]

theorem isDry_realPlan (inspection : BisyncBaselineInspection) (verdict : Option FingerprintVerdict) :
    isDry (realPlan opts env inputs inspection verdict).command = false := by
  unfold realPlan isDry bisyncArgs maxDeleteArgs resyncArgs stateDirArg
  cases maxDeletePercent opts with
  | none | some percent =>
    cases bisyncResyncPlan inspection.ready (verdict.any FingerprintVerdict.changed) opts.bisync with
    | none => simp
    | some mode => cases mode <;> simp [ResyncMode.text]

theorem usesWorkdir_realPlan (inspection : BisyncBaselineInspection) (verdict : Option FingerprintVerdict) :
    usesWorkdir (realPlan opts env inputs inspection verdict).command = true := by
  simp [realPlan, usesWorkdir]

theorem isResync_realPlan (inspection : BisyncBaselineInspection) (verdict : Option FingerprintVerdict) :
    isResync (realPlan opts env inputs inspection verdict).command =
      (bisyncResyncPlan inspection.ready (verdict.any FingerprintVerdict.changed) opts.bisync).isSome := by
  unfold realPlan isResync bisyncArgs maxDeleteArgs resyncArgs stateDirArg
  cases maxDeletePercent opts with
  | none =>
    cases bisyncResyncPlan inspection.ready (verdict.any FingerprintVerdict.changed) opts.bisync with
    | none | some mode => simp
  | some percent =>
    cases bisyncResyncPlan inspection.ready (verdict.any FingerprintVerdict.changed) opts.bisync with
    | none | some mode => simp

theorem isDry_mountPlan : isDry (mountPlan opts inputs).command = false := by
  unfold mountPlan isDry
  cases presentText opts.assignment.mountCacheMode with
  | none | some mode => simp

theorem usesWorkdir_mountPlan : usesWorkdir (mountPlan opts inputs).command = false := by
  unfold mountPlan usesWorkdir
  cases presentText opts.assignment.mountCacheMode with
  | none | some mode => simp

theorem isDry_planBackup : isDry (planBackup opts inputs).command = opts.dryRun := by
  unfold planBackup isDry
  cases opts.dryRun with
  | true | false => simp

theorem usesWorkdir_planBackup : usesWorkdir (planBackup opts inputs).command = false := by
  unfold planBackup usesWorkdir
  cases opts.dryRun with
  | true | false => simp

end Words

section Rules

variable {P : Host → ExecutorEvent → Prop} {left : ExecuteEnd → Host → Prop} {host : Host} {opts : ExecuteOptions}
  {env : Surroundings} {inputs : RunInputs} {plan : RunPlan} {filter : Option String}

theorem wp_requireHook {post : Unit → Host → Prop} {command : Option String} {phase : HookPhase} {ended : Option Int}
    {body : Int → ReportBody} :
    Script.wp Host.step P post left (requireHook command phase ended body) host ↔
      (hookCommand command = none → post () host) ∧ ∀ cmd, hookCommand command = some cmd →
        (ended = none → left .threw host) ∧ ∀ exitCode, ended = some exitCode → P host (.hook phase cmd) ∧
          (exitCode ≠ 0 → left (failed (body exitCode)) host) ∧ (exitCode = 0 → post () host) := by
  unfold requireHook
  rw [Script.wp_bind, wp_runHook]
  simp only [Script.wp_leaveIf, ne_eq, not_true_eq_false, false_imp_iff, true_and, not_not, not_false_eq_true,
    true_imp_iff]

theorem wp_prepareRun {post : RunInputs → Host → Prop} (hlo : ∀ host, P host .makeLocalDir) :
    Script.wp Host.step P post left (prepareRun opts env) host ↔
      Script.Ends post left host (preparedInputs opts env) := by
  unfold prepareRun preparedInputs
  rw [Script.wp_bind, Script.wp_leaveIf]
  by_cases hpa : isPauseActive opts.hostConfig.pause env.now = true
  · simp [hpa, Script.Ends]
  rw [Script.wp_bind, Script.wp_leaveIf]
  by_cases hrc : env.which "rclone" = false
  · simp [hpa, hrc, Script.Ends]
  rw [Script.wp_bind, Script.wp_orLeaveNone]
  cases hdir : (if opts.folder.type = .sync then env.localDir else none) with
  | some error => simp [hpa, hrc, Script.Ends]
  | none =>
    rw [Script.wp_bind, Script.wp_actIf, Script.wp_bind, Script.wp_orLeave]
    have hstep : host.step .makeLocalDir = host := rfl
    cases (resolveDestination opts.folder opts.assignment.identity).toOption with
    | none => simp [hpa, hrc, hstep, hlo, Script.Ends]
    | some destination =>
      cases loadFilterPatterns env.filterFile
        (resolveFilterPath opts.assignment.ignorePath opts.assignment.mountIgnorePath (opts.folder.type = .mount))
        opts.assignment.localPath with
      | none => simp [hpa, hrc, hstep, hlo, Script.Ends]
      | some configured => simp [hpa, hrc, hstep, hlo, Script.Ends]

theorem wp_finishRun_dry {sha256 : String → String} {attempts : Nat} {ended : AttemptEnd}
    {post : OperationReport → Host → Prop} (hpend : plan.pendingFilterFingerprint = none)
    (hdry : opts.folder.type = .sync → opts.dryRun = true) (hpost : ∀ report, post report host) :
    Script.wp Host.step P post left (finishRun sha256 opts env inputs plan attempts ended) host := by
  unfold finishRun acknowledgeFilter
  rw [hpend, Script.wp_bind, Script.wp_get, Script.wp_bind, Script.wp_pure]
  have hsk : ¬ (opts.folder.type = .sync ∧ (!opts.dryRun) = true ∧
      parseBisyncConflicts ended.result.stdoutTail ended.result.stderrTail ≠ []) := by
    rintro ⟨hsync, hreal, -⟩
    rw [hdry hsync] at hreal
    cases hreal
  rw [if_neg hsk]
  exact hpost _

end Rules

end LamaSync
