import LamaSync.Daemon.BisyncBaseline
import LamaSync.Daemon.Conflicts
import LamaSync.Lib.Script

/-!
# The parts of a run

What a run of the executor is given, what it finds outside, and what it does.  The processes a run starts, its requests
to the server and its changes of the work directory are events, and the work directory changes by its events only, so a
run is a script over the work directory.  How a process ends and what it leaves is in the surroundings of the run; the
later modules quantify over them.

The steps that the folder types share are here as well: hooks, the archive of the work directory, one call of rclone,
and the session with a peer in the local network.
-/

namespace LamaSync

inductive PauseMode where
  | pause | slow
  deriving DecidableEq, Repr

/-- `untilMs` is the parsed time, when the text is one. -/
structure EffectivePause where
  untilMs : Option Int
  mode : PauseMode
  bwlimit : Option String
  deriving DecidableEq, Repr

structure Peer where
  peerHostId : String
  peerLanIp : String
  peerTailnetIp : Option String
  peerRemote : String
  folderIds : List String
  deriving DecidableEq, Repr

structure HostConfig where
  pause : Option EffectivePause := none
  peers : List Peer := []
  apps : List AppCaptureAssignment := []
  deriving DecidableEq

structure ExecuteOptions where
  assignment : FolderAssignment
  folder : Folder
  hostConfig : HostConfig := {}
  hostId : String
  configPath : String := "rclone.conf"
  dryRun : Bool := false
  bisync : Option BisyncRunControl := none
  deriving DecidableEq

/-- A word of a command line: one of the code's own, or a value that was configured. -/
inductive Arg where
  | word (text : String)
  | value (text : String)
  deriving DecidableEq, Repr

def Arg.text : Arg → String
  | .word text => text
  | .value text => text

def isDry (command : List Arg) : Bool := command.contains (.word "--dry-run")

def isResync (command : List Arg) : Bool := command.contains (.word "--resync")

def usesWorkdir (command : List Arg) : Bool := command.contains (.word "--workdir")

inductive HookPhase where
  | pre | post
  deriving DecidableEq, Repr

inductive ConflictSide where
  | local | remote
  deriving DecidableEq, Repr

inductive GitCommand where
  | remotes | addOrigin (url : String) | fetch | revParse | upstream | revList | pull | log
  deriving DecidableEq, Repr

inductive ExecutorEvent where
  | hook (phase : HookPhase) (command : String)
  | rclone (command : List Arg) (filter : Option String) (after : List ListingFile)
  | copyto (source : ConflictSide) (path : String)
  | serveSftp (localPath : String)
  | probePeer (ip : String)
  | diskFree (path : String)
  | keepLocalConflictCopy (path : String)
  | resticInit (repository : String)
  | resticBackup (command : List Arg)
  | tar (inputs excludes : List String)
  | ghClone (remote path : String)
  | git (command : GitCommand)
  | uploadAppSnapshot (protectionId : String)
  | reportResticSnapshot (snapshotId : String)
  | reportRetry (attempt : Nat)
  | createConflicts (paths : List String)
  | resolveConflict (id : String)
  | makeLocalDir
  | makeStateDir
  /-- The work directory is moved away.  `pruned` says that the archives beyond the newest five were removed. -/
  | archiveState (pruned : Bool)
  | writeFingerprint (text : String)
  | writeMarker (text : String)
  | removeMarker
  deriving DecidableEq, Repr

/-- The work directory of a folder and its archives, the newest first.  `pairFilter` is the filter text of the run that
wrote the listings last; nothing reads it. -/
structure Host where
  stateDir : Option WorkDir := none
  archives : List WorkDir := []
  pairFilter : Option String := none
  deriving DecidableEq, Repr

namespace Host

variable (host : Host)

def dir : WorkDir := host.stateDir.getD {}

def files : List ListingFile := host.dir.files

def setDir (change : WorkDir → WorkDir) : Host := { host with stateDir := some (change host.dir) }

def step : ExecutorEvent → Host
  | .rclone command filter after =>
    if usesWorkdir command then
      { host.setDir fun dir => { dir with files := after } with
        pairFilter := if listings after = listings host.files then host.pairFilter else filter }
    else host
  | .makeStateDir => host.setDir id
  | .archiveState pruned =>
    let archives := host.dir :: host.archives
    { host with stateDir := none, archives := if pruned then archives.take 5 else archives }
  | .writeFingerprint text => host.setDir fun dir => { dir with filterFingerprint := some text }
  | .writeMarker text => host.setDir fun dir => { dir with resyncRequired := some text }
  | .removeMarker => host.setDir fun dir => { dir with resyncRequired := none }
  | .hook .. | .copyto .. | .serveSftp _ | .probePeer _ | .diskFree _ | .keepLocalConflictCopy _ | .resticInit _
  | .resticBackup _ | .tar .. | .ghClone .. | .git _ | .uploadAppSnapshot _ | .reportResticSnapshot _ | .reportRetry _
  | .createConflicts _ | .resolveConflict _ | .makeLocalDir => host

end Host

/-- What a call of `runCommand` returns.  A run that was aborted counts as timed out. -/
structure CommandResult where
  exitCode : Int
  timedOut : Bool := false
  aborted : Bool := false
  abortReason : Option String := none
  stdoutTail : String := ""
  stderrTail : String := ""
  aborted_timedOut : aborted = true → timedOut = true := by decide
  deriving DecidableEq

/-- rclone has come to its end by itself. -/
def CommandResult.exited (exitCode : Int) (stderrTail : String) : CommandResult := { exitCode, stderrTail }

structure RcloneEnd where
  result : CommandResult
  files : List ListingFile := []
  deriving DecidableEq

inductive ArchiveEnd where
  | done | renameFails | pruneFails
  deriving DecidableEq, Repr

/-- How the treatment of one conflict ends: the local file is moved aside, or its move fails; the copy exits with 0; the
server is told. -/
structure ConflictEnd where
  localExists : Bool := true
  moved : Bool := true
  copied : Bool := true
  acknowledged : Bool := true
  deriving DecidableEq

structure ResolvedConflict where
  id : String
  path : String
  resolution : ConflictResolution
  deriving DecidableEq

/-- How the processes of a restic run end.  A process that cannot be started has no end. -/
structure ResticEnds where
  init : Option (Int × String) := none
  backup : Option (Int × Bool) := none
  snapshotId : Option String := none

structure GitEnds where
  pathExists : Bool := false
  hasDotGit : Bool := false
  clone : Option Int := none
  remotes : Option (List String) := none
  addOrigin : Option Int := none
  dotGitAfter : Bool := false
  fetch : Option Int := none
  head : Option String := none
  upstream : Option Int := none
  revList : Option (Nat × Nat) := none
  pull : Option Int := none
  log : Option String := none

inductive FilterFile where
  | missing
  | unreadable
  | content (text : String)

/-- What one run finds outside: the machine, and how everything it starts ends.  Hooks and rclone runs are given for each
attempt; one that cannot be started has no end. -/
structure Surroundings where
  now : Int := 0
  home : String := "/home"
  which : String → Bool := fun _ => true
  /-- The error of creating the local directory, when that fails. -/
  localDir : Option String := none
  filterFile : String → String → FilterFile := fun _ _ => .missing
  snapshot : SnapshotRules := ⟨[], snapshotRules_nil⟩
  stateDirMade : Bool := true
  archive : ArchiveEnd := .done
  /-- `df` of the local path, when its output can be read. -/
  availableBytes : Option Int := none
  mountCacheFits : Bool := true
  peerServes : Bool := true
  peerReachable : String → Bool := fun _ => false
  preHook : Nat → Option Int := fun _ => some 0
  rclone : Nat → Option RcloneEnd := fun _ => none
  recoveryArchive : Nat → ArchiveEnd := fun _ => .done
  recoveryDirMade : Nat → Bool := fun _ => true
  recoveryRun : Nat → Option RcloneEnd := fun _ => none
  postHook : Nat → Option Int := fun _ => some 0
  fingerprintWritten : Bool := true
  markerRemoved : Bool := true
  markerWritten : Bool := true
  resolvedConflicts : Option (List ResolvedConflict) := some []
  resolvedEnd : Nat → ConflictEnd := fun _ => {}
  automaticEnd : Nat → ConflictEnd := fun _ => {}
  pathExists : String → Bool := fun _ => true
  tar : Option (Int × String) := none
  snapshotUploaded : Bool := true
  restic : ResticEnds := {}
  git : GitEnds := {}

inductive OperationStatus where
  | success | failed | conflict | recovery | cancelled
  deriving DecidableEq, Repr

inductive RcloneExitCategory where
  | success | noTransfer | retryable | nonRetryable
  deriving DecidableEq, Repr

structure FinishedRun where
  exitCode : Int
  exitCategory : RcloneExitCategory
  timedOut : Bool
  cancelled : Bool
  baselineEstablished : Bool
  baselineCounts : Option (Nat × Nat)
  baselineBefore : Option BisyncBaselineInspection
  filterResync : Bool
  filterFingerprint : Option String
  attempts : Nat
  isRecovery : Bool
  lanPeer : String
  deriving DecidableEq

inductive ReportBody where
  | paused
  | rcloneMissing
  | localDirCreate (error : String)
  | diskSpace (availableBytes : Option Int) (requiredBytes : Int)
  | mountCacheSpace
  | preHook (attempt : Option Nat) (exitCode : Int)
  | postHook (attempt : Option Nat) (exitCode : Int)
  | executorError (attempt : Nat)
  | recoveryFailed (attempt : Nat)
  | conflicts (paths : List String)
  | unresolved (resolved : Nat) (paths : List String)
  | autoResolved (paths : List String) (run : FinishedRun)
  | finished (run : FinishedRun)
  | resticMissing
  | resticInit
  | resticBackup
  | resticOk (snapshotId : Option String) (paths : List String)
  | noAppProtection
  | noAppPaths
  | appPathInvalid (path : String)
  | appPathUnsupported (path : String)
  | appPathMissing (path : String)
  | appArchiveFailed (exitCode : Int)
  | appUploadFailed
  | appCaptured (paths : List String)
  | ghMissingRemote
  | ghMissing
  | ghCloneFailed (exitCode : Int)
  | gitRemoteAddFailed (exitCode : Int)
  | noGit
  | gitMissing
  | fetchFailed (exitCode : Int)
  | noUpstream
  | pullFailed (exitCode : Int)
  | gitOk (ahead behind : Nat)
  deriving DecidableEq

structure OperationReport where
  status : OperationStatus
  body : ReportBody
  deriving DecidableEq

inductive ExecuteEnd where
  | reported (report : OperationReport)
  | threw
  deriving DecidableEq

abbrev Exec (α : Type) : Type := Script Host ExecutorEvent ExecuteEnd α

def failed (body : ReportBody) : ExecuteEnd := .reported ⟨.failed, body⟩

def isPauseActive (pause : Option EffectivePause) (now : Int) : Bool := pause.any fun p => p.untilMs.any fun t => now < t

def effectiveBandwidthSchedule (schedule : Option String) (pause : Option EffectivePause) (now : Int) : Option String :=
  let slow := pause.filter fun p => p.mode = .slow ∧ p.untilMs.any (fun t => now < t)
  (slow.bind fun p => presentTrimmed p.bwlimit).or (presentTrimmed schedule)

def hasResticConfig (assignment : FolderAssignment) : Bool :=
  (presentText assignment.resticRepository).isSome && (presentText assignment.resticPassword).isSome

def bisyncStateDir (folderId home : String) : String := home ++ "/.local/share/lamasync/bisync/" ++ folderId

def getRemoteName (remoteName : Option String) (folderId : String) : String :=
  (presentText remoteName).getD ("lamasync-" ++ folderId)

def filterLines (text : String) : List String :=
  (((text.toList.splitOn '\n').map trimSpaces).filter fun line => line ≠ [] ∧ line.head? ≠ some '#').map String.ofList

private theorem ex_filterLines {text line : String} (h : line ∈ filterLines text) : line ≠ "" := by
  obtain ⟨cs, hcs, rfl⟩ := List.mem_map.1 h
  have hne := (List.mem_filter.1 hcs).2
  intro heq
  have hnil := congrArg String.toList heq
  simp only [String.toList_ofList] at hnil
  rw [hnil] at hne
  simp at hne

def resolveFilterPath (ignorePath mountIgnorePath : Option String) (isMount : Bool) : Option String :=
  if isMount then ((presentTrimmed mountIgnorePath).bind fun _ => mountIgnorePath).or ignorePath else ignorePath

def loadFilterPatterns (filterFile : String → String → FilterFile) (filterPath : Option String) (localPath : String) :
    Option FilterPatterns :=
  match filterPath.filter fun path => (presentTrimmed (some path)).isSome with
  | none => some ⟨[], fun _ h => absurd h (List.not_mem_nil)⟩
  | some path =>
    match filterFile path localPath with
    | .missing => some ⟨[], fun _ h => absurd h (List.not_mem_nil)⟩
    | .unreadable => none
    | .content text => some ⟨filterLines text, fun _ h => ex_filterLines h⟩

def effectiveSyncFilterPatterns (configured : FilterPatterns) (type : FolderType) (ignoreGitMetadata : Bool) :
    FilterPatterns :=
  if ignoreGitMetadata ∧ type = .sync then
    ⟨"- .git/**" :: configured.1, by
      intro line hline
      rcases List.mem_cons.1 hline with rfl | hrest
      · decide
      · exact configured.2 line hrest⟩
  else configured

def classifyRcloneExit (code : Int) (type : FolderType) : RcloneExitCategory :=
  if code = 0 then .success
  else if code = 9 then .noTransfer
  else if code = 5 then .retryable
  else if code = 1 then if type = .sync then .retryable else .nonRetryable
  else .nonRetryable

def bisyncCorruptionMarkers : List String :=
  ["bisync aborted", "inconsistent state", "must use --resync", "state corruption"]

def includesText (part : List Char) : List Char → Bool
  | [] => part.isEmpty
  | c :: cs => part.isPrefixOf (c :: cs) || includesText part cs

def hasBisyncCorruption (stderr : String) : Bool :=
  bisyncCorruptionMarkers.any fun marker => includesText marker.toList (stderr.toList.map Char.toLower)

def hookCommand (command : Option String) : Option String := command.filter fun c => (presentTrimmed (some c)).isSome

def runHook (command : Option String) (phase : HookPhase) (ended : Option Int) : Exec Int :=
  match hookCommand command with
  | none => pure 0
  | some command =>
    match ended with
    | none => .leave .threw
    | some exitCode => do
      Script.act (.hook phase command)
      pure exitCode

def archiveBisyncState (ended : ArchiveEnd) : Exec Bool := do
  let host ← Script.get
  if host.stateDir.isNone ∨ ended = .renameFails then pure false
  else do
    Script.act (.archiveState (ended = .done))
    pure (ended = .done)

def runCommand (command : List Arg) (filter : Option String) (ended : Option RcloneEnd) : Exec (Option CommandResult) :=
  match ended with
  | none => pure none
  | some rclone => do
    Script.act (.rclone command filter rclone.files)
    pure (some rclone.result)

structure DiskCheck where
  ok : Bool
  availableBytes : Option Int

def checkDiskSpace (localPath : String) (availableBytes : Option Int) (required : Int) : Exec DiskCheck := do
  Script.act (.diskFree localPath)
  pure ⟨availableBytes.all fun bytes => required ≤ bytes, availableBytes⟩

inductive PeerRole where
  | serve | use
  deriving DecidableEq, Repr

def pickPeerRole (currentHostId peerHostId : String) : PeerRole :=
  if utf16 currentHostId < utf16 peerHostId then .serve else .use

def findPeerForFolder (peers : List Peer) (folderId : String) : Option Peer :=
  peers.find? fun p => p.folderIds.contains folderId

def peerCandidates (peer : Peer) : List (String × String) :=
  match presentText peer.peerTailnetIp with
  | some tailnet =>
    (tailnet, peer.peerRemote) :: ((presentText (some peer.peerLanIp)).map fun ip => (ip, peer.peerRemote ++ "-lan")).toList
  | none => ((presentText (some peer.peerLanIp)).map fun ip => (ip, peer.peerRemote)).toList

def usePeer (reachable : String → Bool) : List (String × String) → Exec (Option String)
  | [] => pure none
  | (ip, remote) :: rest => do
    Script.act (.probePeer ip)
    if reachable ip then pure (some remote) else usePeer reachable rest

def startLanPeerSession (opts : ExecuteOptions) (env : Surroundings) : Exec (Option String) :=
  match findPeerForFolder opts.hostConfig.peers opts.folder.id with
  | none => pure none
  | some peer =>
    match pickPeerRole opts.hostId peer.peerHostId with
    | .serve => do
      Script.leaveIf (!env.peerServes) .threw
      Script.act (.serveSftp opts.assignment.localPath)
      pure none
    | .use => usePeer env.peerReachable (peerCandidates peer)

def reachedRemote (reachable : String → Bool) (candidates : List (String × String)) : Option String :=
  (candidates.find? fun c => reachable c.1).map Prod.snd

def swapRemote (remotePath peerPath : String) : List Arg → List Arg
  | [] => []
  | arg :: rest => if arg.text = remotePath then .value peerPath :: rest else arg :: swapRemote remotePath peerPath rest

def GitCommand.changes : GitCommand → Bool
  | .addOrigin _ | .fetch | .pull => true
  | .remotes | .revParse | .upstream | .revList | .log => false

def ExecutorEvent.changes : ExecutorEvent → Bool
  | .hook .. | .copyto .. | .serveSftp _ | .keepLocalConflictCopy _ | .resticInit _ | .resticBackup _ | .ghClone ..
  | .uploadAppSnapshot _ | .archiveState _ | .writeFingerprint _ | .writeMarker _ | .removeMarker => true
  | .rclone command .. => !isDry command
  | .git command => command.changes
  | .probePeer _ | .diskFree _ | .tar .. | .reportResticSnapshot _ | .reportRetry _ | .createConflicts _
  | .resolveConflict _ | .makeLocalDir | .makeStateDir => false

structure DaemonState where
  filterFingerprint : Option String
  legacyFilterHash : Option String
  resyncRequired : Option String
  archives : List WorkDir
  deriving DecidableEq

def Host.daemonState (host : Host) : DaemonState :=
  ⟨host.dir.filterFingerprint, host.dir.legacyFilterHash, host.dir.resyncRequired, host.archives⟩

def filesLeft (files : List ListingFile) (events : List ExecutorEvent) : List ListingFile :=
  events.foldl (fun files e => match e with
    | .rclone command _ after => if usesWorkdir command then after else files
    | _ => files) files

theorem Host.step_still (host : Host) {e : ExecutorEvent} (h : e.changes = false) :
    (host.step e).daemonState = host.daemonState ∧ (host.step e).files = filesLeft host.files [e] := by
  cases e with
  | rclone command filter after =>
    unfold Host.step filesLeft
    simp only [List.foldl_cons, List.foldl_nil]
    split
    · exact ⟨rfl, rfl⟩
    · exact ⟨rfl, rfl⟩
  | archiveState _ | writeFingerprint _ | writeMarker _ | removeMarker => cases h
  | _ => exact ⟨rfl, rfl⟩

theorem Host.run_still (host : Host) {events : List ExecutorEvent}
    (h : Trace.Always Host.step (fun _ e => e.changes = false) host events) :
    (Trace.run Host.step host events).daemonState = host.daemonState ∧
      (Trace.run Host.step host events).files = filesLeft host.files events := by
  induction events generalizing host with
  | nil => exact ⟨rfl, rfl⟩
  | cons e events ih =>
    obtain ⟨hs, hf⟩ := host.step_still h.1
    obtain ⟨ihstate, ihfiles⟩ := ih _ h.2
    refine ⟨ihstate.trans hs, ?_⟩
    rw [Trace.run_cons, ihfiles, hf]
    rfl

section Rules

variable {P : Host → ExecutorEvent → Prop} {left : ExecuteEnd → Host → Prop} {host : Host}

theorem wp_runHook {post : Int → Host → Prop} {command : Option String} {phase : HookPhase} {ended : Option Int} :
    Script.wp Host.step P post left (runHook command phase ended) host ↔
      (hookCommand command = none → post 0 host) ∧ ∀ cmd, hookCommand command = some cmd →
        (ended = none → left .threw host) ∧ ∀ exitCode, ended = some exitCode →
          P host (.hook phase cmd) ∧ post exitCode host := by
  unfold runHook
  cases hookCommand command with
  | none => simp
  | some cmd =>
    cases ended with
    | none => simp
    | some exitCode => simp [Host.step]

theorem wp_archiveBisyncState {post : Bool → Host → Prop} {ended : ArchiveEnd} :
    Script.wp Host.step P post left (archiveBisyncState ended) host ↔
      (host.stateDir.isNone ∨ ended = .renameFails → post false host) ∧
        (¬ (host.stateDir.isNone ∨ ended = .renameFails) → P host (.archiveState (ended = .done)) ∧
          post (ended = .done) (host.step (.archiveState (ended = .done)))) := by
  unfold archiveBisyncState
  simp only [Script.wp_bind, Script.wp_get, Script.wp_ite, Script.wp_pure, Script.wp_act]

theorem wp_runCommand {post : Option CommandResult → Host → Prop} {command : List Arg} {filter : Option String}
    {ended : Option RcloneEnd} :
    Script.wp Host.step P post left (runCommand command filter ended) host ↔
      (ended = none → post none host) ∧ ∀ rclone, ended = some rclone →
        P host (.rclone command filter rclone.files) ∧
          post (some rclone.result) (host.step (.rclone command filter rclone.files)) := by
  unfold runCommand
  cases ended with
  | none | some rclone => simp

theorem wp_checkDiskSpace {post : DiskCheck → Host → Prop} {localPath : String} {available : Option Int}
    {required : Int} :
    Script.wp Host.step P post left (checkDiskSpace localPath available required) host ↔
      P host (.diskFree localPath) ∧ post ⟨available.all fun bytes => required ≤ bytes, available⟩ host := Iff.rfl

variable {post : Option String → Host → Prop}

theorem wp_usePeer (hpb : ∀ ip, P host (.probePeer ip))
    {reachable : String → Bool} {candidates : List (String × String)} :
    Script.wp Host.step P post left (usePeer reachable candidates) host ↔
      post (reachedRemote reachable candidates) host := by
  induction candidates with
  | nil => exact Iff.rfl
  | cons candidate rest ih =>
    obtain ⟨ip, remote⟩ := candidate
    unfold usePeer
    rw [Script.wp_bind, Script.wp_act, and_iff_right (hpb ip)]
    by_cases hr : reachable ip = true
    · simp [hr, reachedRemote, Host.step]
    have hfind : reachedRemote reachable ((ip, remote) :: rest) = reachedRemote reachable rest := by
      simp [hr, reachedRemote]
    rw [if_neg hr, hfind]
    exact ih

def lanPeer (opts : ExecuteOptions) : Option (PeerRole × Peer) :=
  (findPeerForFolder opts.hostConfig.peers opts.folder.id).map fun peer =>
    (pickPeerRole opts.hostId peer.peerHostId, peer)

def servesPeer (opts : ExecuteOptions) : Bool := (lanPeer opts).any fun session => session.1 = .serve

def usedRemote (opts : ExecuteOptions) (env : Surroundings) : Option String :=
  (lanPeer opts).bind fun session =>
    if session.1 = .use then reachedRemote env.peerReachable (peerCandidates session.2) else none

theorem wp_startLanPeerSession (hpb : ∀ ip, P host (.probePeer ip))
    {opts : ExecuteOptions} {env : Surroundings} :
    Script.wp Host.step P post left (startLanPeerSession opts env) host ↔
      (servesPeer opts = true → (env.peerServes = false → left .threw host) ∧
        (env.peerServes = true → P host (.serveSftp opts.assignment.localPath) ∧ post none host)) ∧
        (servesPeer opts = false → post (usedRemote opts env) host) := by
  unfold startLanPeerSession servesPeer usedRemote lanPeer
  cases findPeerForFolder opts.hostConfig.peers opts.folder.id with
  | none => simp
  | some peer =>
    dsimp only [Option.map_some, Option.any_some, Option.bind_some]
    cases pickPeerRole opts.hostId peer.peerHostId with
    | serve => simp [Host.step]
    | use => simpa using wp_usePeer hpb

end Rules

end LamaSync
