import LamaSync.Daemon.LeaseSupervisor
import LamaSync.Server.SeedRuns

/-!
# The two sides of a seed on their daemons

`runSeedAction` drives one side of a job: a straight line of stages, phase reports and checks, each an await, with
the lease supervisor beside it.  A side ends in one of four ways: the source returns after its facts are recorded,
the target cleans up after its completion, a stop cleans up at once, and any other error reports the job failed and
then cleans up.

The two sides, the server and the relay make one system.  A side's request reaches the server at one step and its
answer, or a transport error in its place, reaches the side at a later one, so an answer can be lost after the
server committed.  Any number of runs of either side may be under way, and anybody may send the server anything.
-/

namespace LamaSync

def seedRelayArchiveKey (jobId : String) (format : SeedArchiveFormat) : String := seedArchiveObjectKey jobId format

def seedRelayManifestKey (jobId : String) : String := seedObjectKeyPrefix ++ "/" ++ jobId ++ "/manifest.json"

def isValidSeedRelayJobId : List Char → Bool
  | [] => false
  | c :: cs => c.isAlphanum && decide (cs.length ≤ 127) &&
      cs.all fun c => c.isAlphanum || c == '.' || c == '_' || c == '-'

def isWindowsPath : List Char → Bool
  | drive :: ':' :: _ => drive.isAlpha
  | _ => false

def validateSeedRelayObjectKey (key : String) : Bool :=
  let cs := key.toList
  let segments := cs.splitOn '/'
  !cs.isEmpty && decide (utf16Length cs ≤ 4096) && cs.head? != some '/' && cs.head? != some '\\' &&
    !isWindowsPath cs && !cs.contains '\\' && (cs.all fun c => 0x20 ≤ c.toNat && c.toNat != 0x7f) &&
    (segments.all fun s => !s.isEmpty && s != ['.'] && s != ['.', '.']) &&
    key.startsWith (seedObjectKeyPrefix ++ "/") && segments.length == 4 &&
    isValidSeedRelayJobId (segments.getD 2 [])

def relayKeysToDelete (cleanup : SeedRelayCleanup) (keys : List String) : List String :=
  if cleanup.state = .cleaned then []
  else keys.filter fun key => !cleanup.deletedKeys.contains key && validateSeedRelayObjectKey key

/-- What a side asks of the server about its job. -/
inductive SeedRequest where
  | read
  | progress (body : Json)
  | archive (body : List (String × Json))
  | lease (leaseMs : Int)
  | complete (status : SeedJobTerminalPhase) (summary error : Option String)

def readRoute (db : SeedDb) (principal : Option AuthPrincipal) (jobId : String) : SeedReply :=
  match getSeedJob db jobId with
  | none => .refused 404 "Seed job not found"
  | some job => if seedJobAuthority principal job = .denied then .refused 403 "Forbidden" else .job job

def SeedRequest.serve (db : SeedDb) (principal : Option AuthPrincipal) (pilot : SeedPilotEligibility)
    (jobId : String) (now : Int) : SeedRequest → SeedDb × SeedReply
  | .read => (db, readRoute db principal jobId)
  | .progress body => progressRoute db principal jobId body now
  | .archive body => archiveRoute db principal pilot jobId body now
  | .lease leaseMs => leaseRoute db principal jobId none (some leaseMs) now
  | .complete status summary error => completeRoute db principal jobId status summary error now

def arrived (reply : Option SeedReply) (lost : Option String) : Option JobAnswer :=
  match lost, reply with
  | some message, _ => some (.error (.transport message))
  | none, some (.job job) => some (.ok job)
  | none, some (.refused status error) => some (.error (.api status error))
  | none, none => none

inductive SeedActionStatus where
  | done | failed
  deriving DecidableEq, Repr

structure SeedActionOutcome where
  status : SeedActionStatus
  result : String
  deriving DecidableEq

/-- The long operations, each run inside the supervisor. -/
inductive SeedStage where
  | buildSeedSourceManifest | createSeedArchive | uploadSeedArchive | uploadSeedManifest
  | downloadSeedArchive | downloadSeedManifest | extractSeedArchive | verifyExtractedTree | runBaselineValidation
  deriving DecidableEq

/-- The awaits of `runSource` and `runTarget`, and the local steps between them that may throw. -/
inductive SeedRunnerOp where
  | start
  /-- The assignment, its folder type and the relay tooling, and the local checks before an extraction or a
  publication. -/
  | check
  | waitForSourceFacts
  | enter (p : SeedJobPhase) (message : String)
  | stage (s : SeedStage)
  | verifyAuthority
  | recordSeedArchiveFacts
  | completeSeedJob

def runSource : List SeedRunnerOp := [
  .start,
  .check,
  .enter .measuringSource "Building the effective-filter manifest.",
  .stage .buildSeedSourceManifest,
  .check,
  .enter .archivingSource "Archiving the manifest's members.",
  .stage .createSeedArchive,
  .enter .uploadingArchive "Uploading the archive and manifest to the temporary seed space.",
  .stage .uploadSeedArchive,
  .stage .uploadSeedManifest,
  .verifyAuthority,
  .recordSeedArchiveFacts]

def runTarget : List SeedRunnerOp := [
  .check,
  .waitForSourceFacts,
  .start,
  .enter .downloadingArchive "Downloading the archive from the temporary seed space.",
  .stage .downloadSeedArchive,
  .enter .verifyingArchive "Downloading the manifest and re-deriving the source universe.",
  .stage .downloadSeedManifest,
  .check,
  .enter .extractingTarget "Extracting into the staging sibling.",
  .stage .extractSeedArchive,
  .enter .verifyingTarget "Verifying the extracted tree against the transported manifest.",
  .stage .verifyExtractedTree,
  .enter .publishing "Publishing the staging tree with one atomic rename.",
  .verifyAuthority,
  .check,
  .enter .baselineValidation "Running a resync against the assignment's peer and requiring no change.",
  .stage .runBaselineValidation,
  .verifyAuthority,
  .completeSeedJob]

def runnerOps : SeedJobRole → List SeedRunnerOp
  | .source => runSource
  | .target => runTarget

/-- What the stages hand on to later steps. -/
structure StageOutput where
  entries : Nat
  archiveBytes : Int
  fileCount : Nat
  facts : SeedJobArchiveFacts

inductive RunnerControl where
  | ready
  | staging
  /-- A request is on its way, with the server's answer once it is given. -/
  | calling (request : SeedRequest) (reply : Option SeedReply)
  | failing (message : String) (reply : Option SeedReply)
  | deleting (outcome : SeedActionOutcome) (keys : List String)
  | ended (outcome : SeedActionOutcome)

structure SideRun where
  principal : Option AuthPrincipal
  hostId : String
  role : SeedJobRole
  job : SeedJob
  supervised : SupervisedRun
  renewal : Option SeedReply
  deadline : Option Int
  output : StageOutput
  ops : List SeedRunnerOp
  control : RunnerControl
  cleaned : Bool

/-- What a step of a run throws. -/
inductive RunnerThrow where
  | stopped (message : String)
  | failed (message : String)

def bounded (message : String) (max : Nat) : String :=
  sliceText (String.ofList (trimSpaces (collapseSpaces false message.toList))) max

section Run

variable (jobId : String) (now : Int) (run : SideRun)

def SideRun.finish (outcome : SeedActionOutcome) : SideRun :=
  { run with
    supervised := supervisorStep run.supervised .stop
    control := .ended outcome }

def SideRun.cleanupRelayObjects (outcome : SeedActionOutcome) : SideRun :=
  if run.cleaned then run.finish outcome
  else { run with
    cleaned := true
    control := .deleting outcome (relayKeysToDelete run.job.archive.cleanup
      [seedRelayArchiveKey jobId run.job.archive.format, seedRelayManifestKey jobId]) }

def SideRun.leave : RunnerThrow → SideRun
  | .stopped message => run.cleanupRelayObjects jobId
      { status := .done, result := bounded s!"the seed job ended while this side was working: {message}" 300 }
  | .failed message => { run with control := .failing (bounded message 300) none }

def SideRun.advance : SideRun := { run with ops := run.ops.tail, control := .ready }

def SideRun.call (request : SeedRequest) : SideRun := { run with control := .calling request none }

def SideRun.whenLive (next : SideRun) : SideRun :=
  match run.supervised.supervisor.assertLive with
  | .error message => run.leave jobId (.stopped message)
  | .ok _ => next

def SideRun.enterTotals (p : SeedJobPhase) : List (String × Json) :=
  match p with
  | .archivingSource | .extractingTarget => [("entriesTotal", .num run.output.entries)]
  | .uploadingArchive => [("bytesTotal", .num run.output.archiveBytes)]
  | .downloadingArchive => [("bytesTotal", ofNullableInt run.job.archive.bytes)]
  | .preflight | .measuringSource | .verifyingArchive | .verifyingTarget | .publishing | .baselineValidation => []

def SideRun.progressBody (p : SeedJobPhase) (message : String) : Json :=
  .obj ([("phase", .str p.text), ("message", .str message),
    ("leaseMs", .num run.supervised.supervisor.window.leaseMs)] ++ run.enterTotals p)

def SideRun.completionSummary : String :=
  bounded (s!"Seed transfer completed: {run.output.fileCount} file(s) verified against the transported manifest, " ++
    "and the following resync moved nothing.") 300

def factsFields (facts : SeedJobArchiveFacts) : List (String × Json) :=
  match facts.toJson with
  | .obj fields => fields
  | _ => []

def SideRun.take (error : Option String) : SeedRunnerOp → SideRun
  | .start => { run with supervised := supervisorStep run.supervised .start }.advance
  | .check =>
    match error with
    | none => run.advance
    | some message => run.leave jobId (.failed message)
  | .waitForSourceFacts => { run with deadline := some (run.deadline.getD (now + 30 * 60000)) }.call .read
  | .enter p message => run.whenLive jobId (run.call (.progress (run.progressBody p message)))
  | .stage _ => run.whenLive jobId { run with control := .staging }
  | .verifyAuthority => run.whenLive jobId (run.call .read)
  | .recordSeedArchiveFacts => run.call (.archive (factsFields run.output.facts))
  | .completeSeedJob => run.call (.complete .completed (some run.completionSummary) none)

def SideRun.proceed (error : Option String) : SideRun :=
  match run.control, run.ops with
  | .ready, op :: _ => run.take jobId now error op
  | _, _ => run

def SideRun.stageEnds (outcome : Except String StageOutput) : SideRun :=
  match run.control with
  | .staging =>
    run.whenLive jobId (match outcome with
      | .error message => run.leave jobId (.failed message)
      | .ok output => { run with output := output }.advance)
  | _ => run

def SideRun.factsRead : JobAnswer → SideRun
  | .error _ =>
    run.leave jobId (.failed "the seed job could not be read while waiting for the source's archive facts")
  | .ok job =>
    let current := { run with job := job }
    if isTerminalSeedPhase job.phase then current.leave jobId (.stopped s!"the job is {job.phase.text}")
    else if seedArchiveFactsComplete job.archive then current.advance
    else if run.deadline.getD now < now then
      current.leave jobId (.failed "timed out waiting for the source to record its archive facts")
    else { current with control := .ready }

def SideRun.entered (p : SeedJobPhase) : JobAnswer → SideRun
  | .error err => run.leave jobId (.stopped s!"the server refused the {p.text} phase: {err.describe}")
  | .ok job =>
    let current := { run with job := job, supervised := supervisorStep run.supervised (.markRenewed now) }
    if isTerminalSeedPhase job.phase then current.leave jobId (.stopped s!"the job is {job.phase.text}")
    else current.advance

def SideRun.verified (answer : JobAnswer) : SideRun :=
  let checked := { run with supervised := supervisorStep run.supervised (.verified answer) }
  match (run.supervised.supervisor.verifyAuthority answer).2 with
  | .error message => checked.leave jobId (.stopped message)
  | .ok _ => checked.advance

def countText : Option PositiveInt → String
  | some n => toString n.val
  | none => "null"

def SideRun.recorded : JobAnswer → SideRun
  | .error err => run.leave jobId (.failed err.describe)
  | .ok _ =>
    let facts := run.output.facts
    let fingerprint := match facts.manifestFingerprint with
      | some digest => digest.val
      | none => "null"
    run.finish { status := .done, result := bounded (s!"seed source finished: {countText facts.bytes} byte archive, " ++
      s!"{countText facts.memberCount} member(s), manifest {fingerprint}") 300 }

def SideRun.completed : JobAnswer → SideRun
  | .error err => run.leave jobId (.failed err.describe)
  | .ok _ => run.cleanupRelayObjects jobId
      { status := .done, result := bounded (s!"seed target finished: {run.output.fileCount} file(s) verified, " ++
        "zero-change baseline confirmed") 300 }

def SideRun.answered (answer : JobAnswer) : SideRun :=
  match run.ops with
  | .waitForSourceFacts :: _ => run.factsRead jobId now answer
  | .enter p _ :: _ => run.entered jobId now p answer
  | .verifyAuthority :: _ => run.verified jobId answer
  | .recordSeedArchiveFacts :: _ => run.recorded jobId answer
  | .completeSeedJob :: _ => run.completed jobId answer
  | _ => run

def SideRun.resume (lost : Option String) : SideRun :=
  match run.control with
  | .calling _ reply =>
    match arrived reply lost with
    | none => run
    | some answer => run.answered jobId now answer
  | .failing message reply =>
    match arrived reply lost with
    | none => run
    -- `failJob` only logs an error
    | some _ => run.cleanupRelayObjects jobId { status := .failed, result := message }
  | _ => run

def SideRun.deliver (db : SeedDb) (pilot : SeedPilotEligibility) : SeedDb × SideRun :=
  match run.control with
  | .calling request none =>
    let result := request.serve db run.principal pilot jobId now
    (result.1, { run with control := .calling request (some result.2) })
  | .failing message none =>
    let result := (SeedRequest.complete .failed none (some message)).serve db run.principal pilot jobId now
    (result.1, { run with control := .failing message (some result.2) })
  | _ => (db, run)

def SideRun.tick : SideRun :=
  if run.supervised.supervisor.timer then { run with supervised := supervisorStep run.supervised (.tick now) } else run

def SideRun.deliverRenewal (db : SeedDb) (pilot : SeedPilotEligibility) : SeedDb × SideRun :=
  match run.supervised.pending, run.renewal with
  | some .renew, none =>
    let result := (SeedRequest.lease run.supervised.supervisor.window.leaseMs).serve db run.principal pilot jobId now
    (result.1, { run with renewal := some result.2 })
  | some (.read _), none =>
    let result := SeedRequest.read.serve db run.principal pilot jobId now
    (result.1, { run with renewal := some result.2 })
  | _, _ => (db, run)

def SideRun.settleRenewal (lost : Option String) : SideRun :=
  match arrived run.renewal lost with
  | none => run
  | some answer => { run with supervised := supervisorStep run.supervised (.settled answer now), renewal := none }

end Run

structure SeedTransfer where
  db : SeedDb
  relay : List String
  runs : Table Nat SideRun

inductive SeedTransferEvent where
  | server (e : SeedEvent)
  | runSeedAction (r : Nat) (principal : Option AuthPrincipal) (hostId : String) (payloadRole : SeedJobRole)
      (leaseMs intervalMs : Option Int) (output : StageOutput) (now : Int)
  | proceed (r : Nat) (error : Option String) (now : Int)
  | deliver (r : Nat) (pilot : SeedPilotEligibility) (now : Int)
  | resume (r : Nat) (lost : Option String) (now : Int)
  /-- An upload puts its object into the relay. -/
  | store (r : Nat)
  | stageEnds (r : Nat) (outcome : Except String StageOutput)
  | tick (r : Nat) (now : Int)
  | deliverRenewal (r : Nat) (pilot : SeedPilotEligibility) (now : Int)
  | settleRenewal (r : Nat) (lost : Option String) (now : Int)
  /-- The next delete of a cleanup, which may fail. -/
  | delete (r : Nat) (succeeds : Bool)

def SideRun.uploadKey (jobId : String) (run : SideRun) : Option String :=
  match run.control, run.ops with
  | .staging, .stage .uploadSeedArchive :: _ => some (seedRelayArchiveKey jobId run.job.archive.format)
  | .staging, .stage .uploadSeedManifest :: _ => some (seedRelayManifestKey jobId)
  | _, _ => none

namespace SeedTransfer

variable (jobId : String) (s : SeedTransfer)

def onRun (r : Nat) (f : SideRun → SideRun) : SeedTransfer :=
  match s.runs r with
  | none => s
  | some run => { s with runs := s.runs.put r (f run) }

def onServer (r : Nat) (f : SideRun → SeedDb × SideRun) : SeedTransfer :=
  match s.runs r with
  | none => s
  | some run => { s with db := (f run).1, runs := s.runs.put r (f run).2 }

def runSeedAction (r : Nat) (principal : Option AuthPrincipal) (hostId : String) (payloadRole : SeedJobRole)
    (leaseMs intervalMs : Option Int) (output : StageOutput) (now : Int) : SeedTransfer :=
  match s.runs r, readRoute s.db principal jobId with
  | none, .job job =>
    if seedJobRoleFor job.hostId job.sourceHostId (some hostId) = some payloadRole ∧
        ¬ isTerminalSeedPhase job.phase then
      { s with runs := s.runs.put r {
          principal := principal
          hostId := hostId
          role := payloadRole
          job := job
          supervised := newSupervisedRun (roleLabel payloadRole ++ " " ++ job.phase.text) leaseMs intervalMs now
          renewal := none
          deadline := none
          output := output
          ops := runnerOps payloadRole
          control := .ready
          cleaned := false } }
    else s
  | _, _ => s

def store (r : Nat) : SeedTransfer :=
  match (s.runs r).bind (SideRun.uploadKey jobId) with
  | none => s
  | some key => { s with relay := key :: s.relay }

def delete (r : Nat) (succeeds : Bool) : SeedTransfer :=
  match s.runs r with
  | none => s
  | some run =>
    match run.control with
    | .deleting outcome (key :: keys) =>
      { s with
        relay := if succeeds then s.relay.filter (· != key) else s.relay
        runs := s.runs.put r { run with control := .deleting outcome keys } }
    | .deleting outcome [] => { s with runs := s.runs.put r (run.finish outcome) }
    | _ => s

def step : SeedTransfer → SeedTransferEvent → SeedTransfer
  | s, .server e => { s with db := seedStep s.db e }
  | s, .runSeedAction r principal hostId payloadRole leaseMs intervalMs output now =>
    s.runSeedAction jobId r principal hostId payloadRole leaseMs intervalMs output now
  | s, .proceed r error now => s.onRun r fun run => run.proceed jobId now error
  | s, .deliver r pilot now => s.onServer r fun run => run.deliver jobId now s.db pilot
  | s, .resume r lost now => s.onRun r fun run => run.resume jobId now lost
  | s, .store r => s.store jobId r
  | s, .stageEnds r outcome => s.onRun r fun run => run.stageEnds jobId outcome
  | s, .tick r now => s.onRun r fun run => run.tick now
  | s, .deliverRenewal r pilot now => s.onServer r fun run => run.deliverRenewal jobId now s.db pilot
  | s, .settleRenewal r lost now => s.onRun r fun run => run.settleRenewal now lost
  | s, .delete r succeeds => s.delete r succeeds

end SeedTransfer

def newSeedTransfer : SeedTransfer where
  db := emptySeedDb
  relay := []
  runs := fun _ => none

end LamaSync
