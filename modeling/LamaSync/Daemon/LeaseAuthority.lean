import LamaSync.Daemon.SeedRelayLifetime

/-!
# Authority before an irreversible step

`verifyAuthority` reads the job before a side publishes its tree, completes the job or hands its facts over.  It throws
when the supervisor has latched a stop, when the server refuses the read and when the job has ended.  It looks neither
at the owner nor at the expiry of the lease in the answer, and a read that fails for a transport reason lets the
caller proceed.

So a normal return means that this side holds the job's unexpired lease exactly when the answer settles it
(`authorityDecided`).  Runs in which every read of a check is answered that way publish only a tree whose target the
server named as the holder of the lease (`verifyAuthority_returns_under_lease`).
-/

namespace LamaSync

open Trace

def verifyAuthorityCall (called settled : SeedJobLeaseSupervisor) (answer : JobAnswer) : Except String Unit :=
  match called.assertLive with
  | .error reason => .error reason
  | .ok _ => (settled.verifyAuthority answer).2

def reportsLease (hostId : String) (now : Int) : JobAnswer → Bool
  | .error _ => false
  | .ok job => !isTerminalSeedPhase job.phase && seedLeaseIsLive job.leaseFacts hostId now

def answerDecides (settled : SeedJobLeaseSupervisor) (hostId : String) (now : Int) : JobAnswer → Bool
  | .error err => err.isRefusal
  | .ok job => settled.stopped.isSome || isTerminalSeedPhase job.phase || seedLeaseIsLive job.leaseFacts hostId now

def authorityDecided (called settled : SeedJobLeaseSupervisor) (hostId : String) (now : Int) (answer : JobAnswer) : Bool :=
  called.stopped.isSome || answerDecides settled hostId now answer

section Call

variable {s called settled : SeedJobLeaseSupervisor} {hostId : String} {now : Int} {answer : JobAnswer}

private theorem la_assertLive : s.assertLive = .ok () ↔ s.stopped = none := by
  unfold SeedJobLeaseSupervisor.assertLive
  cases hs : s.stopped with
  | none | some reason => simp

private theorem la_latch (s : SeedJobLeaseSupervisor) (reason : String) : (s.latch reason).stopped ≠ none := by
  unfold SeedJobLeaseSupervisor.latch
  cases hs : s.stopped with
  | none => simp
  | some r => simp [hs]

private theorem la_latchTerminal {job : SeedJob} :
    (s.latchTerminal job).stopped = none ↔ s.stopped = none ∧ isTerminalSeedPhase job.phase = false := by
  unfold SeedJobLeaseSupervisor.latchTerminal
  cases hterm : isTerminalSeedPhase job.phase with
  | true => simpa using la_latch s _
  | false => simp

theorem verifyAuthority_ok_iff : (s.verifyAuthority answer).2 = .ok () ↔
    (∃ err, answer = .error err ∧ err.isRefusal = false) ∨
    (∃ job, answer = .ok job ∧ s.stopped = none ∧ isTerminalSeedPhase job.phase = false) := by
  cases answer with
  | error err =>
    cases href : err.isRefusal with
    | true =>
      have hla := la_latch s s!"the job could not be read before an irreversible step: {err.describe}"
      simpa [SeedJobLeaseSupervisor.verifyAuthority, href, la_assertLive] using hla
    | false => simp [SeedJobLeaseSupervisor.verifyAuthority, href]
  | ok job => simp [SeedJobLeaseSupervisor.verifyAuthority, la_assertLive, la_latchTerminal]

theorem answerDecides_iff : answerDecides s hostId now answer = true ↔
    ((s.verifyAuthority answer).2 = .ok () → reportsLease hostId now answer = true) := by
  rw [verifyAuthority_ok_iff]
  cases answer with
  | error err => cases href : err.isRefusal <;> simp [answerDecides, reportsLease, href]
  | ok job =>
    cases hstop : s.stopped <;> cases hterm : isTerminalSeedPhase job.phase <;>
      simp [answerDecides, reportsLease, hstop, hterm]

theorem authorityDecided_iff : authorityDecided called settled hostId now answer = true ↔
    (verifyAuthorityCall called settled answer = .ok () → reportsLease hostId now answer = true) := by
  unfold authorityDecided verifyAuthorityCall
  cases hlive : called.assertLive with
  | error reason =>
    have hstop : called.stopped ≠ none := fun h => by rw [la_assertLive.2 h] at hlive; cases hlive
    simp [Option.isSome_iff_ne_none.2 hstop]
  | ok _ =>
    have hopen : called.stopped = none := la_assertLive.1 hlive
    simpa [hopen] using answerDecides_iff

end Call

def SideRun.verifying (run : SideRun) (lost : Option String) : Option JobAnswer :=
  match run.control, run.ops with
  | .calling _ reply, .verifyAuthority :: _ => arrived reply lost
  | _, _ => none

def checksDecided (s : SeedTransfer) : SeedTransferEvent → Bool
  | .resume r lost now =>
    match s.runs r with
    | none => true
    | some run =>
      match run.verifying lost with
      | none => true
      | some answer => answerDecides run.supervised.supervisor run.hostId now answer
  | _ => true

/-- What the target has before it when its tree is about to be published. -/
def publishOps : List SeedRunnerOp := [
  .check,
  .enter .baselineValidation "Running a resync against the assignment's peer and requiring no change.",
  .stage .runBaselineValidation,
  .verifyAuthority,
  .completeSeedJob]

deriving instance DecidableEq for SeedRunnerOp

def SideRun.aboutToPublish (run : SideRun) : Bool :=
  match run.control with
  | .ready => run.ops == publishOps
  | _ => false

def leaseHeld (jobId hostId : String) (db : SeedDb) (now : Int) : Bool :=
  match db jobId with
  | some row => row.inFlight && row.heldBy hostId now
  | none => false

/-- What one step does to a run: it goes on or waits, it takes its next operation off, its request is handled, or it
leaves.  A `verifyAuthority` comes off only with an answer that lets it pass. -/
inductive RunMove (jobId : String) (s : SeedTransfer) (r : Nat) (run run' : SideRun) : SeedTransferEvent → Prop where
  | same {e} (control : run'.control = run.control) (ops : run'.ops = run.ops) : RunMove jobId s r run run' e
  | advance {e} (control : run'.control = .ready) (ops : run'.ops = run.ops.tail)
      (verified : ∀ rest, run.ops = .verifyAuthority :: rest → ∃ lost now answer, e = .resume r lost now ∧
        run.verifying lost = some answer ∧ (run.supervised.supervisor.verifyAuthority answer).2 = .ok ()) :
      RunMove jobId s r run run' e
  | wait {e} (busy : run'.control ≠ .ready) (unanswered : ∀ req reply, run'.control ≠ .calling req (some reply))
      (staging : run'.control = .staging → ∃ stage rest, run.ops = .stage stage :: rest)
      (reading : ∀ req reply rest, run'.control = .calling req reply → run.ops = .verifyAuthority :: rest → req = .read)
      (ops : run'.ops = run.ops) : RunMove jobId s r run run' e
  | retry {e rest} (facts : run.ops = .waitForSourceFacts :: rest) (control : run'.control = .ready)
      (ops : run'.ops = run.ops) : RunMove jobId s r run run' e
  | deliver {pilot now req} (calling : run.control = .calling req none)
      (control : run'.control = .calling req (some (req.serve s.db run.principal pilot jobId now).2))
      (ops : run'.ops = run.ops) : RunMove jobId s r run run' (.deliver r pilot now)

structure RunStep (jobId : String) (s : SeedTransfer) (r : Nat) (run run' : SideRun) (e : SeedTransferEvent) : Prop where
  hostId : run'.hostId = run.hostId
  role : run'.role = run.role
  move : RunMove jobId s r run run' e

def RunnerControl.left : RunnerControl → Bool
  | .failing _ _ | .deleting _ _ | .ended _ => true
  | .ready | .staging | .calling _ _ => false

/-- The operations a run has before it end its program, and what is under way is the first of them. -/
structure RunOnTrack (run : SideRun) : Prop where
  suffix : ∃ done, runnerOps run.role = done ++ run.ops
  staging : run.control = .staging → ∃ stage rest, run.ops = .stage stage :: rest
  reading : ∀ req reply rest, run.control = .calling req reply → run.ops = .verifyAuthority :: rest → req = .read

section Moves

variable {jobId : String} {s : SeedTransfer} {r : Nat} {run run' : SideRun} {e : SeedTransferEvent} {now : Int}

private theorem la_same (hhost : run'.hostId = run.hostId) (hrole : run'.role = run.role)
    (hctl : run'.control = run.control) (hops : run'.ops = run.ops) : RunStep jobId s r run run' e :=
  ⟨hhost, hrole, .same hctl hops⟩

private theorem la_left (hhost : run'.hostId = run.hostId) (hrole : run'.role = run.role)
    (hleft : run'.control.left = true) (hops : run'.ops = run.ops) : RunStep jobId s r run run' e := by
  refine ⟨hhost, hrole, .wait ?_ ?_ ?_ ?_ hops⟩
  · intro h
    rw [h] at hleft
    cases hleft
  · intro req reply h
    rw [h] at hleft
    cases hleft
  · intro h
    rw [h] at hleft
    cases hleft
  intro req reply rest h
  rw [h] at hleft
  cases hleft

private theorem la_cleanup (next : SideRun) {outcome : SeedActionOutcome} (hhost : next.hostId = run.hostId)
    (hrole : next.role = run.role) (hops : next.ops = run.ops) :
    RunStep jobId s r run (next.cleanupRelayObjects jobId outcome) e := by
  unfold SideRun.cleanupRelayObjects
  split
  · exact la_left hhost hrole rfl hops
  · exact la_left hhost hrole rfl hops

private theorem la_leave (next : SideRun) {why : RunnerThrow} (hhost : next.hostId = run.hostId)
    (hrole : next.role = run.role) (hops : next.ops = run.ops) : RunStep jobId s r run (next.leave jobId why) e := by
  cases why with
  | stopped message => exact la_cleanup next hhost hrole hops
  | failed message => exact la_left hhost hrole rfl hops

private theorem la_whenLive {next : SideRun} (h : RunStep jobId s r run next e) :
    RunStep jobId s r run (run.whenLive jobId next) e := by
  unfold SideRun.whenLive
  split
  · exact la_leave run rfl rfl rfl
  · exact h

variable {rest : List SeedRunnerOp}

private theorem la_call (next : SideRun) {op : SeedRunnerOp} {req : SeedRequest}
    (hop : run.ops = op :: rest) (hreq : op = .verifyAuthority → req = .read) (hhost : next.hostId = run.hostId)
    (hrole : next.role = run.role) (hops : next.ops = run.ops) : RunStep jobId s r run (next.call req) e := by
  refine ⟨hhost, hrole, .wait ?_ ?_ ?_ ?_ hops⟩
  · exact RunnerControl.noConfusion
  · intro req' reply h; cases h
  · intro h; cases h
  intro req' reply rest' h hve
  cases h
  rw [hop] at hve
  cases hve
  exact hreq rfl

private theorem la_advance (next : SideRun) {op : SeedRunnerOp}
    (hop : run.ops = op :: rest) (hne : op ≠ .verifyAuthority) (hhost : next.hostId = run.hostId)
    (hrole : next.role = run.role) (hops : next.ops = run.ops) : RunStep jobId s r run next.advance e := by
  refine ⟨hhost, hrole, .advance rfl ?_ ?_⟩
  · show next.ops.tail = run.ops.tail
    rw [hops]
  intro rest' h
  rw [hop] at h
  cases h
  exact absurd rfl hne

private theorem la_proceed {error : Option String} : RunStep jobId s r run (run.proceed jobId now error) e := by
  unfold SideRun.proceed
  split
  · rename_i op rest hctl hops
    cases op with
    | start =>
      exact la_advance { run with supervised := supervisorStep run.supervised .start } hops (by simp) rfl rfl rfl
    | check =>
      cases error with
      | none => exact la_advance run hops (by simp) rfl rfl rfl
      | some message =>
        show RunStep jobId s r run (run.leave jobId (.failed message)) e
        exact la_leave run rfl rfl rfl
    | waitForSourceFacts =>
      exact la_call { run with deadline := some (run.deadline.getD (now + 30 * 60000)) } hops (by simp) rfl rfl rfl
    | enter p message => exact la_whenLive (la_call run hops (by simp) rfl rfl rfl)
    | stage stage =>
      refine la_whenLive ⟨rfl, rfl, .wait ?_ ?_ ?_ ?_ rfl⟩
      · exact RunnerControl.noConfusion
      · intro req reply h; cases h
      · intro _; exact ⟨stage, rest, hops⟩
      · intro req reply rest h; cases h
    | verifyAuthority => exact la_whenLive (la_call run hops (fun _ => rfl) rfl rfl rfl)
    | recordSeedArchiveFacts | completeSeedJob => exact la_call run hops (by simp) rfl rfl rfl
  · exact la_same rfl rfl rfl rfl

private theorem la_stageEnds {outcome : Except String StageOutput} (h : RunOnTrack run) :
    RunStep jobId s r run (run.stageEnds jobId outcome) e := by
  unfold SideRun.stageEnds
  split
  · rename_i hstag
    obtain ⟨stage, rest, hops⟩ := h.staging hstag
    refine la_whenLive ?_
    cases outcome with
    | error message => exact la_leave run rfl rfl rfl
    | ok output => exact la_advance { run with output := output } hops (by simp) rfl rfl rfl
  · exact la_same rfl rfl rfl rfl

variable {answer : JobAnswer}

private theorem la_factsRead
    (hops : run.ops = .waitForSourceFacts :: rest) : RunStep jobId s r run (run.factsRead jobId now answer) e := by
  cases answer with
  | error err =>
    simp only [SideRun.factsRead]
    exact la_leave run rfl rfl rfl
  | ok job =>
    simp only [SideRun.factsRead]
    split
    · exact la_leave { run with job := job } rfl rfl rfl
    split
    · exact la_advance { run with job := job } hops (by simp) rfl rfl rfl
    split
    · exact la_leave { run with job := job } rfl rfl rfl
    · exact ⟨rfl, rfl, .retry hops rfl rfl⟩

private theorem la_entered {p : SeedJobPhase} {message : String}
    (hops : run.ops = .enter p message :: rest) : RunStep jobId s r run (run.entered jobId now p answer) e := by
  cases answer with
  | error err =>
    simp only [SideRun.entered]
    exact la_leave run rfl rfl rfl
  | ok job =>
    simp only [SideRun.entered]
    split
    · exact la_leave { run with job := job, supervised := supervisorStep run.supervised (.markRenewed now) } rfl rfl rfl
    · exact la_advance { run with job := job, supervised := supervisorStep run.supervised (.markRenewed now) }
        hops (by simp) rfl rfl rfl

private theorem la_verified {lost : Option String} (hans : run.verifying lost = some answer) :
    RunStep jobId s r run (run.verified jobId answer) (.resume r lost now) := by
  simp only [SideRun.verified]
  split
  · exact la_leave { run with supervised := supervisorStep run.supervised (.verified answer) } rfl rfl rfl
  rename_i hpass
  refine ⟨rfl, rfl, .advance rfl rfl ?_⟩
  intro rest _
  exact ⟨lost, now, answer, rfl, hans, hpass⟩

private theorem la_resume {lost : Option String} :
    RunStep jobId s r run (run.resume jobId now lost) (.resume r lost now) := by
  unfold SideRun.resume
  split
  · rename_i req reply hctl
    split
    · exact la_same rfl rfl rfl rfl
    rename_i answer har
    unfold SideRun.answered
    split
    · rename_i rest hops; exact la_factsRead hops
    · rename_i p message rest hops; exact la_entered hops
    · rename_i rest hops
      have hans : run.verifying lost = some answer := by simp [SideRun.verifying, hctl, hops, har]
      exact la_verified hans
    · -- the handover write
      cases answer with
      | error err =>
        simp only [SideRun.recorded]
        exact la_leave run rfl rfl rfl
      | ok job => exact la_left rfl rfl rfl rfl
    · -- the completion
      cases answer with
      | error err =>
        simp only [SideRun.completed]
        exact la_leave run rfl rfl rfl
      | ok job => exact la_cleanup run rfl rfl rfl
    · exact la_same rfl rfl rfl rfl
  · split
    · exact la_same rfl rfl rfl rfl
    · exact la_cleanup run rfl rfl rfl
  · exact la_same rfl rfl rfl rfl

private theorem la_deliver {pilot : SeedPilotEligibility} :
    RunStep jobId s r run (run.deliver jobId now s.db pilot).2 (.deliver r pilot now) := by
  unfold SideRun.deliver
  split
  · rename_i req hcall
    exact ⟨rfl, rfl, .deliver hcall rfl rfl⟩
  · exact la_left rfl rfl rfl rfl
  · exact la_same rfl rfl rfl rfl

theorem RunOnTrack.step (h : RunOnTrack run) (hstep : RunStep jobId s r run run' e) : RunOnTrack run' := by
  obtain ⟨done, hdone⟩ := h.suffix
  have hsuf : run'.ops = run.ops → ∃ done, runnerOps run'.role = done ++ run'.ops := by
    intro hops
    exact ⟨done, by rw [hstep.role, hops, hdone]⟩
  cases hstep.move with
  | same hctl hops =>
    refine ⟨hsuf hops, ?_, ?_⟩
    · rw [hctl, hops]; exact h.staging
    · rw [hctl, hops]; exact h.reading
  | advance hctl hops _ =>
    refine ⟨?_, ?_, ?_⟩
    · rw [hstep.role, hops]
      cases hnext : run.ops with
      | nil => exact ⟨done, by rw [hdone, hnext]; rfl⟩
      | cons op rest => exact ⟨done ++ [op], by rw [hdone, hnext]; simp⟩
    · intro hstag; rw [hctl] at hstag; cases hstag
    · intro req reply rest hcall; rw [hctl] at hcall; cases hcall
  | wait _ _ hstag hre hops =>
    refine ⟨hsuf hops, ?_, ?_⟩
    · rw [hops]; exact hstag
    · rw [hops]; exact hre
  | retry _ hctl hops =>
    refine ⟨hsuf hops, ?_, ?_⟩
    · intro hstag; rw [hctl] at hstag; cases hstag
    · intro req reply rest hcall; rw [hctl] at hcall; cases hcall
  | deliver hcall hctl hops =>
    refine ⟨hsuf hops, ?_, ?_⟩
    · intro hstag; rw [hctl] at hstag; cases hstag
    intro req reply rest hrep hve
    rw [hctl] at hrep
    rw [hops] at hve
    cases hrep
    exact h.reading _ _ _ hcall hve

end Moves

section System

variable {jobId hostId : String} {s : SeedTransfer} {r : Nat} {run' : SideRun} {e : SeedTransferEvent}

def RunsOnTrack (s : SeedTransfer) : Prop := ∀ r run, s.runs r = some run → RunOnTrack run

/-- Where a run comes from at one step: it has just been taken up, or it was there and moved. -/
def RunFrom (jobId : String) (s : SeedTransfer) (r : Nat) (run' : SideRun) (e : SeedTransferEvent) : Prop :=
  (run'.control = .ready ∧ run'.ops = runnerOps run'.role) ∨
  ∃ run, s.runs r = some run ∧ RunStep jobId s r run run' e

private theorem la_kept (h : s.runs r = some run') : RunFrom jobId s r run' e :=
  .inr ⟨run', h, la_same rfl rfl rfl rfl⟩

private theorem la_put {runs : Table Nat SideRun} {r' : Nat} {next : SideRun} (hruns : runs = s.runs.put r' next)
    (hnext : RunFrom jobId s r' next e) (h : runs r = some run') : RunFrom jobId s r run' e := by
  subst hruns
  by_cases hr : r = r'
  · subst hr
    rw [Table.put_self] at h
    cases h
    exact hnext
  · rw [Table.put_of_ne hr] at h
    exact la_kept h

private theorem la_onRun {r' : Nat} {f : SideRun → SideRun}
    (hf : ∀ run, s.runs r' = some run → RunStep jobId s r' run (f run) e) (h : (s.onRun r' f).runs r = some run') :
    RunFrom jobId s r run' e := by
  unfold SeedTransfer.onRun at h
  split at h
  · exact la_kept h
  · rename_i run hrun
    exact la_put rfl (.inr ⟨run, hrun, hf run hrun⟩) h

private theorem la_onServer {r' : Nat} {f : SideRun → SeedDb × SideRun}
    (hf : ∀ run, s.runs r' = some run → RunStep jobId s r' run (f run).2 e)
    (h : (s.onServer r' f).runs r = some run') : RunFrom jobId s r run' e := by
  unfold SeedTransfer.onServer at h
  split at h
  · exact la_kept h
  · rename_i run hrun
    exact la_put rfl (.inr ⟨run, hrun, hf run hrun⟩) h

theorem SeedTransfer.step_run (htr : RunsOnTrack s) (h : (s.step jobId e).runs r = some run') :
    RunFrom jobId s r run' e := by
  cases e with
  | server e => exact la_kept h
  | runSeedAction r' principal hostId payloadRole leaseMs intervalMs output now =>
    simp only [SeedTransfer.step, SeedTransfer.runSeedAction] at h
    split at h
    · split at h
      · exact la_put rfl (.inl ⟨rfl, rfl⟩) h
      · exact la_kept h
    · exact la_kept h
  | proceed r' error now => exact la_onRun (fun _ _ => la_proceed) h
  | deliver r' pilot now => exact la_onServer (fun _ _ => la_deliver) h
  | resume r' lost now => exact la_onRun (fun _ _ => la_resume) h
  | store r' =>
    simp only [SeedTransfer.step, SeedTransfer.store] at h
    split at h <;> exact la_kept h
  | stageEnds r' outcome => exact la_onRun (fun run hrun => la_stageEnds (htr r' run hrun)) h
  | tick r' now =>
    refine la_onRun ?_ h
    intro run _
    unfold SideRun.tick
    split <;> exact la_same rfl rfl rfl rfl
  | deliverRenewal r' pilot now =>
    refine la_onServer ?_ h
    intro run _
    unfold SideRun.deliverRenewal
    split <;> exact la_same rfl rfl rfl rfl
  | settleRenewal r' lost now =>
    refine la_onRun ?_ h
    intro run _
    unfold SideRun.settleRenewal
    split <;> exact la_same rfl rfl rfl rfl
  | delete r' succeeds =>
    simp only [SeedTransfer.step, SeedTransfer.delete] at h
    split at h
    · exact la_kept h
    rename_i run hrun
    split at h
    · refine la_put rfl (.inr ⟨run, hrun, ?_⟩) h
      exact la_left rfl rfl rfl rfl
    · refine la_put rfl (.inr ⟨run, hrun, ?_⟩) h
      exact la_left rfl rfl rfl rfl
    · exact la_kept h

theorem RunsOnTrack.step (h : RunsOnTrack s) : RunsOnTrack (s.step jobId e) := by
  intro r run' hrun'
  rcases SeedTransfer.step_run h hrun' with ⟨hrd, hops⟩ | ⟨run, hrun, hstep⟩
  · refine ⟨⟨[], by rw [hops]; rfl⟩, ?_, ?_⟩
    · intro hstag; rw [hrd] at hstag; cases hstag
    · intro req reply rest hcall; rw [hrd] at hcall; cases hcall
  · exact (h r run hrun).step hstep

theorem runsOnTrack_run (es : List SeedTransferEvent) :
    RunsOnTrack (run (SeedTransfer.step jobId) newSeedTransfer es) := by
  refine run_invariant ?_ fun s e h => h.step
  intro r run hrun
  cases hrun

variable {side : SideRun}

private theorem la_aboutToPublish : side.aboutToPublish = true ↔ side.control = .ready ∧ side.ops = publishOps := by
  unfold SideRun.aboutToPublish
  cases hctl : side.control <;> simp

private theorem la_target : runTarget = [
    .check,
    .waitForSourceFacts,
    .start,
    .enter .downloadingArchive "Downloading the archive from the temporary seed space.",
    .stage .downloadSeedArchive,
    .enter .verifyingArchive "Downloading the manifest and re-deriving the source universe.",
    .stage .downloadSeedManifest,
    .check,
    .enter .extractingTarget "Extracting into the staging sibling.",
    .stage .extractSeedArchive,
    .enter .verifyingTarget "Verifying the extracted tree against the transported manifest.",
    .stage .verifyExtractedTree,
    .enter .publishing "Publishing the staging tree with one atomic rename."] ++ .verifyAuthority :: publishOps := rfl

theorem RunOnTrack.publishOps {run : SideRun} (h : RunOnTrack run) (hnext : run.ops.tail = publishOps) :
    run.ops = .verifyAuthority :: LamaSync.publishOps := by
  obtain ⟨done, hdone⟩ := h.suffix
  cases hops : run.ops with
  | nil => rw [hops] at hnext; cases hnext
  | cons op rest =>
    rw [hops] at hnext hdone
    obtain rfl : rest = LamaSync.publishOps := hnext
    cases hrole : run.role with
    | source =>
      have hlast := congrArg List.getLast? hdone
      rw [hrole] at hlast
      simp [runnerOps, runSource, LamaSync.publishOps] at hlast
    | target =>
      rw [hrole] at hdone
      have htail : _ ++ (.verifyAuthority :: LamaSync.publishOps) = done ++ op :: LamaSync.publishOps :=
        la_target.symm.trans hdone
      have hsp := List.append_inj' htail rfl
      exact (hsp.2).symm

private theorem la_passes {run : SideRun} {lost : Option String} {now : Int}
    {answer : JobAnswer} (hans : run.verifying lost = some answer)
    (hde : answerDecides run.supervised.supervisor run.hostId now answer = true)
    (hpass : (run.supervised.supervisor.verifyAuthority answer).2 = .ok ()) :
    lost = none ∧ ∃ req job, run.control = .calling req (some (.job job)) ∧ reportsLease run.hostId now (.ok job) = true := by
  have hrep := answerDecides_iff.1 hde hpass
  unfold SideRun.verifying at hans
  split at hans
  · rename_i req reply rest' hctl _
    unfold arrived at hans
    split at hans
    · cases hans; cases hrep
    · cases hans
      exact ⟨rfl, req, _, hctl, hrep⟩
    · cases hans; cases hrep
    · cases hans
  · cases hans

private theorem la_checked {es : List SeedTransferEvent}
    (hcond : Always (SeedTransfer.step jobId) (fun s e => checksDecided s e = true) newSeedTransfer es)
    (hside : (run (SeedTransfer.step jobId) newSeedTransfer es).runs r = some side)
    (hpub : side.aboutToPublish = true) : ∃ before now after req job run', es = before ++ .resume r none now :: after ∧
      (run (SeedTransfer.step jobId) newSeedTransfer before).runs r = some run' ∧ run'.hostId = side.hostId ∧
      run'.ops = .verifyAuthority :: publishOps ∧ run'.control = .calling req (some (.job job)) ∧
      reportsLease side.hostId now (.ok job) = true := by
  have hr := @run_reaches _ _ (SeedTransfer.step jobId) newSeedTransfer es
    (fun s => ∃ run, s.runs r = some run ∧ run.hostId = side.hostId ∧ run.aboutToPublish = true)
    (by rintro ⟨run, hrun, -⟩; cases hrun) ⟨side, hside, rfl, hpub⟩
  obtain ⟨before, e, after, rfl, hnot, next, hnext, hhost, hab⟩ := hr
  rw [la_aboutToPublish] at hab
  obtain ⟨hrd, hops⟩ := hab
  have htr := @runsOnTrack_run jobId before
  rcases SeedTransfer.step_run htr hnext with ⟨-, hfr⟩ | ⟨run', hrun', hstep⟩
  · -- a run that has just been taken up has its whole program before it
    rw [hops] at hfr
    cases hrole : next.role <;> rw [hrole] at hfr <;> cases hfr
  cases hstep.move with
  | same hctl hsame =>
    refine absurd ⟨run', hrun', hstep.hostId.symm.trans hhost, ?_⟩ hnot
    exact la_aboutToPublish.2 ⟨hctl ▸ hrd, hsame ▸ hops⟩
  | advance _ htail hver =>
    have hve := (htr r run' hrun').publishOps (htail.symm.trans hops)
    obtain ⟨lost, now, answer, rfl, hans, hpass⟩ := hver _ hve
    have hde := hcond.at
    simp only [checksDecided, hrun', hans] at hde
    obtain ⟨rfl, req, job, hctl, hrep⟩ := la_passes hans hde hpass
    have hside' : run'.hostId = side.hostId := hstep.hostId.symm.trans hhost
    exact ⟨before, now, after, req, job, run', rfl, hrun', hside', hve, hctl, hside' ▸ hrep⟩
  | wait hbusy => exact absurd hrd hbusy
  | retry hfc _ hsame =>
    rw [← hsame, hops] at hfc
    cases hfc
  | deliver _ hctl =>
    rw [hctl] at hrd
    cases hrd

private theorem la_served {es : List SeedTransferEvent} {req : SeedRequest} {job : SeedJob}
    {rest : List SeedRunnerOp} (hside : (run (SeedTransfer.step jobId) newSeedTransfer es).runs r = some side)
    (hops : side.ops = .verifyAuthority :: rest) (hctl : side.control = .calling req (some (.job job))) :
    ∃ before pilot served after, es = before ++ .deliver r pilot served :: after ∧
      ∃ row, (run (SeedTransfer.step jobId) newSeedTransfer before).db jobId = some row ∧ job = rowToSeedJob jobId row := by
  have hr := @run_reaches _ _ (SeedTransfer.step jobId) newSeedTransfer es
    (fun s => ∃ run, s.runs r = some run ∧ run.ops = .verifyAuthority :: rest ∧
      run.control = .calling req (some (.job job)))
    (by rintro ⟨run, hrun, -⟩; cases hrun) ⟨side, hside, hops, hctl⟩
  obtain ⟨before, e, after, rfl, hnot, next, hnext, hnextOps, hrep⟩ := hr
  have htr := @runsOnTrack_run jobId before
  rcases SeedTransfer.step_run htr hnext with ⟨hrd, -⟩ | ⟨run', hrun', hstep⟩
  · rw [hrd] at hrep; cases hrep
  cases hstep.move with
  | same hctl' hsame =>
    exact absurd ⟨run', hrun', hsame ▸ hnextOps, hctl' ▸ hrep⟩ hnot
  | advance hrd | retry _ hrd => rw [hrd] at hrep; cases hrep
  | wait _ hun => exact absurd hrep (hun _ _)
  | @deliver pilot now req' hcall hctl' hsame =>
    rw [hctl'] at hrep
    have hread : req' = .read := (htr r run' hrun').reading _ _ _ hcall (hsame ▸ hnextOps)
    subst hread
    simp only [SeedRequest.serve, readRoute] at hrep
    split at hrep
    · cases hrep
    rename_i found hf
    split at hrep
    · cases hrep
    cases hrep
    obtain ⟨row, hrow, hjob⟩ := getSeedJob_eq_some.1 hf
    exact ⟨before, pilot, now, after, rfl, row, hrow, hjob⟩

end System

/-- A normal return of `verifyAuthority` reports a job in flight under this host's unexpired lease exactly when the
answer decides it.  In a run of the system whose checks are all decided, whoever is about to publish got the answer
from a server that had the job in flight, under a lease of this side that ran past the moment the answer arrived: no
takeover was committed before. -/
theorem verifyAuthority_returns_under_lease (jobId : String) :
    (∀ called settled hostId now answer,
      (verifyAuthorityCall called settled answer = .ok () → reportsLease hostId now answer = true) ↔
        authorityDecided called settled hostId now answer = true) ∧
    (∀ es,
      Always (SeedTransfer.step jobId) (fun s e => checksDecided s e = true) newSeedTransfer es →
      ∀ r side, (run (SeedTransfer.step jobId) newSeedTransfer es).runs r = some side → side.aboutToPublish = true →
      ∃ asked pilot served waiting now since,
        es = asked ++ .deliver r pilot served :: (waiting ++ .resume r none now :: since) ∧
        leaseHeld jobId side.hostId (run (SeedTransfer.step jobId) newSeedTransfer asked).db now = true) := by
  refine ⟨fun called settled hostId now answer => authorityDecided_iff.symm, ?_⟩
  intro es hcond r side hside hpub
  obtain ⟨before, now, since, req, job, run', rfl, hrun', hhost, hops, hctl, hrep⟩ :=
    la_checked hcond hside hpub
  obtain ⟨asked, pilot, served, waiting, rfl, row, hrow, rfl⟩ := la_served hrun' hops hctl
  refine ⟨asked, pilot, served, waiting, now, since, by simp, ?_⟩
  simpa [leaseHeld, hrow, reportsLease, seedLeaseIsLive, SeedJobRow.inFlight, SeedJobRow.heldBy, SeedJob.leaseFacts]
    using hrep

def exampleBeforePublish : List SeedTransferEvent :=
  exampleSourceHalf ++ [.deliver 0 examplePilot 10, .resume 0 none 10,
    .runSeedAction 1 (some (.device "kb" "beta")) "beta" .target none none exampleOutput 11, .proceed 1 none 11] ++
    exampleCall 1 12 ++ [.proceed 1 none 13] ++ exampleCall 1 13 ++ exampleStage 1 14 ++ exampleCall 1 15 ++
    exampleStage 1 16 ++ [.proceed 1 none 16] ++ exampleCall 1 17 ++ exampleStage 1 18 ++ exampleCall 1 19 ++
    exampleStage 1 20 ++ exampleCall 1 21

/-- Its check is answered, and it is about to publish under its lease. -/
theorem verifyAuthority_returns_under_lease_target :
    ∃ asked pilot served waiting now since,
      exampleBeforePublish ++ exampleCall 1 22 =
        asked ++ .deliver 1 pilot served :: (waiting ++ .resume 1 none now :: since) ∧
      leaseHeld "job" "beta" (run (SeedTransfer.step "job") newSeedTransfer asked).db now = true := by
  have hfc : ((run (SeedTransfer.step "job") newSeedTransfer (exampleBeforePublish ++ exampleCall 1 22)).runs 1).any
        (fun side => side.hostId == "beta" && side.aboutToPublish) = true ∧
      Always (SeedTransfer.step "job") (fun s e => checksDecided s e = true) newSeedTransfer
        (exampleBeforePublish ++ exampleCall 1 22) := by
    decide +kernel
  obtain ⟨side, hrun, hside⟩ := (Option.any_eq_true _ _).1 hfc.1
  rw [Bool.and_eq_true, beq_iff_eq] at hside
  have hf := (verifyAuthority_returns_under_lease "job").2 (exampleBeforePublish ++ exampleCall 1 22) hfc.2 1 side
    hrun hside.2
  rwa [hside.1] at hf

private theorem la_lost_read :
    let s := run (SeedTransfer.step "job") newSeedTransfer
      (exampleBeforePublish ++ [.proceed 1 none 22, .server (.cancel (some .master) "job" 22), .deliver 1 examplePilot 22,
        .resume 1 (some "socket closed") 23])
    (s.runs 1).any SideRun.aboutToPublish = true ∧ jobEnded "job" s.db = true := by
  decide +kernel

/-- The operator cancels the job while the read of the target's check is on its way, and the answer is lost: the check
returns normally, without a report of any job, and the target is about to publish a job that has ended. -/
theorem lost_read_publishes_cancelled_job :
    let s := run (SeedTransfer.step "job") newSeedTransfer
      (exampleBeforePublish ++ [.proceed 1 none 22, .server (.cancel (some .master) "job" 22), .deliver 1 examplePilot 22,
        .resume 1 (some "socket closed") 23])
    (s.runs 1).any SideRun.aboutToPublish = true ∧ jobEnded "job" s.db = true ∧
      (let supervisor := SeedJobLeaseSupervisor.new "target" none none 0
        let answer : JobAnswer := .error (.transport "socket closed")
        ¬ (verifyAuthorityCall supervisor supervisor answer = .ok () → reportsLease "beta" 23 answer = true)) := by
  refine ⟨la_lost_read.1, la_lost_read.2, ?_⟩
  intro supervisor answer h
  have hrep := h rfl
  cases hrep

end LamaSync
