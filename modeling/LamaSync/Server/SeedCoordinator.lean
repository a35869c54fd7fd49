import LamaSync.Core.Text
import LamaSync.Server.FolderSeed
import LamaSync.Lib.Trace

/-!
# The seed coordinator

`runSeedJob` drives one job from the claim to the cleanup.  It runs without interruption between two awaits, so each
piece between awaits is one step here, and the steps of several runs over the same job interleave with each other,
with cancellations and with the reaper.  The two sides and the cleanup step are injected: a side may return anything
or throw, and may use its reporter at any time after the claim, also after it returned.

All parties read one clock, which never steps back.  `runs` holds the local variables of every run; `accepted` and
`verdict` only record what happened, for the statements about whole runs.
-/

namespace LamaSync

structure SeedBaselineVerdict where
  validated : Bool
  method : String
  message : String

/-- What a side reports back.  The archive facts are stored as they come, so they may be any value. -/
structure SeedSideOutcome where
  ok : Bool
  error : Option String
  archive : Option Json
  baseline : Option SeedBaselineVerdict

inductive SeedCoordinatorStatus where
  | completed | failed | cancelled | leaseLost
  deriving DecidableEq, Repr

structure SeedCoordinatorOutcome where
  status : SeedCoordinatorStatus
  error : Option String
  deriving DecidableEq

def seedCoordinatorPhases : List SeedJobPhase :=
  [.measuringSource, .archivingSource, .uploadingArchive, .downloadingArchive, .verifyingArchive,
    .extractingTarget, .verifyingTarget, .publishing, .baselineValidation]

def boundedMessage (message : String) : String :=
  sliceText (String.ofList (trimSpaces (collapseSpaces false message.toList))) 300

/-- Where a run waits. -/
inductive CoordinatorControl where
  | sourceReady
  | source
  /-- The facts are persisted and the target side is about to be called. -/
  | targetReady
  | target
  /-- The sides are done with; the gates and the finishing write come next. -/
  | finishing
  | cleanup (outcome : SeedCoordinatorOutcome) (finalJob : SeedJob)
  | deleting (outcome : SeedCoordinatorOutcome) (facts : SeedJobArchiveFacts) (keys : List String)
  | returned (outcome : SeedCoordinatorOutcome)

/-- A write of a run that changed the row. -/
inductive CoordinatorWrite where
  | phase (p : SeedJobPhase)
  | archive (facts : Json)

structure CoordinatorRun where
  owner : String
  leaseMs : Int
  job : SeedJob
  phases : List SeedJobPhase
  currentPhase : SeedJobPhase
  illegalTransition : Option String
  failure : Option String
  leaseLost : Bool
  archiveFacts : Option Json
  control : CoordinatorControl
  accepted : List CoordinatorWrite
  verdict : Option SeedSideOutcome

def CoordinatorRun.outcome (run : CoordinatorRun) : Option SeedCoordinatorOutcome :=
  match run.control with
  | .cleanup outcome _ | .deleting outcome _ _ | .returned outcome => some outcome
  | .sourceReady | .source | .targetReady | .target | .finishing => none

section Run

variable (jobId : String) (db : SeedDb) (now : Int) (run : CoordinatorRun)

def seedJobOwned (owner : String) : Bool :=
  match getSeedJob db jobId with
  | none => false
  | some job => !isTerminalSeedPhase job.phase && seedLeaseIsLive job.leaseFacts owner now

/-- Totals a side announces with a phase. -/
structure SeedProgressTotals where
  bytesTotal : Option Int
  entriesTotal : Option Int

structure SeedProgressUpdate where
  bytesDone : Option ℚ
  entriesDone : Option ℚ
  message : Option String

def truncatedCount (value : Option ℚ) : Int := max 0 (value.getD 0).floor

def progressFor (p : SeedJobPhase) (message : String) (totals : SeedProgressTotals)
    (update : SeedProgressUpdate) : SeedJobProgress :=
  { startSeedProgress p now (boundedMessage message) totals.bytesTotal totals.entriesTotal with
    bytesDone := truncatedCount update.bytesDone
    entriesDone := truncatedCount update.entriesDone }

def noTotals : SeedProgressTotals where
  bytesTotal := none
  entriesTotal := none

def noUpdate : SeedProgressUpdate where
  bytesDone := none
  entriesDone := none
  message := none

def CoordinatorRun.writeProgress (p : SeedJobPhase) (message : String) (totals : SeedProgressTotals)
    (update : SeedProgressUpdate) : SeedDb × Option SeedJob :=
  reportOwnedSeedJobProgress db jobId (progressFor now p message totals update) run.owner (now + run.leaseMs) now

def CoordinatorRun.enter (p : SeedJobPhase) (message : String) (totals : SeedProgressTotals) :
    SeedDb × CoordinatorRun :=
  if !seedJobOwned jobId db now run.owner then (db, run)
  else if !canTransitionSeedPhase run.currentPhase p then
    let refusal := s!"refused illegal transition {run.currentPhase.text} → {p.text}; " ++
      "seed phases move forward one step at a time"
    (db, { run with illegalTransition := run.illegalTransition.or (some refusal) })
  else
    match run.writeProgress jobId db now p message totals noUpdate with
    | (db', none) => (db', run)
    | (db', some _) => (db', { run with
        currentPhase := p
        phases := run.phases ++ [p]
        accepted := run.accepted ++ [.phase p] })

def CoordinatorRun.report (update : SeedProgressUpdate) : SeedDb × CoordinatorRun :=
  if !seedJobOwned jobId db now run.owner then (db, run)
  else
    let job := (getSeedJob db jobId).getD run.job
    let totals : SeedProgressTotals := {
      bytesTotal := if update.bytesDone.isSome then job.progress.bytesTotal else none
      entriesTotal := if update.entriesDone.isSome then job.progress.entriesTotal else none }
    ((run.writeProgress jobId db now run.currentPhase (update.message.getD "") totals update).1, run)

def CoordinatorRun.startSide : CoordinatorRun :=
  let ready := seedJobOwned jobId db now run.owner
  match run.control with
  | .sourceReady => if ready then { run with control := .source }
      else { run with leaseLost := true, control := .finishing }
  | .targetReady => if ready then { run with control := .target }
      else { run with leaseLost := true, control := .finishing }
  | _ => run

def CoordinatorRun.persist (facts : Json) : SeedDb × CoordinatorRun :=
  match updateOwnedSeedJobArchive db jobId facts run.owner now with
  | (db', none) => (db', { run with leaseLost := true })
  | (db', some _) => (db', { run with
      archiveFacts := some facts
      accepted := run.accepted ++ [.archive facts] })

def CoordinatorRun.sourceReturned (outcome : SeedSideOutcome) : SeedDb × CoordinatorRun :=
  if !outcome.ok then
    (db, { run with failure := some (outcome.error.getD "the source side failed"), control := .finishing })
  else match outcome.archive with
    | none => (db, { run with
        failure := some "the source side reported success without recording archive facts"
        control := .finishing })
    | some facts =>
      let result := run.persist jobId db now facts
      (result.1, { result.2 with control := if result.2.leaseLost then .finishing else .targetReady })

def baselineFailure : Option SeedBaselineVerdict → Option String
  | none => some "the target side did not validate the published tree against the source universe"
  | some verdict =>
    if verdict.validated then none
    else some (boundedMessage s!"the published tree was not validated: {verdict.message}")

def CoordinatorRun.targetReturned (outcome : SeedSideOutcome) : SeedDb × CoordinatorRun :=
  let judged := { run with verdict := some outcome, control := .finishing }
  if !outcome.ok then (db, { judged with failure := some (outcome.error.getD "the target side failed") })
  else
    let result := match outcome.archive with
      | none => (db, judged)
      | some facts => judged.persist jobId db now facts
    (result.1, if result.2.leaseLost then result.2
      else { result.2 with failure := baselineFailure outcome.baseline })

def CoordinatorRun.sideReturned (outcome : SeedSideOutcome) : SeedDb × CoordinatorRun :=
  match run.control with
  | .source => run.sourceReturned jobId db now outcome
  | .target => run.targetReturned jobId db now outcome
  | _ => (db, run)

def thrownOutcome (label error : String) : SeedSideOutcome where
  ok := false
  error := some (boundedMessage s!"{label} side threw: {error}")
  archive := none
  baseline := none

def CoordinatorRun.sideThrew (error : String) : SeedDb × CoordinatorRun :=
  match run.control with
  | .source => run.sideReturned jobId db now (thrownOutcome "source" error)
  | .target => run.sideReturned jobId db now (thrownOutcome "target" error)
  | _ => (db, run)

/-- Anything else that throws between the claim and the gates. -/
def CoordinatorRun.runThrew (error : String) : CoordinatorRun :=
  match run.control with
  | .sourceReady | .source | .targetReady | .target =>
    { run with failure := some (boundedMessage s!"the seed run threw: {error}"), control := .finishing }
  | _ => run

def CoordinatorRun.gate : Option String :=
  let missing := seedCoordinatorPhases.filter fun p => !run.phases.contains p
  if !missing.isEmpty then
    let names := ", ".intercalate (missing.map SeedJobPhase.text)
    some s!"the job cannot complete: phase(s) not entered: {names}"
  else
    let recordedDigest := (getSeedJob db jobId).bind fun job => job.archive.sha256
    if run.archiveFacts.isNone || recordedDigest.isNone then
      some ("the job cannot complete: no archive facts were persisted for it, so nothing proves what was " ++
        "transferred")
    else none

def CoordinatorRun.intended : SeedCoordinatorOutcome :=
  if run.leaseLost then { status := .leaseLost, error := some "this owner lost the seed job before it finished" }
  else
    match (run.illegalTransition.or run.failure).or (run.gate jobId db) with
    | none => { status := .completed, error := none }
    | some reason => { status := .failed, error := some reason }

def endedOutcome (job : SeedJob) : SeedCoordinatorOutcome :=
  if job.status == .cancelled then
    { status := .cancelled, error := some (job.summary.getD "the seed job was cancelled while it was running") }
  else { status := .leaseLost, error := some s!"the seed job was ended by another owner ({job.phase.text})" }

def CoordinatorRun.finishWrite (status : SeedJobTerminalPhase) (error : Option String) : SeedDb × Option SeedJob :=
  finishOwnedSeedJob db jobId run.owner status.status (.terminal status)
    (if status == .completed then
      some "Seed transfer completed and the published tree validated against the source universe." else none)
    (if status == .failed then some (error.getD "the seed run failed") else none) now

def CoordinatorRun.finish : SeedDb × CoordinatorRun :=
  let job := (getSeedJob db jobId).getD run.job
  let outcome := if isTerminalSeedPhase job.phase then endedOutcome job else run.intended jobId db
  let wanted : Option SeedJobTerminalPhase := match outcome.status with
    | .completed => some .completed
    | .failed => some .failed
    | .cancelled | .leaseLost => none
  let lost : SeedCoordinatorOutcome := {
    status := .leaseLost
    error := some "this owner lost the seed job before it could record the outcome" }
  match wanted with
  | none => (db, { run with control := .cleanup outcome job })
  | some status =>
    match run.finishWrite jobId db now status outcome.error with
    | (db', none) => (db', { run with control := .cleanup lost job })
    | (db', some finished) => (db', { run with control := .cleanup outcome finished })

def cleanupKeys (facts : SeedJobArchiveFacts) : List String :=
  let derived := seedArchiveObjectKey jobId facts.format
  match facts.objectKey with
  | none => [derived]
  | some key => if key == derived then [key] else [key, derived]

def CoordinatorRun.cleanup (outcome : SeedCoordinatorOutcome) (finalJob : SeedJob) : CoordinatorRun :=
  let current := (getSeedJob db jobId).getD finalJob
  if !seedCleanupAllowed current.claimFacts run.owner now then { run with control := .returned outcome }
  else { run with control := .deleting outcome current.archive (cleanupKeys jobId current.archive) }

end Run

structure CoordinatorSystem where
  db : SeedDb
  now : Int
  relay : List String
  runs : Table Nat CoordinatorRun
  claims : List Nat

inductive CoordinatorEvent where
  | claim (r : Nat) (owner : String) (leaseMs : Option Int)
  | startSide (r : Nat)
  | enter (r : Nat) (p : SeedJobPhase) (message : String) (totals : SeedProgressTotals)
  | report (r : Nat) (update : SeedProgressUpdate)
  | sideReturned (r : Nat) (outcome : SeedSideOutcome)
  | sideThrew (r : Nat) (error : String)
  | runThrew (r : Nat) (error : String)
  | finish (r : Nat)
  | cleanup (r : Nat)
  | delete (r : Nat) (key : String)
  | cleaned (r : Nat) (result : SeedRelayCleanup)
  | cancel (principal : Option AuthPrincipal)
  | reap
  | elapse (ms : Nat)

def CoordinatorEvent.run? : CoordinatorEvent → Option Nat
  | .claim r _ _ | .startSide r | .enter r _ _ _ | .report r _ | .sideReturned r _ | .sideThrew r _ | .runThrew r _
  | .finish r | .cleanup r | .delete r _ | .cleaned r _ => some r
  | .cancel _ | .reap | .elapse _ => none

namespace CoordinatorSystem

variable (jobId : String) (s : CoordinatorSystem)

/-- A run that a claim starts, or that a refused claim ends at once. -/
def newRun (owner : String) (leaseMs : Int) (job : SeedJob) (control : CoordinatorControl) : CoordinatorRun where
  owner := owner
  leaseMs := leaseMs
  job := job
  phases := []
  currentPhase := .preflight
  illegalTransition := none
  failure := none
  leaseLost := false
  archiveFacts := none
  control := control
  accepted := []
  verdict := none

def refusedOutcome (current : SeedJob) : SeedCoordinatorOutcome where
  status := if current.status == .cancelled then .cancelled else .leaseLost
  error := some (if isTerminalSeedPhase current.phase then
      s!"the seed job already ended ({current.phase.text}) before this owner claimed it"
    else
      let owner := current.leaseOwner.getD "unknown"
      let expiry := current.leaseExpiresAt.getD 0
      s!"another owner holds this seed job's lease ({owner} until {expiry})")

def claim (r : Nat) (owner : String) (leaseMs : Option Int) : CoordinatorSystem :=
  match s.runs r, getSeedJob s.db jobId with
  | none, some current =>
    let lease := clampLeaseMs (leaseMs.getD seedJobLeaseMs)
    let progress := progressFor s.now .preflight "Seed job claimed by the coordinator." noTotals noUpdate
    match claimSeedJobProgress s.db jobId progress owner (s.now + lease) s.now with
    | (db', some claimed) => { s with
        db := db'
        runs := s.runs.put r (newRun owner lease claimed .sourceReady)
        claims := r :: s.claims }
    | (db', none) => { s with
        db := db'
        runs := s.runs.put r (newRun owner lease current (.returned (refusedOutcome current))) }
  | _, _ => s

def recordCleanup (run : CoordinatorRun) (result : SeedRelayCleanup) : SeedDb × CoordinatorRun :=
  match run.control with
  | .deleting outcome facts _ =>
    ((updateSeedJobArchive s.db jobId { facts with cleanup := result }.toJson s.now).1,
      { run with control := .returned outcome })
  | _ => (s.db, run)

def runStep (run : CoordinatorRun) : CoordinatorEvent → SeedDb × CoordinatorRun
  | .startSide _ => (s.db, run.startSide jobId s.db s.now)
  | .enter r p message totals =>
    if s.claims.contains r then run.enter jobId s.db s.now p message totals else (s.db, run)
  | .report r update => if s.claims.contains r then run.report jobId s.db s.now update else (s.db, run)
  | .sideReturned _ outcome => run.sideReturned jobId s.db s.now outcome
  | .sideThrew _ error => run.sideThrew jobId s.db s.now error
  | .runThrew _ error => (s.db, run.runThrew error)
  | .finish _ => match run.control with
    | .finishing => run.finish jobId s.db s.now
    | _ => (s.db, run)
  | .cleanup _ => match run.control with
    | .cleanup outcome finalJob => (s.db, run.cleanup jobId s.db s.now outcome finalJob)
    | _ => (s.db, run)
  | .cleaned _ result => s.recordCleanup jobId run result
  | .claim .. | .delete .. | .cancel _ | .reap | .elapse _ => (s.db, run)

def advance (r : Nat) (e : CoordinatorEvent) : CoordinatorSystem :=
  match s.runs r with
  | none => s
  | some run => { s with db := (s.runStep jobId run e).1, runs := s.runs.put r (s.runStep jobId run e).2 }

def delete (r : Nat) (key : String) : CoordinatorSystem :=
  match (s.runs r).map CoordinatorRun.control with
  | some (.deleting _ _ keys) => if keys.contains key then { s with relay := s.relay.erase key } else s
  | _ => s

def step (e : CoordinatorEvent) : CoordinatorSystem :=
  match e with
  | .claim r owner leaseMs => s.claim jobId r owner leaseMs
  | .delete r key => s.delete r key
  | .cancel principal => { s with db := (cancelRoute s.db principal jobId s.now).1 }
  | .reap => { s with db := reapStaleSeedJobs s.db s.now }
  | .elapse ms => { s with now := s.now + ms }
  | .startSide r | .enter r _ _ _ | .report r _ | .sideReturned r _ | .sideThrew r _ | .runThrew r _ | .finish r
  | .cleanup r | .cleaned r _ => s.advance jobId r e

end CoordinatorSystem

def newCoordinatorSystem (db : SeedDb) (now : Int) (relay : List String) : CoordinatorSystem where
  db := db
  now := now
  relay := relay
  runs := fun _ => none
  claims := []

section Persist

variable {jobId : String} {db : SeedDb} {now : Int} (run : CoordinatorRun) (facts : Json)

@[simp] theorem persist_owner : (run.persist jobId db now facts).2.owner = run.owner := by
  unfold CoordinatorRun.persist
  split <;> rfl

@[simp] theorem persist_control : (run.persist jobId db now facts).2.control = run.control := by
  unfold CoordinatorRun.persist
  split <;> rfl

@[simp] theorem persist_verdict : (run.persist jobId db now facts).2.verdict = run.verdict := by
  unfold CoordinatorRun.persist
  split <;> rfl

end Persist

section Step

variable {jobId : String} {s : CoordinatorSystem}

theorem claim_cases (r : Nat) (owner : String) (leaseMs : Option Int) :
    s.claim jobId r owner leaseMs = s ∨
    (∃ job outcome, s.runs r = none ∧ outcome.status ≠ .completed ∧ s.claim jobId r owner leaseMs =
      { s with runs := s.runs.put r (CoordinatorSystem.newRun owner (clampLeaseMs (leaseMs.getD seedJobLeaseMs))
        job (.returned outcome)) }) ∨
    (∃ row progress expiresAt job, s.runs r = none ∧ s.db jobId = some row ∧ row.status.isOpen = true ∧
      row.inFlight = true ∧ (row.leaseOwner = none ∨ hasLapsed row.leaseExpiresAt s.now = true) ∧
      s.claim jobId r owner leaseMs =
        { s with
          db := s.db.put jobId (row.withProgress progress owner expiresAt)
          runs := s.runs.put r (CoordinatorSystem.newRun owner (clampLeaseMs (leaseMs.getD seedJobLeaseMs)) job
            .sourceReady)
          claims := r :: s.claims }) := by
  unfold CoordinatorSystem.claim
  split
  · rename_i current hrun hjob
    dsimp only
    split
    · rename_i db' claimed hcl
      obtain ⟨row, hrow, hg, rfl, rfl⟩ := conditionalWrite_some hcl
      simp only [Bool.and_eq_true, Bool.or_eq_true, beq_iff_eq] at hg
      exact .inr (.inr ⟨row, _, _, _, hrun, hrow, hg.1.1, hg.1.2, hg.2, rfl⟩)
    rename_i db' hcl
    rw [conditionalWrite_none hcl]
    refine .inr (.inl ⟨current, CoordinatorSystem.refusedOutcome current, hrun, ?_, rfl⟩)
    unfold CoordinatorSystem.refusedOutcome
    dsimp only
    split <;> simp
  · exact .inl rfl

theorem step_run (e : CoordinatorEvent) (r : Nat) :
    (s.step jobId e).runs r = s.runs r ∨
    (∃ owner leaseMs job control, s.runs r = none ∧
      (s.step jobId e).runs r = some (CoordinatorSystem.newRun owner leaseMs job control) ∧
      (control = .sourceReady ∨ ∃ outcome, control = .returned outcome ∧ outcome.status ≠ .completed)) ∨
    (∃ run, s.runs r = some run ∧ e.run? = some r ∧ s.step jobId e =
      { s with db := (s.runStep jobId run e).1, runs := s.runs.put r (s.runStep jobId run e).2 }) := by
  have hadv : ∀ r', e.run? = some r' → s.step jobId e = s.advance jobId r' e →
      (s.step jobId e).runs r = s.runs r ∨ ∃ run, s.runs r = some run ∧ e.run? = some r ∧ s.step jobId e =
        { s with db := (s.runStep jobId run e).1, runs := s.runs.put r (s.runStep jobId run e).2 } := by
    intro r' hr' hstep
    rw [hstep]
    unfold CoordinatorSystem.advance
    cases hrun : s.runs r' with
    | none => exact .inl rfl
    | some run =>
      by_cases hr : r = r'
      · subst hr; exact .inr ⟨run, hrun, hr', rfl⟩
      · exact .inl (Table.put_of_ne hr)
  cases e with
  | claim r' owner leaseMs =>
    rcases @claim_cases jobId s r' owner leaseMs with
      h | ⟨job, outcome, hnone, hne, h⟩ | ⟨row, progress, expiresAt, job, hnone, -, -, -, -, h⟩
    · rw [CoordinatorSystem.step, h]; exact .inl rfl
    · rw [CoordinatorSystem.step, h]
      by_cases hr : r = r'
      · subst hr; exact .inr (.inl ⟨_, _, _, _, hnone, Table.put_self, .inr ⟨outcome, rfl, hne⟩⟩)
      · exact .inl (Table.put_of_ne hr)
    rw [CoordinatorSystem.step, h]
    by_cases hr : r = r'
    · subst hr; exact .inr (.inl ⟨_, _, _, _, hnone, Table.put_self, .inl rfl⟩)
    · exact .inl (Table.put_of_ne hr)
  | delete r' key =>
    refine .inl ?_
    simp only [CoordinatorSystem.step, CoordinatorSystem.delete]
    split
    · split <;> rfl
    · rfl
  | cancel | reap | elapse => exact .inl rfl
  | startSide r' | enter r' | report r' | sideReturned r' | sideThrew r' | runThrew r' | finish r' | cleanup r'
  | cleaned r' =>
    rcases hadv r' rfl rfl with h | h
    · exact .inl h
    · exact .inr (.inr h)

end Step

end LamaSync
