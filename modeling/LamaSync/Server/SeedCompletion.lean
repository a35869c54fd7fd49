import LamaSync.Server.SeedCoordinator
import LamaSync.Server.SeedRuns

/-!
# What a completed coordinator run has done

A run of the coordinator that decides on `completed` went through one finishing write, and at that write everything
the outcome stands for was there: every phase entered, facts persisted, the target's passing verdict, and a live
lease (`coordinator_completes_with_evidence`).  `CompletionInv` carries the part of it that builds up over the run.

The gates ask for a digest, not for complete facts: a source that records no manifest object completes all the same.
-/

namespace LamaSync

open Trace

def CoordinatorWrite.phase? : CoordinatorWrite → Option SeedJobPhase
  | .phase p => some p
  | .archive _ => none

/-- The target reported success with a passing verdict on the published tree. -/
def PassingVerdict (outcome : Option SeedSideOutcome) : Prop :=
  ∃ o verdict, outcome = some o ∧ o.ok = true ∧ o.baseline = some verdict ∧ verdict.validated = true

structure WrittenSoFar (run : CoordinatorRun) : Prop where
  inOrder : (seedCoordinatorPhases.take (seedPhaseIndex run.currentPhase)).Sublist run.phases
  bounded : ∀ p ∈ run.phases, seedPhaseIndex p ≤ seedPhaseIndex run.currentPhase
  logged : run.accepted.filterMap CoordinatorWrite.phase? = run.phases
  persisted : ∀ facts, run.archiveFacts = some facts → CoordinatorWrite.archive facts ∈ run.accepted

def JudgedAtGates (run : CoordinatorRun) : Prop :=
  run.control = .finishing → run.failure = none → run.leaseLost = false → PassingVerdict run.verdict

def CompletionInv (run : CoordinatorRun) : Prop := WrittenSoFar run ∧ JudgedAtGates run

theorem completionInv_new (owner : String) (leaseMs : Int) (job : SeedJob) {control : CoordinatorControl}
    (h : control ≠ .finishing) : CompletionInv (CoordinatorSystem.newRun owner leaseMs job control) := by
  refine ⟨⟨List.nil_sublist _, ?_, rfl, ?_⟩, fun hc => absurd hc h⟩
  · intro p hp; cases hp
  · intro facts hf; cases hf

section Run

variable {jobId : String} {db : SeedDb} {now : Int} {run : CoordinatorRun}

private theorem sc_take_next {p q : SeedJobPhase} (h : seedPhaseIndex q = seedPhaseIndex p + 1) :
    seedCoordinatorPhases.take (seedPhaseIndex q) = seedCoordinatorPhases.take (seedPhaseIndex p) ++ [q] := by
  cases p <;> cases q <;> first | rfl | exact absurd h (by decide)

private theorem sc_entered (h : WrittenSoFar run) {p : SeedJobPhase}
    (hp : p = run.currentPhase ∨ seedPhaseIndex p = seedPhaseIndex run.currentPhase + 1) :
    WrittenSoFar { run with
      currentPhase := p
      phases := run.phases ++ [p]
      accepted := run.accepted ++ [.phase p] } := by
  refine ⟨?_, ?_, ?_, ?_⟩
  · rcases hp with hp | hp
    · rw [hp]; exact h.inOrder.trans (List.sublist_append_left _ _)
    · dsimp only
      rw [sc_take_next hp]
      exact h.inOrder.append_right [p]
  · intro q hq
    have hle : seedPhaseIndex run.currentPhase ≤ seedPhaseIndex p := by
      rcases hp with hp | hp
      · rw [hp]
      · omega
    rcases List.mem_append.1 hq with hq | hq
    · have hq' := h.bounded q hq
      exact hq'.trans hle
    · rw [List.mem_singleton.1 hq]
  · rw [List.filterMap_append, h.logged]; rfl
  · intro facts hf
    exact List.mem_append_left _ (h.persisted facts hf)

private theorem sc_enter (h : CompletionInv run) (p : SeedJobPhase) (message : String) (totals : SeedProgressTotals) :
    CompletionInv (run.enter jobId db now p message totals).2 := by
  obtain ⟨hw, hj⟩ := h
  unfold CoordinatorRun.enter
  split
  · exact ⟨hw, hj⟩
  split
  · exact ⟨⟨hw.inOrder, hw.bounded, hw.logged, hw.persisted⟩, hj⟩
  · rename_i hle
    split
    · exact ⟨hw, hj⟩
    obtain ⟨q, hq, hp⟩ := canTransitionSeedPhase_phase (by simpa using hle)
    obtain rfl : run.currentPhase = q := by injection hq
    exact ⟨sc_entered hw hp, hj⟩

private theorem sc_startSide (h : CompletionInv run) : CompletionInv (run.startSide jobId db now) := by
  obtain ⟨hw, hj⟩ := h
  have hwr : WrittenSoFar (run.startSide jobId db now) := by
    unfold CoordinatorRun.startSide
    dsimp only
    split
    · split <;> exact ⟨hw.inOrder, hw.bounded, hw.logged, hw.persisted⟩
    · split <;> exact ⟨hw.inOrder, hw.bounded, hw.logged, hw.persisted⟩
    · exact hw
  refine ⟨hwr, ?_⟩
  -- the sides are skipped only for a lost lease
  unfold CoordinatorRun.startSide
  dsimp only
  split
  · split
    · intro hc; cases hc
    · intro _ _ hl; cases hl
  · split
    · intro hc; cases hc
    · intro _ _ hl; cases hl
  · exact hj

private theorem sc_persist (h : WrittenSoFar run) (facts : Json) :
    WrittenSoFar (run.persist jobId db now facts).2 := by
  unfold CoordinatorRun.persist
  split
  · exact ⟨h.inOrder, h.bounded, h.logged, h.persisted⟩
  refine ⟨h.inOrder, h.bounded, ?_, ?_⟩
  · rw [List.filterMap_append, h.logged]
    exact List.append_nil _
  · intro f hf
    cases hf
    exact List.mem_append_right _ (List.mem_singleton.2 rfl)

private theorem sc_sourceReturned (h : WrittenSoFar run) (outcome : SeedSideOutcome) :
    CompletionInv (run.sourceReturned jobId db now outcome).2 := by
  unfold CoordinatorRun.sourceReturned
  split
  · refine ⟨⟨h.inOrder, h.bounded, h.logged, h.persisted⟩, ?_⟩
    intro _ hf; cases hf
  split
  · refine ⟨⟨h.inOrder, h.bounded, h.logged, h.persisted⟩, ?_⟩
    intro _ hf; cases hf
  · rename_i facts hfc
    obtain ⟨hor, hbo, hlo, hpe⟩ := @sc_persist jobId db now run h facts
    refine ⟨⟨hor, hbo, hlo, hpe⟩, ?_⟩
    -- finishing right after the source means that the facts were refused
    intro hfin _ hl
    dsimp only at hfin hl
    rw [hl] at hfin
    cases hfin

private theorem sc_baseline {baseline : Option SeedBaselineVerdict} (h : baselineFailure baseline = none) :
    ∃ verdict, baseline = some verdict ∧ verdict.validated = true := by
  unfold baselineFailure at h
  split at h
  · cases h
  rename_i verdict
  split at h
  · rename_i hv; exact ⟨verdict, rfl, hv⟩
  · cases h

private theorem sc_judged {final : CoordinatorRun} {outcome : SeedSideOutcome} (h : WrittenSoFar final)
    (hok : outcome.ok = true) (hv : final.verdict = some outcome) :
    CompletionInv (if final.leaseLost then final
      else { final with failure := baselineFailure outcome.baseline }) := by
  split
  · rename_i hl
    refine ⟨h, ?_⟩
    intro _ _ hl'
    rw [hl] at hl'
    cases hl'
  refine ⟨⟨h.inOrder, h.bounded, h.logged, h.persisted⟩, ?_⟩
  intro _ hf _
  obtain ⟨verdict, hb, hva⟩ := sc_baseline hf
  exact ⟨outcome, verdict, hv, hok, hb, hva⟩

private theorem sc_targetReturned (h : WrittenSoFar run) (outcome : SeedSideOutcome) :
    CompletionInv (run.targetReturned jobId db now outcome).2 := by
  unfold CoordinatorRun.targetReturned
  dsimp only
  split
  · refine ⟨⟨h.inOrder, h.bounded, h.logged, h.persisted⟩, ?_⟩
    intro _ hf; cases hf
  rename_i hok
  have hok' : outcome.ok = true := by simpa using hok
  have hju : WrittenSoFar { run with verdict := some outcome, control := .finishing } :=
    ⟨h.inOrder, h.bounded, h.logged, h.persisted⟩
  split
  · exact sc_judged hju hok' rfl
  · rename_i facts hfc
    exact sc_judged (sc_persist hju facts) hok' (persist_verdict _ facts)

private theorem sc_sideReturned (h : CompletionInv run) (outcome : SeedSideOutcome) :
    CompletionInv (run.sideReturned jobId db now outcome).2 := by
  unfold CoordinatorRun.sideReturned
  split
  · exact sc_sourceReturned h.1 outcome
  · exact sc_targetReturned h.1 outcome
  · exact h

private theorem sc_runThrew (h : CompletionInv run) (error : String) : CompletionInv (run.runThrew error) := by
  unfold CoordinatorRun.runThrew
  split
  all_goals first
    | exact h
    | refine ⟨⟨h.1.inOrder, h.1.bounded, h.1.logged, h.1.persisted⟩, ?_⟩
      intro _ hf
      cases hf

private theorem sc_control (h : CompletionInv run) {control : CoordinatorControl} (hc : control ≠ .finishing) :
    CompletionInv { run with control := control } :=
  ⟨⟨h.1.inOrder, h.1.bounded, h.1.logged, h.1.persisted⟩, fun hc' => absurd hc' hc⟩

private theorem sc_finish (h : CompletionInv run) : CompletionInv (run.finish jobId db now).2 := by
  unfold CoordinatorRun.finish
  dsimp only
  split
  · exact sc_control h (by simp)
  split
  · exact sc_control h (by simp)
  · exact sc_control h (by simp)

end Run

theorem CompletionInv.step {jobId : String} {s : CoordinatorSystem} {run : CoordinatorRun} (h : CompletionInv run)
    (e : CoordinatorEvent) : CompletionInv (s.runStep jobId run e).2 := by
  cases e with
  | startSide r => exact sc_startSide h
  | enter r p message totals =>
    simp only [CoordinatorSystem.runStep]
    split
    · exact sc_enter h p message totals
    · exact h
  | report r update =>
    simp only [CoordinatorSystem.runStep, CoordinatorRun.report]
    split
    · split <;> exact h
    · exact h
  | sideReturned r outcome => exact sc_sideReturned h outcome
  | sideThrew r error =>
    simp only [CoordinatorSystem.runStep, CoordinatorRun.sideThrew]
    split
    · exact sc_sideReturned h _
    · exact sc_sideReturned h _
    · exact h
  | runThrew r error => exact sc_runThrew h error
  | finish r =>
    simp only [CoordinatorSystem.runStep]
    split
    · exact sc_finish h
    · exact h
  | cleanup r =>
    simp only [CoordinatorSystem.runStep, CoordinatorRun.cleanup]
    split
    · split
      · exact sc_control h (by simp)
      · exact sc_control h (by simp)
    · exact h
  | cleaned r result =>
    simp only [CoordinatorSystem.runStep, CoordinatorSystem.recordCleanup]
    split
    · exact sc_control h (by simp)
    · exact h
  | claim | delete | cancel | reap | elapse => exact h

section Finish

variable {jobId : String} {db : SeedDb} {now : Int} {run : CoordinatorRun}

def CoordinatorRun.Completed (run : CoordinatorRun) : Prop :=
  ∃ outcome, run.outcome = some outcome ∧ outcome.status = .completed

private theorem sc_intended {outcome : SeedCoordinatorOutcome} (h : run.intended jobId db = outcome)
    (hc : outcome.status = .completed) :
    run.leaseLost = false ∧ run.failure = none ∧ run.gate jobId db = none := by
  subst h
  unfold CoordinatorRun.intended at hc
  split at hc
  · cases hc
  rename_i hl
  split at hc
  · rename_i hnone
    simp only [Option.or_eq_none_iff] at hnone
    exact ⟨by simpa using hl, hnone.1.2, hnone.2⟩
  · cases hc

private theorem sc_endedOutcome (job : SeedJob) : (endedOutcome job).status ≠ .completed := by
  unfold endedOutcome
  split <;> simp

private theorem sc_finish_completed (h : (run.finish jobId db now).2.Completed) :
    (run.leaseLost = false ∧ run.failure = none ∧ run.gate jobId db = none) ∧
      ∃ error job, run.finishWrite jobId db now .completed error = ((run.finish jobId db now).1, some job) := by
  obtain ⟨outcome, ho, hc⟩ := h
  unfold CoordinatorRun.finish at ho ⊢
  dsimp only at ho ⊢
  generalize hout : (if isTerminalSeedPhase ((getSeedJob db jobId).getD run.job).phase then
    endedOutcome ((getSeedJob db jobId).getD run.job) else run.intended jobId db) = out at ho ⊢
  have hin : out.status = .completed → run.intended jobId db = out := by
    intro hst
    split at hout
    · rw [← hout] at hst
      exact absurd hst (sc_endedOutcome _)
    · exact hout
  cases hst : out.status with
  | completed =>
    rw [hst] at ho
    dsimp only at ho ⊢
    refine ⟨sc_intended (hin hst) hst, out.error, ?_⟩
    rcases hw : run.finishWrite jobId db now .completed out.error with ⟨db', _ | job⟩
    · -- a refused finishing write leaves the lease lost
      rw [hw] at ho
      cases ho
      cases hc
    · exact ⟨job, rfl⟩
  | failed =>
    rw [hst] at ho
    dsimp only at ho
    rcases hw : run.finishWrite jobId db now .failed out.error with ⟨db', _ | job⟩
    · rw [hw] at ho
      cases ho
      cases hc
    rw [hw] at ho
    cases ho
    rw [hst] at hc
    cases hc
  | cancelled | leaseLost =>
    rw [hst] at ho
    cases ho
    rw [hst] at hc
    cases hc

private theorem sc_gate (h : run.gate jobId db = none) :
    (∀ p ∈ seedCoordinatorPhases, p ∈ run.phases) ∧ run.archiveFacts.isSome = true ∧
      ∃ job, getSeedJob db jobId = some job ∧ job.archive.sha256.isSome = true := by
  unfold CoordinatorRun.gate at h
  dsimp only at h
  split at h
  · cases h
  rename_i hmiss
  split at h
  · cases h
  rename_i hfc
  simp only [Bool.not_eq_true, Bool.not_eq_false', List.isEmpty_iff, List.filter_eq_nil_iff] at hmiss
  simp only [Bool.or_eq_true, Option.isNone_iff_eq_none, not_or, ← ne_eq, Option.ne_none_iff_isSome] at hfc
  refine ⟨?_, hfc.1, ?_⟩
  · intro p hp
    have hco := hmiss p hp
    simpa using hco
  cases hjob : getSeedJob db jobId with
  | none => rw [hjob] at hfc; cases hfc.2
  | some job => rw [hjob] at hfc; exact ⟨job, rfl, hfc.2⟩

private theorem sc_all_phases (h : WrittenSoFar run) (hall : ∀ p ∈ seedCoordinatorPhases, p ∈ run.phases) :
    seedCoordinatorPhases.Sublist (run.accepted.filterMap CoordinatorWrite.phase?) := by
  have hlast := h.bounded .baselineValidation (hall _ (by decide))
  have htake : seedCoordinatorPhases.take (seedPhaseIndex run.currentPhase) = seedCoordinatorPhases :=
    List.take_of_length_le hlast
  rw [h.logged]
  have hsub := h.inOrder
  rw [htake] at hsub
  exact hsub

end Finish

section Origin

variable {jobId : String} {db : SeedDb} {now : Int} {run : CoordinatorRun}

private theorem sc_undecided (h : run.outcome = none) : ¬ run.Completed := by
  rintro ⟨outcome, ho, -⟩
  rw [h] at ho
  cases ho

private theorem sc_sourceReturned_undecided (outcome : SeedSideOutcome) :
    (run.sourceReturned jobId db now outcome).2.outcome = none := by
  unfold CoordinatorRun.sourceReturned
  split
  · rfl
  split
  · rfl
  · rename_i facts hfc
    cases hl : (run.persist jobId db now facts).2.leaseLost <;> simp [CoordinatorRun.outcome, hl]

private theorem sc_targetReturned_undecided (outcome : SeedSideOutcome) :
    (run.targetReturned jobId db now outcome).2.outcome = none := by
  have hfi : (run.targetReturned jobId db now outcome).2.control = .finishing := by
    unfold CoordinatorRun.targetReturned
    dsimp only
    split
    · rfl
    split
    · split <;> rfl
    · split <;> exact persist_control _ _
  simp only [CoordinatorRun.outcome, hfi]

private theorem sc_sideReturned_completed (outcome : SeedSideOutcome)
    (h : (run.sideReturned jobId db now outcome).2.Completed) : run.Completed := by
  unfold CoordinatorRun.sideReturned at h
  split at h
  · exact absurd h (sc_undecided (sc_sourceReturned_undecided outcome))
  · exact absurd h (sc_undecided (sc_targetReturned_undecided outcome))
  · exact h

private theorem sc_startSide_completed (h : (run.startSide jobId db now).Completed) : run.Completed := by
  unfold CoordinatorRun.startSide at h
  dsimp only at h
  split at h
  · split at h <;> exact absurd h (sc_undecided rfl)
  · split at h <;> exact absurd h (sc_undecided rfl)
  · exact h

private theorem sc_enter_completed {p : SeedJobPhase} {message : String} {totals : SeedProgressTotals}
    (h : (run.enter jobId db now p message totals).2.Completed) : run.Completed := by
  unfold CoordinatorRun.enter at h
  split at h
  · exact h
  split at h
  · exact h
  · split at h <;> exact h

private theorem sc_runThrew_completed {error : String} (h : (run.runThrew error).Completed) : run.Completed := by
  unfold CoordinatorRun.runThrew at h
  split at h
  all_goals first
    | exact h
    | exact absurd h (sc_undecided rfl)

end Origin

variable {jobId : String} {s : CoordinatorSystem} {e : CoordinatorEvent}

private theorem sc_completed_at {run : CoordinatorRun}
    (hbef : ¬ run.Completed) (h : (s.runStep jobId run e).2.Completed) :
    ∃ r, e = .finish r ∧ run.control = .finishing := by
  cases e with
  | finish r =>
    simp only [CoordinatorSystem.runStep] at h
    split at h
    · rename_i hctl; exact ⟨r, rfl, hctl⟩
    · exact absurd h hbef
  | startSide r => exact absurd (sc_startSide_completed h) hbef
  | enter r p message totals =>
    simp only [CoordinatorSystem.runStep] at h
    split at h
    · exact absurd (sc_enter_completed h) hbef
    · exact absurd h hbef
  | report r update =>
    simp only [CoordinatorSystem.runStep, CoordinatorRun.report] at h
    split at h
    · split at h <;> exact absurd h hbef
    · exact absurd h hbef
  | sideReturned r outcome => exact absurd (sc_sideReturned_completed outcome h) hbef
  | sideThrew r error =>
    simp only [CoordinatorSystem.runStep, CoordinatorRun.sideThrew] at h
    split at h
    · exact absurd (sc_sideReturned_completed _ h) hbef
    · exact absurd (sc_sideReturned_completed _ h) hbef
    · exact absurd h hbef
  | runThrew r error => exact absurd (sc_runThrew_completed h) hbef
  | cleanup r =>
    simp only [CoordinatorSystem.runStep, CoordinatorRun.cleanup] at h
    split at h
    · -- the cleanup carries the outcome on
      rename_i outcome finalJob hctl
      refine absurd ?_ hbef
      simp only [CoordinatorRun.Completed, CoordinatorRun.outcome, hctl]
      split at h <;> exact h
    · exact absurd h hbef
  | cleaned r result =>
    simp only [CoordinatorSystem.runStep, CoordinatorSystem.recordCleanup] at h
    split at h
    · rename_i outcome facts keys hctl
      refine absurd ?_ hbef
      simp only [CoordinatorRun.Completed, CoordinatorRun.outcome, hctl]
      exact h
    · exact absurd h hbef
  | claim | delete | cancel | reap | elapse => exact absurd h hbef

private theorem sc_inv_run (jobId : String) (db : SeedDb) (now : Int) (relay : List String)
    (es : List CoordinatorEvent) (r : Nat) :
    ∀ run, (Trace.run (CoordinatorSystem.step jobId) (newCoordinatorSystem db now relay) es).runs r = some run →
      CompletionInv run := by
  refine run_invariant (I := fun s : CoordinatorSystem => ∀ run, s.runs r = some run → CompletionInv run)
    (fun run hnone => by cases hnone) ?_
  intro s e hI run hrun
  rcases @step_run jobId s e r with hsame |
    ⟨owner, leaseMs, job, control, -, hnew, hctl⟩ | ⟨old, hold, -, hstep⟩
  · exact hI run (hsame ▸ hrun)
  · rw [hnew] at hrun
    cases hrun
    refine completionInv_new owner leaseMs job ?_
    rcases hctl with rfl | ⟨outcome, rfl, -⟩ <;> simp
  rw [hstep] at hrun
  have heq : (s.runStep jobId old e).2 = run := by simpa using hrun
  rw [← heq]
  exact (hI old hold).step e

private theorem sc_becomes_completed {r : Nat}
    {run' : CoordinatorRun} (hnot : ¬ ∃ run, s.runs r = some run ∧ run.Completed)
    (hrun' : (s.step jobId e).runs r = some run') (hc : run'.Completed) :
    ∃ run, s.runs r = some run ∧ e = .finish r ∧ run.control = .finishing ∧
      run' = (run.finish jobId s.db s.now).2 ∧
      (s.step jobId (.finish r)).db = (run.finish jobId s.db s.now).1 := by
  rcases @step_run jobId s e r with hsame |
    ⟨owner, leaseMs, job, control, -, hnew, hctl⟩ | ⟨run, hold, hr, hstep⟩
  · exact absurd ⟨run', hsame ▸ hrun', hc⟩ hnot
  · -- a run does not start completed
    rw [hnew] at hrun'
    cases hrun'
    obtain ⟨outcome, ho, hst⟩ := hc
    rcases hctl with rfl | ⟨refused, rfl, hne⟩
    · cases ho
    · cases ho; exact absurd hst hne
  · have hrunStep : (s.runStep jobId run e).2 = run' := by
      rw [hstep] at hrun'; simpa using hrun'
    obtain ⟨r', rfl, hctl⟩ := sc_completed_at (fun hcomp => hnot ⟨run, hold, hcomp⟩) (hrunStep ▸ hc)
    obtain rfl : r' = r := by simpa [CoordinatorEvent.run?] using hr
    have hfi : s.runStep jobId run (.finish r') = run.finish jobId s.db s.now := by
      simp only [CoordinatorSystem.runStep, hctl]
    refine ⟨run, hold, rfl, hctl, ?_, ?_⟩
    · rw [← hrunStep, hfi]
    · rw [hstep, hfi]

/-- A coordinator run that decides on `completed`, whatever the sides, the other runs, cancellations and the reaper
do: it went through a finishing write that the table accepted and that left the job completed, and at that write its
lease was live, it had entered the nine phases in order by accepted writes, it had persisted archive facts, the row
carried a digest, and the target had returned with a passing verdict. -/
theorem coordinator_completes_with_evidence (jobId : String) (db : SeedDb) (now : Int) (relay : List String)
    (es : List CoordinatorEvent) (r : Nat) (final : CoordinatorRun)
    (hrun : (Trace.run (CoordinatorSystem.step jobId) (newCoordinatorSystem db now relay) es).runs r = some final)
    (hc : final.Completed) :
    ∃ before after run job job', es = before ++ .finish r :: after ∧
      let s := Trace.run (CoordinatorSystem.step jobId) (newCoordinatorSystem db now relay) before
      s.runs r = some run ∧ getSeedJob s.db jobId = some job ∧
      seedLeaseIsLive job.leaseFacts run.owner s.now = true ∧
      seedCoordinatorPhases.Sublist (run.accepted.filterMap CoordinatorWrite.phase?) ∧
      (∃ facts, CoordinatorWrite.archive facts ∈ run.accepted) ∧ job.archive.sha256.isSome = true ∧
      PassingVerdict run.verdict ∧
      getSeedJob (s.step jobId (.finish r)).db jobId = some job' ∧ job'.status = .completed := by
  -- the event that made the run completed
  obtain ⟨before, e, after, hes, hnot, run', hrun', hc'⟩ := run_reaches
    (Q := fun s : CoordinatorSystem => ∃ run, s.runs r = some run ∧ run.Completed)
    (by rintro ⟨run, hnone, -⟩; cases hnone) ⟨final, hrun, hc⟩
  have hinv := sc_inv_run jobId db now relay before r
  generalize hs : Trace.run (CoordinatorSystem.step jobId) (newCoordinatorSystem db now relay) before = s at *
  obtain ⟨run, hold, rfl, hctl, rfl, hdone⟩ := sc_becomes_completed hnot hrun' hc'
  obtain ⟨hwr, hju⟩ := hinv run hold
  obtain ⟨⟨hlost, hfa, hgate⟩, error, job', hw⟩ := sc_finish_completed hc'
  obtain ⟨hall, hfc, job, hjob, hdig⟩ := sc_gate hgate
  -- the guard of the finishing write is the live lease
  obtain ⟨row, hrow, hg, -, hjob'⟩ := conditionalWrite_some hw
  obtain rfl : job = rowToSeedJob jobId row := by
    rw [getSeedJob, hrow] at hjob; exact (Option.some.inj hjob).symm
  simp only [Bool.and_eq_true] at hg
  obtain ⟨facts, hsome⟩ := Option.isSome_iff_exists.1 hfc
  refine ⟨before, after, run, rowToSeedJob jobId row, job', hes, ?_⟩
  rw [hs]
  refine ⟨hold, hjob, hg.2, sc_all_phases hwr hall, ⟨facts, hwr.persisted facts hsome⟩, hdig,
    hju hctl hfa hlost, ?_, ?_⟩
  · rw [hdone]
    exact getSeedJob_of_conditionalWrite hw
  · rw [hjob']
    rfl

def exampleTransportFacts : Json := .obj [("format", .str "tar.gz"), ("bytes", .num 4096),
  ("sha256", .str exampleDigest), ("objectKey", .str "lamasync/seed/job/payload.tar.gz"), ("memberCount", .num 7),
  ("manifestFingerprint", .str exampleDigest)]

def exampleEnters (r : Nat) (phases : List SeedJobPhase) : List CoordinatorEvent :=
  phases.map fun p => .enter r p "" noTotals

def exampleCoordinatorRun : List CoordinatorEvent :=
  [.claim 0 "alpha" none, .startSide 0] ++ exampleEnters 0 (seedCoordinatorPhases.take 3) ++
    [.sideReturned 0 { ok := true, error := none, archive := some exampleTransportFacts, baseline := none },
      .startSide 0] ++ exampleEnters 0 (seedCoordinatorPhases.drop 3) ++
    [.sideReturned 0 { ok := true, error := none, archive := none, baseline := some {
        validated := true, method := "manifest-equality", message := "the published tree is the source's" } },
      .finish 0]

def exampleCoordinatorSystem : CoordinatorSystem :=
  newCoordinatorSystem (createSeedJob emptySeedDb (newSeedJob "job" examplePlan 0)) 1
    ["lamasync/seed/job/payload.tar.gz"]

theorem coordinator_completes_with_evidence_example :
    ∃ before after run, exampleCoordinatorRun = before ++ .finish 0 :: after ∧
      (Trace.run (CoordinatorSystem.step "job") exampleCoordinatorSystem before).runs 0 = some run ∧
      seedCoordinatorPhases.Sublist (run.accepted.filterMap CoordinatorWrite.phase?) ∧ PassingVerdict run.verdict := by
  have hout : ((Trace.run (CoordinatorSystem.step "job") exampleCoordinatorSystem exampleCoordinatorRun).runs
      0).bind CoordinatorRun.outcome = some { status := .completed, error := none } := by decide +kernel
  obtain ⟨final, hrun, ho⟩ := Option.bind_eq_some_iff.1 hout
  obtain ⟨before, after, run, -, -, hes, hrun', -, -, hph, -, -, hverd, -⟩ :=
    coordinator_completes_with_evidence "job" _ _ _ exampleCoordinatorRun 0 final hrun ⟨_, ho, rfl⟩
  exact ⟨before, after, run, hes, hrun', hph, hverd⟩

/-- The run completes, and no facts it persisted are complete. -/
theorem completed_without_complete_facts :
    ∃ final, (Trace.run (CoordinatorSystem.step "job") exampleCoordinatorSystem exampleCoordinatorRun).runs 0 =
        some final ∧ final.Completed ∧
      ∀ facts, CoordinatorWrite.archive facts ∈ final.accepted →
        seedArchiveFactsComplete (normalizeSeedJobArchiveFacts facts .tarGz) = false := by
  have hfn : ((Trace.run (CoordinatorSystem.step "job") exampleCoordinatorSystem exampleCoordinatorRun).runs
      0).map (fun final => (final.outcome, final.accepted.all fun write => match write with
        | .archive facts => !seedArchiveFactsComplete (normalizeSeedJobArchiveFacts facts .tarGz)
        | .phase _ => true)) = some (some { status := .completed, error := none }, true) := by decide +kernel
  obtain ⟨final, hrun, hpair⟩ := Option.map_eq_some_iff.1 hfn
  obtain ⟨ho, hall⟩ := Prod.mk.inj hpair
  refine ⟨final, hrun, ⟨_, ho, rfl⟩, ?_⟩
  intro facts hmem
  simpa using List.all_eq_true.1 hall _ hmem

end LamaSync
