import LamaSync.Server.SeedRuns

/-!
# The phase machine of a seed job

Status, phase and lease are separate columns, written by different statements.  `SeedRowInv` is the coupling all of
them keep: the status follows a terminal phase, a terminal job has no lease, the archive column holds facts the
server wrote itself, and the two parties are distinct hosts.  From it, along every run of the routes, the phase only
moves forward and a terminal outcome is never rewritten (`seed_job_phase_machine`).
-/

namespace LamaSync

open Trace

/-- The coupling of the columns of a job. -/
structure SeedRowInv (row : SeedJobRow) : Prop where
  isOpen : isTerminalSeedPhase row.phase = false → row.status.isOpen = true
  status : ∀ t, row.phase = .terminal t → row.status = t.status
  noLease : isTerminalSeedPhase row.phase = true → row.leaseOwner = none ∧ row.leaseExpiresAt = none
  written : ∃ facts : SeedJobArchiveFacts, row.archive = facts.toJson
  parties : ∃ source, row.sourceHostId = some source ∧ source ≠ row.hostId

theorem seedRowInv_new (jobId : String) (plan : SeedJobPlan) (now : Int) :
    SeedRowInv (newSeedJob jobId plan now).toRow where
  isOpen _ := rfl
  status t h := by simp [newSeedJob, SeedJob.toRow] at h
  noLease h := by simp [newSeedJob, SeedJob.toRow, isTerminalSeedPhase] at h
  written := ⟨emptySeedJobArchiveFacts plan.format, rfl⟩
  parties := ⟨plan.sourceHostId, rfl, plan.distinct⟩

section Row

variable {e : SeedEvent} {jobId : String} {row row' : SeedJobRow}

private theorem pm_finished (h : SeedRowInv row) (t : SeedJobTerminalPhase) (summary error : Option String)
    (now : Int) : SeedRowInv (row.finished t.status (.terminal t) summary error now) where
  isOpen hp := by simp [SeedJobRow.finished, isTerminalSeedPhase] at hp
  status t' ht := by
    simp only [SeedJobRow.finished, SeedJobPhaseOrTerminal.terminal.injEq] at ht
    rw [← ht]; rfl
  noLease _ := ⟨rfl, rfl⟩
  written := h.written
  parties := h.parties

theorem SeedRowInv.step (h : SeedRowInv row) (hstep : SeedRowStep e jobId row row') : SeedRowInv row' := by
  cases hstep with
  | same => exact h
  | progress event auth known parsed allowed legal isOpen claimable =>
    exact {
      isOpen := fun _ => rfl
      status := by intro t ht; simp [SeedJobRow.withProgress] at ht
      noLease := by intro ht; simp [SeedJobRow.withProgress, isTerminalSeedPhase] at ht
      written := h.written
      parties := h.parties }
  | archive event eligible auth uploading isOpen held unrecorded =>
    exact {
      isOpen := h.isOpen
      status := h.status
      noLease := fun _ => ⟨rfl, rfl⟩
      written := ⟨_, rfl⟩
      parties := h.parties }
  | renew event running inFlight =>
    refine { h with noLease := ?_ }
    intro ht
    simp only [SeedJobRow.inFlight, Bool.not_eq_true'] at inFlight
    rw [inFlight] at ht
    cases ht
  | finish outcome isOpen inFlight => exact pm_finished h _ _ _ _
  | reap event stale => exact pm_finished h .failed _ _ _

theorem SeedRowStep.terminal (h : SeedRowInv row) (ht : isTerminalSeedPhase row.phase = true)
    (hstep : SeedRowStep e jobId row row') : row' = row := by
  obtain ⟨t, hp⟩ : ∃ t, row.phase = .terminal t := by
    cases hp : row.phase with
    | phase p => rw [hp] at ht; cases ht
    | terminal t => exact ⟨t, rfl⟩
  have hcl : row.status.isOpen = false := by rw [h.status t hp]; cases t <;> rfl
  cases hstep with
  | same => rfl
  | progress event auth known parsed allowed legal isOpen claimable
  | archive event eligible auth uploading isOpen held unrecorded | finish outcome isOpen inFlight => rw [hcl] at isOpen; cases isOpen
  | renew event running inFlight => rw [running] at hcl; cases hcl
  | reap event stale =>
    simp only [SeedJobRow.isStale, Bool.and_eq_true, beq_iff_eq] at stale
    rw [stale.1] at hcl; cases hcl

inductive PhaseMove : SeedJobPhaseOrTerminal → SeedJobPhaseOrTerminal → Prop where
  | stay (p : SeedJobPhaseOrTerminal) : PhaseMove p p
  | forward {p q : SeedJobPhase} (h : seedPhaseIndex q = seedPhaseIndex p + 1) : PhaseMove p q
  | finish (p : SeedJobPhase) (t : SeedJobTerminalPhase) : PhaseMove p (.terminal t)

private theorem pm_finish (h : isTerminalSeedPhase row.phase = false) (t : SeedJobTerminalPhase) :
    PhaseMove row.phase (.terminal t) := by
  cases hp : row.phase with
  | phase p => exact .finish p t
  | terminal t' => rw [hp] at h; cases h

theorem SeedRowStep.phaseMove (h : SeedRowInv row) (hstep : SeedRowStep e jobId row row') :
    PhaseMove row.phase row'.phase := by
  cases hterm : isTerminalSeedPhase row.phase with
  | true => rw [hstep.terminal h hterm]; exact .stay _
  | false =>
    cases hstep with
    | same | archive event eligible auth uploading isOpen held unrecorded | renew event running inFlight => exact .stay _
    | progress event auth known parsed allowed legal isOpen claimable =>
      obtain ⟨p, hp, hq⟩ := canTransitionSeedPhase_phase legal
      simp only [SeedJobRow.withProgress, progressOf_phase, hp]
      rcases hq with hq | hq
      · rw [hq]; exact .stay _
      · exact .forward hq
    | finish outcome isOpen inFlight | reap event stale => exact pm_finish hterm _

end Row

section Run

variable {P : SeedDb → SeedEvent → Prop} {I : SeedJobRow → Prop}

theorem seedStep_rows {db : SeedDb} {e : SeedEvent} (hI : ∀ jobId row, db jobId = some row → I row)
    (hnew : ∀ jobId plan now, I (newSeedJob jobId plan now).toRow)
    (hstep : ∀ jobId row row', db jobId = some row → I row → SeedRowStep e jobId row row' → I row') :
    ∀ jobId row, seedStep db e jobId = some row → I row := by
  intro jobId row' h
  cases hrow : db jobId with
  | none =>
    obtain ⟨plan, now, -, rfl⟩ := seedStep_new e hrow h
    exact hnew jobId plan now
  | some row =>
    obtain ⟨r, hr, hs⟩ := seedStep_row e hrow
    obtain rfl : r = row' := Table.unique hr h
    exact hstep jobId row r hrow (hI jobId row hrow) hs

theorem seedRun_rows {es : List SeedEvent} (hgood : Always seedStep P emptySeedDb es)
    (hnew : ∀ jobId plan now, I (newSeedJob jobId plan now).toRow)
    (hstep : ∀ db e jobId row row', P db e → db jobId = some row → I row → SeedRowStep e jobId row row' → I row') :
    ∀ jobId row, run seedStep emptySeedDb es jobId = some row → I row := by
  refine hgood.invariant (I := fun db => ∀ jobId row, db jobId = some row → I row) ?_ ?_
  · intro jobId row h; cases h
  · intro db e hI hP
    exact seedStep_rows hI hnew fun jobId row row' => hstep db e jobId row row' hP

theorem seedRun_later {db : SeedDb} {jobId : String} {row : SeedJobRow} {R : SeedJobRow → SeedJobRow → Prop}
    (es : List SeedEvent) (hrow : db jobId = some row) (hrefl : ∀ r, R r r)
    (htr : ∀ a b c, R a b → R b c → R a c) (hI : I row)
    (hstep : ∀ e r r', I r → SeedRowStep e jobId r r' → I r' ∧ R r r') :
    ∃ row', run seedStep db es jobId = some row' ∧ R row row' := by
  induction es generalizing db row with
  | nil => exact ⟨row, hrow, hrefl row⟩
  | cons e es ih =>
    obtain ⟨r, hr, hs⟩ := seedStep_row e hrow
    obtain ⟨hI', hR⟩ := hstep e row r hI hs
    obtain ⟨row', hrow', hR'⟩ := ih hr hI'
    exact ⟨row', hrow', htr _ _ _ hR hR'⟩

theorem seedRowInv_run (es : List SeedEvent) {jobId : String} {row : SeedJobRow}
    (h : run seedStep emptySeedDb es jobId = some row) : SeedRowInv row :=
  seedRun_rows (P := fun _ _ => True) always_true seedRowInv_new
    (fun _ _ _ _ _ _ _ hI hs => hI.step hs) jobId row h

end Run

def SeedJob.outcome (job : SeedJob) :
    SeedJobStatus × SeedJobPhaseOrTerminal × Option String × Option String × Option Int :=
  (job.status, job.phase, job.summary, job.error, job.finishedAt)

/-- Along every run of the routes: the status is terminal exactly when the phase is the equal terminal phase, a
terminal job holds no lease, the next event moves the phase forward by at most one step or ends the job, and once
the job has ended no later event changes its outcome. -/
theorem seed_job_phase_machine (es : List SeedEvent) (jobId : String) (job : SeedJob)
    (h : getSeedJob (run seedStep emptySeedDb es) jobId = some job) :
    (∀ t : SeedJobTerminalPhase, job.status = t.status ↔ job.phase = .terminal t) ∧
    (isTerminalSeedPhase job.phase = true → job.leaseOwner = none ∧ job.leaseExpiresAt = none) ∧
    (∀ e, ∃ job', getSeedJob (run seedStep emptySeedDb (es ++ [e])) jobId = some job' ∧
      PhaseMove job.phase job'.phase) ∧
    (∀ later, ∃ job', getSeedJob (run seedStep emptySeedDb (es ++ later)) jobId = some job' ∧
      (isTerminalSeedPhase job.phase = true → job'.outcome = job.outcome)) := by
  obtain ⟨row, hrow, rfl⟩ := getSeedJob_eq_some.1 h
  have hinv := seedRowInv_run es hrow
  refine ⟨?_, hinv.noLease, ?_, ?_⟩
  · intro t
    refine ⟨fun hs => ?_, hinv.status t⟩
    simp only [rowToSeedJob_status, rowToSeedJob_phase] at hs ⊢
    cases hp : row.phase with
    | phase p =>
      have hopen := hinv.isOpen (by rw [hp]; rfl)
      rw [hs] at hopen
      cases t <;> cases hopen
    | terminal t' =>
      have hs' := hinv.status t' hp
      rw [hs] at hs'
      cases t <;> cases t' <;> first | rfl | cases hs'
  · intro e
    obtain ⟨row', hrow', hs⟩ := seedStep_row e hrow
    refine ⟨rowToSeedJob jobId row', ?_, hs.phaseMove hinv⟩
    rw [run_concat]
    exact getSeedJob_eq_some.2 ⟨row', hrow', rfl⟩
  · intro later
    obtain ⟨row', hrow', hR⟩ := seedRun_later (I := SeedRowInv)
      (R := fun r r' => isTerminalSeedPhase r.phase = true → r' = r) later hrow (fun _ _ => rfl)
      (fun a b c hab hbc ht => by
        have hb := hab ht
        rw [← hb] at ht ⊢
        exact hbc ht)
      hinv (fun e r r' hr hs => ⟨hr.step hs, fun ht => hs.terminal hr ht⟩)
    refine ⟨rowToSeedJob jobId row', ?_, fun ht => by rw [hR ht]⟩
    rw [run_append]
    exact getSeedJob_eq_some.2 ⟨row', hrow', rfl⟩

theorem seed_job_phase_machine_uploading :
    ∃ job, getSeedJob (run seedStep emptySeedDb exampleUpload) "job" = some job ∧
      ∀ later, ∃ job', getSeedJob (run seedStep emptySeedDb (exampleUpload ++ later)) "job" = some job' ∧
        (isTerminalSeedPhase job.phase = true → job'.outcome = job.outcome) := by
  have hsome : (getSeedJob (run seedStep emptySeedDb exampleUpload) "job").isSome = true := by decide +kernel
  obtain ⟨job, hjob⟩ := Option.isSome_iff_exists.1 hsome
  exact ⟨job, hjob, (seed_job_phase_machine exampleUpload "job" job hjob).2.2.2⟩

end LamaSync
