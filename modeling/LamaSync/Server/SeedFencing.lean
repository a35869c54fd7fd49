import LamaSync.Server.SeedCompletion

/-!
# Lease fencing of the coordinator

Several runs over one job.  The lease column names an owner, not a run, so what fences off an earlier run is that a
later claim wrote another owner: after it no guarded write of the earlier run matches
(`seed_coordinator_fencing`).  The same invariant says when a run may delete relay objects: one that lost its lease
starts its cleanup only on a job that has ended, because a lapsed lease never becomes live again for it.

An owner id that is used again after a lapse is not fenced, and a job that has ended is cleaned up by any run.
-/

namespace LamaSync

open Trace

/-- The job is over for this owner: it has ended, or the owner's lease is not live. -/
def Gone (row : SeedJobRow) (owner : String) (now : Int) : Prop :=
  isTerminalSeedPhase row.phase = true ∨ row.heldBy owner now = false

/-- Once somebody has claimed the job, it is running in a phase or it has ended. -/
def Coherent (row : SeedJobRow) : Prop :=
  if isTerminalSeedPhase row.phase then row.status.isOpen = false else row.status = .running

/-- What any event but a claim may do to a row: it keeps an ended job as it is, hands the lease to nobody, and makes
no lease live. -/
structure RowFenced (now : Int) (row row' : SeedJobRow) : Prop where
  ended : isTerminalSeedPhase row.phase = true → isTerminalSeedPhase row'.phase = true
  coherent : Coherent row'
  holder : row'.leaseOwner = row.leaseOwner ∨ row'.leaseOwner = none
  held : ∀ owner, row'.heldBy owner now = true → row.heldBy owner now = true

section Row

variable {now : Int} {row row' : SeedJobRow} {owner : String}

theorem Gone.step (h : Gone row owner now) (hs : RowFenced now row row') : Gone row' owner now := by
  rcases h with h | h
  · exact .inl (hs.ended h)
  refine .inr ?_
  cases hheld : row'.heldBy owner now with
  | false => rfl
  | true => rw [hs.held owner hheld] at h; cases h

theorem Gone.later (h : Gone row owner now) {later : Int} (hle : now ≤ later) : Gone row owner later := by
  rcases h with h | h
  · exact .inl h
  refine .inr ?_
  cases hheld : row.heldBy owner later with
  | false => rfl
  | true =>
    simp only [SeedJobRow.heldBy, Bool.and_eq_true] at hheld
    have hlive := expiresAfter_mono hle hheld.2
    simp [SeedJobRow.heldBy, hheld.1, hlive] at h

private theorem sf_refl (h : Coherent row) : RowFenced now row row := ⟨id, h, .inl rfl, fun _ => id⟩

private theorem sf_archive (h : Coherent row) (archive : Json) (updatedAt : Int) :
    RowFenced now row { row with archive := archive, updatedAt := updatedAt } := ⟨id, h, .inl rfl, fun _ => id⟩

private theorem sf_finished (t : SeedJobTerminalPhase) (summary error : Option String) (at' : Int) :
    RowFenced now row (row.finished t.status (.terminal t) summary error at') := by
  refine ⟨fun _ => rfl, ?_, .inr rfl, ?_⟩
  · simp only [Coherent, SeedJobRow.finished, isTerminalSeedPhase, if_true]
    cases t <;> rfl
  · intro o ho
    simp [SeedJobRow.heldBy, SeedJobRow.finished] at ho

private theorem sf_progress (hrun : row.status = .running) (hheld : row.heldBy owner now = true)
    (hopen : isTerminalSeedPhase row.phase = false) (progress : SeedJobProgress) (expiresAt : Int) :
    RowFenced now row { row with
      phase := progress.phase
      progress := progress
      updatedAt := progress.updatedAt
      leaseExpiresAt := some expiresAt } := by
  refine ⟨?_, hrun, .inl rfl, ?_⟩
  · intro hterm
    rw [hopen] at hterm
    cases hterm
  intro o ho
  -- the lease is extended for its own owner, who held it
  simp only [SeedJobRow.heldBy, Bool.and_eq_true, beq_iff_eq] at hheld ho ⊢
  exact ⟨ho.1, hheld.2⟩

private theorem sf_refused (h : Coherent row)
    (hg : (row.status == .running && row.inFlight && row.heldBy owner now) = false) : Gone row owner now := by
  unfold Coherent at h
  cases hterm : isTerminalSeedPhase row.phase with
  | true => exact .inl hterm
  | false =>
    refine .inr ?_
    rw [hterm] at h
    simp only [Bool.false_eq_true, if_false] at h
    simpa [SeedJobRow.inFlight, hterm, h] using hg

end Row

/-- What a guarded write of a run does to the table: it refuses a run for which the job is over, or it is a fenced
step of the row of a run that holds it. -/
def GuardedWrite (jobId : String) (db : SeedDb) (now : Int) (owner : String) (db' : SeedDb) : Prop :=
  db' = db ∨ ∃ row row', db jobId = some row ∧ row.heldBy owner now = true ∧ RowFenced now row row' ∧
    db' = db.put jobId row'

section Write

variable {jobId : String} {db : SeedDb} {now : Int} {run : CoordinatorRun}

private theorem sf_write {owner : String} {set : SeedJobRow → SeedJobRow}
    (hset : ∀ row, row.status = .running → isTerminalSeedPhase row.phase = false → row.heldBy owner now = true →
      RowFenced now row (set row)) :
    GuardedWrite jobId db now owner (conditionalWrite db jobId
      (fun row => row.status == .running && row.inFlight && row.heldBy owner now) set).1 := by
  rcases conditionalWrite_cases db jobId (fun row => row.status == .running && row.inFlight && row.heldBy owner now)
    set with ⟨row, hrow, hg, he⟩ | he
  · simp only [Bool.and_eq_true, beq_iff_eq, SeedJobRow.inFlight, Bool.not_eq_true'] at hg
    rw [he]
    exact .inr ⟨row, set row, hrow, hg.2, hset row hg.1.1 hg.1.2 hg.2, rfl⟩
  · rw [he]; exact .inl rfl

private theorem sf_running_coherent {row : SeedJobRow} (hrun : row.status = .running)
    (hopen : isTerminalSeedPhase row.phase = false) : Coherent row := by
  simp [Coherent, hopen, hrun]

private theorem sf_writeProgress (run : CoordinatorRun) (p : SeedJobPhase) (message : String)
    (totals : SeedProgressTotals) (update : SeedProgressUpdate) :
    GuardedWrite jobId db now run.owner (run.writeProgress jobId db now p message totals update).1 :=
  sf_write fun _ hrun hopen hheld => sf_progress hrun hheld hopen _ _

private theorem sf_persist (run : CoordinatorRun) (facts : Json) :
    GuardedWrite jobId db now run.owner (run.persist jobId db now facts).1 := by
  have hw : GuardedWrite jobId db now run.owner (updateOwnedSeedJobArchive db jobId facts run.owner now).1 :=
    sf_write fun _ hrun hopen _ => sf_archive (sf_running_coherent hrun hopen) facts now
  unfold CoordinatorRun.persist
  split
  · rename_i db' hwr; rw [hwr] at hw; exact hw
  · rename_i db' job hwr; rw [hwr] at hw; exact hw

private theorem sf_finishWrite (run : CoordinatorRun) (status : SeedJobTerminalPhase) (error : Option String) :
    GuardedWrite jobId db now run.owner (run.finishWrite jobId db now status error).1 :=
  sf_write fun _ _ _ _ => sf_finished status _ _ now

private theorem sf_enter (p : SeedJobPhase) (message : String) (totals : SeedProgressTotals) :
    GuardedWrite jobId db now run.owner (run.enter jobId db now p message totals).1 := by
  have hw := @sf_writeProgress jobId db now run p message totals noUpdate
  unfold CoordinatorRun.enter
  split
  · exact .inl rfl
  split
  · exact .inl rfl
  · split
    · rename_i db' hwr; rw [hwr] at hw; exact hw
    · rename_i db' job hwr; rw [hwr] at hw; exact hw

private theorem sf_report (update : SeedProgressUpdate) :
    GuardedWrite jobId db now run.owner (run.report jobId db now update).1 := by
  unfold CoordinatorRun.report
  split
  · exact .inl rfl
  · exact sf_writeProgress run _ _ _ _

private theorem sf_sideReturned (outcome : SeedSideOutcome) :
    GuardedWrite jobId db now run.owner (run.sideReturned jobId db now outcome).1 := by
  unfold CoordinatorRun.sideReturned
  split
  · unfold CoordinatorRun.sourceReturned
    split
    · exact .inl rfl
    split
    · exact .inl rfl
    · exact sf_persist run _
  · unfold CoordinatorRun.targetReturned
    dsimp only
    split
    · exact .inl rfl
    split
    · exact .inl rfl
    · exact sf_persist _ _
  · exact .inl rfl

private theorem sf_finish : GuardedWrite jobId db now run.owner (run.finish jobId db now).1 := by
  unfold CoordinatorRun.finish
  dsimp only
  split
  · exact .inl rfl
  rename_i status hst
  split
  · rename_i db' hw
    have hfst := congrArg Prod.fst hw
    rw [show db' = _ from hfst.symm]
    exact sf_finishWrite run status _
  rename_i db' job hw
  have hfst := congrArg Prod.fst hw
  rw [show db' = _ from hfst.symm]
  exact sf_finishWrite run status _

end Write

theorem runStep_guarded {jobId : String} {s : CoordinatorSystem} (run : CoordinatorRun) (e : CoordinatorEvent)
    (h : ∀ r result, e ≠ .cleaned r result) :
    GuardedWrite jobId s.db s.now run.owner (s.runStep jobId run e).1 := by
  cases e with
  | enter r p message totals =>
    simp only [CoordinatorSystem.runStep]
    split
    · exact sf_enter p message totals
    · exact .inl rfl
  | report r update =>
    simp only [CoordinatorSystem.runStep]
    split
    · exact sf_report update
    · exact .inl rfl
  | sideReturned r outcome => exact sf_sideReturned outcome
  | sideThrew r error =>
    simp only [CoordinatorSystem.runStep, CoordinatorRun.sideThrew]
    split
    · exact sf_sideReturned _
    · exact sf_sideReturned _
    · exact .inl rfl
  | finish r =>
    simp only [CoordinatorSystem.runStep]
    split
    · exact sf_finish
    · exact .inl rfl
  | cleanup r =>
    simp only [CoordinatorSystem.runStep]
    split <;> exact .inl rfl
  | cleaned r result => exact absurd rfl (h r result)
  | startSide | runThrew | claim | delete | cancel | reap | elapse => exact .inl rfl

section System

variable {jobId : String} {s : CoordinatorSystem} {row : SeedJobRow}

private theorem sf_environment {e : SeedEvent} {row' : SeedJobRow} (hcoh : Coherent row)
    (he : e.isOutcome = true ∨ ∃ now, e = .reap now) (hs : SeedRowStep e jobId row row') (now : Int) :
    RowFenced now row row' := by
  cases hs with
  | same => exact sf_refl hcoh
  | finish outcome isOpen inFlight => exact sf_finished _ _ _ _
  | reap event stale => exact sf_finished .failed _ _ _
  | progress event | archive event | renew event =>
    rcases he with he | ⟨now', he⟩
    · rw [event] at he; cases he
    · rw [event] at he; cases he

private theorem sf_cleaned (hrow : s.db jobId = some row) (hcoh : Coherent row) (archive : Json) :
    ∃ row', (updateSeedJobArchive s.db jobId archive s.now).1 jobId = some row' ∧ RowFenced s.now row row' := by
  refine ⟨{ row with archive := archive, updatedAt := s.now }, ?_, sf_archive hcoh archive s.now⟩
  rw [updateSeedJobArchive, Table.updateWhere_accepted hrow rfl]
  exact Table.put_self

private theorem sf_guarded {owner : String} {db' : SeedDb} (hrow : s.db jobId = some row) (hcoh : Coherent row)
    (h : GuardedWrite jobId s.db s.now owner db') : ∃ row', db' jobId = some row' ∧ RowFenced s.now row row' := by
  rcases h with rfl | ⟨r, row', hr, -, hs, rfl⟩
  · exact ⟨row, hrow, sf_refl hcoh⟩
  · obtain rfl : row = r := Table.unique hrow hr
    exact ⟨row', Table.put_self, hs⟩

theorem runStep_rowFenced (hrow : s.db jobId = some row) (hcoh : Coherent row) (run : CoordinatorRun)
    (e : CoordinatorEvent) :
    ∃ row', (s.runStep jobId run e).1 jobId = some row' ∧ RowFenced s.now row row' := by
  by_cases hcl : ∃ r result, e = .cleaned r result
  · obtain ⟨r, result, rfl⟩ := hcl
    simp only [CoordinatorSystem.runStep, CoordinatorSystem.recordCleanup]
    split
    · exact sf_cleaned hrow hcoh _
    · exact ⟨row, hrow, sf_refl hcoh⟩
  · exact sf_guarded hrow hcoh (runStep_guarded run e fun r result h => hcl ⟨r, result, h⟩)

theorem step_rowFenced (hrow : s.db jobId = some row) (hcoh : Coherent row) (e : CoordinatorEvent)
    (hcl : (s.step jobId e).claims = s.claims) :
    ∃ row', (s.step jobId e).db jobId = some row' ∧ RowFenced s.now row row' := by
  have hadv : ∀ r, ∃ row', (s.advance jobId r e).db jobId = some row' ∧ RowFenced s.now row row' := by
    intro r
    unfold CoordinatorSystem.advance
    split
    · exact ⟨row, hrow, sf_refl hcoh⟩
    · rename_i run hrun
      exact runStep_rowFenced hrow hcoh run e
  cases e with
  | claim r owner leaseMs =>
    rcases @claim_cases jobId s r owner leaseMs with h | ⟨job, outcome, -, -, h⟩ | ⟨r', progress, expiresAt, job, -, -, -, -, -, h⟩
    · rw [CoordinatorSystem.step, h]; exact ⟨row, hrow, sf_refl hcoh⟩
    · rw [CoordinatorSystem.step, h]; exact ⟨row, hrow, sf_refl hcoh⟩
    · rw [CoordinatorSystem.step, h] at hcl
      exact absurd hcl (List.cons_ne_self r s.claims)
  | delete r key =>
    refine ⟨row, ?_, sf_refl hcoh⟩
    simp only [CoordinatorSystem.step, CoordinatorSystem.delete]
    split
    · split <;> exact hrow
    · exact hrow
  | cancel principal =>
    obtain ⟨row', hrow', hs⟩ := seedStep_row (.cancel principal jobId s.now) hrow
    exact ⟨row', hrow', sf_environment hcoh (.inl rfl) hs s.now⟩
  | reap =>
    obtain ⟨row', hrow', hs⟩ := seedStep_row (.reap s.now) hrow
    exact ⟨row', hrow', sf_environment hcoh (.inr ⟨_, rfl⟩) hs s.now⟩
  | elapse ms => exact ⟨row, hrow, sf_refl hcoh⟩
  | startSide r | enter r | report r | sideReturned r | sideThrew r | runThrew r | finish r | cleanup r | cleaned r =>
    exact hadv r

end System

structure RunFenced (row : SeedJobRow) (now : Int) (run : CoordinatorRun) : Prop where
  lost : run.leaseLost = true → Gone row run.owner now
  past : ∀ outcome job, run.control = .cleanup outcome job → Gone row run.owner now
  deleting : ∀ outcome facts keys, run.control = .deleting outcome facts keys → isTerminalSeedPhase row.phase = true

theorem RunFenced.later {row : SeedJobRow} {now later : Int} {run : CoordinatorRun} (h : RunFenced row now run)
    (hle : now ≤ later) : RunFenced row later run where
  lost hl := (h.lost hl).later hle
  past outcome job hc := (h.past outcome job hc).later hle
  deleting := h.deleting

theorem RunFenced.row {now : Int} {row row' : SeedJobRow} {run : CoordinatorRun} (h : RunFenced row now run)
    (hs : RowFenced now row row') : RunFenced row' now run where
  lost hl := (h.lost hl).step hs
  past outcome job hc := (h.past outcome job hc).step hs
  deleting outcome facts keys hc := hs.ended (h.deleting outcome facts keys hc)

section Own

variable {jobId : String} {s : CoordinatorSystem} {row row' : SeedJobRow} {run run' : CoordinatorRun} {now : Int}

private theorem sf_same (h : RunFenced row now run) (hw : run'.owner = run.owner)
    (hlost : run'.leaseLost = run.leaseLost) (hctl : run'.control = run.control) : RunFenced row now run' := by
  refine ⟨?_, ?_, ?_⟩
  · rw [hlost, hw]; exact h.lost
  · rw [hctl, hw]; exact h.past
  · rw [hctl]; exact h.deleting

private theorem sf_running (hw : run'.owner = run.owner) (hlost : run'.leaseLost = true → Gone row run.owner now)
    (hcl : ∀ outcome job, run'.control ≠ .cleanup outcome job)
    (hdel : ∀ outcome facts keys, run'.control ≠ .deleting outcome facts keys) : RunFenced row now run' := by
  refine ⟨?_, ?_, ?_⟩
  · rw [hw]; exact hlost
  · intro outcome job hc; exact absurd hc (hcl outcome job)
  · intro outcome facts keys hc; exact absurd hc (hdel outcome facts keys)

variable {db : SeedDb} {owner : String}

private theorem sf_notOwned (hrow : db jobId = some row)
    (h : seedJobOwned jobId db now owner = false) : Gone row owner now := by
  rw [seedJobOwned, getSeedJob, hrow] at h
  simp only [Option.map_some, rowToSeedJob_phase, Bool.and_eq_false_iff, Bool.not_eq_false'] at h
  rcases h with h | h
  · exact .inl h
  · exact .inr h

private theorem sf_startSide (hrow : s.db jobId = some row) (h : RunFenced row s.now run) :
    RunFenced row s.now (run.startSide jobId s.db s.now) := by
  unfold CoordinatorRun.startSide
  dsimp only
  split
  · split
    · exact sf_running rfl h.lost (by simp) (by simp)
    · rename_i hrd
      exact sf_running rfl (fun _ => sf_notOwned hrow (by simpa using hrd)) (by simp) (by simp)
  · split
    · exact sf_running rfl h.lost (by simp) (by simp)
    · rename_i hrd
      exact sf_running rfl (fun _ => sf_notOwned hrow (by simpa using hrd)) (by simp) (by simp)
  · exact h

private theorem sf_none {db' : SeedDb} {set : SeedJobRow → SeedJobRow}
    (hrow : db jobId = some row) (hcoh : Coherent row)
    (hw : conditionalWrite db jobId (fun row => row.status == .running && row.inFlight && row.heldBy owner now)
      set = (db', none)) : Gone row owner now := by
  refine sf_refused hcoh ?_
  cases hg : (row.status == .running && row.inFlight && row.heldBy owner now) with
  | false => rfl
  | true =>
    rw [conditionalWrite_accepted hrow hg] at hw
    cases hw

private theorem sf_persist_lost {db : SeedDb} (hrow : db jobId = some row) (hcoh : Coherent row) (facts : Json)
    (hlost : run.leaseLost = true → Gone row run.owner now) (hs : RowFenced now row row')
    (hlost' : (run.persist jobId db now facts).2.leaseLost = true) : Gone row' run.owner now := by
  unfold CoordinatorRun.persist at hlost'
  split at hlost'
  · rename_i db' hw
    exact (sf_none hrow hcoh hw).step hs
  · exact (hlost hlost').step hs

private theorem sf_side (hrow : db jobId = some row) (hcoh : Coherent row)
    (h : RunFenced row now run) (hs : RowFenced now row row') (outcome : SeedSideOutcome) :
    RunFenced row' now (run.sideReturned jobId db now outcome).2 := by
  have hlost : run.leaseLost = true → Gone row' run.owner now := fun hl => (h.lost hl).step hs
  unfold CoordinatorRun.sideReturned
  split
  · unfold CoordinatorRun.sourceReturned
    split
    · exact sf_running rfl hlost (by simp) (by simp)
    split
    · exact sf_running rfl hlost (by simp) (by simp)
    · rename_i facts hfc
      refine sf_running (persist_owner run facts) (sf_persist_lost hrow hcoh facts h.lost hs) ?_ ?_
      · intro o job; dsimp only; split <;> simp
      · intro o f keys; dsimp only; split <;> simp
  · unfold CoordinatorRun.targetReturned
    dsimp only
    split
    · exact sf_running rfl hlost (by simp) (by simp)
    split
    · -- no facts to persist
      split
      · exact sf_running rfl hlost (by simp) (by simp)
      · exact sf_running rfl hlost (by simp) (by simp)
    · rename_i facts hfc
      have hju : run.leaseLost = true → Gone row run.owner now := h.lost
      have hlost' := @sf_persist_lost jobId row row' { run with verdict := some outcome, control := .finishing }
        now db hrow hcoh facts hju hs
      split
      · exact sf_running (persist_owner _ facts) hlost' (by simp) (by simp)
      · exact sf_running (persist_owner _ facts) hlost' (by simp) (by simp)
  · exact h.row hs

private theorem sf_sideThrew (hrow : db jobId = some row) (hcoh : Coherent row)
    (h : RunFenced row now run) (hs : RowFenced now row row') (error : String) :
    RunFenced row' now (run.sideThrew jobId db now error).2 := by
  unfold CoordinatorRun.sideThrew
  split
  · exact sf_side hrow hcoh h hs _
  · exact sf_side hrow hcoh h hs _
  · exact h.row hs

private theorem sf_runThrew (h : RunFenced row now run) (error : String) : RunFenced row now (run.runThrew error) := by
  unfold CoordinatorRun.runThrew
  split
  all_goals first
    | exact h
    | exact sf_running rfl h.lost (by simp) (by simp)

private theorem sf_unwanted {db : SeedDb} (hlost : run.leaseLost = false) :
    (run.intended jobId db).status = .completed ∨ (run.intended jobId db).status = .failed := by
  unfold CoordinatorRun.intended
  rw [hlost]
  simp only [Bool.false_eq_true, if_false]
  split
  · exact .inl rfl
  · exact .inr rfl

private theorem sf_finishing (hrow : db jobId = some row) (hcoh : Coherent row)
    (h : RunFenced row now run) (hs : RowFenced now row row')
    (hrow' : (run.finish jobId db now).1 jobId = some row') : RunFenced row' now (run.finish jobId db now).2 := by
  have hpast : ∀ outcome job, Gone row' run.owner now →
      RunFenced row' now { run with control := .cleanup outcome job } := by
    intro outcome job hgone
    refine ⟨fun hl => (h.lost hl).step hs, fun _ _ _ => hgone, ?_⟩
    intro o f keys hc
    cases hc
  have hjob : (getSeedJob db jobId).getD run.job = rowToSeedJob jobId row := by rw [getSeedJob, hrow]; rfl
  unfold CoordinatorRun.finish at hrow' ⊢
  dsimp only at hrow' ⊢
  rw [hjob] at hrow' ⊢
  split
  · -- no write is wanted
    rename_i hwant
    refine hpast _ _ (Gone.step ?_ hs)
    cases hterm : isTerminalSeedPhase row.phase with
    | true => exact .inl hterm
    | false =>
      cases hlost : run.leaseLost with
      | true => exact h.lost hlost
      | false =>
        rw [rowToSeedJob_phase, hterm] at hwant
        simp only [Bool.false_eq_true, if_false] at hwant
        rcases @sf_unwanted jobId run db hlost with hst | hst
        · rw [hst] at hwant; cases hwant
        · rw [hst] at hwant; cases hwant
  · rename_i status hwant
    rw [hwant] at hrow'
    dsimp only at hrow'
    split
    · rename_i db' hw
      exact hpast _ _ ((sf_none hrow hcoh hw).step hs)
    rename_i db' finished hw
    -- the accepted write has ended the job
    obtain ⟨r, hr, -, hdb, -⟩ := conditionalWrite_some hw
    rw [hw] at hrow'
    dsimp only at hrow'
    rw [hdb, Table.put_self] at hrow'
    refine hpast _ _ (.inl ?_)
    rw [← Option.some.inj hrow']
    rfl

private theorem sf_cleanup {outcome : SeedCoordinatorOutcome} {finalJob : SeedJob} (hrow : s.db jobId = some row)
    (hcoh : Coherent row) (h : RunFenced row s.now run) (hctl : run.control = .cleanup outcome finalJob) :
    RunFenced row s.now (run.cleanup jobId s.db s.now outcome finalJob) := by
  have hjob : (getSeedJob s.db jobId).getD finalJob = rowToSeedJob jobId row := by rw [getSeedJob, hrow]; rfl
  unfold CoordinatorRun.cleanup
  dsimp only
  rw [hjob]
  split
  · exact sf_running rfl h.lost (by simp) (by simp)
  rename_i hok
  refine ⟨h.lost, ?_, ?_⟩
  · intro o job hc
    cases hc
  intro _ _ _ _
  cases hterm : isTerminalSeedPhase row.phase with
  | true => rfl
  | false =>
    unfold Coherent at hcoh
    rw [hterm] at hcoh
    simp only [Bool.false_eq_true, if_false] at hcoh
    have hlive : row.heldBy run.owner s.now = true := by
      have hopen : row.status.isOpen = true := by rw [hcoh]; rfl
      simpa [seedCleanupAllowed, SeedJob.claimFacts, hterm, hopen, seedLeaseIsLive, SeedJobRow.heldBy] using hok
    rcases h.past outcome finalJob hctl with hgone | hgone
    · rw [hterm] at hgone; cases hgone
    · rw [hlive] at hgone; cases hgone

theorem RunFenced.own (hrow : s.db jobId = some row) (hcoh : Coherent row) (h : RunFenced row s.now run)
    (e : CoordinatorEvent) (hs : RowFenced s.now row row')
    (hrow' : (s.runStep jobId run e).1 jobId = some row') : RunFenced row' s.now (s.runStep jobId run e).2 := by
  cases e with
  | startSide r => exact (sf_startSide hrow h).row hs
  | enter r p message totals =>
    simp only [CoordinatorSystem.runStep]
    split
    · refine sf_same (h.row hs) ?_ ?_ ?_
      all_goals
        unfold CoordinatorRun.enter
        split
        · rfl
        split
        · rfl
        · split <;> rfl
    · exact h.row hs
  | report r update =>
    simp only [CoordinatorSystem.runStep, CoordinatorRun.report]
    split
    · split <;> exact h.row hs
    · exact h.row hs
  | sideReturned r outcome => exact sf_side hrow hcoh h hs outcome
  | sideThrew r error => exact sf_sideThrew hrow hcoh h hs error
  | runThrew r error => exact (sf_runThrew h error).row hs
  | finish r =>
    simp only [CoordinatorSystem.runStep] at hrow' ⊢
    split
    · rename_i hctl
      rw [hctl] at hrow'
      exact sf_finishing hrow hcoh h hs hrow'
    · exact h.row hs
  | cleanup r =>
    simp only [CoordinatorSystem.runStep]
    split
    · rename_i outcome finalJob hctl
      exact (sf_cleanup hrow hcoh h hctl).row hs
    · exact h.row hs
  | cleaned r result =>
    simp only [CoordinatorSystem.runStep, CoordinatorSystem.recordCleanup]
    split
    · exact sf_running rfl (fun hl => (h.lost hl).step hs) (by simp) (by simp)
    · exact h.row hs
  | claim | delete | cancel | reap | elapse => exact h.row hs

theorem runStep_owner (run : CoordinatorRun) (e : CoordinatorEvent) :
    (s.runStep jobId run e).2.owner = run.owner := by
  have hside : ∀ outcome, (run.sideReturned jobId s.db s.now outcome).2.owner = run.owner := by
    intro outcome
    simp only [CoordinatorRun.sideReturned, CoordinatorRun.sourceReturned, CoordinatorRun.targetReturned]
    repeat' split
    all_goals first
      | rfl
      | exact persist_owner _ _
  cases e with
  | startSide r =>
    simp only [CoordinatorSystem.runStep, CoordinatorRun.startSide]
    repeat' split
    all_goals rfl
  | enter r p message totals =>
    simp only [CoordinatorSystem.runStep, CoordinatorRun.enter]
    repeat' split
    all_goals rfl
  | report r update =>
    simp only [CoordinatorSystem.runStep, CoordinatorRun.report]
    repeat' split
    all_goals rfl
  | sideReturned r outcome => exact hside outcome
  | sideThrew r error =>
    simp only [CoordinatorSystem.runStep, CoordinatorRun.sideThrew]
    split
    · exact hside _
    · exact hside _
    · rfl
  | runThrew r error =>
    simp only [CoordinatorSystem.runStep, CoordinatorRun.runThrew]
    split <;> rfl
  | finish r =>
    simp only [CoordinatorSystem.runStep, CoordinatorRun.finish]
    repeat' split
    all_goals rfl
  | cleanup r =>
    simp only [CoordinatorSystem.runStep, CoordinatorRun.cleanup]
    repeat' split
    all_goals rfl
  | cleaned r result =>
    simp only [CoordinatorSystem.runStep, CoordinatorSystem.recordCleanup]
    split <;> rfl
  | claim | delete | cancel | reap | elapse => rfl

end Own

def NotReused (s : CoordinatorSystem) (newer : List Nat) (owner : String) : Prop :=
  ∀ k ∈ newer, ∀ later, s.runs k = some later → later.owner ≠ owner

structure FencingInv (jobId : String) (s : CoordinatorSystem) : Prop where
  row : s.claims ≠ [] → ∃ row, s.db jobId = some row ∧ Coherent row
  started : ∀ r ∈ s.claims, ∃ run, s.runs r = some run
  holder : ∀ r older run row, s.claims = r :: older → s.runs r = some run → s.db jobId = some row →
    row.leaseOwner = none ∨ row.leaseOwner = some run.owner
  fenced : ∀ newer i older run row, s.claims = newer ++ i :: older → s.runs i = some run →
    NotReused s newer run.owner → s.db jobId = some row → RunFenced row s.now run

theorem fencingInv_new (jobId : String) (db : SeedDb) (now : Int) (relay : List String) :
    FencingInv jobId (newCoordinatorSystem db now relay) := by
  refine ⟨fun h => absurd rfl h, ?_, ?_, ?_⟩
  · intro r hr; cases hr
  · intro r older run row h; cases h
  intro newer i older run row h
  have hlen := congrArg List.length h
  simp [newCoordinatorSystem] at hlen

section Invariant

variable {jobId : String} {s : CoordinatorSystem}

private theorem sf_runs_kept (e : CoordinatorEvent) {r : Nat} {run : CoordinatorRun} (h : s.runs r = some run) :
    ∃ run', (s.step jobId e).runs r = some run' ∧ run'.owner = run.owner := by
  rcases @step_run jobId s e r with hsame | ⟨owner, leaseMs, job, control, hnone, -, -⟩ | ⟨run', hrun', -, hstep⟩
  · exact ⟨run, by rw [hsame, h], rfl⟩
  · rw [h] at hnone; cases hnone
  · obtain rfl : run = run' := Table.unique h hrun'
    exact ⟨(s.runStep jobId run e).2, by rw [hstep]; exact Table.put_self, runStep_owner run e⟩

private theorem sf_now (e : CoordinatorEvent) : s.now ≤ (s.step jobId e).now := by
  have hadv : ∀ r, (s.advance jobId r e).now = s.now := by
    intro r
    unfold CoordinatorSystem.advance
    split <;> rfl
  cases e with
  | claim r owner leaseMs =>
    rcases @claim_cases jobId s r owner leaseMs with h | ⟨job, outcome, -, -, h⟩ |
      ⟨row, progress, expiresAt, job, -, -, -, -, -, h⟩
    all_goals rw [CoordinatorSystem.step, h]
  | delete r key =>
    simp only [CoordinatorSystem.step, CoordinatorSystem.delete]
    split
    · split <;> exact Int.le_refl _
    · exact Int.le_refl _
  | cancel | reap => exact Int.le_refl _
  | elapse ms => simp only [CoordinatorSystem.step]; omega
  | startSide r | enter r | report r | sideReturned r | sideThrew r | runThrew r | finish r | cleanup r | cleaned r =>
    exact Int.le_of_eq (hadv r).symm

private theorem sf_claims (e : CoordinatorEvent) (h : (s.step jobId e).claims ≠ s.claims) :
    ∃ r owner lease row progress expiresAt job, s.runs r = none ∧ s.db jobId = some row ∧ row.inFlight = true ∧
      s.step jobId e =
        { s with
          db := s.db.put jobId (row.withProgress progress owner expiresAt)
          runs := s.runs.put r (CoordinatorSystem.newRun owner lease job .sourceReady)
          claims := r :: s.claims } := by
  have hadv : ∀ r, (s.advance jobId r e).claims = s.claims := by
    intro r
    unfold CoordinatorSystem.advance
    split <;> rfl
  cases e with
  | claim r owner leaseMs =>
    rcases @claim_cases jobId s r owner leaseMs with hc | ⟨job, outcome, -, -, hc⟩ |
      ⟨row, progress, expiresAt, job, hnone, hrow, -, hfl, -, hc⟩
    · rw [CoordinatorSystem.step, hc] at h; exact absurd rfl h
    · rw [CoordinatorSystem.step, hc] at h; exact absurd rfl h
    · exact ⟨r, owner, _, row, progress, expiresAt, job, hnone, hrow, hfl, hc⟩
  | delete r key =>
    refine absurd ?_ h
    simp only [CoordinatorSystem.step, CoordinatorSystem.delete]
    split
    · split <;> rfl
    · rfl
  | cancel | reap | elapse => exact absurd rfl h
  | startSide r | enter r | report r | sideReturned r | sideThrew r | runThrew r | finish r | cleanup r | cleaned r =>
    exact absurd (hadv r) h

private theorem sf_inv_step (h : FencingInv jobId s) (e : CoordinatorEvent)
    (hcl : (s.step jobId e).claims = s.claims) : FencingInv jobId (s.step jobId e) := by
  have hrow : s.claims ≠ [] → ∃ row row', s.db jobId = some row ∧ Coherent row ∧
      (s.step jobId e).db jobId = some row' ∧ RowFenced s.now row row' := by
    intro hne
    obtain ⟨row, hrow, hcoh⟩ := h.row hne
    obtain ⟨row', hrow', hs⟩ := step_rowFenced hrow hcoh e hcl
    exact ⟨row, row', hrow, hcoh, hrow', hs⟩
  refine ⟨?_, ?_, ?_, ?_⟩
  · rw [hcl]
    intro hne
    obtain ⟨row, row', -, -, hrow', hs⟩ := hrow hne
    exact ⟨row', hrow', hs.coherent⟩
  · rw [hcl]
    intro r hr
    obtain ⟨run, hrun⟩ := h.started r hr
    obtain ⟨run', hrun', -⟩ := @sf_runs_kept jobId s e r run hrun
    exact ⟨run', hrun'⟩
  · rw [hcl]
    intro r older run' row'' hc hrun' hrow''
    obtain ⟨row, row', hrow, -, hrow', hs⟩ := hrow (by rw [hc]; simp)
    obtain rfl : row' = row'' := Table.unique hrow' hrow''
    obtain ⟨run, hrun⟩ := h.started r (by rw [hc]; simp)
    obtain ⟨kept, hkept, hw⟩ := @sf_runs_kept jobId s e r run hrun
    obtain rfl : kept = run' := Table.unique hkept hrun'
    rcases hs.holder with hsame | hnone
    · rw [hsame, hw]; exact h.holder r older run row hc hrun hrow
    · exact .inl hnone
  · rw [hcl]
    intro newer i older run' row'' hc hrun' hre hrow''
    obtain ⟨row, row', hrow, hcoh, hrow', hs⟩ := hrow (by rw [hc]; simp)
    obtain rfl : row' = row'' := Table.unique hrow' hrow''
    obtain ⟨run, hrun⟩ := h.started i (by rw [hc]; simp)
    obtain ⟨kept, hkept, hw⟩ := @sf_runs_kept jobId s e i run hrun
    obtain rfl : kept = run' := Table.unique hkept hrun'
    have hfe : RunFenced row s.now run := by
      refine h.fenced newer i older run row hc hrun ?_ hrow
      intro k hk later hla
      obtain ⟨later', hla', hlaterOwner⟩ := @sf_runs_kept jobId s e k later hla
      rw [← hlaterOwner, ← hw]
      exact hre k hk later' hla'
    rcases @step_run jobId s e i with hsame | ⟨owner, leaseMs, job, control, hnone, -, -⟩ | ⟨old, hold, -, hstep⟩
    · obtain rfl : run = kept := by rw [hsame, hrun] at hkept; exact Option.some.inj hkept
      exact (hfe.row hs).later (sf_now e)
    · rw [hrun] at hnone; cases hnone
    obtain rfl : run = old := Table.unique hrun hold
    have hown := hfe.own hrow hcoh e hs (by rw [hstep] at hrow'; exact hrow')
    have hkept' : (s.runStep jobId run e).2 = kept := by rw [hstep] at hkept; simpa using hkept
    have hnow : (s.step jobId e).now = s.now := by rw [hstep]
    rw [hnow, ← hkept']
    exact hown

private theorem sf_inv_claim (h : FencingInv jobId s) {r : Nat} {owner : String} {lease : Int} {row : SeedJobRow}
    {progress : SeedJobProgress} {expiresAt : Int} {job : SeedJob} (hnone : s.runs r = none)
    (hrow : s.db jobId = some row) (hfl : row.inFlight = true) :
    FencingInv jobId { s with
      db := s.db.put jobId (row.withProgress progress owner expiresAt)
      runs := s.runs.put r (CoordinatorSystem.newRun owner lease job .sourceReady)
      claims := r :: s.claims } := by
  have hfr : r ∉ s.claims := by
    intro hr
    obtain ⟨run, hrun⟩ := h.started r hr
    rw [hnone] at hrun
    cases hrun
  have ho : ∀ k ∈ s.claims, (s.runs.put r (CoordinatorSystem.newRun owner lease job .sourceReady)) k =
      s.runs k := by
    intro k hk
    exact Table.put_of_ne fun heq => hfr (heq ▸ hk)
  refine ⟨fun _ => ⟨_, Table.put_self, ?_⟩, ?_, ?_, ?_⟩
  · simp [Coherent, SeedJobRow.withProgress, isTerminalSeedPhase]
  · intro k hk
    rcases List.mem_cons.1 hk with rfl | hk
    · exact ⟨_, Table.put_self⟩
    dsimp only
    rw [ho k hk]
    exact h.started k hk
  · intro k older run row' hc hrun hrow'
    obtain ⟨rfl, -⟩ := List.cons.inj hc
    dsimp only at hrun hrow'
    rw [Table.put_self] at hrun hrow'
    cases hrun
    cases hrow'
    exact .inr rfl
  · intro newer i older run row' hc hrun hre hrow'
    dsimp only at hc hrun hrow'
    rw [Table.put_self] at hrow'
    cases hrow'
    cases newer with
    | nil =>
      obtain ⟨rfl, -⟩ := List.cons.inj hc
      rw [Table.put_self] at hrun
      cases hrun
      exact sf_running rfl (fun hl => by cases hl) (by simp [CoordinatorSystem.newRun])
        (by simp [CoordinatorSystem.newRun])
    | cons k newer =>
      rw [List.cons_append] at hc
      obtain ⟨rfl, hrest⟩ := List.cons.inj hc
      rw [ho i (by rw [hrest]; simp)] at hrun
      have hfe : RunFenced row s.now run := by
        refine h.fenced newer i older run row hrest hrun ?_ hrow
        intro k' hk' later hla
        refine hre k' (.tail _ hk') later ?_
        dsimp only
        rw [ho k' (by rw [hrest]; simp [hk'])]
        exact hla
      have hw : owner ≠ run.owner := hre r (.head _) _ Table.put_self
      -- the lease now names the other owner
      have hgone : ∀ now, Gone (row.withProgress progress owner expiresAt) run.owner now := by
        intro now
        exact .inr (by simp [SeedJobRow.heldBy, SeedJobRow.withProgress, hw])
      refine ⟨fun _ => hgone _, fun _ _ _ => hgone _, ?_⟩
      intro o f keys hctl
      have hnd := hfe.deleting o f keys hctl
      simp only [SeedJobRow.inFlight, Bool.not_eq_true'] at hfl
      rw [hfl] at hnd
      cases hnd

theorem FencingInv.step (h : FencingInv jobId s) (e : CoordinatorEvent) : FencingInv jobId (s.step jobId e) := by
  by_cases hcl : (s.step jobId e).claims = s.claims
  · exact sf_inv_step h e hcl
  obtain ⟨r, owner, lease, row, progress, expiresAt, job, hnone, hrow, hfl, hstep⟩ := sf_claims e hcl
  rw [hstep]
  exact sf_inv_claim h hnone hrow hfl

/-- The lease is not an earlier run's. -/
theorem FencingInv.not_held (h : FencingInv jobId s) {newer older : List Nat} {i : Nat} {owner : String}
    {row : SeedJobRow} (hcl : s.claims = newer ++ i :: older) (hnew : newer ≠ [])
    (hre : NotReused s newer owner) (hrow : s.db jobId = some row) : row.heldBy owner s.now = false := by
  obtain ⟨last, newer', rfl⟩ := List.exists_cons_of_ne_nil hnew
  obtain ⟨later, hla⟩ := h.started last (by rw [hcl]; simp)
  have hne : later.owner ≠ owner := hre last (.head _) later hla
  rcases h.holder last (newer' ++ i :: older) later row hcl hla hrow with hfree | hheld
  · simp [SeedJobRow.heldBy, hfree]
  · simp [SeedJobRow.heldBy, hheld, hne]

end Invariant

/-- Along every interleaving of runs over one job, with cancellations, the reaper and the clock anywhere between:
once other runs have claimed the job after `i`, all under other owner ids, nothing run `i` does but the record of
its cleanup changes the table, and it deletes no relay object while the job has not ended. -/
theorem seed_coordinator_fencing (jobId : String) (db : SeedDb) (now : Int) (relay : List String)
    (es : List CoordinatorEvent) (s : CoordinatorSystem)
    (hs : Trace.run (CoordinatorSystem.step jobId) (newCoordinatorSystem db now relay) es = s)
    (newer older : List Nat) (i : Nat) (earlier : CoordinatorRun) (hclaims : s.claims = newer ++ i :: older)
    (hnewer : newer ≠ []) (hrun : s.runs i = some earlier) (hreused : NotReused s newer earlier.owner) :
    (∀ e, e.run? = some i → (∀ result, e ≠ .cleaned i result) → (s.step jobId e).db = s.db) ∧
    (∀ key job, getSeedJob s.db jobId = some job → isTerminalSeedPhase job.phase = false →
      (s.step jobId (.delete i key)).relay = s.relay) := by
  have hinv : FencingInv jobId s := by
    rw [← hs]
    exact run_invariant (fencingInv_new jobId db now relay) fun s e hI => hI.step e
  obtain ⟨row, hrow, hcoh⟩ := hinv.row (by rw [hclaims]; simp)
  have hnot := hinv.not_held hclaims hnewer hreused hrow
  have hw : ∀ e, (∀ r result, e ≠ .cleaned r result) → (s.runStep jobId earlier e).1 = s.db := by
    intro e he
    rcases runStep_guarded earlier e he with heq | ⟨r, row', hr, hheld, -, -⟩
    · exact heq
    obtain rfl : row = r := Table.unique hrow hr
    rw [hnot] at hheld
    cases hheld
  refine ⟨?_, ?_⟩
  · intro e he hcl
    have hadv : (s.advance jobId i e).db = s.db := by
      simp only [CoordinatorSystem.advance, hrun]
      refine hw e ?_
      rintro r result rfl
      obtain rfl : r = i := Option.some.inj he
      exact hcl result rfl
    cases e with
    | claim r owner leaseMs =>
      obtain rfl : r = i := Option.some.inj he
      simp [CoordinatorSystem.step, CoordinatorSystem.claim, hrun]
    | delete r key =>
      simp only [CoordinatorSystem.step, CoordinatorSystem.delete]
      split
      · split <;> rfl
      · rfl
    | cancel | reap | elapse => cases he
    | startSide r | enter r | report r | sideReturned r | sideThrew r | runThrew r | finish r | cleanup r
    | cleaned r =>
      obtain rfl : r = i := Option.some.inj he
      exact hadv
  · intro key job hjob hopen
    have hfe := hinv.fenced newer i older earlier row hclaims hrun hreused hrow
    simp only [CoordinatorSystem.step, CoordinatorSystem.delete, hrun, Option.map_some]
    split
    · rename_i outcome facts keys hctl
      have hnd := hfe.deleting outcome facts keys (Option.some.inj hctl)
      obtain rfl : rowToSeedJob jobId row = job := by
        rw [getSeedJob, hrow] at hjob; exact Option.some.inj hjob
      rw [rowToSeedJob_phase, hnd] at hopen
      cases hopen
    · rfl

def exampleTakeover (owner : String) : CoordinatorSystem :=
  Trace.run (CoordinatorSystem.step "job") exampleCoordinatorSystem
    [.claim 0 "alpha" none, .startSide 0, .elapse 600000, .claim 1 owner none, .startSide 1]

theorem seed_coordinator_fencing_takeover :
    ∃ earlier, (exampleTakeover "beta").runs 0 = some earlier ∧
      ∀ e, e.run? = some 0 → (∀ result, e ≠ .cleaned 0 result) →
        ((exampleTakeover "beta").step "job" e).db = (exampleTakeover "beta").db := by
  have hcl : (exampleTakeover "beta").claims = [1, 0] := by decide +kernel
  have hw : ((exampleTakeover "beta").runs 0).map CoordinatorRun.owner = some "alpha" := by decide +kernel
  have hla : ((exampleTakeover "beta").runs 1).map CoordinatorRun.owner = some "beta" := by decide +kernel
  obtain ⟨earlier, hrun, hal⟩ := Option.map_eq_some_iff.1 hw
  refine ⟨earlier, hrun, (seed_coordinator_fencing "job" _ _ _ _ _ rfl [1] [] 0 earlier hcl (by simp) hrun ?_).1⟩
  intro k hk later hk'
  obtain rfl := List.mem_singleton.1 hk
  obtain ⟨later', hla', hbeta⟩ := Option.map_eq_some_iff.1 hla
  obtain rfl : later' = later := Option.mem_unique hla' hk'
  rw [hbeta, hal]
  decide

def exampleLateCleanup : CoordinatorSystem :=
  Trace.run (CoordinatorSystem.step "job") (exampleTakeover "beta")
    [.cancel (some .master), .sideThrew 0 "stalled", .finish 0, .cleanup 0]

/-- Two ways in which an earlier run is not fenced.  When the later claim was made under the same owner id, a progress
report of the earlier run moves the phase of the job; and when the job has ended, the earlier run deletes the archive
from the relay. -/
theorem earlier_run_not_fenced :
    ((exampleTakeover "alpha").claims = [1, 0] ∧
      ((exampleTakeover "alpha").db "job").map SeedJobRow.phase = some (.phase .preflight) ∧
      (((exampleTakeover "alpha").step "job" (.enter 0 .measuringSource "" noTotals)).db "job").map
        SeedJobRow.phase = some (.phase .measuringSource)) ∧
    (exampleLateCleanup.claims = [1, 0] ∧ exampleLateCleanup.relay = ["lamasync/seed/job/payload.tar.gz"] ∧
      (exampleLateCleanup.step "job" (.delete 0 "lamasync/seed/job/payload.tar.gz")).relay = []) := by
  refine ⟨⟨?_, ?_, ?_⟩, ?_, ?_, ?_⟩
  all_goals decide +kernel

end LamaSync
