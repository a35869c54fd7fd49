import LamaSync.Daemon.Executor

/-!
# The treatment of conflicts in a run

What the two routines that treat conflicts do, as lists of events.  `applyAutomaticConflicts` treats the conflicts that
rclone has just reported, and `applyResolvedConflicts` those that were resolved on the server, before a real run with the
strategy `manual`.
-/

namespace LamaSync

def treatmentSteps (action : ConflictAction) (path : String) (ended : ConflictEnd) : List ExecutorEvent :=
  match action with
  | .localWins => [.copyto .local path]
  | .remoteWins => [.copyto .remote path]
  | .keepBoth =>
    if ended.localExists then if ended.moved then [.keepLocalConflictCopy path, .copyto .remote path] else []
    else [.copyto .remote path]

def startsCopy (action : ConflictAction) (ended : ConflictEnd) : Bool :=
  !(action = .keepBoth && ended.localExists && !ended.moved)

theorem treatConflict_runs (action : ConflictAction) (path : String) (ended : ConflictEnd) (host : Host) :
    (treatConflict action path ended).log Host.step host = treatmentSteps action path ended ∧
      (treatConflict action path ended).result Host.step host = .ok (startsCopy action ended && ended.copied) ∧
      (treatConflict action path ended).final Host.step host = host := by
  cases action with
  | localWins => exact ⟨rfl, rfl, rfl⟩
  | remoteWins => exact ⟨rfl, rfl, rfl⟩
  | keepBoth =>
    unfold treatConflict treatmentSteps startsCopy
    cases hlo : ended.localExists with
    | true =>
      cases hmv : ended.moved with
      | true | false => exact ⟨rfl, rfl, rfl⟩
    | false => exact ⟨rfl, rfl, rfl⟩

variable {action : ConflictAction} {ended : ConflictEnd}

theorem copyto_mem_treatmentSteps {path path' : String} :
    (∃ source, ExecutorEvent.copyto source path' ∈ treatmentSteps action path ended) ↔
      path' = path ∧ startsCopy action ended = true := by
  unfold treatmentSteps startsCopy
  cases action with
  | localWins => simp
  | remoteWins => simp
  | keepBoth =>
    cases ended.localExists with
    | true =>
      cases ended.moved with
      | true | false => simp
    | false => simp

section Automatic

variable {strategy : ConflictStrategy} {role : String}

def conflictSteps (strategy : ConflictStrategy) (role : String) (ends : Nat → ConflictEnd) (c : ParsedConflict × Nat) :
    List ExecutorEvent :=
  treatmentSteps (pickConflictAction strategy c.1.localMtime c.1.remoteMtime role) c.1.path (ends c.2)

def conflictTreated (strategy : ConflictStrategy) (role : String) (ends : Nat → ConflictEnd) (c : ParsedConflict × Nat) :
    Bool :=
  startsCopy (pickConflictAction strategy c.1.localMtime c.1.remoteMtime role) (ends c.2) && (ends c.2).copied

private theorem ct_automatic (env : Surroundings) (host : Host) (c : ParsedConflict × Nat) :
    let body : Exec (ParsedConflict × Bool) := do
      let treated ← treatConflict (pickConflictAction strategy c.1.localMtime c.1.remoteMtime role) c.1.path
        (env.automaticEnd c.2)
      pure (c.1, treated)
    body.log Host.step host = conflictSteps strategy role env.automaticEnd c ∧
      body.result Host.step host = .ok (c.1, conflictTreated strategy role env.automaticEnd c) ∧
      body.final Host.step host = host := by
  obtain ⟨hlog, hres, hfn⟩ := treatConflict_runs
    (pickConflictAction strategy c.1.localMtime c.1.remoteMtime role) c.1.path (env.automaticEnd c.2) host
  refine ⟨?_, ?_, ?_⟩
  · rw [Script.log_bind_pure]
    exact hlog
  · rw [Script.result_bind_of_ok hres]
    rfl
  · rw [Script.final_bind_pure]
    exact hfn

/-- What the treatment of the conflicts does, in order. -/
theorem applyAutomaticConflicts_log (env : Surroundings) (conflicts : List ParsedConflict) (host : Host) :
    (applyAutomaticConflicts conflicts strategy role env).log Host.step host =
      conflicts.zipIdx.flatMap (conflictSteps strategy role env.automaticEnd) := by
  unfold applyAutomaticConflicts
  rw [(Script.each_of_still _).1]
  · exact List.flatMap_congr fun c _ => (ct_automatic env host c).1
  intro c _
  obtain ⟨-, hres, hfn⟩ := ct_automatic env host c
  exact ⟨⟨_, hres⟩, hfn⟩

theorem applyAutomaticConflicts_result (env : Surroundings) (conflicts : List ParsedConflict) (host : Host) :
    (applyAutomaticConflicts conflicts strategy role env).result Host.step host =
      .ok (conflicts.zipIdx.map fun c => (c.1, conflictTreated strategy role env.automaticEnd c)) ∧
    (applyAutomaticConflicts conflicts strategy role env).final Host.step host = host := by
  unfold applyAutomaticConflicts
  refine ⟨Script.each_result_of_still fun c _ => (ct_automatic env host c).2, ?_⟩
  refine (Script.each_of_still fun c _ => ?_).2.2
  obtain ⟨-, hres, hfn⟩ := ct_automatic env host c
  exact ⟨⟨_, hres⟩, hfn⟩

end Automatic

def resolvedSteps (ends : Nat → ConflictEnd) (c : ResolvedConflict × Nat) : List ExecutorEvent :=
  treatmentSteps c.1.resolution.action c.1.path (ends c.2) ++
    if startsCopy c.1.resolution.action (ends c.2) && (ends c.2).copied then [.resolveConflict c.1.id] else []

private theorem ct_applyResolvedConflict (env : Surroundings) (c : ResolvedConflict × Nat) (host : Host) :
    (applyResolvedConflict env c).log Host.step host = resolvedSteps env.resolvedEnd c ∧
      (∃ a, (applyResolvedConflict env c).result Host.step host = .ok a) ∧
      (applyResolvedConflict env c).final Host.step host = host := by
  obtain ⟨hlog, hres, hfn⟩ := treatConflict_runs c.1.resolution.action c.1.path (env.resolvedEnd c.2) host
  unfold applyResolvedConflict resolvedSteps Script.final
  rw [Script.log_bind_of_ok hres, Script.result_bind_of_ok hres, hfn, hlog]
  cases hends : startsCopy c.1.resolution.action (env.resolvedEnd c.2) && (env.resolvedEnd c.2).copied with
  | true | false =>
    refine ⟨rfl, ⟨(), rfl⟩, ?_⟩
    rw [Trace.run_append, ← hlog]
    exact congrArg (fun host => Trace.run Host.step host _) hfn

theorem applyResolvedConflicts_runs (env : Surroundings) (host : Host) :
    (applyResolvedConflicts env).log Host.step host =
      ((env.resolvedConflicts.getD []).zipIdx.flatMap (resolvedSteps env.resolvedEnd)) ∧
      (applyResolvedConflicts env).result Host.step host = .ok () ∧
      (applyResolvedConflicts env).final Host.step host = host := by
  have heach : ∀ c ∈ (env.resolvedConflicts.getD []).zipIdx,
      (∃ a, (applyResolvedConflict env c).result Host.step host = .ok a) ∧
        (applyResolvedConflict env c).final Host.step host = host :=
    fun c _ => (ct_applyResolvedConflict env c host).2
  obtain ⟨hlog, ⟨_, hres⟩, hfn⟩ := Script.each_of_still heach
  unfold applyResolvedConflicts
  rw [Script.log_bind_pure, Script.result_bind_of_ok hres, Script.final_bind_pure, hlog]
  refine ⟨?_, rfl, hfn⟩
  apply List.flatMap_congr
  intro c _
  exact (ct_applyResolvedConflict env c host).1

theorem prepareRun_result {opts : ExecuteOptions} {env : Surroundings} {host : Host} :
    (prepareRun opts env).result Host.step host = preparedInputs opts env := by
  have hends : Script.wp Host.step (fun _ _ => True) (fun inputs _ => .ok inputs = preparedInputs opts env)
      (fun stop _ => .error stop = preparedInputs opts env) (prepareRun opts env) host := by
    rw [wp_prepareRun fun _ => trivial]
    cases preparedInputs opts env with
    | ok inputs | error stop => rfl
  have hres := (Script.wp_iff.1 hends).2
  cases hprep : (prepareRun opts env).result Host.step host with
  | ok inputs | error stop =>
    rw [hprep] at hres
    exact hres

end LamaSync
