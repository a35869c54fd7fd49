import LamaSync.Server.SeedCleanup

/-!
# Clean-up passes over any keys

`cleanupSeedRelayObjects` believes the record it is handed: it returns at once when the record says `cleaned`, it passes
over every key the record names, and it asks the validator about a key without naming the job.  `cleanup_passes_iff` says
for which keys and which records the passes of a clean-up keep to their job, report nothing that is still stored, and come
to an end once the store answers.
-/

namespace LamaSync

open Trace

/-- The objects of the relay, and the record that one pass hands to the next. -/
structure CleanupState where
  objects : ObjectSpace
  cleanup : SeedRelayCleanup

structure CleanupTry (store : SeedRelayStore) (keys : List String) where
  calls : List (String × store.Fate)
  requested : calls.map Prod.fst = keys
  now : Int

section Passes

variable (store : SeedRelayStore)

def askedKeys (pass : CleanupPass) : List (String × store.Fate) → List String
  | [] => []
  | call :: calls =>
    (if pass.deleted.contains call.1 || (seedRelayKeyError call.1 none).isSome then [] else [call.1]) ++
      askedKeys (pass.visit store call.1 call.2) calls

def CleanupState.asks (s : CleanupState) (calls : List (String × store.Fate)) : List String :=
  if s.cleanup.state = .cleaned then [] else askedKeys store ⟨s.objects, s.cleanup.deletedKeys, []⟩ calls

variable {store} {keys : List String}

def CleanupTry.result (s : CleanupState) (attempt : CleanupTry store keys) : ObjectSpace × CleanupSeedRelayResult :=
  cleanupSeedRelayObjects store s.objects attempt.calls s.cleanup attempt.now

def cleanupStep (s : CleanupState) (attempt : CleanupTry store keys) : CleanupState :=
  ⟨(attempt.result s).1, (attempt.result s).2.cleanup⟩

def CleanupTry.Answered (attempt : CleanupTry store keys) : Prop :=
  ∀ call ∈ attempt.calls, ∀ objects, (store.delete objects call.1 call.2).2.problem = none

structure PassKeeps (jobId : String) (s : CleanupState) (attempt : CleanupTry store keys) : Prop where
  ownKeys : ∀ key ∈ s.asks store attempt.calls, seedRelayKeyError key (some jobId) = none
  absent : ∀ key ∈ (attempt.result s).2.deleted, (attempt.result s).1 key = none
  complete : (attempt.result s).2.complete = true → ∀ key ∈ keys, (attempt.result s).1 key = none
  ends : attempt.Answered → (attempt.result s).2.complete = true

end Passes

/-- The record and the requested keys of a clean-up that does what it says: a record of a finished clean-up leaves no
requested key in the store; any other names only absent keys, and the requested keys that it does not name are the job's. -/
def CleanupInOrder (jobId : String) (keys : List String) (s : CleanupState) : Prop :=
  if s.cleanup.state = .cleaned then ∀ key ∈ keys, s.objects key = none
  else (∀ key ∈ s.cleanup.deletedKeys, s.objects key = none) ∧
    ∀ key ∈ keys, key ∉ s.cleanup.deletedKeys → seedRelayKeyError key (some jobId) = none

section Visits

variable {store : SeedRelayStore} {pass : CleanupPass} {key : String} {fate : store.Fate}
  {call : String × store.Fate} {calls : List (String × store.Fate)}

theorem visitAll_cons : pass.visitAll store (call :: calls) = (pass.visit store call.1 call.2).visitAll store calls := rfl

theorem visit_recorded (h : key ∈ pass.deleted) : pass.visit store key fate = pass :=
  if_pos (List.contains_iff_mem.2 h)

theorem deleted_subset_visit : pass.deleted ⊆ (pass.visit store key fate).deleted := by
  unfold CleanupPass.visit
  split
  · exact List.Subset.refl _
  split
  · exact List.Subset.refl _
  · dsimp only
    split
    · exact List.subset_append_left _ _
    · exact List.Subset.refl _

theorem visit_failures_or (pass : CleanupPass) (key : String) (fate : store.Fate) :
    (pass.visit store key fate).failures ≠ [] ∨
      (pass.visit store key fate).failures = pass.failures ∧ key ∈ (pass.visit store key fate).deleted := by
  unfold CleanupPass.visit
  split
  · rename_i hmem
    exact .inr ⟨rfl, List.contains_iff_mem.1 hmem⟩
  split
  · exact .inl (by simp)
  · dsimp only
    split
    · exact .inr ⟨rfl, by simp⟩
    · exact .inl (by simp)

theorem failures_visit_ne (h : pass.failures ≠ []) : (pass.visit store key fate).failures ≠ [] := by
  rcases visit_failures_or pass key fate with hne | ⟨hsame, -⟩
  · exact hne
  · rw [hsame]
    exact h

theorem visit_absent (h : ∀ k ∈ pass.deleted, pass.objects k = none) :
    ∀ k ∈ (pass.visit store key fate).deleted, (pass.visit store key fate).objects k = none := by
  intro k hk
  by_cases hmem : key ∈ pass.deleted
  · rw [visit_recorded hmem] at hk ⊢
    exact h k hk
  by_cases hkey : k = key
  · subst hkey
    have hconf : deleteProblem store pass.objects pass.deleted k fate = none := by
      have hnot : ¬pass.deleted.contains k = true := by simpa using hmem
      unfold CleanupPass.visit at hk
      unfold deleteProblem
      rw [if_neg hnot] at hk ⊢
      cases hprob : seedRelayKeyError k none with
      | some error =>
        rw [hprob] at hk
        exact absurd hk hmem
      | none =>
        rw [hprob] at hk
        cases hrp : (store.delete pass.objects k fate).2.problem with
        | none => rfl
        | some error =>
          dsimp only at hk
          rw [hrp] at hk
          exact absurd hk hmem
    exact (visit_self hconf).2 (.inr hmem)
  · rw [(visit_other hkey).1]
    exact h k ((visit_other hkey).2.1 hk)

theorem deleted_subset_visitAll (pass : CleanupPass) (calls : List (String × store.Fate)) :
    pass.deleted ⊆ (pass.visitAll store calls).deleted := by
  induction calls generalizing pass with
  | nil => exact List.Subset.refl _
  | cons call calls ih =>
    rw [visitAll_cons]
    exact List.Subset.trans deleted_subset_visit (ih _)

theorem visitAll_absent (calls : List (String × store.Fate)) (h : ∀ k ∈ pass.deleted, pass.objects k = none) :
    ∀ k ∈ (pass.visitAll store calls).deleted, (pass.visitAll store calls).objects k = none := by
  induction calls generalizing pass with
  | nil => exact h
  | cons call calls ih =>
    rw [visitAll_cons]
    exact ih (visit_absent h)

theorem visitAll_recorded (pass : CleanupPass) (calls : List (String × store.Fate)) (h : key ∈ pass.deleted) :
    (pass.visitAll store calls).objects key = pass.objects key := by
  induction calls generalizing pass with
  | nil => rfl
  | cons call calls ih =>
    rw [visitAll_cons, ih _ (deleted_subset_visit h)]
    by_cases hkey : key = call.1
    · rw [visit_recorded (hkey ▸ h)]
    · exact (visit_other hkey).1

theorem failures_visitAll_ne (calls : List (String × store.Fate)) (h : pass.failures ≠ []) :
    (pass.visitAll store calls).failures ≠ [] := by
  induction calls generalizing pass with
  | nil => exact h
  | cons call calls ih => exact ih (failures_visit_ne h)

theorem deleted_of_no_failures (h : (pass.visitAll store calls).failures = []) :
    ∀ call ∈ calls, call.1 ∈ (pass.visitAll store calls).deleted := by
  induction calls generalizing pass with
  | nil => simp
  | cons call calls ih =>
    rw [visitAll_cons] at h ⊢
    rintro later (_ | ⟨_, hla⟩)
    · rcases visit_failures_or pass call.1 call.2 with hne | ⟨-, hmem⟩
      · exact absurd h (failures_visitAll_ne calls hne)
      · exact deleted_subset_visitAll _ calls hmem
    · exact ih h later hla

theorem mem_askedKeys (h : key ∈ askedKeys store pass calls) :
    key ∈ calls.map Prod.fst ∧ key ∉ pass.deleted ∧ seedRelayKeyError key none = none := by
  induction calls generalizing pass with
  | nil => cases h
  | cons call calls ih =>
    rw [askedKeys, List.mem_append] at h
    rcases h with hnow | hla
    · split at hnow
      · cases hnow
      · rename_i hnot
        obtain rfl := List.mem_singleton.1 hnow
        rw [Bool.or_eq_true, not_or] at hnot
        exact ⟨by simp, by simpa using hnot.1, by simpa using hnot.2⟩
    · obtain ⟨hmem, hnew, hkey⟩ := ih hla
      exact ⟨.tail _ hmem, fun hdel => hnew (deleted_subset_visit hdel), hkey⟩

theorem asked_of_no_failures (h : (pass.visitAll store calls).failures = []) (hmem : key ∈ calls.map Prod.fst)
    (hnew : key ∉ pass.deleted) : key ∈ askedKeys store pass calls := by
  induction calls generalizing pass with
  | nil => cases hmem
  | cons call calls ih =>
    rw [askedKeys, List.mem_append]
    rw [visitAll_cons] at h
    by_cases hkey : key = call.1
    · left
      subst hkey
      have hv : (seedRelayKeyError call.1 none).isSome = false := by
        rw [← Bool.not_eq_true, Option.isSome_iff_exists]
        rintro ⟨error, her⟩
        have hfl : (pass.visit store call.1 call.2).failures ≠ [] := by
          unfold CleanupPass.visit
          rw [if_neg (by simpa using hnew), her]
          simp
        exact failures_visitAll_ne calls hfl h
      rw [if_neg (by simpa [hv] using hnew)]
      exact List.mem_singleton.2 rfl
    · right
      have hla : key ∈ calls.map Prod.fst := by
        rw [List.map_cons, List.mem_cons] at hmem
        exact hmem.resolve_left hkey
      exact ih h hla fun hdel => hnew ((visit_other hkey).2.1 hdel)

theorem no_failures (hpass : pass.failures = []) (hans : ∀ call ∈ calls, ∀ objects,
      (store.delete objects call.1 call.2).2.problem = none)
    (hkeys : ∀ call ∈ calls, call.1 ∉ pass.deleted → seedRelayKeyError call.1 none = none) :
    (pass.visitAll store calls).failures = [] := by
  induction calls generalizing pass with
  | nil => exact hpass
  | cons call calls ih =>
    rw [visitAll_cons]
    refine ih ?_ (fun later hla => hans later (.tail _ hla)) fun later hla hnew =>
      hkeys later (.tail _ hla) fun hdel => hnew (deleted_subset_visit hdel)
    have hprob : deleteProblem store pass.objects pass.deleted call.1 call.2 = none := by
      unfold deleteProblem
      split
      · rfl
      rename_i hnew
      rw [hkeys call (.head _) (by simpa using hnew), hans call (.head _)]
      rfl
    rw [visit_failures, hpass, hprob]
    rfl

end Visits

section Runs

variable {store : SeedRelayStore} {keys : List String} {jobId : String} {s : CleanupState}
  {attempt : CleanupTry store keys}

def CleanupTry.pass (s : CleanupState) (attempt : CleanupTry store keys) : CleanupPass :=
  CleanupPass.visitAll store ⟨s.objects, s.cleanup.deletedKeys, []⟩ attempt.calls

theorem result_open (attempt : CleanupTry store keys) (hopen : s.cleanup.state ≠ .cleaned) :
    (attempt.result s).1 = (attempt.pass s).objects ∧ (attempt.result s).2.deleted = (attempt.pass s).deleted ∧
      (attempt.result s).2.cleanup.deletedKeys = (attempt.pass s).deleted ∧
      ((attempt.result s).2.complete = true ↔ (attempt.pass s).failures = []) ∧
      ((attempt.result s).2.cleanup.state = .cleaned ↔ (attempt.pass s).failures = []) := by
  unfold CleanupTry.result cleanupSeedRelayObjects
  rw [if_neg hopen]
  dsimp only
  cases hfl : (attempt.pass s).failures with
  | nil | cons failure failures =>
    unfold CleanupTry.pass at hfl ⊢
    rw [hfl]
    simp

theorem result_cleaned (attempt : CleanupTry store keys) (hcl : s.cleanup.state = .cleaned) :
    attempt.result s = (s.objects, ⟨s.cleanup, [], true, none⟩) :=
  if_pos hcl

theorem requested_iff (attempt : CleanupTry store keys) {key : String} : key ∈ keys ↔ key ∈ attempt.calls.map Prod.fst := by
  rw [attempt.requested]

theorem passKeeps_of_inOrder (h : CleanupInOrder jobId keys s) :
    PassKeeps jobId s attempt ∧ CleanupInOrder jobId keys (cleanupStep s attempt) := by
  unfold CleanupInOrder at h
  by_cases hcl : s.cleanup.state = .cleaned
  · rw [if_pos hcl] at h
    have hres := result_cleaned attempt hcl
    constructor
    · constructor
      · simp [CleanupState.asks, hcl]
      · simp [hres]
      · rw [hres]
        exact fun _ => h
      · simp [hres]
    · simp only [CleanupInOrder, cleanupStep, hres, if_pos hcl]
      exact h
  rw [if_neg hcl] at h
  obtain ⟨hrec, hown⟩ := h
  obtain ⟨hobjs, hdel, hkeys, hcomp, hs⟩ := result_open attempt hcl
  have hab : ∀ key ∈ (attempt.pass s).deleted, (attempt.pass s).objects key = none :=
    visitAll_absent attempt.calls hrec
  have hall : (attempt.pass s).failures = [] → ∀ key ∈ keys, (attempt.pass s).objects key = none := by
    intro hnone key hkey
    obtain ⟨call, hcall, rfl⟩ := List.mem_map.1 ((requested_iff attempt).1 hkey)
    exact hab _ (deleted_of_no_failures hnone call hcall)
  constructor
  · constructor
    · intro key hkey
      rw [CleanupState.asks, if_neg hcl] at hkey
      obtain ⟨hmem, hnew, -⟩ := mem_askedKeys hkey
      exact hown key ((requested_iff attempt).2 hmem) hnew
    · rw [hdel, hobjs]
      exact hab
    · rw [hcomp, hobjs]
      exact hall
    · intro hans
      rw [hcomp]
      refine no_failures rfl hans fun call hcall hnew => seedRelayKeyError_of_job (hown call.1 ?_ hnew)
      exact (requested_iff attempt).2 (List.mem_map_of_mem hcall)
  · unfold CleanupInOrder cleanupStep
    dsimp only
    rw [hobjs]
    by_cases hfin : (attempt.pass s).failures = []
    · rw [if_pos (hs.2 hfin)]
      exact hall hfin
    · rw [if_neg fun hmark => hfin (hs.1 hmark), hkeys]
      exact ⟨hab, fun key hkey hnew => hown key hkey fun hmem => hnew (deleted_subset_visitAll _ _ hmem)⟩

def obedientStore : SeedRelayStore where
  kind := "local-fs"
  Fate := Unit
  delete objects key _ := (objects.erase key, .answered (.success ⟨true, false⟩))
  confirmed _ _ _ _ := Table.erase_self
  others _ _ _ _ hne := Table.erase_of_ne hne
  reply_congr _ _ _ _ _ := rfl

def obedientTry (keys : List String) (now : Int) : CleanupTry obedientStore keys where
  calls := keys.map fun key => (key, ())
  requested := by simp [Function.comp_def]
  now := now

theorem inOrder_of_passKeeps (h : PassKeeps jobId s (obedientTry keys 0)) : CleanupInOrder jobId keys s := by
  unfold CleanupInOrder
  by_cases hcl : s.cleanup.state = .cleaned
  · rw [if_pos hcl]
    have hres := result_cleaned (obedientTry keys 0) hcl
    have hcomp := h.complete
    rw [hres] at hcomp
    exact hcomp rfl
  rw [if_neg hcl]
  obtain ⟨hobjs, hdel, -, hcomp, -⟩ := result_open (obedientTry keys 0) hcl
  have hfin : ((obedientTry keys 0).pass s).failures = [] := by
    rw [← hcomp]
    exact h.ends fun _ _ _ => rfl
  constructor
  · intro key hkey
    have hgone := h.absent key
    rw [hdel, hobjs] at hgone
    have hsy := visitAll_recorded ⟨s.objects, s.cleanup.deletedKeys, []⟩ (obedientTry keys 0).calls hkey
    exact hsy.symm.trans (hgone (deleted_subset_visitAll _ _ hkey))
  intro key hkey hnew
  have hask := asked_of_no_failures hfin ((requested_iff (obedientTry keys 0)).1 hkey) hnew
  refine h.ownKeys key ?_
  rw [CleanupState.asks, if_neg hcl]
  exact hask

end Runs

/-- Every pass of every run of clean-ups over the keys, whatever store it is made on, keeps to the job exactly when the
record and the keys are in order. -/
theorem cleanup_passes_iff (jobId : String) (keys : List String) (s : CleanupState) :
    (∀ (store : SeedRelayStore) (attempts : List (CleanupTry store keys)),
      Always cleanupStep (PassKeeps jobId) s attempts) ↔ CleanupInOrder jobId keys s := by
  constructor
  · intro h
    exact inOrder_of_passKeeps (h obedientStore [obedientTry keys 0]).1
  intro h store attempts
  have htrue : Always cleanupStep (fun (_ : CleanupState) (_ : CleanupTry store keys) => True) s attempts := always_true
  exact htrue.of_invariant h (fun s attempt hs _ => (passKeeps_of_inOrder hs).2)
    fun s attempt hs _ => (passKeeps_of_inOrder hs).1

def finishedCleanup : CleanupState where
  objects := fun key => if key = "lamasync/seed/job/payload.tar.gz" then some ⟨[1], none⟩ else none
  cleanup := ⟨.cleaned, 1, none, [], none⟩

/-- The pass reports a complete clean-up without asking for anything, and the archive is still stored. -/
theorem finished_cleanup_skips_new_key :
    let attempt := obedientTry ["lamasync/seed/job/payload.tar.gz"] 5
    (attempt.result finishedCleanup).2.complete = true ∧
      (attempt.result finishedCleanup).1 "lamasync/seed/job/payload.tar.gz" = some ⟨[1], none⟩ ∧
      ¬PassKeeps "job" finishedCleanup attempt := by
  refine ⟨rfl, by decide +kernel, fun hkp => ?_⟩
  have hgone := hkp.complete rfl "lamasync/seed/job/payload.tar.gz" (List.mem_singleton.2 rfl)
  have hstor : finishedCleanup.objects "lamasync/seed/job/payload.tar.gz" = some ⟨[1], none⟩ := by decide +kernel
  exact absurd (hstor.symm.trans hgone) (by simp)

end LamaSync
