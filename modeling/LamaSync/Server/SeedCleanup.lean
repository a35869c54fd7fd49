import LamaSync.Daemon.SeedRelayLifetime
import LamaSync.Daemon.SeedTransport
import LamaSync.Server.SeedCoordinator

/-!
# The clean-up of a job's relay objects

`cleanupJobObjects` re-reads the row of the job, hands the recorded and the derived archive key to
`cleanupSeedRelayObjects`, and records on the row what that pass says.  The pass deletes key after key; a key whose
absence the store confirms is recorded as deleted, and a pass without a failure is recorded as `cleaned`, which no
later pass takes back.

The manifest's key is not among the keys.  `cleanup_leaves_nothing_iff` says exactly when a recorded `cleaned` is true
of the archive and the manifest that the row records.
-/

namespace LamaSync

inductive DeleteReply where
  | answered (result : SeedRelayResult SeedRelayDeletion)
  | thrown (error : String)
  deriving DecidableEq

/-- Why the reply does not confirm that the object is absent. -/
def DeleteReply.problem : DeleteReply → Option String
  | .answered (.success _) => none
  | .answered (.failure error notFound) => if notFound then none else some error
  | .thrown error => some error

structure SeedRelayStore where
  kind : String
  Fate : Type
  delete : ObjectSpace → String → Fate → ObjectSpace × DeleteReply
  confirmed : ∀ objects key fate, (delete objects key fate).2.problem = none → (delete objects key fate).1 key = none
  others : ∀ objects key fate other, other ≠ key → (delete objects key fate).1 other = objects other
  reply_congr : ∀ objects objects' key fate, objects key = objects' key →
    (delete objects key fate).2 = (delete objects' key fate).2

def describeStoreFailure (storeKind error : String) : String :=
  storeKind ++ " seed relay: " ++ sliceText (String.ofList (trimSpaces (collapseSpaces false error.toList))) 200

structure CleanupPass where
  objects : ObjectSpace
  deleted : List String
  failures : List String

section Pass

variable (store : SeedRelayStore)

/-- One turn of the loop. -/
def CleanupPass.visit (pass : CleanupPass) (key : String) (fate : store.Fate) : CleanupPass :=
  if pass.deleted.contains key then pass
  else match seedRelayKeyError key none with
    | some error => { pass with failures := pass.failures ++ [key ++ ": " ++ error] }
    | none =>
      let objects := (store.delete pass.objects key fate).1
      match (store.delete pass.objects key fate).2.problem with
      | none => { pass with objects := objects, deleted := pass.deleted ++ [key] }
      | some error => { pass with objects := objects, failures := pass.failures ++ [key ++ ": " ++ error] }

def CleanupPass.visitAll (pass : CleanupPass) (keys : List (String × store.Fate)) : CleanupPass :=
  keys.foldl (fun pass call => pass.visit store call.1 call.2) pass

structure CleanupSeedRelayResult where
  cleanup : SeedRelayCleanup
  deleted : List String
  complete : Bool
  error : Option String

def readBackTime (now : Int) : Option PositiveInt := positiveIntOrNull (some (.num now))

def cleanupSeedRelayObjects (objects : ObjectSpace) (keys : List (String × store.Fate)) (cleanup : SeedRelayCleanup)
    (now : Int) : ObjectSpace × CleanupSeedRelayResult :=
  if cleanup.state = .cleaned then (objects, ⟨cleanup, [], true, none⟩)
  else
    let pass := CleanupPass.visitAll store ⟨objects, cleanup.deletedKeys, []⟩ keys
    let attempts := cleanup.attempts + 1
    match pass.failures with
    | [] => (pass.objects, {
        cleanup := ⟨.cleaned, attempts, readBackTime now, pass.deleted, none⟩
        deleted := pass.deleted
        complete := true
        error := none })
    | failure :: _ =>
      let error := describeStoreFailure store.kind failure
      (pass.objects, {
        cleanup := ⟨.failed, attempts, readBackTime now, pass.deleted, some (sliceText error 240)⟩
        deleted := pass.deleted
        complete := false
        error := some error })

structure CleanupJobReply where
  job : SeedJob
  deletedKeys : List String
  cleanup : SeedRelayCleanup
  /-- What the row was found to hold after the write; no write was tried, or no row took it, when this is `none`. -/
  updated : Option SeedJob
  message : String

def cleanupJobObjects (objects : ObjectSpace) (db later : SeedDb) (jobId owner : String) (job : SeedJob)
    (fates : String → store.Fate) (now : Int) : ObjectSpace × SeedDb × CleanupJobReply :=
  let current := (getSeedJob db jobId).getD job
  if !seedCleanupAllowed current.claimFacts owner now then
    (objects, later, {
      job := current
      deletedKeys := []
      cleanup := current.archive.cleanup
      updated := none
      message := "cleanup deferred: " ++ owner ++ " does not hold " ++ jobId ++ " and the job has not ended" })
  else
    let facts := current.archive
    let keys := (cleanupKeys jobId facts).map fun key => (key, fates key)
    let result := cleanupSeedRelayObjects store objects keys facts.cleanup now
    let updated := updateSeedJobArchive later jobId { facts with cleanup := result.2.cleanup }.toJson now
    (result.1, updated.1, {
      job := updated.2.getD current
      deletedKeys := result.2.deleted
      cleanup := result.2.cleanup
      updated := updated.2
      message := result.2.error.getD ("cleaned " ++ toString result.2.deleted.length ++ " seed object(s)") })

def SeedJobArchiveFacts.recordedKeys (facts : SeedJobArchiveFacts) : List String :=
  facts.objectKey.toList ++ facts.manifestObjectKey.toList

def LeavesNothing (call : ObjectSpace × SeedDb × CleanupJobReply) : Prop :=
  ∀ job, call.2.2.updated = some job → job.archive.cleanup.state = .cleaned →
    ∀ key ∈ job.archive.recordedKeys, call.1 key = none

/-- Why the pass does not get the absence of a key confirmed, if it asks for it. -/
def deleteProblem (objects : ObjectSpace) (deleted : List String) (key : String) (fate : store.Fate) : Option String :=
  if deleted.contains key then none
  else (seedRelayKeyError key none).or (store.delete objects key fate).2.problem

def CleanupReaches (jobId : String) (facts : SeedJobArchiveFacts) (key : String) : Prop :=
  facts.cleanup.state ≠ .cleaned ∧ key ∈ cleanupKeys jobId facts ∧ key ∉ facts.cleanup.deletedKeys

def CleanupReachesRecorded (objects : ObjectSpace) (db later : SeedDb) (jobId owner : String) (job : SeedJob)
    (fates : String → store.Fate) (now : Int) : Prop :=
  let current := (getSeedJob db jobId).getD job
  let facts := current.archive
  seedCleanupAllowed current.claimFacts owner now = false ∨ later jobId = none ∨
    (facts.cleanup.state ≠ .cleaned ∧
      ∃ key ∈ cleanupKeys jobId facts, deleteProblem store objects facts.cleanup.deletedKeys key (fates key) ≠ none) ∨
    ∀ key ∈ facts.recordedKeys, objects key ≠ none → CleanupReaches jobId facts key

end Pass

section Visits

variable {store : SeedRelayStore} {pass : CleanupPass} {key other : String} {fate : store.Fate}

theorem visit_failures : (pass.visit store key fate).failures =
    pass.failures ++ ((deleteProblem store pass.objects pass.deleted key fate).map (key ++ ": " ++ ·)).toList := by
  unfold CleanupPass.visit deleteProblem
  split
  · simp
  cases hkey : seedRelayKeyError key none with
  | some error => simp
  | none =>
    dsimp only
    cases hrp : (store.delete pass.objects key fate).2.problem <;> simp

theorem visit_other (hne : other ≠ key) :
    (pass.visit store key fate).objects other = pass.objects other ∧
      (other ∈ (pass.visit store key fate).deleted ↔ other ∈ pass.deleted) := by
  unfold CleanupPass.visit
  split
  · exact ⟨rfl, Iff.rfl⟩
  split
  · exact ⟨rfl, Iff.rfl⟩
  · have hkp := store.others pass.objects key fate other hne
    dsimp only
    split
    · exact ⟨hkp, by simp [hne]⟩
    · exact ⟨hkp, Iff.rfl⟩

theorem visit_self (hconf : deleteProblem store pass.objects pass.deleted key fate = none) :
    (pass.visit store key fate).objects key = none ↔ pass.objects key = none ∨ key ∉ pass.deleted := by
  unfold CleanupPass.visit
  unfold deleteProblem at hconf
  by_cases hdel : pass.deleted.contains key = true
  · rw [if_pos hdel]
    have hmem : key ∈ pass.deleted := by simpa using hdel
    simp [hmem]
  rw [if_neg hdel] at hconf ⊢
  have hnew : key ∉ pass.deleted := by simpa using hdel
  rw [Option.or_eq_none_iff] at hconf
  obtain ⟨hkey, hrp⟩ := hconf
  rw [hkey]
  dsimp only
  rw [hrp]
  exact iff_of_true (store.confirmed _ _ _ hrp) (.inr hnew)

theorem deleteProblem_congr {objects objects' : ObjectSpace} {deleted deleted' : List String}
    (hobjs : objects key = objects' key) (hdel : key ∈ deleted ↔ key ∈ deleted') :
    deleteProblem store objects deleted key fate = deleteProblem store objects' deleted' key fate := by
  have hco : deleted.contains key = deleted'.contains key := by
    rw [Bool.eq_iff_iff, List.contains_iff_mem, List.contains_iff_mem, hdel]
  unfold deleteProblem
  rw [hco, store.reply_congr objects objects' key fate hobjs]

variable {keys : List (String × store.Fate)}

variable (pass) in
private theorem cl_later {call : String × store.Fate} (hnew : call.1 ∉ keys.map Prod.fst) : ∀ later ∈ keys,
    deleteProblem store (pass.visit store call.1 call.2).objects (pass.visit store call.1 call.2).deleted later.1 later.2 =
      deleteProblem store pass.objects pass.deleted later.1 later.2 := by
  intro later hmem
  have hne : later.1 ≠ call.1 := fun heq => hnew (heq ▸ List.mem_map_of_mem hmem)
  exact deleteProblem_congr (visit_other hne).1 (visit_other hne).2

theorem visitAll_failures (hnd : (keys.map Prod.fst).Nodup) :
    (pass.visitAll store keys).failures = [] ↔ pass.failures = [] ∧
      ∀ call ∈ keys, deleteProblem store pass.objects pass.deleted call.1 call.2 = none := by
  induction keys generalizing pass with
  | nil => simp [CleanupPass.visitAll]
  | cons call keys ih =>
    obtain ⟨hnew, hnd⟩ := List.nodup_cons.1 hnd
    have hstep : (pass.visitAll store (call :: keys)).failures =
        ((pass.visit store call.1 call.2).visitAll store keys).failures := rfl
    rw [hstep, ih hnd, visit_failures, List.append_eq_nil_iff, List.forall_mem_cons, and_assoc]
    refine and_congr_right fun _ => and_congr ?_ ?_
    · cases deleteProblem store pass.objects pass.deleted call.1 call.2 <;> simp
    · exact forall₂_congr fun later hmem => by rw [cl_later pass hnew later hmem]

theorem visitAll_objects (hnd : (keys.map Prod.fst).Nodup)
    (hconf : ∀ call ∈ keys, deleteProblem store pass.objects pass.deleted call.1 call.2 = none) (key : String) :
    (pass.visitAll store keys).objects key = none ↔
      pass.objects key = none ∨ key ∈ keys.map Prod.fst ∧ key ∉ pass.deleted := by
  induction keys generalizing pass with
  | nil => simp [CleanupPass.visitAll]
  | cons call keys ih =>
    obtain ⟨hnew, hnd⟩ := List.nodup_cons.1 hnd
    obtain ⟨hcall, hrest⟩ := List.forall_mem_cons.1 hconf
    have hla := fun later hmem => (cl_later pass hnew later hmem).trans (hrest later hmem)
    have hstep : (pass.visitAll store (call :: keys)).objects =
        ((pass.visit store call.1 call.2).visitAll store keys).objects := rfl
    rw [hstep, ih hnd hla, List.map_cons, List.mem_cons]
    by_cases heq : key = call.1
    · subst heq
      rw [visit_self hcall]
      simp [hnew]
    · rw [(visit_other heq).1, (visit_other heq).2]
      simp [heq]

end Visits

theorem cleanupKeys_nodup (jobId : String) (facts : SeedJobArchiveFacts) : (cleanupKeys jobId facts).Nodup := by
  unfold cleanupKeys
  dsimp only
  split
  · simp
  split
  · simp
  · rename_i hne
    simpa using hne

@[simp] theorem normalizeSeedRelayCleanup_state (cleanup : SeedRelayCleanup) :
    (normalizeSeedRelayCleanup (some cleanup.toJson)).state = cleanup.state := by
  unfold normalizeSeedRelayCleanup SeedRelayCleanup.toJson
  cases hs : cleanup.state <;> rfl

section Write

variable {db : SeedDb} {jobId : String} {now : Int}

theorem updateSeedJobArchive_of_none {archive : Json} (h : db jobId = none) :
    (updateSeedJobArchive db jobId archive now).2 = none := by
  have href : ∀ row, db jobId = some row → true = false := by simp [h]
  unfold updateSeedJobArchive getSeedJob
  rw [Table.updateWhere_refused href]
  simp [h]

theorem updateSeedJobArchive_of_some {row : SeedJobRow} {facts : SeedJobArchiveFacts} (h : db jobId = some row) :
    ∃ job, (updateSeedJobArchive db jobId facts.toJson now).2 = some job ∧
      job.archive = { facts with cleanup := normalizeSeedRelayCleanup (some facts.cleanup.toJson) } := by
  refine ⟨rowToSeedJob jobId { row with archive := facts.toJson, updatedAt := now }, ?_, normalize_toJson facts _⟩
  unfold updateSeedJobArchive getSeedJob
  rw [Table.updateWhere_accepted h rfl]
  simp

end Write

section Cleanup

variable {store : SeedRelayStore} {objects : ObjectSpace} {keys : List (String × store.Fate)}
  {cleanup : SeedRelayCleanup} {now : Int}

theorem cleanupSeedRelayObjects_cleaned (hnd : (keys.map Prod.fst).Nodup) :
    let result := cleanupSeedRelayObjects store objects keys cleanup now
    (result.2.cleanup.state = .cleaned ↔ (cleanup.state ≠ .cleaned →
      ∀ call ∈ keys, deleteProblem store objects cleanup.deletedKeys call.1 call.2 = none)) ∧
    (result.2.cleanup.state = .cleaned → ∀ key, result.1 key = none ↔ objects key = none ∨
      cleanup.state ≠ .cleaned ∧ key ∈ keys.map Prod.fst ∧ key ∉ cleanup.deletedKeys) := by
  intro result
  by_cases hcl : cleanup.state = .cleaned
  · have hres : result = (objects, ⟨cleanup, [], true, none⟩) := if_pos hcl
    rw [hres]
    simp [hcl]
  have hfa := @visitAll_failures store ⟨objects, cleanup.deletedKeys, []⟩ keys hnd
  have hobjs := @visitAll_objects store ⟨objects, cleanup.deletedKeys, []⟩ keys hnd
  have hres : result = cleanupSeedRelayObjects store objects keys cleanup now := rfl
  unfold cleanupSeedRelayObjects at hres
  rw [if_neg hcl] at hres
  dsimp only at hres hfa hobjs
  cases hfl : (CleanupPass.visitAll store ⟨objects, cleanup.deletedKeys, []⟩ keys).failures with
  | nil =>
    rw [hfl] at hres hfa
    have hconf := (hfa.1 rfl).2
    rw [hres]
    refine ⟨iff_of_true rfl fun _ => hconf, fun _ key => ?_⟩
    rw [hobjs hconf key]
    simp [hcl]
  | cons failure failures =>
    rw [hfl] at hres hfa
    have hnot : ¬∀ call ∈ keys, deleteProblem store objects cleanup.deletedKeys call.1 call.2 = none := by
      intro hconf
      cases hfa.2 ⟨rfl, hconf⟩
    rw [hres]
    refine ⟨iff_of_false (by simp) fun hconf => hnot (hconf hcl), ?_⟩
    rintro ⟨⟩

end Cleanup

/-- **Completeness of the clean-up.** A clean-up that records the relay of the job as cleaned leaves neither the
recorded archive nor the recorded manifest in it exactly when it reaches those of them that are stored. -/
theorem cleanup_leaves_nothing_iff (store : SeedRelayStore) (objects : ObjectSpace) (db later : SeedDb)
    (jobId owner : String) (job : SeedJob) (fates : String → store.Fate) (now : Int) :
    LeavesNothing (cleanupJobObjects store objects db later jobId owner job fates now) ↔
      CleanupReachesRecorded store objects db later jobId owner job fates now := by
  unfold CleanupReachesRecorded cleanupJobObjects
  generalize (getSeedJob db jobId).getD job = current
  dsimp only
  cases hok : seedCleanupAllowed current.claimFacts owner now with
  | false =>
    refine iff_of_true ?_ (.inl rfl)
    rintro job' ⟨⟩
  | true =>
    have hnd : (((cleanupKeys jobId current.archive).map fun key => (key, fates key)).map Prod.fst).Nodup := by
      simpa [Function.comp_def] using cleanupKeys_nodup jobId current.archive
    obtain ⟨hma, hgone⟩ :=
      @cleanupSeedRelayObjects_cleaned store objects _ current.archive.cleanup now hnd
    simp only [List.map_map, Function.comp_def, List.map_id', List.forall_mem_map] at hma hgone
    rw [if_neg (by simp)]
    generalize cleanupSeedRelayObjects store objects _ current.archive.cleanup now = result at hma hgone
    cases hrow : later jobId with
    | none =>
      refine iff_of_true ?_ (.inr (.inl rfl))
      intro job' hsome
      rw [updateSeedJobArchive_of_none hrow] at hsome
      cases hsome
    | some row =>
      obtain ⟨job', hread, har⟩ :=
        @updateSeedJobArchive_of_some later jobId now row { current.archive with cleanup := result.2.cleanup } hrow
      have hs : job'.archive.cleanup.state = result.2.cleanup.state := by rw [har]; simp
      have hkeys : job'.archive.recordedKeys = current.archive.recordedKeys := by rw [har]; rfl
      have hcall : (∀ job'', (updateSeedJobArchive later jobId
          { current.archive with cleanup := result.2.cleanup }.toJson now).2 = some job'' →
          job''.archive.cleanup.state = .cleaned → ∀ key ∈ job''.archive.recordedKeys, result.1 key = none) ↔
          (result.2.cleanup.state = .cleaned → ∀ key ∈ current.archive.recordedKeys, result.1 key = none) := by
        rw [hread, ← hs, ← hkeys]
        simp
      refine hcall.trans ⟨fun hle => .inr (.inr ?_), ?_⟩
      · by_cases hmark : result.2.cleanup.state = .cleaned
        · -- what is gone after the pass and was stored before has been reached
          refine .inr fun key hkey hstor => ?_
          rcases (hgone hmark key).1 (hle hmark key hkey) with hnone | hr
          · exact absurd hnone hstor
          · exact hr
        · rw [hma] at hmark
          push Not at hmark
          exact .inl hmark
      · rintro (hde | hmiss | ⟨hopen, key, hkey, hprob⟩ | hre) hmark
        · cases hde
        · cases hmiss
        · exact absurd (hma.1 hmark hopen key hkey) hprob
        · intro key hkey
          rw [hgone hmark key]
          by_cases hstor : objects key = none
          · exact .inl hstor
          · exact .inr (hre key hkey hstor)

theorem headKey_congr {objects objects' : ObjectSpace} {key : String} {fate : HeadFate}
    (h : objects key = objects' key) : headKey objects key fate = headKey objects' key fate := by
  unfold headKey
  rw [h]

theorem s3Delete_reply (objects : ObjectSpace) (key : String) (fate : DeleteFate) :
    (∃ error, (s3Delete objects key fate).2 = .failure error false) ∨
      (∃ value, (s3Delete objects key fate).2 = .success value) ∧ (s3Delete objects key fate).1 key = none := by
  unfold s3Delete
  split
  · exact .inl ⟨_, rfl⟩
  unfold headKey
  cases fate.head.problem with
  | some error => exact .inl ⟨error, rfl⟩
  | none =>
    cases hstor : objects key with
    | none => exact .inr ⟨⟨_, rfl⟩, hstor⟩
    | some o =>
      dsimp only
      cases hdel : fate.delete with
      | answered => exact .inr ⟨⟨_, rfl⟩, by simp [deleteRequest, WriteFate.done]⟩
      | refused error carriedOut | lost error carriedOut => exact .inl ⟨_, rfl⟩

theorem s3Delete_reply_congr {objects objects' : ObjectSpace} {key : String} {fate : DeleteFate}
    (h : objects key = objects' key) : (s3Delete objects key fate).2 = (s3Delete objects' key fate).2 := by
  unfold s3Delete
  rw [headKey_congr h]
  split
  · rfl
  cases headKey objects' key fate.head with
  | failure error notFound => cases notFound <;> rfl
  | success head => cases fate.delete <;> rfl

def s3SeedRelayStore : SeedRelayStore where
  kind := "s3"
  Fate := DeleteFate
  delete objects key fate := ((s3Delete objects key fate).1, .answered (s3Delete objects key fate).2)
  confirmed objects key fate hconfirmed := by
    rcases s3Delete_reply objects key fate with ⟨error, hreply⟩ | ⟨-, hgone⟩
    · rw [hreply] at hconfirmed
      cases hconfirmed
    · exact hgone
  others _ _ _ _ hne := s3Delete_other hne
  reply_congr _ _ _ _ h := congrArg DeleteReply.answered (s3Delete_reply_congr h)

def exampleRelay : ObjectSpace := fun key =>
  if key = seedRelayArchiveKey "job" .tarGz ∨ key = seedRelayManifestKey "job" then some ⟨[1], none⟩ else none

def exampleJobCleanup : ObjectSpace × SeedDb × CleanupJobReply :=
  let db := (Trace.run (SeedTransfer.step "job") newSeedTransfer exampleSeed).db
  cleanupJobObjects s3SeedRelayStore exampleRelay db db "job" "beta" (newSeedJob "job" examplePlan 0)
    (fun _ => ⟨.answered, .answered⟩) 30

/-- The relay of the completed job is recorded as cleaned while the manifest that the row records is still in it. -/
theorem cleanup_leaves_manifest :
    (exampleJobCleanup.2.2.updated.map fun job => (job.archive.cleanup.state, job.archive.manifestObjectKey)) =
        some (.cleaned, some (seedRelayManifestKey "job")) ∧
      exampleJobCleanup.1 (seedRelayArchiveKey "job" .tarGz) = none ∧
      exampleJobCleanup.1 (seedRelayManifestKey "job") = some ⟨[1], none⟩ := by
  decide +kernel

end LamaSync
