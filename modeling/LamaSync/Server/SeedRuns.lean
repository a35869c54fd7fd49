import LamaSync.Server.FolderSeed
import LamaSync.Lib.Trace

/-!
# Runs of the seed job routes

The server side of seeding as one system: the state is the table of jobs, and an event is a request to one of the
routes, the creation of a job from an approved plan, or a run of the reaper.  Any caller may send any request at any
time, so the runs of this system are all the orders the routes can meet.

`seedStep_row` says once what an event can do to one row of the table; the invariants are case analyses of it.
-/

namespace LamaSync

structure SeedJobPlan where
  folderId : String
  hostId : String
  sourceHostId : String
  format : SeedArchiveFormat
  distinct : sourceHostId ≠ hostId

def newSeedJob (jobId : String) (plan : SeedJobPlan) (now : Int) : SeedJob where
  id := jobId
  folderId := plan.folderId
  hostId := plan.hostId
  sourceHostId := some plan.sourceHostId
  status := .planned
  phase := SeedJobPhase.preflight
  progress := startSeedProgress .preflight now "Seed plan approved; waiting for the device to start." none none
  archive := emptySeedJobArchiveFacts plan.format
  leaseOwner := none
  leaseExpiresAt := none
  error := none
  summary := none
  startedAt := none
  updatedAt := now
  finishedAt := none

@[simp] theorem newSeedJob_id (jobId : String) (plan : SeedJobPlan) (now : Int) :
    (newSeedJob jobId plan now).id = jobId := rfl

inductive SeedEvent where
  | create (jobId : String) (plan : SeedJobPlan) (now : Int)
  | progress (principal : Option AuthPrincipal) (jobId : String) (body : Json) (now : Int)
  | archive (principal : Option AuthPrincipal) (pilot : SeedPilotEligibility) (jobId : String)
      (body : List (String × Json)) (now : Int)
  | lease (principal : Option AuthPrincipal) (jobId : String) (owner : Option String) (leaseMs : Option Int)
      (now : Int)
  | complete (principal : Option AuthPrincipal) (jobId : String) (status : SeedJobTerminalPhase)
      (summary error : Option String) (now : Int)
  | cancel (principal : Option AuthPrincipal) (jobId : String) (now : Int)
  | reap (now : Int)

def SeedEvent.isOutcome : SeedEvent → Bool
  | .complete .. | .cancel .. => true
  | _ => false

def seedStep (db : SeedDb) : SeedEvent → SeedDb
  | .create jobId plan now => createSeedJob db (newSeedJob jobId plan now)
  | .progress principal jobId body now => (progressRoute db principal jobId body now).1
  | .archive principal pilot jobId body now => (archiveRoute db principal pilot jobId body now).1
  | .lease principal jobId owner leaseMs now => (leaseRoute db principal jobId owner leaseMs now).1
  | .complete principal jobId status summary error now =>
    (completeRoute db principal jobId status summary error now).1
  | .cancel principal jobId now => (cancelRoute db principal jobId now).1
  | .reap now => reapStaleSeedJobs db now

/-- The table of a server that has not created a job yet. -/
def emptySeedDb : SeedDb := fun _ => none

/-! ### Events of an example job

The source `alpha` seeds the target `beta`.  They are the inputs of the concrete runs below. -/

def examplePlan : SeedJobPlan where
  folderId := "photos"
  hostId := "beta"
  sourceHostId := "alpha"
  format := .tarGz
  distinct := by decide

def examplePilot : SeedPilotEligibility where
  eligible := true
  reason := "This folder and device pair are authorized by the seed pilot."

def progressBy (principal : AuthPrincipal) (phase : String) (now : Int) : SeedEvent :=
  .progress (some principal) "job" (.obj [("phase", .str phase)]) now

def exampleUpload : List SeedEvent :=
  [.create "job" examplePlan 0,
    progressBy (.device "ka" "alpha") "measuring_source" 1,
    progressBy (.device "ka" "alpha") "archiving_source" 2,
    progressBy (.device "ka" "alpha") "uploading_archive" 3]

def exampleDigest : String := "0123456789abcdef0123456789abcdef0123456789abcdef0123456789abcdef"

/-- The row after `e`, with the guards that let the write through. -/
inductive SeedRowStep (e : SeedEvent) (jobId : String) (row : SeedJobRow) : SeedJobRow → Prop where
  | same : SeedRowStep e jobId row row
  | progress {principal body now payload authority}
      (event : e = .progress principal jobId body now)
      (auth : seedJobAuthority principal (rowToSeedJob jobId row) = authority)
      (known : authority ≠ .denied)
      (parsed : parseSeedProgressPayload body = .ok payload)
      (allowed : progressRefusal authority (rowToSeedJob jobId row) payload.phase = none)
      (legal : canTransitionSeedPhase row.phase payload.phase = true)
      (isOpen : row.status.isOpen = true)
      (claimable : row.claimableBy
        (progressOwner authority (rowToSeedJob jobId row) payload.leaseOwner) now = true) :
      SeedRowStep e jobId row (row.withProgress (progressOf payload now)
        (progressOwner authority (rowToSeedJob jobId row) payload.leaseOwner)
        (now + clampLeaseMs (payload.leaseMs.getD seedJobLeaseMs)))
  | archive {principal pilot body now hostId}
      (event : e = .archive principal pilot jobId body now)
      (eligible : pilot.eligible = true)
      (auth : seedJobAuthority principal (rowToSeedJob jobId row) = .party .source hostId)
      (uploading : row.phase = SeedJobPhase.uploadingArchive)
      (isOpen : row.status.isOpen = true)
      (held : row.heldBy hostId now = true)
      (unrecorded : Json.isNull (row.archive.field "sha256") = true) :
      SeedRowStep e jobId row { row with
        archive := (reportedFacts (rowToSeedJob jobId row) body).toJson
        leaseOwner := none
        leaseExpiresAt := none
        updatedAt := now }
  | renew {principal owner leaseMs expiresAt now}
      (event : e = .lease principal jobId owner leaseMs now)
      (running : row.status = .running)
      (inFlight : row.inFlight = true) :
      SeedRowStep e jobId row { row with leaseExpiresAt := some expiresAt, updatedAt := now }
  | finish {t : SeedJobTerminalPhase} {summary error now}
      (outcome : e.isOutcome = true)
      (isOpen : row.status.isOpen = true)
      (inFlight : row.inFlight = true) :
      SeedRowStep e jobId row (row.finished t.status (.terminal t) summary error now)
  | reap {now}
      (event : e = .reap now)
      (stale : row.isStale now = true) :
      SeedRowStep e jobId row (row.finished .failed (.terminal .failed) row.summary
        (some "the device stopped reporting progress and its lease expired") now)

/-- The table is left as it is, or one row of it makes one step. -/
def OneRowStep (e : SeedEvent) (jobId : String) (db db' : SeedDb) : Prop :=
  db' = db ∨ ∃ row row', db jobId = some row ∧ SeedRowStep e jobId row row' ∧ db' = db.put jobId row'

section Inversion

variable {db db' : SeedDb} {jobId id : String} {row : SeedJobRow} {e : SeedEvent}

theorem OneRowStep.some (h : OneRowStep e jobId db db') (hrow : db id = some row) :
    ∃ row', db' id = some row' ∧ SeedRowStep e id row row' := by
  rcases h with rfl | ⟨r, row', hr, hstep, rfl⟩
  · exact ⟨row, hrow, .same⟩
  by_cases hid : id = jobId
  · subst hid
    obtain rfl : row = r := Table.unique hrow hr
    exact ⟨row', Table.put_self, hstep⟩
  · exact ⟨row, by rw [Table.put_of_ne hid, hrow], .same⟩

theorem OneRowStep.none (h : OneRowStep e jobId db db') (hrow : db id = none) : db' id = none := by
  rcases h with rfl | ⟨r, row', hr, -, rfl⟩
  · exact hrow
  · have hid : id ≠ jobId := by rintro rfl; rw [hrow] at hr; cases hr
    rw [Table.put_of_ne hid, hrow]

private theorem sr_write {guard : SeedJobRow → Bool} {set : SeedJobRow → SeedJobRow}
    (h : ∀ row, db jobId = some row → guard row = true → SeedRowStep e jobId row (set row)) :
    OneRowStep e jobId db (conditionalWrite db jobId guard set).1 := by
  rcases conditionalWrite_cases db jobId guard set with ⟨row, hrow, hg, he⟩ | he
  · rw [he]; exact .inr ⟨row, set row, hrow, h row hrow hg, rfl⟩
  · rw [he]; exact .inl rfl

variable {principal : Option AuthPrincipal} {now : Int}

private theorem sr_progress {body : Json} :
    OneRowStep (.progress principal jobId body now) jobId db (progressRoute db principal jobId body now).1 := by
  have same : OneRowStep (.progress principal jobId body now) jobId db db := .inl rfl
  unfold progressRoute
  cases hjob : getSeedJob db jobId with
  | none => exact same
  | some job =>
    obtain ⟨r, hr, rfl⟩ := getSeedJob_eq_some.1 hjob
    dsimp only
    split
    · exact same
    rename_i hkn
    split
    · exact same
    split
    · exact same
    rename_i payload hpar
    split
    · exact same
    rename_i hok
    split
    · exact same
    rename_i hle
    refine sr_write ?_
    intro row hrow hg
    obtain rfl : row = r := Table.unique hrow hr
    simp only [Bool.and_eq_true] at hg
    exact .progress rfl rfl hkn hpar hok (by simpa using hle) hg.1.1.2 hg.2

private theorem sr_archive {pilot : SeedPilotEligibility}
    {body : List (String × Json)} :
    OneRowStep (.archive principal pilot jobId body now) jobId db
      (archiveRoute db principal pilot jobId body now).1 := by
  have same : OneRowStep (.archive principal pilot jobId body now) jobId db db := .inl rfl
  unfold archiveRoute
  cases hjob : getSeedJob db jobId with
  | none => exact same
  | some job =>
    obtain ⟨r, hr, rfl⟩ := getSeedJob_eq_some.1 hjob
    dsimp only
    split
    · exact same
    rename_i hel
    split
    · exact same
    · exact same
    rename_i role hostId hauth
    split
    · exact same
    rename_i hrole
    split
    · exact same
    split
    · exact same
    rename_i hup
    refine sr_write ?_
    intro row hrow hg
    obtain rfl : row = r := Table.unique hrow hr
    obtain rfl : role = .source := by simpa [seedJobRoleMayReportArchive] using hrole
    simp only [Bool.and_eq_true] at hg
    exact .archive rfl (by simpa using hel) hauth (by simpa using hup) hg.1.1.1.2 hg.1.2 hg.2

private theorem sr_lease {owner : Option String} {leaseMs : Option Int}
    :
    OneRowStep (.lease principal jobId owner leaseMs now) jobId db
      (leaseRoute db principal jobId owner leaseMs now).1 := by
  have same : OneRowStep (.lease principal jobId owner leaseMs now) jobId db db := .inl rfl
  unfold leaseRoute
  cases hjob : getSeedJob db jobId with
  | none => exact same
  | some job =>
    obtain ⟨r, -, rfl⟩ := getSeedJob_eq_some.1 hjob
    dsimp only
    split
    · exact same
    split
    · exact same
    refine sr_write ?_
    intro row hrow hg
    simp only [Bool.and_eq_true, beq_iff_eq] at hg
    exact .renew rfl hg.1.1.2 hg.1.2

private theorem sr_complete {status : SeedJobTerminalPhase}
    {summary error : Option String} :
    OneRowStep (.complete principal jobId status summary error now) jobId db
      (completeRoute db principal jobId status summary error now).1 := by
  have same : OneRowStep (.complete principal jobId status summary error now) jobId db db := .inl rfl
  unfold completeRoute
  cases hjob : getSeedJob db jobId with
  | none => exact same
  | some job =>
    obtain ⟨r, -, rfl⟩ := getSeedJob_eq_some.1 hjob
    dsimp only
    split
    · exact same
    split
    · exact same
    split
    · exact same
    rename_i hok
    rw [answerWrite_fst]
    split
    · rename_i role hostId hauth
      -- a party that may declare the outcome declares a completion or a failure
      have hst : (if status == .completed then SeedJobStatus.completed else .failed) = status.status := by
        rw [hauth] at hok
        cases status with
        | completed | failed => rfl
        | cancelled => simp [completeRefusal] at hok
      rw [hst]
      refine sr_write ?_
      intro row hrow hg
      simp only [Bool.and_eq_true, beq_iff_eq] at hg
      exact .finish rfl (by rw [hg.1.1.2]; rfl) hg.1.2
    all_goals
      refine sr_write ?_
      intro row hrow hg
      simp only [Bool.and_eq_true] at hg
      exact .finish rfl hg.1.2 hg.2

private theorem sr_cancel :
    OneRowStep (.cancel principal jobId now) jobId db (cancelRoute db principal jobId now).1 := by
  have same : OneRowStep (.cancel principal jobId now) jobId db db := .inl rfl
  unfold cancelRoute
  split
  · exact same
  cases hjob : getSeedJob db jobId with
  | none => exact same
  | some job =>
    obtain ⟨r, -, rfl⟩ := getSeedJob_eq_some.1 hjob
    dsimp only
    split
    · exact same
    refine sr_write ?_
    intro row hrow hg
    simp only [Bool.and_eq_true] at hg
    exact .finish (t := .cancelled) rfl hg.1.2 hg.2

theorem seedStep_row (e : SeedEvent) (hrow : db id = some row) :
    ∃ row', seedStep db e id = some row' ∧ SeedRowStep e id row row' := by
  cases e with
  | create jobId plan now =>
    refine ⟨row, ?_, .same⟩
    rw [seedStep]
    cases hj : db (newSeedJob jobId plan now).id with
    | some r => rw [createSeedJob_of_some hj, hrow]
    | none =>
      have hid : id ≠ jobId := by rintro rfl; rw [newSeedJob_id, hrow] at hj; cases hj
      rw [createSeedJob_of_none hj, newSeedJob_id, Table.put_of_ne hid, hrow]
  | progress principal jobId body now => exact sr_progress.some hrow
  | archive principal pilot jobId body now => exact sr_archive.some hrow
  | lease principal jobId owner leaseMs now => exact sr_lease.some hrow
  | complete principal jobId status summary error now => exact sr_complete.some hrow
  | cancel principal jobId now => exact sr_cancel.some hrow
  | reap now =>
    simp only [seedStep, reapStaleSeedJobs, Table.updateAll, hrow, Option.map_some]
    split
    · rename_i hst; exact ⟨_, rfl, .reap rfl hst⟩
    · exact ⟨row, rfl, .same⟩

theorem seedStep_new (e : SeedEvent) (hrow : db id = none) {row' : SeedJobRow}
    (h : seedStep db e id = some row') :
    ∃ plan now, e = .create id plan now ∧ row' = (newSeedJob id plan now).toRow := by
  cases e with
  | create jobId plan now =>
    rw [seedStep] at h
    cases hj : db (newSeedJob jobId plan now).id with
    | some r => rw [createSeedJob_of_some hj, hrow] at h; cases h
    | none =>
      rw [createSeedJob_of_none hj, newSeedJob_id] at h
      by_cases hid : id = jobId
      · subst hid
        rw [Table.put_self] at h
        exact ⟨plan, now, rfl, (Option.some.inj h).symm⟩
      · rw [Table.put_of_ne hid, hrow] at h; cases h
  | progress principal jobId body now => rw [seedStep, OneRowStep.none sr_progress hrow] at h; cases h
  | archive principal pilot jobId body now => rw [seedStep, sr_archive.none hrow] at h; cases h
  | lease principal jobId owner leaseMs now => rw [seedStep, sr_lease.none hrow] at h; cases h
  | complete principal jobId status summary error now => rw [seedStep, sr_complete.none hrow] at h; cases h
  | cancel principal jobId now => rw [seedStep, sr_cancel.none hrow] at h; cases h
  | reap now => simp [seedStep, reapStaleSeedJobs, Table.updateAll, hrow] at h

end Inversion

end LamaSync
