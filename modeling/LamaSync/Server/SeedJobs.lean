import LamaSync.Core.SeedArchive
import LamaSync.Lib.Table

/-!
# Seed job rows and their writers

A row of `folder_seed_jobs` and the statements that write it.  Every conditional writer is one `UPDATE … WHERE id = ?`
with a guard on the row as it stands, and returns the job only when it changed a row: `conditionalWrite`.  The
writers differ in their guard and in the columns they set, and `conditionalWrite_cases` is what all of them can do.
-/

namespace LamaSync

structure SeedJobRow where
  folderId : String
  hostId : String
  sourceHostId : Option String
  status : SeedJobStatus
  phase : SeedJobPhaseOrTerminal
  progress : SeedJobProgress
  archive : Json
  leaseOwner : Option String
  leaseExpiresAt : Option Int
  error : Option String
  summary : Option String
  startedAt : Option Int
  updatedAt : Int
  finishedAt : Option Int

structure SeedJob where
  id : String
  folderId : String
  hostId : String
  sourceHostId : Option String
  status : SeedJobStatus
  phase : SeedJobPhaseOrTerminal
  progress : SeedJobProgress
  archive : SeedJobArchiveFacts
  leaseOwner : Option String
  leaseExpiresAt : Option Int
  error : Option String
  summary : Option String
  startedAt : Option Int
  updatedAt : Int
  finishedAt : Option Int

abbrev SeedDb := Table String SeedJobRow

def rowToSeedJob (jobId : String) (row : SeedJobRow) : SeedJob :=
  { row with id := jobId, archive := normalizeSeedJobArchiveFacts row.archive .tarGz }

section Row

variable (jobId : String) (row : SeedJobRow)

@[simp] theorem rowToSeedJob_id : (rowToSeedJob jobId row).id = jobId := rfl
@[simp] theorem rowToSeedJob_sourceHostId : (rowToSeedJob jobId row).sourceHostId = row.sourceHostId := rfl
@[simp] theorem rowToSeedJob_status : (rowToSeedJob jobId row).status = row.status := rfl
@[simp] theorem rowToSeedJob_phase : (rowToSeedJob jobId row).phase = row.phase := rfl
@[simp] theorem rowToSeedJob_leaseOwner : (rowToSeedJob jobId row).leaseOwner = row.leaseOwner := rfl
@[simp] theorem rowToSeedJob_leaseExpiresAt :
    (rowToSeedJob jobId row).leaseExpiresAt = row.leaseExpiresAt := rfl

end Row

def SeedJob.leaseFacts (job : SeedJob) : SeedLeaseFacts where
  leaseOwner := job.leaseOwner
  leaseExpiresAt := job.leaseExpiresAt

def SeedJob.claimFacts (job : SeedJob) : SeedClaimFacts where
  leaseOwner := job.leaseOwner
  leaseExpiresAt := job.leaseExpiresAt
  status := job.status
  phase := job.phase

def getSeedJob (db : SeedDb) (jobId : String) : Option SeedJob := (db jobId).map (rowToSeedJob jobId)

def SeedJob.toRow (job : SeedJob) : SeedJobRow := { job with archive := job.archive.toJson }

def createSeedJob (db : SeedDb) (job : SeedJob) : SeedDb :=
  match db job.id with
  | some _ => db
  | none => db.put job.id job.toRow

variable {db : SeedDb} {job : SeedJob}

theorem getSeedJob_eq_some {jobId : String} :
    getSeedJob db jobId = some job ↔ ∃ row, db jobId = some row ∧ job = rowToSeedJob jobId row := by
  unfold getSeedJob
  rw [Option.map_eq_some_iff]
  constructor
  · rintro ⟨row, hrow, h⟩; exact ⟨row, hrow, h.symm⟩
  · rintro ⟨row, hrow, h⟩; exact ⟨row, hrow, h.symm⟩

theorem createSeedJob_of_some {row : SeedJobRow} (h : db job.id = some row) :
    createSeedJob db job = db := by
  simp [createSeedJob, h]

theorem createSeedJob_of_none (h : db job.id = none) :
    createSeedJob db job = db.put job.id job.toRow := by
  simp [createSeedJob, h]

def conditionalWrite (db : SeedDb) (jobId : String) (guard : SeedJobRow → Bool)
    (set : SeedJobRow → SeedJobRow) : SeedDb × Option SeedJob :=
  let result := db.updateWhere jobId guard set
  (result.1, if result.2 == 0 then none else getSeedJob result.1 jobId)

section Write

variable {db db' : SeedDb} {jobId : String} {guard : SeedJobRow → Bool} {set : SeedJobRow → SeedJobRow}
  {job : SeedJob} {row : SeedJobRow}

theorem conditionalWrite_accepted (hrow : db jobId = some row) (hg : guard row = true) :
    conditionalWrite db jobId guard set = (db.put jobId (set row), some (rowToSeedJob jobId (set row))) := by
  simp [conditionalWrite, Table.updateWhere_accepted hrow hg, getSeedJob]

theorem conditionalWrite_refused (h : ∀ row, db jobId = some row → guard row = false) :
    conditionalWrite db jobId guard set = (db, none) := by
  simp [conditionalWrite, Table.updateWhere_refused h]

theorem conditionalWrite_cases (db : SeedDb) (jobId : String) (guard : SeedJobRow → Bool)
    (set : SeedJobRow → SeedJobRow) :
    (∃ row, db jobId = some row ∧ guard row = true ∧
      conditionalWrite db jobId guard set = (db.put jobId (set row), some (rowToSeedJob jobId (set row)))) ∨
    conditionalWrite db jobId guard set = (db, none) := by
  rcases db.updateWhere_cases jobId guard set with ⟨row, hrow, hg, -⟩ | ⟨h, -⟩
  · exact .inl ⟨row, hrow, hg, conditionalWrite_accepted hrow hg⟩
  · exact .inr (conditionalWrite_refused h)

theorem conditionalWrite_some (h : conditionalWrite db jobId guard set = (db', some job)) :
    ∃ row, db jobId = some row ∧ guard row = true ∧ db' = db.put jobId (set row) ∧
      job = rowToSeedJob jobId (set row) := by
  rcases conditionalWrite_cases db jobId guard set with ⟨row, hrow, hg, he⟩ | he
  · rw [he] at h; cases h; exact ⟨row, hrow, hg, rfl, rfl⟩
  · rw [he] at h; cases h

theorem conditionalWrite_none (h : conditionalWrite db jobId guard set = (db', none)) : db' = db := by
  rcases conditionalWrite_cases db jobId guard set with ⟨row, hrow, hg, he⟩ | he
  · rw [he] at h; cases h
  · rw [he] at h; cases h; rfl

theorem getSeedJob_of_conditionalWrite (h : conditionalWrite db jobId guard set = (db', some job)) :
    getSeedJob db' jobId = some job := by
  obtain ⟨row, -, -, rfl, rfl⟩ := conditionalWrite_some h
  exact getSeedJob_eq_some.2 ⟨set row, Table.put_self, rfl⟩

end Write

def SeedJobRow.inFlight (row : SeedJobRow) : Bool := !isTerminalSeedPhase row.phase

def SeedJobRow.heldBy (row : SeedJobRow) (owner : String) (now : Int) : Bool :=
  row.leaseOwner == some owner && expiresAfter row.leaseExpiresAt now

def SeedJobRow.claimableBy (row : SeedJobRow) (owner : String) (now : Int) : Bool :=
  row.leaseOwner == none || row.leaseOwner == some owner || hasLapsed row.leaseExpiresAt now

def SeedJobRow.withProgress (row : SeedJobRow) (progress : SeedJobProgress) (owner : String)
    (expiresAt : Int) : SeedJobRow :=
  { row with
    phase := progress.phase
    progress := progress
    status := .running
    startedAt := row.startedAt.or (some progress.updatedAt)
    leaseOwner := some owner
    leaseExpiresAt := some expiresAt
    updatedAt := progress.updatedAt }

def SeedJobRow.finished (row : SeedJobRow) (status : SeedJobStatus) (phase : SeedJobPhaseOrTerminal)
    (summary error : Option String) (now : Int) : SeedJobRow :=
  { row with
    status := status
    phase := phase
    summary := summary
    error := error
    leaseOwner := none
    leaseExpiresAt := none
    updatedAt := now
    finishedAt := some now }

def claimSeedJobProgress (db : SeedDb) (jobId : String) (progress : SeedJobProgress) (owner : String)
    (expiresAt now : Int) : SeedDb × Option SeedJob :=
  conditionalWrite db jobId
    (fun row => row.status.isOpen && row.inFlight &&
      (row.leaseOwner == none || hasLapsed row.leaseExpiresAt now))
    (fun row => row.withProgress progress owner expiresAt)

def reportOwnedSeedJobProgress (db : SeedDb) (jobId : String) (progress : SeedJobProgress) (owner : String)
    (expiresAt now : Int) : SeedDb × Option SeedJob :=
  conditionalWrite db jobId
    (fun row => row.status == .running && row.inFlight && row.heldBy owner now)
    (fun row => { row with
      phase := progress.phase
      progress := progress
      updatedAt := progress.updatedAt
      leaseExpiresAt := some expiresAt })

def updateOwnedSeedJobArchive (db : SeedDb) (jobId : String) (archive : Json) (owner : String)
    (now : Int) : SeedDb × Option SeedJob :=
  conditionalWrite db jobId
    (fun row => row.status == .running && row.inFlight && row.heldBy owner now)
    (fun row => { row with archive := archive, updatedAt := now })

def finishOwnedSeedJob (db : SeedDb) (jobId : String) (owner : String) (status : SeedJobStatus)
    (phase : SeedJobPhaseOrTerminal) (summary error : Option String) (now : Int) : SeedDb × Option SeedJob :=
  conditionalWrite db jobId
    (fun row => row.status == .running && row.inFlight && row.heldBy owner now)
    (fun row => row.finished status phase summary error now)

def updateSeedJobArchive (db : SeedDb) (jobId : String) (archive : Json) (now : Int) :
    SeedDb × Option SeedJob :=
  let db' := (db.updateWhere jobId (fun _ => true) fun row => { row with archive := archive, updatedAt := now }).1
  (db', getSeedJob db' jobId)

def reportSeedJobProgressGuarded (db : SeedDb) (jobId : String) (progress : SeedJobProgress) (owner : String)
    (expiresAt now : Int) (fromPhase : SeedJobPhaseOrTerminal) : SeedDb × Option SeedJob :=
  conditionalWrite db jobId
    (fun row => row.phase == fromPhase && row.status.isOpen && row.inFlight && row.claimableBy owner now)
    (fun row => row.withProgress progress owner expiresAt)

def reportSeedJobArchiveOnce (db : SeedDb) (jobId : String) (archive : SeedJobArchiveFacts) (owner : String)
    (now : Int) (fromPhase : SeedJobPhaseOrTerminal) : SeedDb × Option SeedJob :=
  conditionalWrite db jobId
    (fun row => row.phase == fromPhase && row.status.isOpen && row.inFlight && row.heldBy owner now &&
      Json.isNull (row.archive.field "sha256"))
    (fun row => { row with
      archive := archive.toJson
      leaseOwner := none
      leaseExpiresAt := none
      updatedAt := now })

def renewSeedJobLeaseGuarded (db : SeedDb) (jobId owner : String) (expiresAt now : Int)
    (fromPhase : SeedJobPhaseOrTerminal) : SeedDb × Option SeedJob :=
  conditionalWrite db jobId
    (fun row => row.phase == fromPhase && row.status == .running && row.inFlight && row.heldBy owner now)
    (fun row => { row with leaseExpiresAt := some expiresAt, updatedAt := now })

def finishSeedJobOwnedBy (db : SeedDb) (jobId owner : String) (status : SeedJobStatus)
    (phase : SeedJobPhaseOrTerminal) (summary error : Option String) (now : Int)
    (fromPhase : SeedJobPhaseOrTerminal) : SeedDb × Option SeedJob :=
  conditionalWrite db jobId
    (fun row => row.phase == fromPhase && row.status == .running && row.inFlight && row.heldBy owner now)
    (fun row => row.finished status phase summary error now)

def finishSeedJobAsOperator (db : SeedDb) (jobId : String) (status : SeedJobStatus)
    (phase : SeedJobPhaseOrTerminal) (summary error : Option String) (now : Int)
    (fromPhase : SeedJobPhaseOrTerminal) : SeedDb × Option SeedJob :=
  conditionalWrite db jobId
    (fun row => row.phase == fromPhase && row.status.isOpen && row.inFlight)
    (fun row => row.finished status phase summary error now)

def SeedJobRow.isStale (row : SeedJobRow) (now : Int) : Bool :=
  row.status == .running &&
    (hasLapsed row.leaseExpiresAt now ||
      (row.leaseExpiresAt == none && decide (row.updatedAt ≤ now - seedJobHandoverGraceMs)))

def reapStaleSeedJobs (db : SeedDb) (now : Int) : SeedDb :=
  db.updateAll (fun row => row.isStale now) fun row =>
    { row with
      status := .failed
      phase := .terminal .failed
      error := some "the device stopped reporting progress and its lease expired"
      leaseOwner := none
      leaseExpiresAt := none
      updatedAt := now
      finishedAt := some now }

end LamaSync
