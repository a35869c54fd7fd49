import LamaSync.Server.SeedJobs
import LamaSync.Server.Principal

/-!
# The seed job routes

The handlers of `POST /seed-jobs/:jobId/progress`, `/archive`, `/lease`, `/complete` and `/cancel`.  A handler reads
the job, decides who is asking, refuses what that caller may not do, and then makes one conditional write against
the phase it read.  The handlers run without an await, so each is one step of the server.
-/

namespace LamaSync

inductive SeedReply where
  | job (job : SeedJob)
  | refused (status : Nat) (error : String)

def answerWrite (result : SeedDb × Option SeedJob) (conflict : String) : SeedDb × SeedReply :=
  (result.1, match result.2 with
    | some updated => .job updated
    | none => .refused 409 conflict)

@[simp] theorem answerWrite_fst (result : SeedDb × Option SeedJob) (conflict : String) :
    (answerWrite result conflict).1 = result.1 := rfl

inductive SeedJobAuthority where
  | operator
  | party (role : SeedJobRole) (hostId : String)
  | denied
  deriving DecidableEq

def seedJobAuthority (principal : Option AuthPrincipal) (job : SeedJob) : SeedJobAuthority :=
  if (requireAdmin principal).isSome then .operator
  else match deviceHostId principal with
    | none => .denied
    | some hostId =>
      match seedJobRoleFor job.hostId job.sourceHostId (some hostId) with
      | none => .denied
      | some role => .party role hostId

def roleLabel : SeedJobRole → String
  | .source => "source"
  | .target => "target"

def partyProgressRefusal (role : SeedJobRole) (job : SeedJob) (next : SeedJobPhase) : Option SeedReply :=
  if !seedJobRoleMayEnterPhase role next then
    some (.refused 403 (s!"This device is the {roleLabel role} of the seed, so it may not report " ++
      s!"the {next.text} phase — that phase belongs to the {roleLabel (seedJobPhaseRole next)}."))
  else if role == .source && job.archive.sha256.isSome then
    some (.refused 409 ("This device has already recorded the archive facts, which handed the job to the " ++
      "target. The source's half is finished and it may not report again."))
  else if role == .target && !seedArchiveFactsComplete job.archive then
    some (.refused 409 ("The source has not recorded the archive facts yet, so there is nothing to verify " ++
      "against. The target starts only after the source's archive and manifest are recorded."))
  else none

def progressRefusal (authority : SeedJobAuthority) (job : SeedJob) (next : SeedJobPhase) : Option SeedReply :=
  match authority with
  | .party role _ => partyProgressRefusal role job next
  | .operator | .denied => none

variable {authority : SeedJobAuthority} {reply : SeedReply}

theorem progressRefusal_refused {job : SeedJob} {next : SeedJobPhase}
    (h : progressRefusal authority job next = some reply) : ∃ status error, reply = .refused status error := by
  cases authority with
  | operator | denied => cases h
  | party role hostId =>
    simp only [progressRefusal, partyProgressRefusal] at h
    split at h
    · exact ⟨_, _, (Option.some.inj h).symm⟩
    split at h
    · exact ⟨_, _, (Option.some.inj h).symm⟩
    · split at h
      · exact ⟨_, _, (Option.some.inj h).symm⟩
      · cases h

def progressOwner (authority : SeedJobAuthority) (job : SeedJob) (leaseOwner : Option String) : String :=
  match authority with
  | .party _ hostId => hostId
  | .operator | .denied => leaseOwner.getD job.hostId

def clampLeaseMs (leaseMs : Int) : Int := min (max leaseMs 30000) (60 * 60000)

def progressOf (payload : SeedProgressPayload) (now : Int) : SeedJobProgress :=
  { startSeedProgress payload.phase now payload.message payload.bytesTotal payload.entriesTotal with
    bytesDone := payload.bytesDone
    entriesDone := payload.entriesDone }

@[simp] theorem progressOf_phase (payload : SeedProgressPayload) (now : Int) :
    (progressOf payload now).phase = payload.phase := rfl

def progressRoute (db : SeedDb) (principal : Option AuthPrincipal) (jobId : String) (body : Json)
    (now : Int) : SeedDb × SeedReply :=
  match getSeedJob db jobId with
  | none => (db, .refused 404 "Seed job not found")
  | some job =>
    let authority := seedJobAuthority principal job
    if authority = .denied then (db, .refused 403 "Forbidden")
    else if isTerminalSeedPhase job.phase then (db, .refused 409 "This seed job is already finished")
    else match parseSeedProgressPayload body with
      | .error error => (db, .refused 400 error)
      | .ok payload =>
        match progressRefusal authority job payload.phase with
        | some reply => (db, reply)
        | none =>
          if !canTransitionSeedPhase job.phase payload.phase then
            (db, .refused 409 (s!"illegal phase transition {job.phase.text} → {payload.phase.text}; " ++
              "seed phases only move forward one step at a time"))
          else
            answerWrite (reportSeedJobProgressGuarded db job.id (progressOf payload now)
                (progressOwner authority job payload.leaseOwner)
                (now + clampLeaseMs (payload.leaseMs.getD seedJobLeaseMs)) now job.phase)
              "This seed job moved on while the report was in flight"

/-- The operator's pilot verdict on a folder and a pair of hosts. -/
structure SeedPilotEligibility where
  eligible : Bool
  reason : String

def reportedFacts (job : SeedJob) (body : List (String × Json)) : SeedJobArchiveFacts :=
  normalizeSeedJobArchiveFacts (job.archive.toJson.spread (.obj body)) job.archive.format

def archiveRetryReply (current : Option SeedJob) (facts : SeedJobArchiveFacts) : SeedReply :=
  let conflict : SeedReply := .refused 409
    ("This seed job's archive facts are already recorded and immutable. A differing report is refused; " ++
      "only a byte-identical retry of the recorded facts is accepted.")
  match current with
  | some job => if seedArchiveFactsEqual job.archive facts then .job job else conflict
  | none => conflict

theorem archiveRetryReply_job {current : Option SeedJob} {facts : SeedJobArchiveFacts} {job : SeedJob}
    (h : archiveRetryReply current facts = .job job) : current = some job := by
  cases current with
  | none => cases h
  | some recorded =>
    simp only [archiveRetryReply] at h
    split at h
    · rw [SeedReply.job.inj h]
    · cases h

def archiveRoute (db : SeedDb) (principal : Option AuthPrincipal) (pilot : SeedPilotEligibility)
    (jobId : String) (body : List (String × Json)) (now : Int) : SeedDb × SeedReply :=
  match getSeedJob db jobId with
  | none => (db, .refused 404 "Seed job not found")
  | some job =>
    if !pilot.eligible then (db, .refused 503 pilot.reason)
    else match seedJobAuthority principal job with
      | .denied => (db, .refused 403 "Forbidden")
      | .operator => (db, .refused 403
          ("The archive facts are recorded by the SOURCE device that produced them; an operator has no " ++
            "archive to report."))
      | .party role hostId =>
        if !seedJobRoleMayReportArchive (some role) then (db, .refused 403
          ("Only the source device may record a seed job's archive facts. The target verifies them; it " ++
            "never authors them."))
        else if isTerminalSeedPhase job.phase then (db, .refused 409 "This seed job is already finished")
        else if job.phase != SeedJobPhase.uploadingArchive then (db, .refused 409
          s!"Archive facts are recorded while the job is uploading_archive; this job is {job.phase.text}.")
        else
          let facts := reportedFacts job body
          let result := reportSeedJobArchiveOnce db job.id facts hostId now job.phase
          (result.1, match result.2 with
            | some updated => .job updated
            | none => archiveRetryReply (getSeedJob result.1 job.id) facts)

def leaseRefusal (authority : SeedJobAuthority) (job : SeedJob) : Option SeedReply :=
  match authority, job.phase with
  | .party role _, .phase p =>
    if !seedJobRoleMayEnterPhase role p then
      some (.refused 409 (s!"This device is the {roleLabel role}, and the job is in the {p.text} phase, " ++
        s!"which belongs to the {roleLabel (seedJobPhaseRole p)}."))
    else none
  | _, _ => none

theorem leaseRefusal_refused {job : SeedJob}
    (h : leaseRefusal authority job = some reply) : ∃ status error, reply = .refused status error := by
  unfold leaseRefusal at h
  split at h
  · split at h
    · exact ⟨_, _, (Option.some.inj h).symm⟩
    · cases h
  · cases h

def renewalOwner (authority : SeedJobAuthority) (job : SeedJob) (owner : Option String) : String :=
  match authority with
  | .party _ hostId => hostId
  | .operator | .denied => (owner.or job.leaseOwner).getD job.hostId

def leaseRoute (db : SeedDb) (principal : Option AuthPrincipal) (jobId : String) (owner : Option String)
    (leaseMs : Option Int) (now : Int) : SeedDb × SeedReply :=
  match getSeedJob db jobId with
  | none => (db, .refused 404 "Seed job not found")
  | some job =>
    let authority := seedJobAuthority principal job
    if authority = .denied then (db, .refused 403 "Forbidden")
    else match leaseRefusal authority job with
      | some reply => (db, reply)
      | none =>
        answerWrite (renewSeedJobLeaseGuarded db job.id (renewalOwner authority job owner)
            (now + clampLeaseMs (leaseMs.getD seedJobLeaseMs)) now job.phase)
          "This seed job is not running, or this device no longer holds its lease"

def completeRefusal (authority : SeedJobAuthority) (status : SeedJobTerminalPhase) : Option SeedReply :=
  match authority with
  | .party role _ =>
    if status == .completed && !seedJobRoleMayComplete (some role) then
      some (.refused 403 ("Only the target device may report a seed as completed: it is the side that verifies the " ++
        "published tree and the following zero-change resync. A source may report its own side failed."))
    else if status == .cancelled then
      some (.refused 403 "A device may not cancel a seed job; cancellation is operator-only.")
    else none
  | .operator | .denied => none

theorem completeRefusal_refused {status : SeedJobTerminalPhase}
    (h : completeRefusal authority status = some reply) : ∃ code error, reply = .refused code error := by
  cases authority with
  | operator | denied => cases h
  | party role hostId =>
    simp only [completeRefusal] at h
    split at h
    · exact ⟨_, _, (Option.some.inj h).symm⟩
    split at h
    · exact ⟨_, _, (Option.some.inj h).symm⟩
    · cases h

def completeRoute (db : SeedDb) (principal : Option AuthPrincipal) (jobId : String)
    (status : SeedJobTerminalPhase) (summary error : Option String) (now : Int) : SeedDb × SeedReply :=
  match getSeedJob db jobId with
  | none => (db, .refused 404 "Seed job not found")
  | some job =>
    let authority := seedJobAuthority principal job
    if authority = .denied then (db, .refused 403 "Forbidden")
    else if isTerminalSeedPhase job.phase then (db, .job job)
    else match completeRefusal authority status with
      | some reply => (db, reply)
      | none =>
        let phase : SeedJobPhaseOrTerminal := .terminal status
        let result := match authority with
          | .party _ hostId =>
            finishSeedJobOwnedBy db job.id hostId (if status == .completed then .completed else .failed)
              phase summary error now job.phase
          | .operator | .denied =>
            finishSeedJobAsOperator db job.id status.status phase summary error now job.phase
        answerWrite result
          ("This seed job moved on while the outcome was in flight (it finished, was cancelled, or this " ++
            "device no longer holds its lease).")

def cancelRoute (db : SeedDb) (principal : Option AuthPrincipal) (jobId : String) (now : Int) :
    SeedDb × SeedReply :=
  if (requireAdmin principal).isNone then (db, .refused 403 "Forbidden")
  else match getSeedJob db jobId with
    | none => (db, .refused 404 "Seed job not found")
    | some job =>
      if isTerminalSeedPhase job.phase then (db, .job job)
      else
        answerWrite (finishSeedJobAsOperator db job.id .cancelled (.terminal .cancelled)
            (some "Cancelled by an operator.") none now job.phase)
          "This seed job moved on while the cancellation was in flight"

end LamaSync
