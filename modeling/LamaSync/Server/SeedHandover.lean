import LamaSync.Server.SeedPhaseMachine

/-!
# The handover from source to target

The source's archive report records the facts and clears its lease in one write, which is what lets the target
start.  Three results about every run of the routes:

* facts with a digest never change again (`archive_facts_immutable`);
* if every report that the write accepts is complete, a cleared lease means complete facts
  (`handover_has_complete_facts`); the write itself checks only that no digest is recorded, so an incomplete report
  clears the lease as well;
* if no operator report names a lease owner that does not fit the phase, the lease owner's side agrees with the phase
  (`lease_side_agrees_with_phase`); the operator path makes none of the checks the two parties meet.
-/

namespace LamaSync

open Trace

section Recorded

variable {e : SeedEvent} {jobId : String} {row row' : SeedJobRow}

private theorem sh_isNull (h : SeedRowInv row) (jobId : String) :
    Json.isNull (row.archive.field "sha256") = (rowToSeedJob jobId row).archive.sha256.isNone := by
  obtain ⟨facts, hfc⟩ := h.written
  simp only [rowToSeedJob, hfc, isNull_sha256_toJson, normalize_toJson]

theorem SeedRowStep.archive_eq (h : SeedRowInv row) (hs : SeedRowStep e jobId row row')
    (hsha : (rowToSeedJob jobId row).archive.sha256.isSome = true) : row'.archive = row.archive := by
  cases hs with
  | archive event eligible auth uploading isOpen held unrecorded =>
    rw [sh_isNull h jobId, Option.isNone_iff_eq_none] at unrecorded
    rw [unrecorded] at hsha
    cases hsha
  | same | progress | renew | finish | reap => rfl

private theorem sh_archive_eq {db : SeedDb} (later : List SeedEvent) (hrow : db jobId = some row)
    (h : SeedRowInv row) (hsha : (rowToSeedJob jobId row).archive.sha256.isSome = true) :
    ∃ row', run seedStep db later jobId = some row' ∧ row'.archive = row.archive := by
  obtain ⟨row', hrow', hR⟩ := seedRun_later (I := SeedRowInv)
    (R := fun r r' => (rowToSeedJob jobId r).archive.sha256.isSome = true → r'.archive = r.archive)
    later hrow (fun _ _ => rfl)
    (fun a b c hab hbc ha => by
      have hb := hab ha
      rw [← hb]
      exact hbc (by simpa only [rowToSeedJob, hb] using ha))
    h (fun e r r' hr hs => ⟨hr.step hs, hs.archive_eq hr⟩)
  exact ⟨row', hrow', hR hsha⟩

end Recorded

/-- Along every run of the routes: once a job's digest is recorded, whatever anyone sends later, the facts that
identify the archive and the manifest stay as they are. -/
theorem archive_facts_immutable (es later : List SeedEvent) (jobId : String) (job : SeedJob)
    (h : getSeedJob (run seedStep emptySeedDb es) jobId = some job)
    (hsha : job.archive.sha256.isSome = true) :
    ∃ job', getSeedJob (run seedStep emptySeedDb (es ++ later)) jobId = some job' ∧
      seedArchiveFactsEqual job'.archive job.archive = true := by
  obtain ⟨row, hrow, rfl⟩ := getSeedJob_eq_some.1 h
  obtain ⟨row', hrow', harch⟩ := sh_archive_eq later hrow (seedRowInv_run es hrow) hsha
  refine ⟨rowToSeedJob jobId row', ?_, ?_⟩
  · rw [run_append]; exact getSeedJob_eq_some.2 ⟨row', hrow', rfl⟩
  · simp only [rowToSeedJob, harch, seedArchiveFactsEqual_refl]

/-- The body of a complete report. -/
def exampleFacts : List (String × Json) :=
  [("bytes", .num 4096), ("sha256", .str exampleDigest),
    ("objectKey", .str "lamasync/seed/job/payload.tar.gz"), ("memberCount", .num 7),
    ("manifestFingerprint", .str exampleDigest), ("manifestObjectKey", .str "lamasync/seed/job/manifest.json"),
    ("manifestBytes", .num 512), ("manifestSha256", .str exampleDigest)]

def reportBy (principal : AuthPrincipal) (body : List (String × Json)) (now : Int) : SeedEvent :=
  .archive (some principal) examplePilot "job" body now

def exampleHandover (body : List (String × Json)) : List SeedEvent :=
  exampleUpload ++ [reportBy (.device "ka" "alpha") body 4]

theorem archive_facts_immutable_handover :
    ∃ job, getSeedJob (run seedStep emptySeedDb (exampleHandover exampleFacts)) "job" = some job ∧
      ∀ later, ∃ job', getSeedJob (run seedStep emptySeedDb (exampleHandover exampleFacts ++ later)) "job" =
        some job' ∧ seedArchiveFactsEqual job'.archive job.archive = true := by
  have hsome : ((getSeedJob (run seedStep emptySeedDb (exampleHandover exampleFacts)) "job").map
      fun job => job.archive.sha256.isSome) = some true := by decide +kernel
  obtain ⟨job, hjob, hsha⟩ := Option.map_eq_some_iff.1 hsome
  exact ⟨job, hjob, fun later => archive_facts_immutable _ later "job" job hjob hsha⟩

def ClearsLease (db : SeedDb) (e : SeedEvent) (jobId : String) : Prop :=
  ∃ principal pilot body now job job', e = .archive principal pilot jobId body now ∧
    getSeedJob db jobId = some job ∧ job.leaseOwner.isSome = true ∧
    getSeedJob (seedStep db e) jobId = some job' ∧ job'.leaseOwner = none

/-- A report that finds the source uploading under its own live lease, with no digest recorded, is complete.  These
are the reports the write accepts; it makes no check on the facts they carry. -/
def ReportComplete (db : SeedDb) (e : SeedEvent) : Prop :=
  ∀ principal pilot jobId body now hostId job, e = .archive principal pilot jobId body now →
    getSeedJob db jobId = some job → pilot.eligible = true →
    seedJobAuthority principal job = .party .source hostId → job.phase = SeedJobPhase.uploadingArchive →
    seedLeaseIsLive job.leaseFacts hostId now = true → job.archive.sha256 = none →
    seedArchiveFactsComplete (reportedFacts job body) = true

private theorem sh_complete_reported (jobId : String) (row : SeedJobRow) (facts : SeedJobArchiveFacts)
    (h : row.archive = facts.toJson) :
    seedArchiveFactsComplete (rowToSeedJob jobId row).archive = seedArchiveFactsComplete facts := by
  simp only [rowToSeedJob, h, normalize_toJson, seedArchiveFactsComplete]

private theorem sh_cleared_complete {db : SeedDb} {e : SeedEvent} {jobId : String} {row row' : SeedJobRow}
    (h : SeedRowInv row) (hrow : db jobId = some row) (hgood : ReportComplete db e)
    (hs : SeedRowStep e jobId row row') (hheld : row.leaseOwner.isSome = true) (hfree : row'.leaseOwner = none)
    {principal pilot body now} (he : e = .archive principal pilot jobId body now) :
    seedArchiveFactsComplete (rowToSeedJob jobId row').archive = true := by
  cases hs with
  | same | renew event running inFlight => rw [hfree] at hheld; cases hheld
  | progress event auth known parsed allowed legal isOpen claimable | reap event stale => rw [event] at he; cases he
  | archive event eligible auth uploading isOpen held unrecorded =>
    rw [sh_complete_reported jobId _ _ rfl]
    refine hgood _ _ _ _ _ _ _ event (getSeedJob_eq_some.2 ⟨row, hrow, rfl⟩) eligible auth uploading held ?_
    rw [sh_isNull h jobId] at unrecorded
    exact Option.isNone_iff_eq_none.1 unrecorded
  | finish outcome isOpen inFlight => rw [he] at outcome; cases outcome

/-- In every run of the routes in which the reports the write accepts are complete: once an archive report has
cleared the lease of a job, the recorded facts are complete, then and in every later state. -/
theorem handover_has_complete_facts (es : List SeedEvent) (hgood : Always seedStep ReportComplete emptySeedDb es)
    (before after : List SeedEvent) (e : SeedEvent) (hes : es = before ++ e :: after) (jobId : String)
    (hclear : ClearsLease (run seedStep emptySeedDb before) e jobId) :
    ∃ job, getSeedJob (run seedStep emptySeedDb es) jobId = some job ∧
      seedArchiveFactsComplete job.archive = true := by
  subst hes
  obtain ⟨principal, pilot, body, now, job, job', he, hjob, hheld, hjob', hfree⟩ := hclear
  obtain ⟨row, hrow, rfl⟩ := getSeedJob_eq_some.1 hjob
  obtain ⟨row', hrow', rfl⟩ := getSeedJob_eq_some.1 hjob'
  have hinv := seedRowInv_run before hrow
  -- the report itself is one step of the row
  obtain ⟨r, hr, hs⟩ := seedStep_row e hrow
  obtain rfl : r = row' := Table.unique hr hrow'
  have hcomp := sh_cleared_complete hinv hrow hgood.at hs hheld hfree he
  -- what it recorded has a digest, so nothing after it changes the column
  obtain ⟨last, hlast, harch⟩ := sh_archive_eq after hr (hinv.step hs) (sha256_of_complete hcomp)
  refine ⟨rowToSeedJob jobId last, ?_, ?_⟩
  · rw [run_append, run_cons]; exact getSeedJob_eq_some.2 ⟨last, hlast, rfl⟩
  · simpa only [rowToSeedJob, harch] using hcomp

private theorem sh_clears {db : SeedDb} {principal : Option AuthPrincipal} {pilot : SeedPilotEligibility}
    {jobId : String} {body : List (String × Json)} {now : Int}
    (hheld : (getSeedJob db jobId).map (fun job => job.leaseOwner.isSome) = some true)
    (hfree : (getSeedJob (seedStep db (.archive principal pilot jobId body now)) jobId).map SeedJob.leaseOwner =
      some none) :
    ClearsLease db (.archive principal pilot jobId body now) jobId := by
  obtain ⟨job, hjob, hsome⟩ := Option.map_eq_some_iff.1 hheld
  obtain ⟨job', hjob', hnone⟩ := Option.map_eq_some_iff.1 hfree
  exact ⟨principal, pilot, body, now, job, job', rfl, hjob, hsome, hjob', hnone⟩

theorem handover_has_complete_facts_example :
    ∃ job, getSeedJob (run seedStep emptySeedDb (exampleHandover exampleFacts)) "job" = some job ∧
      seedArchiveFactsComplete job.archive = true := by
  refine handover_has_complete_facts (exampleHandover exampleFacts) ?_ exampleUpload []
    (reportBy (.device "ka" "alpha") exampleFacts 4) rfl "job" ?_
  · refine ⟨?_, ?_, ?_, ?_, ?_, trivial⟩
    all_goals
      intro principal pilot jobId body now hostId job he hjob
      cases he
    intros
    have hall : (getSeedJob (run seedStep emptySeedDb exampleUpload) "job").all
        (fun job => seedArchiveFactsComplete (reportedFacts job exampleFacts)) = true := by decide +kernel
    rw [show getSeedJob (run seedStep emptySeedDb exampleUpload) "job" = some job from hjob] at hall
    exact hall
  · exact sh_clears (by decide +kernel) (by decide +kernel)

example : (getSeedJob (run seedStep emptySeedDb (exampleHandover exampleFacts)) "job").map SeedJob.leaseOwner = some none := by
  decide +kernel

/-- The source reports the digest of the archive and nothing else.  The write clears the lease, and since a digest
is recorded no later request completes the facts. -/
theorem partial_report_clears_lease :
    ClearsLease (run seedStep emptySeedDb exampleUpload)
      (reportBy (.device "ka" "alpha") [("sha256", .str exampleDigest)] 4) "job" ∧
    ∀ later, ∃ job', getSeedJob
        (run seedStep emptySeedDb (exampleHandover [("sha256", .str exampleDigest)] ++ later)) "job" = some job' ∧
      seedArchiveFactsComplete job'.archive = false := by
  refine ⟨sh_clears (by decide +kernel) (by decide +kernel), ?_⟩
  intro later
  have hjob : (getSeedJob (run seedStep emptySeedDb (exampleHandover [("sha256", .str exampleDigest)])) "job").map
      (fun job => (job.archive.sha256.isSome, seedArchiveFactsComplete job.archive)) = some (true, false) := by
    decide +kernel
  obtain ⟨job, hjob, hfc⟩ := Option.map_eq_some_iff.1 hjob
  obtain ⟨hsha, hin⟩ := Prod.mk.inj hfc
  obtain ⟨row, hrow, rfl⟩ := getSeedJob_eq_some.1 hjob
  obtain ⟨row', hrow', harch⟩ := sh_archive_eq later hrow (seedRowInv_run _ hrow) hsha
  refine ⟨rowToSeedJob "job" row', ?_, ?_⟩
  · rw [run_append]; exact getSeedJob_eq_some.2 ⟨row', hrow', rfl⟩
  · simpa only [rowToSeedJob, harch] using hin

example : (getSeedJob (run seedStep emptySeedDb (exampleHandover [("sha256", .str exampleDigest)] ++
    [reportBy (.device "ka" "alpha") exampleFacts 5])) "job").map (seedArchiveFactsComplete ·.archive) = some false := by
  decide +kernel

def OwnerFits (job : SeedJob) (owner : String) (next : SeedJobPhase) : Prop :=
  (job.sourceHostId = some owner → seedJobRoleMayEnterPhase .source next = true) ∧
  (job.hostId = owner → seedJobRoleMayEnterPhase .target next = true ∧
    seedArchiveFactsComplete job.archive = true)

def OperatorNamesFittingOwner (db : SeedDb) (e : SeedEvent) : Prop :=
  ∀ principal jobId body now row payload, e = .progress principal jobId body now → db jobId = some row →
    seedJobAuthority principal (rowToSeedJob jobId row) = .operator →
    parseSeedProgressPayload body = .ok payload → canTransitionSeedPhase row.phase payload.phase = true →
    row.status.isOpen = true → row.claimableBy (payload.leaseOwner.getD row.hostId) now = true →
    OwnerFits (rowToSeedJob jobId row) (payload.leaseOwner.getD row.hostId) payload.phase

def LeaseSideAgrees (row : SeedJobRow) : Prop :=
  ∀ jobId owner p, row.leaseOwner = some owner → row.phase = .phase p → OwnerFits (rowToSeedJob jobId row) owner p

section Side

variable {db : SeedDb} {e : SeedEvent} {jobId : String} {row row' : SeedJobRow} {role : SeedJobRole}

private theorem sh_party {principal : Option AuthPrincipal} {job : SeedJob} {hostId : String}
    (h : seedJobAuthority principal job = .party role hostId) :
    seedJobRoleFor job.hostId job.sourceHostId (some hostId) = some role := by
  unfold seedJobAuthority at h
  split at h
  · cases h
  split at h
  · cases h
  · split at h
    · cases h
    · rename_i r hrole
      cases h
      exact hrole

private theorem sh_device (keyId hostId : String) (job : SeedJob) :
    seedJobAuthority (some (.device keyId hostId)) job ≠ .operator := by
  intro h
  simp only [seedJobAuthority, requireAdmin_device, deviceHostId, Option.isSome_none, Bool.false_eq_true,
    if_false] at h
  split at h <;> cases h

private theorem sh_allowed {job : SeedJob} {next : SeedJobPhase} (h : partyProgressRefusal role job next = none) :
    seedJobRoleMayEnterPhase role next = true ∧ (role = .target → seedArchiveFactsComplete job.archive = true) := by
  unfold partyProgressRefusal at h
  split at h
  · cases h
  rename_i hen
  split at h
  · cases h
  split at h
  · cases h
  · rename_i hcomp
    refine ⟨by simpa using hen, ?_⟩
    intro htgt
    subst htgt
    simpa using hcomp

private theorem sh_party_fits (h : SeedRowInv row) {hostId : String} {next : SeedJobPhase}
    (hrole : seedJobRoleFor row.hostId row.sourceHostId (some hostId) = some role)
    (hok : partyProgressRefusal role (rowToSeedJob jobId row) next = none) :
    OwnerFits (rowToSeedJob jobId row) hostId next := by
  obtain ⟨hen, hcomp⟩ := sh_allowed hok
  obtain ⟨source, hsrc, hne⟩ := h.parties
  cases role with
  | source =>
    have hnot := (seedJobRoleFor_source hrole).2
    exact ⟨fun _ => hen, fun hhost => absurd (congrArg some hhost.symm) hnot⟩
  | target =>
    have htgt : hostId = row.hostId := Option.some.inj (seedJobRoleFor_target hrole)
    refine ⟨?_, fun _ => ⟨hen, hcomp rfl⟩⟩
    intro hs
    have heq : source = row.hostId := by
      rw [rowToSeedJob_sourceHostId, hsrc, htgt] at hs
      exact Option.some.inj hs
    exact absurd heq hne

theorem LeaseSideAgrees.step (hinv : SeedRowInv row) (h : LeaseSideAgrees row) (hrow : db jobId = some row)
    (hgood : OperatorNamesFittingOwner db e) (hs : SeedRowStep e jobId row row') : LeaseSideAgrees row' := by
  cases hs with
  | same | renew event running inFlight => exact h
  | @progress principal body now payload authority event auth known parsed allowed legal isOpen claimable =>
    intro jobId' owner p hw hp
    cases hw
    cases hp
    cases authority with
    | denied => exact absurd rfl known
    | party role hostId => exact sh_party_fits hinv (sh_party auth) allowed
    | operator => exact hgood principal jobId body now row payload event hrow auth parsed legal isOpen claimable
  | archive event eligible auth uploading isOpen held unrecorded | finish outcome isOpen inFlight
  | reap event stale =>
    intro jobId' owner p hw
    cases hw

end Side

/-- In every run of the routes whose accepted operator reports name a lease owner that fits: the lease of a job that
has not ended is held by the source only in the source's phases, and by the target only in the target's phases and
with complete facts. -/
theorem lease_side_agrees_with_phase (es : List SeedEvent)
    (hgood : Always seedStep OperatorNamesFittingOwner emptySeedDb es) (jobId : String) (job : SeedJob)
    (h : getSeedJob (run seedStep emptySeedDb es) jobId = some job) (p : SeedJobPhase) (hp : job.phase = .phase p) :
    (job.leaseOwner.isSome = true → job.leaseOwner = job.sourceHostId → seedJobPhaseRole p = .source) ∧
    (job.leaseOwner = some job.hostId → seedJobPhaseRole p = .target ∧
      seedArchiveFactsComplete job.archive = true) := by
  obtain ⟨row, hrow, rfl⟩ := getSeedJob_eq_some.1 h
  have hag : SeedRowInv row ∧ LeaseSideAgrees row := by
    refine seedRun_rows (I := fun row => SeedRowInv row ∧ LeaseSideAgrees row) hgood ?_ ?_ jobId row hrow
    · intro id plan now
      refine ⟨seedRowInv_new id plan now, ?_⟩
      intro jobId' owner q hw
      cases hw
    · intro db e id r r' hP hr hI hs
      exact ⟨hI.1.step hs, hI.2.step hI.1 hr hP hs⟩
  refine ⟨?_, ?_⟩
  · intro hsome hsrc
    obtain ⟨owner, hw⟩ := Option.isSome_iff_exists.1 hsome
    have hfits := (hag.2 jobId owner p hw hp).1 (by rw [← hsrc, hw])
    simpa [seedJobRoleMayEnterPhase] using hfits
  intro htgt
  obtain ⟨hen, hcomp⟩ := (hag.2 jobId row.hostId p htgt hp).2 rfl
  exact ⟨by simpa [seedJobRoleMayEnterPhase] using hen, hcomp⟩

/-- The facts are complete and an operator reports the download, for the target. -/
def exampleDownload : List SeedEvent :=
  exampleHandover exampleFacts ++ [progressBy .master "downloading_archive" 5]

theorem lease_side_agrees_with_phase_downloading :
    ∃ job, getSeedJob (run seedStep emptySeedDb exampleDownload) "job" = some job ∧ job.leaseOwner = some job.hostId ∧
      seedJobPhaseRole .downloadingArchive = .target ∧ seedArchiveFactsComplete job.archive = true := by
  have hheld : (getSeedJob (run seedStep emptySeedDb exampleDownload) "job").any (fun job =>
      job.phase = .phase .downloadingArchive && job.leaseOwner = some job.hostId) = true := by decide +kernel
  obtain ⟨job, hjob, hheld⟩ := (Option.any_eq_true _ _).1 hheld
  obtain ⟨hp, hw⟩ := Bool.and_eq_true_iff.1 hheld
  refine ⟨job, hjob, of_decide_eq_true hw, (lease_side_agrees_with_phase exampleDownload ?_ "job" job hjob
    .downloadingArchive (of_decide_eq_true hp)).2 (of_decide_eq_true hw)⟩
  -- the source device reports until the operator does
  refine ⟨?_, ?_, ?_, ?_, ?_, ?_, trivial⟩
  all_goals
    intro principal jobId body now row payload he hrow hauth
    cases he
  · exact absurd hauth (sh_device _ _ _)
  · exact absurd hauth (sh_device _ _ _)
  · exact absurd hauth (sh_device _ _ _)
  intro hpar _ _ _
  have hpa : (parseSeedProgressPayload (.obj [("phase", .str "downloading_archive")])).toOption.all (fun payload =>
      payload.leaseOwner = none && payload.phase = .downloadingArchive) = true := by decide +kernel
  have hf : (getSeedJob (run seedStep emptySeedDb (exampleHandover exampleFacts)) "job").all (fun job =>
      job.sourceHostId ≠ some job.hostId && seedArchiveFactsComplete job.archive) = true := by decide +kernel
  rw [hpar] at hpa
  rw [show getSeedJob (run seedStep emptySeedDb (exampleHandover exampleFacts)) "job" = some (rowToSeedJob "job" row) from
    getSeedJob_eq_some.2 ⟨row, hrow, rfl⟩] at hf
  obtain ⟨hnone, hph⟩ := Bool.and_eq_true_iff.1 hpa
  obtain ⟨ho, hcomp⟩ := Bool.and_eq_true_iff.1 hf
  rw [of_decide_eq_true hnone, of_decide_eq_true hph]
  exact ⟨fun hsrc => absurd hsrc (of_decide_eq_true ho), fun _ => ⟨rfl, hcomp⟩⟩

/-- An operator reports progress on a new job and leaves the lease owner to the default: the target holds the lease
in a phase of the source, with no facts recorded. -/
theorem operator_report_breaks_sides :
    ∃ job, getSeedJob (run seedStep emptySeedDb [.create "job" examplePlan 0,
        progressBy .master "preflight" 1]) "job" = some job ∧
      job.phase = .phase .preflight ∧ job.leaseOwner = some job.hostId ∧
      seedJobPhaseRole .preflight = .source ∧ seedArchiveFactsComplete job.archive = false := by
  have hjob : (getSeedJob (run seedStep emptySeedDb [.create "job" examplePlan 0,
      progressBy .master "preflight" 1]) "job").map (fun job =>
        decide (job.phase = .phase .preflight ∧ job.leaseOwner = some job.hostId ∧
          seedJobPhaseRole .preflight = .source ∧ seedArchiveFactsComplete job.archive = false)) = some true := by
    decide +kernel
  obtain ⟨job, hjob, hbad⟩ := Option.map_eq_some_iff.1 hjob
  exact ⟨job, hjob, of_decide_eq_true hbad⟩

end LamaSync
