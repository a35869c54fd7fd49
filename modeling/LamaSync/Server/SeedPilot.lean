import LamaSync.Core.Folders
import LamaSync.Lib.Table
import LamaSync.Lib.Trace

/-!
# The seed pilot

One folder, one ordered pair of hosts, one backend and one bucket are authorised at a time, and a probe of the bucket has to
pass before the backend's credential is delivered to either host.  The verdict of a probe is stored with a fingerprint of
what was probed, and delivery compares it with the fingerprint of what is configured.  The fingerprint joins the settings by
line feeds, so that it tells them apart when none of them has a line feed inside (`relay_space_proven`).
-/

namespace LamaSync

open Trace

structure SeedRelayProbeTarget where
  provider : String
  endpoint : String
  region : Option String
  accessKeyId : String
  secretAccessKey : String
  bucket : String
deriving DecidableEq

structure BackendS3Row where
  kind : String
  s3Provider : Option String
  s3Endpoint : Option String
  s3Region : Option String
  s3AccessKeyId : Option String
  s3SecretKeyEnc : Option String

def isS3Provider (value : Option String) : Bool :=
  value == some "exoscale" || value == some "aws" || value == some "b2" || value == some "other"

def targetFromBackendRow (decryptSecret : Option String → Option String) (row : BackendS3Row) (bucket : String) :
    Option SeedRelayProbeTarget :=
  let endpoint := trimText (row.s3Endpoint.getD "")
  let accessKeyId := trimText (row.s3AccessKeyId.getD "")
  let secretAccessKey := (decryptSecret row.s3SecretKeyEnc).getD ""
  if endpoint = "" ∨ accessKeyId = "" ∨ secretAccessKey = "" then none
  else some {
    provider := if isS3Provider row.s3Provider then row.s3Provider.getD "other" else "other"
    endpoint, accessKeyId, secretAccessKey, bucket
    region := presentText (some (trimText (row.s3Region.getD ""))) }

def fingerprintLines (sha256 : String → String) (target : SeedRelayProbeTarget) : String :=
  "\n".intercalate ["seed-relay-target/1", target.provider, target.endpoint, target.region.getD "", target.accessKeyId,
    sha256 target.secretAccessKey, target.bucket]

def seedRelayTargetFingerprint (sha256 : String → String) (target : SeedRelayProbeTarget) : String :=
  sha256 (fingerprintLines sha256 target)

inductive SeedPilotReadinessState where
  | unknown
  | ready
  | failed
deriving DecidableEq

structure SeedPilotReadiness where
  state : SeedPilotReadinessState := .unknown
  bucket : Option String := none
  checkedAt : Option Int := none
  message : Option String := none
  targetFingerprint : Option String := none
deriving DecidableEq

structure SeedPilotProbeOutcome where
  ok : Bool
  detail : String

def seedPilotReadinessVerdict (bucket targetFingerprint : Option String) (outcome : SeedPilotProbeOutcome) (now : Int) :
    SeedPilotReadiness where
  state := if outcome.ok then .ready else .failed
  bucket := bucket
  checkedAt := some now
  message := some (sliceText (trimText outcome.detail) 300)
  targetFingerprint := targetFingerprint

/-- What an operator writes. -/
structure SeedPilotInput where
  enabled : Bool
  folderId : Option String
  sourceHostId : Option String
  targetHostId : Option String
  backendId : Option String
  bucket : Option String

structure SeedPilotRow extends SeedPilotInput where
  readiness : SeedPilotReadiness
  configRevision : Nat
  updatedAt : Int

structure PartyJobRow where
  id : String
  folderId : String
  hostId : String
  sourceHostId : Option String
  phase : String
  createdAt : Int

structure PilotTables where
  pilot : Option SeedPilotRow := none
  backends : Table String BackendS3Row := fun _ => none
  jobs : List PartyJobRow := []

namespace PilotTables

variable (tables : PilotTables)

def setSeedPilotConfig (input : SeedPilotInput) (now : Int) : PilotTables :=
  { tables with pilot := some <| match tables.pilot with
    | none => { toSeedPilotInput := input, readiness := {}, configRevision := 1, updatedAt := now }
    | some existing =>
      let sameTarget := existing.backendId = input.backendId ∧ existing.bucket = input.bucket
      { toSeedPilotInput := input
        readiness := if !input.enabled ∧ sameTarget then existing.readiness else {}
        configRevision := existing.configRevision + 1
        updatedAt := now } }

def clearSeedPilotConfig (now : Int) : PilotTables :=
  tables.setSeedPilotConfig
    { enabled := false, folderId := none, sourceHostId := none, targetHostId := none, backendId := none, bucket := none } now

variable (decryptSecret : Option String → Option String) (sha256 : String → String)

def liveSeedRelayTargetFingerprint : Option String := do
  let pilot ← tables.pilot
  if !pilot.enabled then none
  let backendId ← pilot.backendId
  let bucket ← pilot.bucket
  let row ← tables.backends backendId
  if row.kind ≠ "s3" then none
  let target ← targetFromBackendRow decryptSecret row bucket
  some (seedRelayTargetFingerprint sha256 target)

def resolveSeedRelayProbeTarget : Except String SeedRelayProbeTarget :=
  match tables.pilot with
  | none => .error "The seed pilot is not enabled, so there is no seed space to probe."
  | some pilot =>
    if !pilot.enabled then .error "The seed pilot is not enabled, so there is no seed space to probe."
    else match pilot.backendId, pilot.bucket with
      | some backendId, some bucket => match tables.backends backendId with
        | none => .error ("The seed pilot references a storage backend that no longer exists (" ++ backendId ++ ").")
        | some row =>
          if row.kind ≠ "s3" then .error
            "The seed pilot's storage backend is not an S3 backend, so it cannot hold the temporary seed space."
          else if trimText (row.s3Endpoint.getD "") = "" then
            .error "The seed pilot's storage backend has no S3 endpoint configured."
          else match targetFromBackendRow decryptSecret row bucket with
            | none => .error "The seed pilot's storage backend has no stored S3 access key."
            | some target => .ok target
      | _, _ => .error "The seed pilot does not name a storage backend and bucket."

/-- What a probe read of the pilot before it started. -/
structure ProbeIdentity where
  configRevision : Nat
  backendId : Option String
  bucket : Option String

def recordSeedPilotReadiness (identity : ProbeIdentity) (targetFingerprint : Option String) (outcome : SeedPilotProbeOutcome)
    (now : Int) : Option PilotTables := do
  if targetFingerprint.isSome ∧ tables.liveSeedRelayTargetFingerprint decryptSecret sha256 ≠ targetFingerprint then none
  let pilot ← tables.pilot
  if pilot.enabled ∧ pilot.configRevision = identity.configRevision ∧ pilot.backendId = identity.backendId ∧
      pilot.bucket = identity.bucket then
    some { tables with pilot := some { pilot with
      readiness := seedPilotReadinessVerdict identity.bucket targetFingerprint outcome now, updatedAt := now } }
  else none

end PilotTables

structure SeedRelaySpace where
  jobId : String
  isSource : Bool
  backendId : String
  endpoint : String
  bucket : String
  region : Option String
  accessKeyId : String
  secretAccessKey : String
deriving DecidableEq

def PartyJobRow.live (job : PartyJobRow) : Bool := ["completed", "failed", "cancelled"].all fun phase => job.phase != phase

def liveFolderJobs (jobs : List PartyJobRow) (folderId : String) : List PartyJobRow :=
  ((jobs.filter fun job => job.folderId == folderId && job.live).mergeSort fun a b => b.createdAt ≤ a.createdAt).take 20

def seedPilotReadinessIsCurrent (readiness : SeedPilotReadiness) (bucket liveTargetFingerprint : Option String) : Bool :=
  readiness.state = .ready && bucket.isSome && liveTargetFingerprint.isSome && readiness.bucket = bucket &&
    readiness.targetFingerprint = liveTargetFingerprint

def seedRelaySpaceForHost (decryptSecret : Option String → Option String) (sha256 : String → String) (tables : PilotTables)
    (hostId : String) : Option SeedRelaySpace := do
  let pilot ← tables.pilot
  if !pilot.enabled then none
  let folderId ← pilot.folderId
  let sourceHostId ← pilot.sourceHostId
  let targetHostId ← pilot.targetHostId
  let backendId ← pilot.backendId
  let bucket ← pilot.bucket
  if hostId ≠ sourceHostId ∧ hostId ≠ targetHostId then none
  if !seedPilotReadinessIsCurrent pilot.readiness pilot.bucket
    (tables.liveSeedRelayTargetFingerprint decryptSecret sha256) then none
  let job ← (liveFolderJobs tables.jobs folderId).find? fun job => job.sourceHostId = some sourceHostId ∧
    job.hostId = targetHostId ∧ (job.hostId = hostId ∨ job.sourceHostId = some hostId)
  let backend ← tables.backends backendId
  if backend.kind ≠ "s3" then none
  let target ← targetFromBackendRow decryptSecret backend bucket
  some {
    jobId := job.id, isSource := hostId = sourceHostId, backendId
    endpoint := target.endpoint, bucket := target.bucket, region := target.region
    accessKeyId := target.accessKeyId, secretAccessKey := target.secretAccessKey }

/-- A probe at its network steps. -/
structure SeedProbe where
  identity : PilotTables.ProbeIdentity
  target : SeedRelayProbeTarget
  now : Int

/-- A probe that succeeded, with what it reported. -/
structure PassedProbe where
  target : SeedRelayProbeTarget
  detail : String
  now : Int

structure SeedPilotSystem where
  tables : PilotTables := {}
  probes : List SeedProbe := []
  passed : List PassedProbe := []

inductive SeedPilotEvent where
  | configure (input : SeedPilotInput) (now : Int)
  | clear (now : Int)
  | writeBackend (id : String) (row : BackendS3Row)
  | deleteBackend (id : String)
  | jobs (rows : List PartyJobRow)
  | startProbe (now : Int)
  | endProbe (index : Nat) (outcome : SeedPilotProbeOutcome)
  | restart

namespace SeedPilotSystem

variable (decryptSecret : Option String → Option String) (sha256 : String → String) (s : SeedPilotSystem)

def startProbe (now : Int) : SeedPilotSystem :=
  match s.tables.pilot with
  | none => s
  | some config =>
    if !config.enabled then s
    else
      let identity := { configRevision := config.configRevision, backendId := config.backendId, bucket := config.bucket }
      match s.tables.resolveSeedRelayProbeTarget decryptSecret with
      | .error detail =>
        let recorded := s.tables.recordSeedPilotReadiness decryptSecret sha256 identity none ⟨false, detail⟩ now
        { s with tables := recorded.getD s.tables }
      | .ok target => { s with probes := s.probes ++ [{ identity, target, now }] }

def endProbe (index : Nat) (outcome : SeedPilotProbeOutcome) : SeedPilotSystem :=
  match s.probes[index]? with
  | none => s
  | some probe =>
    { tables := (s.tables.recordSeedPilotReadiness decryptSecret sha256 probe.identity
        (some (seedRelayTargetFingerprint sha256 probe.target)) outcome probe.now).getD s.tables
      probes := s.probes.eraseIdx index
      passed := if outcome.ok then ⟨probe.target, outcome.detail, probe.now⟩ :: s.passed else s.passed }

def step : SeedPilotEvent → SeedPilotSystem
  | .configure input now => { s with tables := s.tables.setSeedPilotConfig input now }
  | .clear now => { s with tables := s.tables.clearSeedPilotConfig now }
  | .writeBackend id row => { s with tables := { s.tables with backends := s.tables.backends.put id row } }
  | .deleteBackend id => { s with tables := { s.tables with backends := s.tables.backends.erase id } }
  | .jobs rows => { s with tables := { s.tables with jobs := rows } }
  | .startProbe now => s.startProbe decryptSecret sha256 now
  | .endProbe index outcome => s.endProbe decryptSecret sha256 index outcome
  | .restart => { s with probes := [] }

def Party (pilot : SeedPilotRow) (hostId : String) (space : SeedRelaySpace) : Prop :=
  ∃ job ∈ s.tables.jobs, job.live = true ∧ job.id = space.jobId ∧ pilot.folderId = some job.folderId ∧
    job.sourceHostId.isSome ∧ pilot.sourceHostId = job.sourceHostId ∧ pilot.targetHostId = some job.hostId ∧
    (job.hostId = hostId ∨ job.sourceHostId = some hostId)

def ProvenBy (pilot : SeedPilotRow) (target : SeedRelayProbeTarget) : Prop :=
  ∃ probe ∈ s.passed, probe.target = target ∧ pilot.readiness = seedPilotReadinessVerdict pilot.bucket
    (some (seedRelayTargetFingerprint sha256 target)) ⟨true, probe.detail⟩ probe.now

/-- Whatever is delivered is the credential of the configured target, to a party, on the word of a probe of that target. -/
def DeliveryProven : Prop :=
  ∀ hostId space, seedRelaySpaceForHost decryptSecret sha256 s.tables hostId = some space →
    ∃ pilot backendId bucket row target, s.tables.pilot = some pilot ∧ pilot.enabled = true ∧ pilot.backendId = some backendId ∧
      pilot.bucket = some bucket ∧ s.tables.backends backendId = some row ∧ row.kind = "s3" ∧
      targetFromBackendRow decryptSecret row bucket = some target ∧ s.Party pilot hostId space ∧ s.ProvenBy sha256 pilot target ∧
      space.endpoint = target.endpoint ∧ space.bucket = target.bucket ∧ space.region = target.region ∧
      space.accessKeyId = target.accessKeyId ∧ space.secretAccessKey = target.secretAccessKey

end SeedPilotSystem

/-- No line feed inside the value, the space around it apart. -/
def OneLine (value : Option String) : Prop := '\n' ∉ (trimText (value.getD "")).toList

instance (value : Option String) : Decidable (OneLine value) := inferInstanceAs (Decidable (¬ _))

/-- A backend has no line feed in what goes into the fingerprint. -/
def BackendS3Row.OneLine (row : BackendS3Row) : Prop :=
  LamaSync.OneLine row.s3Endpoint ∧ LamaSync.OneLine row.s3Region ∧ LamaSync.OneLine row.s3AccessKeyId

def SeedPilotEvent.OneLine : SeedPilotEvent → Prop
  | .writeBackend _ row => row.OneLine
  | _ => True

/-- A target whose parts before the secret have no line feed. -/
structure SeedRelayProbeTarget.Plain (target : SeedRelayProbeTarget) : Prop where
  provider : '\n' ∉ target.provider.toList
  endpoint : '\n' ∉ target.endpoint.toList
  region : '\n' ∉ (target.region.getD "").toList
  region_ne : target.region ≠ some ""
  accessKeyId : '\n' ∉ target.accessKeyId.toList

private theorem sp_line_inj {a a' r r' : List Char} (ha : '\n' ∉ a) (ha' : '\n' ∉ a') (h : a ++ '\n' :: r = a' ++ '\n' :: r') :
    a = a' ∧ r = r' := by
  induction a generalizing a' with
  | nil =>
    cases a' with
    | nil => exact ⟨rfl, by simpa using h⟩
    | cons c cs =>
      simp only [List.nil_append, List.cons_append, List.cons.injEq] at h
      exact absurd (h.1 ▸ (.head _)) ha'
  | cons b bs ih =>
    cases a' with
    | nil =>
      simp only [List.nil_append, List.cons_append, List.cons.injEq] at h
      exact absurd (h.1 ▸ (.head _)) ha
    | cons c cs =>
      simp only [List.cons_append, List.cons.injEq] at h
      obtain ⟨hcs, hr⟩ := ih (fun hmem => ha (List.mem_cons_of_mem b hmem)) (fun hmem => ha' (List.mem_cons_of_mem c hmem)) h.2
      exact ⟨by rw [h.1, hcs], hr⟩

section Fingerprint

variable {sha256 : String → String} {target target' : SeedRelayProbeTarget}

private theorem sp_lines_toList :
    (fingerprintLines sha256 target).toList = "seed-relay-target/1".toList ++ '\n' :: (target.provider.toList ++ '\n' ::
      (target.endpoint.toList ++ '\n' :: ((target.region.getD "").toList ++ '\n' :: (target.accessKeyId.toList ++ '\n' ::
        ((sha256 target.secretAccessKey).toList ++ '\n' :: target.bucket.toList))))) := by
  simp only [fingerprintLines, String.toList_intercalate, List.map_cons, List.map_nil, List.intercalate_cons_cons,
    List.intercalate_singleton, List.append_assoc]
  rfl

theorem fingerprint_inj (hinj : Function.Injective sha256) (hhex : ∀ text, '\n' ∉ (sha256 text).toList) (ht : target.Plain)
    (ht' : target'.Plain) (h : seedRelayTargetFingerprint sha256 target = seedRelayTargetFingerprint sha256 target') :
    target = target' := by
  have hl := congrArg String.toList (hinj h)
  rw [sp_lines_toList, sp_lines_toList] at hl
  replace hl := (sp_line_inj (by decide) (by decide) hl).2
  obtain ⟨hprov, hl⟩ := sp_line_inj ht.provider ht'.provider hl
  obtain ⟨hend, hl⟩ := sp_line_inj ht.endpoint ht'.endpoint hl
  obtain ⟨hre, hl⟩ := sp_line_inj ht.region ht'.region hl
  obtain ⟨haccess, hl⟩ := sp_line_inj ht.accessKeyId ht'.accessKeyId hl
  obtain ⟨hse, hbuck⟩ := sp_line_inj (hhex _) (hhex _) hl
  have hre' : target.region = target'.region := by
    replace hre := String.toList_inj.1 hre
    have hne := ht.region_ne
    have hne' := ht'.region_ne
    revert hre hne hne'
    cases target.region <;> cases target'.region <;> simp +contextual [eq_comm]
  obtain ⟨provider, endpoint, region, accessKeyId, secretAccessKey, bucket⟩ := target
  obtain ⟨provider', endpoint', region', accessKeyId', secretAccessKey', bucket'⟩ := target'
  simp only [String.toList_inj] at hprov hend haccess hse hbuck hre'
  rw [hprov, hend, hre', haccess, hinj hse, hbuck]

end Fingerprint

theorem target_plain {decryptSecret : Option String → Option String} {row : BackendS3Row} {bucket : String}
    {target : SeedRelayProbeTarget} (hrow : row.OneLine) (h : targetFromBackendRow decryptSecret row bucket = some target) :
    target.Plain := by
  obtain ⟨hend, hre, haccess⟩ := hrow
  unfold targetFromBackendRow at h
  simp only [Option.ite_none_left_eq_some, Option.some.injEq] at h
  obtain ⟨-, rfl⟩ := h
  have hprov : '\n' ∉ (if isS3Provider row.s3Provider then row.s3Provider.getD "other" else "other").toList := by
    by_cases hp : isS3Provider row.s3Provider = true
    · rw [if_pos hp]
      simp only [isS3Provider, Bool.or_eq_true, beq_iff_eq] at hp
      rcases hp with ((hp | hp) | hp) | hp <;> rw [hp] <;> decide
    · rw [if_neg hp]
      decide
  have hpres : presentText (some (trimText (row.s3Region.getD ""))) = none ∨
      presentText (some (trimText (row.s3Region.getD ""))) = some (trimText (row.s3Region.getD "")) ∧
        trimText (row.s3Region.getD "") ≠ "" := by
    unfold presentText
    rw [Option.filter_some]
    by_cases hem : trimText (row.s3Region.getD "") = ""
    · exact .inl (by rw [if_neg (by simp [hem])])
    · exact .inr ⟨by rw [if_pos (by simp [hem])], hem⟩
  rcases hpres with hnone | ⟨hsome, hne⟩
  · exact ⟨hprov, hend, by simp only [hnone]; decide, by simp only [hnone]; simp, haccess⟩
  · exact ⟨hprov, hend, by simp only [hsome]; exact hre, by simp only [hsome]; simpa using hne, haccess⟩

structure PilotSound (sha256 : String → String) (s : SeedPilotSystem) : Prop where
  backends : ∀ id row, s.tables.backends id = some row → row.OneLine
  probes : ∀ probe ∈ s.probes, probe.target.Plain
  passed : ∀ probe ∈ s.passed, probe.target.Plain
  ready : ∀ pilot, s.tables.pilot = some pilot → pilot.readiness.state = .ready → ∃ probe ∈ s.passed,
    pilot.readiness = seedPilotReadinessVerdict pilot.bucket (some (seedRelayTargetFingerprint sha256 probe.target))
      ⟨true, probe.detail⟩ probe.now

variable {decryptSecret : Option String → Option String} {sha256 : String → String} {tables tables' : PilotTables}
variable {s : SeedPilotSystem}

theorem setSeedPilotConfig_verdict {input : SeedPilotInput} {now : Int} {pilot : SeedPilotRow}
    (h : (tables.setSeedPilotConfig input now).pilot = some pilot) (hrd : pilot.readiness.state = .ready) :
    ∃ existing, tables.pilot = some existing ∧ pilot.readiness = existing.readiness ∧ pilot.bucket = existing.bucket := by
  unfold PilotTables.setSeedPilotConfig at h
  cases hex : tables.pilot with
  | none =>
    simp only [hex, Option.some.injEq] at h
    rw [← h] at hrd
    cases hrd
  | some existing =>
    simp only [hex, Option.some.injEq] at h
    rw [← h] at hrd ⊢
    by_cases hkeep : (!input.enabled) = true ∧ existing.backendId = input.backendId ∧ existing.bucket = input.bucket
    · exact ⟨existing, rfl, by simp only [if_pos hkeep], hkeep.2.2.symm⟩
    · simp only [if_neg hkeep] at hrd
      cases hrd

theorem recordSeedPilotReadiness_eq {identity : PilotTables.ProbeIdentity} {targetFingerprint : Option String}
    {outcome : SeedPilotProbeOutcome} {now : Int}
    (h : tables.recordSeedPilotReadiness decryptSecret sha256 identity targetFingerprint outcome now = some tables') :
    ∃ pilot, tables.pilot = some pilot ∧ tables' = { tables with pilot := some { pilot with
      readiness := seedPilotReadinessVerdict pilot.bucket targetFingerprint outcome now, updatedAt := now } } := by
  unfold PilotTables.recordSeedPilotReadiness at h
  split at h
  · cases h
  cases hpi : tables.pilot with
  | none =>
    rw [hpi] at h
    cases h
  | some pilot =>
    simp only [hpi, Option.bind_eq_bind, Option.bind_some, Option.ite_none_right_eq_some, Option.some.injEq] at h
    obtain ⟨⟨-, -, -, hbuck⟩, rfl⟩ := h
    exact ⟨pilot, rfl, by rw [hbuck]⟩

theorem resolveSeedRelayProbeTarget_ok {target : SeedRelayProbeTarget}
    (h : tables.resolveSeedRelayProbeTarget decryptSecret = .ok target) :
    ∃ id row bucket, tables.backends id = some row ∧ targetFromBackendRow decryptSecret row bucket = some target := by
  unfold PilotTables.resolveSeedRelayProbeTarget at h
  repeat' split at h
  all_goals try cases h
  rename_i backendId bucket _ _ _ row hrow _ _ _ htgt
  exact ⟨backendId, row, bucket, hrow, htgt⟩

private theorem sp_record (hs : PilotSound sha256 s) {identity : PilotTables.ProbeIdentity} {targetFingerprint : Option String}
    {outcome : SeedPilotProbeOutcome} {now : Int} {probes : List SeedProbe} {passed : List PassedProbe}
    (hpr : ∀ probe ∈ probes, probe ∈ s.probes) (hmem : ∀ probe ∈ s.passed, probe ∈ passed)
    (hpa : ∀ probe ∈ passed, probe.target.Plain)
    (hok : outcome.ok = true → ∃ probe ∈ passed, targetFingerprint = some (seedRelayTargetFingerprint sha256 probe.target) ∧
      outcome.detail = probe.detail ∧ now = probe.now) :
    PilotSound sha256 {
      tables := (s.tables.recordSeedPilotReadiness decryptSecret sha256 identity targetFingerprint outcome now).getD s.tables
      probes := probes
      passed := passed } := by
  cases hrec : s.tables.recordSeedPilotReadiness decryptSecret sha256 identity targetFingerprint outcome now with
  | none =>
    refine ⟨hs.backends, fun probe hpb => hs.probes probe (hpr probe hpb), hpa, ?_⟩
    intro pilot hpi hrd
    obtain ⟨probe, hpb, heq⟩ := hs.ready pilot hpi hrd
    exact ⟨probe, hmem probe hpb, heq⟩
  | some tables' =>
    obtain ⟨existing, hex, rfl⟩ := recordSeedPilotReadiness_eq hrec
    refine ⟨hs.backends, fun probe hpb => hs.probes probe (hpr probe hpb), hpa, ?_⟩
    intro pilot hpi hrd
    cases hpi
    cases hout : outcome.ok with
    | false =>
      simp only [seedPilotReadinessVerdict, hout] at hrd
      cases hrd
    | true =>
      obtain ⟨probe, hpb, hfp, hde, hnow⟩ := hok hout
      refine ⟨probe, hpb, ?_⟩
      rw [← hfp, ← hde, ← hnow, ← hout]

theorem pilotSound_step (hs : PilotSound sha256 s) (event : SeedPilotEvent) (hev : event.OneLine) :
    PilotSound sha256 (s.step decryptSecret sha256 event) := by
  have hco : ∀ input now, PilotSound sha256 { s with tables := s.tables.setSeedPilotConfig input now } := by
    intro input now
    refine ⟨hs.backends, hs.probes, hs.passed, ?_⟩
    intro pilot hpi hrd
    obtain ⟨existing, hex, hre, hbuck⟩ := setSeedPilotConfig_verdict hpi hrd
    rw [hre, hbuck]
    exact hs.ready existing hex (hre ▸ hrd)
  cases event with
  | configure input now => exact hco input now
  | clear now => exact hco _ now
  | writeBackend id row =>
    refine { hs with backends := fun id' row' hrow' => ?_ }
    rcases Table.of_put hrow' with ⟨-, rfl⟩ | ⟨-, hrow⟩
    · exact hev
    · exact hs.backends id' row' hrow
  | deleteBackend id => exact { hs with backends := fun id' row' hrow' => hs.backends id' row' (Table.of_erase hrow').2 }
  | jobs rows => exact { hs with }
  | startProbe now =>
    change PilotSound sha256 (s.startProbe decryptSecret sha256 now)
    unfold SeedPilotSystem.startProbe
    cases hpi : s.tables.pilot with
    | none => exact hs
    | some config =>
      dsimp only
      split
      · exact hs
      cases hres : s.tables.resolveSeedRelayProbeTarget decryptSecret with
      | error detail => exact sp_record hs (fun _ h => h) (fun _ h => h) hs.passed (fun h => by cases h)
      | ok target =>
        refine { hs with probes := fun probe hpb => ?_ }
        rcases List.mem_append.1 hpb with hpb | hpb
        · exact hs.probes probe hpb
        obtain ⟨id, row, bucket, hrow, htgt⟩ := resolveSeedRelayProbeTarget_ok hres
        rw [List.mem_singleton.1 hpb]
        exact target_plain (hs.backends id row hrow) htgt
  | endProbe index outcome =>
    change PilotSound sha256 (s.endProbe decryptSecret sha256 index outcome)
    unfold SeedPilotSystem.endProbe
    cases hin : s.probes[index]? with
    | none => exact hs
    | some probe =>
      have hpb := List.mem_of_getElem? hin
      cases hok : outcome.ok with
      | false =>
        exact sp_record hs (fun _ h => List.mem_of_mem_eraseIdx h) (fun _ h => h) hs.passed (fun h => by rw [hok] at h; cases h)
      | true =>
        refine sp_record hs (fun _ h => List.mem_of_mem_eraseIdx h) (fun _ h => .tail _ h) ?_ ?_
        · intro passed hpa
          rcases List.mem_cons.1 hpa with rfl | hpa
          · exact hs.probes probe hpb
          · exact hs.passed passed hpa
        · exact fun _ => ⟨_, .head _, rfl, rfl, rfl⟩
  | restart => exact { hs with probes := fun probe hpb => absurd hpb (List.not_mem_nil) }

theorem seedRelaySpaceForHost_some {hostId : String} {space : SeedRelaySpace}
    (h : seedRelaySpaceForHost decryptSecret sha256 tables hostId = some space) :
    ∃ pilot backendId bucket row target job, tables.pilot = some pilot ∧ pilot.enabled = true ∧
      pilot.backendId = some backendId ∧ pilot.bucket = some bucket ∧ tables.backends backendId = some row ∧ row.kind = "s3" ∧
      targetFromBackendRow decryptSecret row bucket = some target ∧ job ∈ tables.jobs ∧ job.live = true ∧
      pilot.folderId = some job.folderId ∧ pilot.sourceHostId = job.sourceHostId ∧ job.sourceHostId.isSome ∧
      pilot.targetHostId = some job.hostId ∧ (job.hostId = hostId ∨ job.sourceHostId = some hostId) ∧
      pilot.readiness.state = .ready ∧
      pilot.readiness.targetFingerprint = tables.liveSeedRelayTargetFingerprint decryptSecret sha256 ∧
      space = {
        jobId := job.id, isSource := pilot.sourceHostId = some hostId, backendId
        endpoint := target.endpoint, bucket := target.bucket, region := target.region
        accessKeyId := target.accessKeyId, secretAccessKey := target.secretAccessKey } := by
  unfold seedRelaySpaceForHost at h
  simp only [Option.bind_eq_bind, Option.bind_none, Option.bind_eq_some_iff,
    Option.ite_none_left_eq_some, Option.some.injEq] at h
  obtain ⟨pilot, hpi, hen, folderId, hfol, sourceHostId, hsrc, targetHostId, htargetHost, backendId, hback,
    bucket, hbuck, -, hcur, job, hjob, row, hrow, hkind, target, htgt, rfl⟩ := h
  have hpa := List.find?_some hjob
  have hlive : job ∈ tables.jobs.filter fun job => job.folderId == folderId && job.live :=
    List.mem_mergeSort.1 (List.mem_of_mem_take (List.mem_of_find?_eq_some hjob))
  simp only [List.mem_filter, Bool.and_eq_true, beq_iff_eq] at hlive
  simp only [decide_eq_true_eq] at hpa
  simp only [Bool.not_eq_true, Bool.not_eq_false', seedPilotReadinessIsCurrent, Bool.and_eq_true, decide_eq_true_eq]
    at hcur hen
  refine ⟨pilot, backendId, bucket, row, target, job, hpi, by simpa using hen, hback, hbuck, hrow,
    by simpa using hkind, htgt, hlive.1, hlive.2.2, ?_, ?_, ?_, ?_, hpa.2.2, hcur.1.1.1.1, hcur.2, ?_⟩
  · rw [hfol, hlive.2.1]
  · rw [hsrc, hpa.1]
  · rw [hpa.1]; rfl
  · rw [htargetHost, hpa.2.1]
  · simp [hsrc, eq_comm]

/-- In every run whose backends have no line feed inside what is fingerprinted, whatever is delivered is proven. -/
theorem relay_space_proven (hinj : Function.Injective sha256) (hhex : ∀ text, '\n' ∉ (sha256 text).toList)
    (events : List SeedPilotEvent) (hevents : ∀ event ∈ events, event.OneLine) :
    (run (fun s event => SeedPilotSystem.step decryptSecret sha256 s event) {} events).DeliveryProven decryptSecret sha256 := by
  have hsd : PilotSound sha256 (run (fun s event => SeedPilotSystem.step decryptSecret sha256 s event) {} events) := by
    have hem : PilotSound sha256 {} :=
      ⟨fun _ _ h => (by cases h), fun _ h => absurd h List.not_mem_nil, fun _ h => absurd h List.not_mem_nil,
        fun _ h => (by cases h)⟩
    exact Always.invariant (always_of_forall hevents) hem fun s event hs hev => pilotSound_step hs event hev
  generalize run (fun s event => SeedPilotSystem.step decryptSecret sha256 s event) {} events = s at hsd
  intro hostId space h
  obtain ⟨pilot, backendId, bucket, row, target, job, hpi, hen, hback, hbuck, hrow, hkind, htgt, hjob, hlive,
    hfol, hsrc, hsome, htargetHost, hpa, hrd, hfp, rfl⟩ := seedRelaySpaceForHost_some h
  -- the fingerprint delivery compares with is that of the target it delivers
  have hcur : s.tables.liveSeedRelayTargetFingerprint decryptSecret sha256 =
      some (seedRelayTargetFingerprint sha256 target) := by
    simp [PilotTables.liveSeedRelayTargetFingerprint, hpi, hen, hback, hbuck, hrow, hkind, htgt]
  obtain ⟨probe, hpb, hverd⟩ := hsd.ready pilot hpi hrd
  have hsame : seedRelayTargetFingerprint sha256 probe.target = seedRelayTargetFingerprint sha256 target := by
    rw [hverd, hcur] at hfp
    exact Option.some.inj hfp
  have hpl := target_plain (hsd.backends backendId row hrow) htgt
  have heq := fingerprint_inj hinj hhex (hsd.passed probe hpb) hpl hsame
  exact ⟨pilot, backendId, bucket, row, target, hpi, hen, hback, hbuck, hrow, hkind, htgt,
    ⟨job, hjob, hlive, rfl, hfol, hsome, hsrc, htargetHost, hpa⟩, ⟨probe, hpb, heq, by rw [hverd, heq]⟩,
    rfl, rfl, rfl, rfl, rfl⟩

def escapeLine (c : Char) : List Char := if c = '\n' then ['n', 'n'] else ['c', c]

def relayLines : String :=
  "seed-relay-target/1\nother\nhttps://s3.example.com\neu\nAKIA\n" ++
    "1ec1c26b50d5d3c58d9583181af8076655fe00756bf7285940ba3670f99fcba0\nseed-space"

def movedLines : String :=
  "seed-relay-target/1\nother\nhttps://s3.example.com\neu\nacl = private\nAKIA\n" ++
    "1ec1c26b50d5d3c58d9583181af8076655fe00756bf7285940ba3670f99fcba0\nseed-space"

def pilotDigests (text : String) : String :=
  if text = "s3cret" then "1ec1c26b50d5d3c58d9583181af8076655fe00756bf7285940ba3670f99fcba0"
  else if text = relayLines then "171a8235321c37391a96307a74f1ca5ed8642efcbfe2f6dc936ddffb137195fe"
  else if text = movedLines then "f2b7833b5aa49a4996a9bf87bddaaa94371336039a0d52aec3ddc0f8da920bba"
  else String.ofList ('-' :: text.toList.flatMap escapeLine)

/-- The text an escaped one stands for. -/
def unescapeLines : List Char → List Char
  | tag :: c :: rest => (if tag = 'n' then '\n' else c) :: unescapeLines rest
  | _ => []

def pilotText (digest : String) : String :=
  if digest = "1ec1c26b50d5d3c58d9583181af8076655fe00756bf7285940ba3670f99fcba0" then "s3cret"
  else if digest = "171a8235321c37391a96307a74f1ca5ed8642efcbfe2f6dc936ddffb137195fe" then relayLines
  else if digest = "f2b7833b5aa49a4996a9bf87bddaaa94371336039a0d52aec3ddc0f8da920bba" then movedLines
  else String.ofList (unescapeLines digest.toList.tail)

private theorem sp_unescape (cs : List Char) : unescapeLines (cs.flatMap escapeLine) = cs := by
  induction cs with
  | nil => rfl
  | cons c cs ih =>
    rw [List.flatMap_cons, escapeLine]
    split
    · simp [unescapeLines, ih, ‹c = '\n'›]
    · simp [unescapeLines, ih]

private theorem sp_escape_line {cs : List Char} : '\n' ∉ cs.flatMap escapeLine := by
  intro h
  obtain ⟨c, -, hc⟩ := List.mem_flatMap.1 h
  rw [escapeLine] at hc
  split at hc
  · exact absurd hc (by decide)
  simp only [List.mem_cons, List.not_mem_nil, or_false] at hc
  rcases hc with hc | hc
  · exact absurd hc (by decide)
  · exact ‹¬ c = '\n'› hc.symm

private theorem sp_digests : ∀ digest ∈ ["1ec1c26b50d5d3c58d9583181af8076655fe00756bf7285940ba3670f99fcba0",
    "171a8235321c37391a96307a74f1ca5ed8642efcbfe2f6dc936ddffb137195fe",
    "f2b7833b5aa49a4996a9bf87bddaaa94371336039a0d52aec3ddc0f8da920bba"],
      digest.toList.head? ≠ some '-' ∧ '\n' ∉ digest.toList := by
  decide +kernel

theorem pilotDigests_injective : Function.Injective pilotDigests := by
  refine Function.LeftInverse.injective (g := pilotText) fun text => ?_
  by_cases hkn : text ∈ ["s3cret", relayLines, movedLines]
  · have htext : ∀ text ∈ ["s3cret", relayLines, movedLines], pilotText (pilotDigests text) = text := by decide +kernel
    exact htext text hkn
  simp only [List.mem_cons, List.not_mem_nil, or_false, not_or] at hkn
  unfold pilotDigests
  rw [if_neg hkn.1, if_neg hkn.2.1, if_neg hkn.2.2]
  -- no digest starts with a hyphen
  have hne : ∀ digest : String, digest.toList.head? ≠ some '-' →
      String.ofList ('-' :: text.toList.flatMap escapeLine) ≠ digest := by
    rintro digest hhead rfl
    exact hhead (by simp)
  unfold pilotText
  rw [if_neg (hne _ (sp_digests _ (by simp)).1), if_neg (hne _ (sp_digests _ (by simp)).1),
    if_neg (hne _ (sp_digests _ (by simp)).1), String.toList_ofList, List.tail_cons, sp_unescape, String.ofList_toList]

theorem pilotDigests_line (text : String) : '\n' ∉ (pilotDigests text).toList := by
  unfold pilotDigests
  split
  · exact (sp_digests _ (by simp)).2
  split
  · exact (sp_digests _ (by simp)).2
  split
  · exact (sp_digests _ (by simp)).2
  · rw [String.toList_ofList]
    exact List.not_mem_cons_of_ne_of_not_mem (by decide) sp_escape_line

def relayBackend (region accessKeyId : String) : BackendS3Row where
  kind := "s3"
  s3Provider := some "other"
  s3Endpoint := some "https://s3.example.com"
  s3Region := some region
  s3AccessKeyId := some accessKeyId
  s3SecretKeyEnc := some "legacy:czNjcmV0"

def relaySecret (stored : Option String) : Option String := if stored = some "legacy:czNjcmV0" then some "s3cret" else none

def provenPilot (region accessKeyId : String) : List SeedPilotEvent :=
  [.writeBackend "b1" (relayBackend region accessKeyId),
    .configure { enabled := true, folderId := some "docs", sourceHostId := some "laptop", targetHostId := some "nas"
                 backendId := some "b1", bucket := some "seed-space" } 1,
    .jobs [{ id := "j", folderId := "docs", hostId := "nas", sourceHostId := some "laptop", phase := "uploading"
             createdAt := 2 }],
    .startProbe 3, .endProbe 0 ⟨true, "The configured backend can upload."⟩]

theorem relay_space_proven_delivered :
    (seedRelaySpaceForHost relaySecret pilotDigests (run (fun s event => SeedPilotSystem.step relaySecret pilotDigests s event)
        {} (provenPilot "eu" "AKIA")).tables "nas").isSome ∧
      (run (fun s event => SeedPilotSystem.step relaySecret pilotDigests s event) {}
        (provenPilot "eu" "AKIA")).DeliveryProven relaySecret pilotDigests := by
  refine ⟨by decide +kernel, relay_space_proven pilotDigests_injective pilotDigests_line _ ?_⟩
  intro event hev
  simp only [provenPilot, List.mem_cons, List.not_mem_nil, or_false] at hev
  rcases hev with rfl | rfl | rfl | rfl | rfl
  · have hrow : OneLine (some "https://s3.example.com") ∧ OneLine (some "eu") ∧ OneLine (some "AKIA") := by decide +kernel
    exact hrow
  all_goals trivial

/-- The backend is edited after the probe: what was the end of its region is now the start of its access key, and the
fingerprint is the same. -/
theorem moved_line_feed_delivered :
    Function.Injective pilotDigests ∧ ¬ (run (fun s event => SeedPilotSystem.step relaySecret pilotDigests s event) {}
      (provenPilot "eu\nacl = private" "AKIA" ++
        [.writeBackend "b1" (relayBackend "eu" "acl = private\nAKIA")])).DeliveryProven relaySecret pilotDigests := by
  refine ⟨pilotDigests_injective, fun h => ?_⟩
  generalize hs : run (fun s event => SeedPilotSystem.step relaySecret pilotDigests s event) {}
    (provenPilot "eu\nacl = private" "AKIA" ++ [.writeBackend "b1" (relayBackend "eu" "acl = private\nAKIA")]) = s at h
  have hsp : (seedRelaySpaceForHost relaySecret pilotDigests s.tables "nas").map SeedRelaySpace.accessKeyId =
      some "acl = private\nAKIA" ∧ s.passed.all (fun probe => probe.target.accessKeyId == "AKIA") = true := by
    rw [← hs]
    decide +kernel
  obtain ⟨space, hde, hkey⟩ := Option.map_eq_some_iff.1 hsp.1
  obtain ⟨-, -, -, -, target, -, -, -, -, -, -, -, -, ⟨probe, hpb, rfl, -⟩, -, -, -, hsame, -⟩ := h "nas" space hde
  have hpa := List.all_eq_true.1 hsp.2 probe hpb
  rw [beq_iff_eq, ← hsame, hkey] at hpa
  exact absurd hpa (by decide)

end LamaSync
