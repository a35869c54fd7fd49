import LamaSync.Core.StagingLocation
import LamaSync.Daemon.SeedTransport
import LamaSync.Lib.Script

/-!
# The archive of a target and tar

The target side of a seed downloads an archive, compares its bytes with the recorded digest, and has tar extract it.
A validation that lists the members and refuses the archive for one that is unsafe is there, but `runTarget` does not call
it: every run that gets as far as tar hands over members that nothing has looked at (`extraction_follows_validation`).
-/

namespace LamaSync

structure ArchiveMember where
  type : Char
  name : String
  deriving DecidableEq

def isSafeArchiveMember (member : String) : Bool :=
  let cs := member.toList
  let segments := cs.splitOn '/'
  !cs.isEmpty && decide (utf16Length cs ≤ 4096) && cs.head? != some '/' && cs.head? != some '\\' &&
    !isWindowsPath cs && !cs.contains '\\' && (cs.all fun c => 0x20 ≤ c.toNat && c.toNat != 0x7f) &&
    (segments.all fun s => s != ['.', '.']) && segments.any fun s => !s.isEmpty

/-- Without the `./` in front. -/
def dropCurrentDir : List Char → List Char
  | '.' :: '/' :: rest => dropCurrentDir rest
  | cs => cs

def normalizeArchiveMemberName (name : String) : String :=
  let out := dropCurrentDir name.toList
  let out := if out.getLast? = some '/' ∧ 1 < utf16Length out then out.dropLast else out
  if out = ['.'] then "" else String.ofList out

def ArchiveMember.isAccepted (m : ArchiveMember) : Bool :=
  (m.type == '-' || m.type == 'd') &&
    (normalizeArchiveMemberName m.name == "" || isSafeArchiveMember (normalizeArchiveMemberName m.name))

structure TargetDisk where
  archive : Option (List UInt8)
  accepted : Bool

/-- What a run does to the archive. -/
inductive TargetEvent where
  | fetched (bytes : List UInt8)
  | removed
  | validated (ok : Bool)
  | command (argv : List String)

def TargetDisk.step (disk : TargetDisk) : TargetEvent → TargetDisk
  | .fetched bytes => ⟨some bytes, false⟩
  | .removed => ⟨none, false⟩
  | .validated ok => { disk with accepted := ok }
  | .command _ => disk

/-- The context of a run, and how its awaits go. -/
structure TargetEnv where
  jobId : String
  archivePath : String
  /-- The local path and whether the folder is a `sync` folder. -/
  assignment : Except String (String × Bool)
  waitForSourceFacts : Except RunnerThrow SeedJobArchiveFacts
  enter : SeedJobPhase → Option RunnerThrow
  before : SeedStage → Option RunnerThrow
  after : SeedStage → Option RunnerThrow
  /-- What the relay returns for the archive: its bytes, or the error of the store. -/
  get : Except String (List UInt8)
  readBack : Option String
  digestOf : List UInt8 → Sha256Hex
  manifest : Option String
  /-- The error of clearing the staging directory, and of making it. -/
  clearStaging : Option String
  makeStaging : Option String
  list : List UInt8 → Except String (List ArchiveMember)

abbrev TargetScript := Script TargetDisk TargetEvent RunnerThrow

def compressionFlag : SeedArchiveFormat → String
  | .tarZstd => "--zstd"
  | _ => "--gzip"

def archiveExtractArgs (format : SeedArchiveFormat) (archivePath stagingDir : String) : List String :=
  ["tar", "--extract", "--file", archivePath, compressionFlag format, "--directory", stagingDir, "--no-same-owner",
    "--no-same-permissions", "--no-overwrite-dir", "--verbose"]

namespace TargetEnv

variable (env : TargetEnv)

def supervised {α : Type} (stage : SeedStage) (work : TargetScript α) : TargetScript α := do
  .orLeaveNone (env.before stage) id
  let a ← work
  .orLeaveNone (env.after stage) id
  pure a

def expectedArchive (archive : SeedJobArchiveFacts) : Except String FileDigest :=
  match archive.bytes, archive.sha256, archive.objectKey with
  | some bytes, some sha256, some key =>
    if !isPositiveSafeInteger bytes.val then .error "the recorded archive byte count is not a positive integer"
    else
      match seedRelayKeyError key (some env.jobId) with
      | some error => .error error
      | none =>
        let expectedKey := seedRelayArchiveKey env.jobId archive.format
        if key ≠ expectedKey then .error ("the recorded object key is not this job's archive key (" ++ expectedKey ++ ")")
        else .ok ⟨bytes.val.toNat, sha256⟩
  | _, _, _ => .error "this job has no recorded archive metadata, so nothing can be verified"

/-- Returns the error, if there is one.  A failure deletes the file. -/
def downloadSeedArchive (archive : SeedJobArchiveFacts) : TargetScript (Option String) :=
  match env.expectedArchive archive with
  | .error error => pure (some error)
  | .ok expected =>
    match env.get with
    | .error error => do
      .act .removed
      pure (some error)
    | .ok bytes => do
      .act (.fetched bytes)
      match env.readBack with
      | some error => do
        .act .removed
        pure (some ("the downloaded archive could not be read back: " ++ error))
      | none =>
        match seedArchiveMatchesMetadata expected ⟨bytes.length, some (env.digestOf bytes).val⟩ with
        | some error => do
          .act .removed
          pure (some (error ++ "; the download was removed"))
        | none => pure none

def extractSeedArchive (format : SeedArchiveFormat) (stagingDir : String) : TargetScript Unit := do
  .orLeaveNone env.makeStaging .failed
  .act (.command (archiveExtractArgs format env.archivePath stagingDir))

def runTarget : TargetScript Unit :=
  match env.assignment with
  | .error message => .leave (.failed message)
  | .ok (localPath, isSync) => do
    .leaveIf (isSync = false) (.failed "only sync assignments can be seeded")
    match env.waitForSourceFacts with
    | .error thrown => .leave thrown
    | .ok archive => do
      .orLeaveNone (env.enter .downloadingArchive) id
      let downloaded ← env.supervised .downloadSeedArchive (env.downloadSeedArchive archive)
      .orLeaveNone downloaded fun error => .failed (bounded ("archive download failed: " ++ error) 200)
      .orLeaveNone (env.enter .verifyingArchive) id
      let manifest ← env.supervised .downloadSeedManifest (pure env.manifest)
      .orLeaveNone manifest fun error => .failed (bounded ("manifest download failed: " ++ error) 200)
      let stagingDir ← .orLeave (.failed "the assignment's local path cannot derive a staging sibling")
        (seedStagingPath localPath env.jobId)
      .orLeaveNone env.clearStaging .failed
      .orLeaveNone (env.enter .extractingTarget) id
      env.supervised .extractSeedArchive (env.extractSeedArchive archive.format stagingDir)

end TargetEnv

def isExtraction : TargetEvent → Prop
  | .command argv => argv[1]? = some "--extract"
  | _ => False

section HandsOver

variable (env : TargetEnv)

/-- The extractor is invoked only after the member list of the archive has been validated and accepted. -/
def ExtractsValidated (disk : TargetDisk) (e : TargetEvent) : Prop := isExtraction e → disk.accepted = true

def ExtractsSafe (disk : TargetDisk) (e : TargetEvent) : Prop :=
  isExtraction e → ∃ bytes members, disk.archive = some bytes ∧ env.list bytes = .ok members ∧
    ∀ m ∈ members, m.isAccepted = true

/-- A run gets as far as tar: its assignment, the recorded facts, the relay and the server let it. -/
structure HandsOver (archive : SeedJobArchiveFacts) (bytes : List UInt8) (stagingDir : String) : Prop where
  assignment : ∃ localPath, env.assignment = .ok (localPath, true) ∧ seedStagingPath localPath env.jobId = some stagingDir
  facts : env.waitForSourceFacts = .ok archive
  get : env.get = .ok bytes
  download : ∃ expected, env.expectedArchive archive = .ok expected ∧
    seedArchiveMatchesMetadata expected ⟨bytes.length, some (env.digestOf bytes).val⟩ = none
  readBack : env.readBack = none
  manifest : env.manifest = none
  staging : env.clearStaging = none ∧ env.makeStaging = none
  enters : env.enter .downloadingArchive = none ∧ env.enter .verifyingArchive = none ∧ env.enter .extractingTarget = none
  before : env.before .downloadSeedArchive = none ∧ env.before .downloadSeedManifest = none ∧
    env.before .extractSeedArchive = none
  after : env.after .downloadSeedArchive = none ∧ env.after .downloadSeedManifest = none

variable {env} {P : TargetDisk → TargetEvent → Prop} {disk : TargetDisk} {archive : SeedJobArchiveFacts}

variable {left : RunnerThrow → TargetDisk → Prop}

private theorem se_supervised {α : Type} {post : α → TargetDisk → Prop}
    {stage : SeedStage} {work : TargetScript α} :
    Script.wp TargetDisk.step P post left (env.supervised stage work) disk ↔
      (∀ thrown, env.before stage = some thrown → left thrown disk) ∧ (env.before stage = none →
        Script.wp TargetDisk.step P (fun a after => (∀ thrown, env.after stage = some thrown → left thrown after) ∧
          (env.after stage = none → post a after)) left work disk) := by
  simp [TargetEnv.supervised]

private theorem se_download (hP : ∀ disk e, ¬isExtraction e → P disk e) {post : Option String → TargetDisk → Prop}
    (hpost : ∀ error disk, post (some error) disk) :
    Script.wp TargetDisk.step P post left (env.downloadSeedArchive archive) disk ↔
      ∀ bytes, env.get = .ok bytes → env.readBack = none → (∃ expected, env.expectedArchive archive = .ok expected ∧
        seedArchiveMatchesMetadata expected ⟨bytes.length, some (env.digestOf bytes).val⟩ = none) →
          post none ⟨some bytes, false⟩ := by
  have hfe : ∀ disk bytes, P disk (.fetched bytes) := fun disk bytes => hP disk _ id
  have hrem : ∀ disk, P disk .removed := fun disk => hP disk _ id
  unfold TargetEnv.downloadSeedArchive
  cases hexp : env.expectedArchive archive with
  | error error => simp [hpost]
  | ok expected =>
    cases hget : env.get with
    | error error => simp [hpost, hrem]
    | ok bytes =>
      cases hread : env.readBack with
      | some error => simp [hpost, hfe, hrem]
      | none =>
        cases hm : seedArchiveMatchesMetadata expected ⟨bytes.length, some (env.digestOf bytes).val⟩ with
        | some error => simp [hpost, hfe, hrem, hm]
        | none => simp [hfe, hm, TargetDisk.step]

theorem always_runTarget (hP : ∀ disk e, ¬isExtraction e → P disk e) :
    Trace.Always TargetDisk.step P disk (env.runTarget.log TargetDisk.step disk) ↔
      ∀ archive bytes stagingDir, HandsOver env archive bytes stagingDir →
        P ⟨some bytes, false⟩ (.command (archiveExtractArgs archive.format env.archivePath stagingDir)) := by
  rw [← Script.wp_events]
  unfold TargetEnv.runTarget
  cases hasg : env.assignment with
  | error message =>
    refine iff_of_true trivial fun archive bytes stagingDir h => ?_
    obtain ⟨localPath, hpath, -⟩ := h.assignment
    cases hasg.symm.trans hpath
  | ok found =>
    obtain ⟨localPath, isSync⟩ := found
    cases hfc : env.waitForSourceFacts with
    | error thrown =>
      refine iff_of_true (by simp) fun archive bytes stagingDir h => ?_
      cases hfc.symm.trans h.facts
    | ok archive =>
      simp only [Script.wp_bind, Script.wp_leaveIf, Script.wp_orLeaveNone, Script.wp_orLeave, Script.wp_pure,
        se_supervised, implies_true, true_and, TargetEnv.extractSeedArchive, Script.wp_act, and_true]
      constructor
      · intro h archive' bytes stagingDir hands
        obtain ⟨localPath', hpath, hstag⟩ := hands.assignment
        obtain ⟨rfl, rfl⟩ := Prod.mk.inj (Except.ok.inj (hasg.symm.trans hpath))
        obtain rfl := Except.ok.inj (hfc.symm.trans hands.facts)
        obtain ⟨hbef₁, hbef₂, hbef₃⟩ := hands.before
        have hdo := h (by decide) hands.enters.1 hbef₁
        rw [se_download hP (by simp)] at hdo
        exact hdo bytes hands.get hands.readBack hands.download hands.after.1 rfl hands.enters.2.1 hbef₂
          hands.after.2 hands.manifest stagingDir hstag hands.staging.1 hands.enters.2.2 hbef₃ hands.staging.2
      · intro h hsync hen₁ hbef₁
        rw [se_download hP (by simp)]
        intro bytes hget hread hdo haf₁ _ hen₂ hbef₂ haf₂ hma stagingDir hstag hcl hen₃
          hbef₃ hmake
        have htrue : isSync = true := eq_true_of_ne_false hsync
        exact h archive bytes stagingDir {
          assignment := ⟨localPath, htrue ▸ hasg, hstag⟩
          facts := hfc
          get := hget
          download := hdo
          readBack := hread
          manifest := hma
          staging := ⟨hcl, hmake⟩
          enters := ⟨hen₁, hen₂, hen₃⟩
          before := ⟨hbef₁, hbef₂, hbef₃⟩
          after := ⟨haf₁, haf₂⟩ }

variable (env disk)

/-- An extraction is never preceded by a validation, so only the runs that end before it keep to the rule; and tar is
handed safe members alone exactly when the relay returned no others. -/
theorem extraction_follows_validation :
    (Trace.Always TargetDisk.step ExtractsValidated disk (env.runTarget.log TargetDisk.step disk) ↔
      ∀ archive bytes stagingDir, ¬HandsOver env archive bytes stagingDir) ∧
    (Trace.Always TargetDisk.step (ExtractsSafe env) disk (env.runTarget.log TargetDisk.step disk) ↔
      ∀ archive bytes stagingDir, HandsOver env archive bytes stagingDir →
        ∃ members, env.list bytes = .ok members ∧ ∀ m ∈ members, m.isAccepted = true) := by
  have hex : ∀ format stagingDir, isExtraction (.command (archiveExtractArgs format env.archivePath stagingDir)) :=
    fun _ _ => rfl
  constructor
  · rw [always_runTarget fun _ _ hnot hext => absurd hext hnot]
    refine forall_congr' fun archive => forall_congr' fun bytes => forall_congr' fun stagingDir => ?_
    exact ⟨fun h hands => Bool.false_ne_true (h hands (hex ..)), fun h hands => absurd hands h⟩
  rw [always_runTarget fun _ _ hnot hext => absurd hext hnot]
  refine forall_congr' fun archive => forall_congr' fun bytes => forall_congr' fun stagingDir => ?_
  refine forall_congr' fun _ => ⟨fun h => ?_, fun ⟨members, hlist, hacc⟩ _ => ⟨bytes, members, rfl, hlist, hacc⟩⟩
  obtain ⟨_, members, hb, hlist, hacc⟩ := h (hex ..)
  cases hb
  exact ⟨members, hlist, hacc⟩

end HandsOver

def zeroDigest : Sha256Hex :=
  ⟨"0000000000000000000000000000000000000000000000000000000000000000", by decide⟩

private theorem sx_one : (0 : Int) < 1 ∧ (1 : Int) ≤ maxSafeInteger := by
  decide

def linkFacts : SeedJobArchiveFacts :=
  { emptySeedJobArchiveFacts .tarGz with
    bytes := some ⟨1, sx_one⟩
    sha256 := some zeroDigest
    objectKey := some (seedRelayArchiveKey "job" .tarGz) }

def linkEnv : TargetEnv where
  jobId := "job"
  archivePath := "/work/payload.archive"
  assignment := .ok ("/data/photos", true)
  waitForSourceFacts := .ok linkFacts
  enter _ := none
  before _ := none
  after _ := none
  get := .ok [0]
  readBack := none
  digestOf _ := zeroDigest
  manifest := none
  clearStaging := none
  makeStaging := none
  list _ := .ok [⟨'l', "../../etc"⟩]

theorem link_reaches_tar :
    ¬Trace.Always TargetDisk.step ExtractsValidated ⟨none, false⟩
        (linkEnv.runTarget.log TargetDisk.step ⟨none, false⟩) ∧
      ¬Trace.Always TargetDisk.step (ExtractsSafe linkEnv) ⟨none, false⟩
        (linkEnv.runTarget.log TargetDisk.step ⟨none, false⟩) := by
  obtain ⟨hstag, hkey⟩ : seedStagingPath "/data/photos" "job" = some "/data/.lamasync-seed-staging-photos-job" ∧
      seedRelayKeyError (seedRelayArchiveKey "job" .tarGz) (some "job") = none := by
    decide +kernel
  have hexp : linkEnv.expectedArchive linkFacts = .ok ⟨1, zeroDigest⟩ := by
    simp [TargetEnv.expectedArchive, linkEnv, linkFacts, hkey, emptySeedJobArchiveFacts, isPositiveSafeInteger,
      maxSafeInteger]
  have hands : HandsOver linkEnv linkFacts [0] "/data/.lamasync-seed-staging-photos-job" := {
    assignment := ⟨"/data/photos", rfl, hstag⟩
    facts := rfl
    get := rfl
    download := ⟨⟨1, zeroDigest⟩, hexp, by decide⟩
    readBack := rfl
    manifest := rfl
    staging := ⟨rfl, rfl⟩
    enters := ⟨rfl, rfl, rfl⟩
    before := ⟨rfl, rfl, rfl⟩
    after := ⟨rfl, rfl⟩ }
  constructor
  · intro h
    exact Bool.false_ne_true ((always_runTarget fun _ _ hnot hyes => absurd hyes hnot).1 h _ _ _ hands rfl)
  intro h
  obtain ⟨bytes, members, -, hlist, hacc⟩ :=
    (always_runTarget fun _ _ hnot hyes => absurd hyes hnot).1 h _ _ _ hands rfl
  cases hlist
  exact absurd (hacc _ (.head _)) (by decide)

end LamaSync
