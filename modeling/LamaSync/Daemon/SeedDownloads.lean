import LamaSync.Core.SeedManifest
import LamaSync.Server.SeedCleanup

/-!
# The downloads of a seed

`downloadSeedArchive` and `downloadSeedManifest` have a store write to a path, read back what is there, compare it with
what was recorded, and remove it on every failure they see.  The store is any behaviour at all.  They do not see a store
that throws, and a removal that fails goes unnoticed: `downloads_verified` says exactly when a failed download leaves no
file.
-/

namespace LamaSync

/-- What is at the path of a download. -/
inductive Destination where
  | absent
  | file (content : List UInt8)
  | directory
  deriving DecidableEq

def Destination.isFile : Destination → Bool
  | .file _ => true
  | .absent | .directory => false

@[simp] theorem Destination.isFile_file (content : List UInt8) : (Destination.file content).isFile = true := rfl

@[simp] theorem Destination.isFile_absent : Destination.absent.isFile = false := rfl

@[simp] theorem Destination.isFile_directory : Destination.directory.isFile = false := rfl

inductive GetReply where
  | answered
  | failed (error : String)
  | thrown (error : String)
  deriving DecidableEq

/-- What a job recorded of an object: its size and its digest, as they are compared. -/
structure RecordedDigest where
  bytes : JsDouble
  sha256 : String

/-- A relay store, as far as a download uses it.  It may leave anything at the path, and say anything of it. -/
structure DownloadStore where
  kind : String
  get : String → RecordedDigest → Destination → Destination × GetReply

structure DownloadFate where
  readBack : Option String
  removes : Bool

def DownloadFate.bestEffortRm (fate : DownloadFate) : Destination → Destination
  | .file content => if fate.removes then .absent else .file content
  | .absent => .absent
  | .directory => .directory

@[simp] theorem DownloadFate.isFile_bestEffortRm (fate : DownloadFate) (after : Destination) :
    (fate.bestEffortRm after).isFile = (after.isFile && !fate.removes) := by
  cases after with
  | file content => cases hre : fate.removes <;> simp [DownloadFate.bestEffortRm, hre]
  | absent | directory => rfl

/-- The bytes at the path, as both of the reads find them. -/
def DownloadFate.read (fate : DownloadFate) : Destination → Except String (List UInt8)
  | .file content =>
    match fate.readBack with
    | some error => .error error
    | none => .ok content
  | .absent => .error "ENOENT: no such file or directory"
  | .directory => .error "EISDIR: illegal operation on a directory, read"

/-- What a download returns. -/
inductive Fetched (α : Type) where
  | ok (value : α)
  | failed (error : String)
  | thrown (error : String)

def Fetched.isOk {α : Type} : Fetched α → Bool
  | .ok _ => true
  | .failed _ | .thrown _ => false

section Fetch

variable {α : Type} (store : DownloadStore) (fate : DownloadFate) (destination : Destination)

/-- The part that both downloads have in common.  `verify` looks at the bytes on disk. -/
def fetchVerified (what key : String) (expected : RecordedDigest) (verify : List UInt8 → Except String α) :
    Destination × Fetched α :=
  let fail := fun after error => (fate.bestEffortRm after, Fetched.failed (describeStoreFailure store.kind error))
  match store.get key expected destination with
  | (after, .thrown error) => (after, .thrown error)
  | (after, .failed error) => fail after error
  | (after, .answered) =>
    match fate.read after with
    | .error error => fail after ("the downloaded " ++ what ++ " could not be read back: " ++ error)
    | .ok content =>
      match verify content with
      | .error error => fail after error
      | .ok value => (after, .ok value)

end Fetch

/-- The facts of a job that a download reads, unchecked. -/
structure RecordedFacts where
  format : SeedArchiveFormat
  bytes : Option JsDouble
  sha256 : Option String
  objectKey : Option String
  manifestObjectKey : Option String
  manifestBytes : Option JsDouble
  manifestSha256 : Option String
  manifestFingerprint : Option String
  verifiedAt : Option Int

structure DownloadInput where
  archive : RecordedFacts
  jobId : String
  now : Int

/-- What is hashed and parsed along the way. -/
structure DownloadEnv where
  digestOf : List UInt8 → Sha256Hex
  numberText : JsDouble → List Char
  parse : List UInt8 → Option Json

/-- What a successful download of an archive returns. -/
structure VerifiedArchive where
  bytes : Nat
  sha256 : String
  archive : RecordedFacts

section Downloads

variable (env : DownloadEnv)

def archiveMatches (expected : RecordedDigest) (content : List UInt8) : Option String :=
  if .finite content.length ≠ expected.bytes then
    some ("the archive is " ++ toString content.length ++ " bytes but " ++
      String.ofList (expected.bytes.text env.numberText) ++ " were recorded")
  else if (env.digestOf content).val ≠ expected.sha256 then
    some "the archive's SHA-256 does not match the recorded digest"
  else none

def prepareArchive (input : DownloadInput) : Except String (String × RecordedDigest) :=
  match input.archive.bytes, input.archive.sha256, input.archive.objectKey with
  | some bytes, some sha256, some objectKey =>
    if !bytes.isCount || bytes == .finite 0 then .error "the recorded archive byte count is not a positive integer"
    else if !isSha256Hex sha256 then .error "the recorded archive SHA-256 is not a 64-character hex digest"
    else
      match seedRelayKeyError objectKey (some input.jobId) with
      | some error => .error error
      | none =>
        let expectedKey := seedRelayArchiveKey input.jobId input.archive.format
        if objectKey ≠ expectedKey then
          .error ("the recorded object key is not this job's archive key (" ++ expectedKey ++ ")")
        else .ok (objectKey, ⟨bytes, sha256⟩)
  | _, _, _ => .error "this job has no recorded archive metadata, so nothing can be verified"

def verifyArchive (input : DownloadInput) (expected : RecordedDigest) (content : List UInt8) : Except String VerifiedArchive :=
  match archiveMatches env expected content with
  | some error => .error (error ++ "; the download was removed")
  | none => .ok ⟨content.length, (env.digestOf content).val, { input.archive with verifiedAt := some input.now }⟩

def SeedDownload.downloadSeedArchive (store : DownloadStore) (fate : DownloadFate) (destination : Destination)
    (input : DownloadInput) : Destination × Fetched VerifiedArchive :=
  match prepareArchive input with
  | .error error => (destination, .failed (describeStoreFailure store.kind error))
  | .ok (key, expected) => fetchVerified store fate destination "archive" key expected (verifyArchive env input expected)

def prepareManifest (input : DownloadInput) : Except String (String × RecordedDigest × String) :=
  match input.archive.manifestObjectKey, input.archive.manifestBytes, input.archive.manifestSha256 with
  | some objectKey, some bytes, some sha256 =>
    match input.archive.manifestFingerprint with
    | none => .error "this job recorded no manifest content fingerprint to verify against"
    | some fingerprint =>
      let expectedKey := seedRelayManifestKey input.jobId
      if objectKey ≠ expectedKey then
        .error ("the recorded manifest object key is not this job's manifest key (" ++ expectedKey ++ ")")
      else
        match seedRelayKeyError objectKey (some input.jobId) with
        | some error => .error error
        | none => .ok (objectKey, ⟨bytes, sha256⟩, fingerprint)
  | _, _, _ => .error "this job has no recorded source manifest, so the target cannot know the source universe"

def seedManifestContentFingerprint (entries : List SeedManifestEntryDocument) : String :=
  (env.digestOf (seedManifestContentDigestInput env.numberText entries).toUTF8.data.toList).val

def verifyManifest (expected : RecordedDigest) (fingerprint : String) (content : List UInt8) :
    Except String SeedManifestDocument :=
  match archiveMatches env expected content with
  | some error => .error (error ++ "; the download was removed")
  | none =>
    match env.parse content with
    | none => .error "the transported manifest is not valid JSON"
    | some parsed =>
      match parseSeedManifestDocument parsed with
      | none => .error "the transported manifest failed validation"
      | some document =>
        let derived := seedManifestContentFingerprint env document.entries
        if derived ≠ document.fingerprint then
          .error "the transported manifest's content fingerprint does not match the members it carries"
        else if derived ≠ fingerprint then
          .error "the transported manifest describes a different universe than the job recorded"
        else .ok document

def SeedDownload.downloadSeedManifest (store : DownloadStore) (fate : DownloadFate) (destination : Destination)
    (input : DownloadInput) : Destination × Fetched SeedManifestDocument :=
  match prepareManifest input with
  | .error error => (destination, .failed (describeStoreFailure store.kind error))
  | .ok (key, expected, fingerprint) =>
    fetchVerified store fate destination "manifest" key expected (verifyManifest env expected fingerprint)

end Downloads

section Guarantees

variable (env : DownloadEnv) (store : DownloadStore) (fate : DownloadFate) (destination : Destination) (input : DownloadInput)

def HasDigest (recorded : RecordedDigest) (content : List UInt8) : Prop :=
  recorded.bytes = .finite content.length ∧ recorded.sha256 = (env.digestOf content).val

/-- A successful download is at the path as it was recorded, and one that fails after the store was read leaves no file. -/
def ArchiveGuaranteed : Prop :=
  let result := SeedDownload.downloadSeedArchive env store fate destination input
  (result.2.isOk = true → ∃ content bytes sha256, result.1 = .file content ∧ input.archive.bytes = some bytes ∧
    input.archive.sha256 = some sha256 ∧ HasDigest env ⟨bytes, sha256⟩ content) ∧
  ((prepareArchive input).isOk = true → result.2.isOk = false → result.1.isFile = false)

/-- The same of the manifest: its bytes are as recorded, the document that they hold is valid, and the fingerprint of its
members is the one it claims and the one that was recorded. -/
def ManifestGuaranteed : Prop :=
  let result := SeedDownload.downloadSeedManifest env store fate destination input
  (∀ document, result.2 = .ok document → ∃ content bytes sha256, result.1 = .file content ∧
    input.archive.manifestBytes = some bytes ∧ input.archive.manifestSha256 = some sha256 ∧
    HasDigest env ⟨bytes, sha256⟩ content ∧ (env.parse content).bind parseSeedManifestDocument = some document ∧
    seedManifestDocumentProblem document = none ∧
    seedManifestContentFingerprint env document.entries = document.fingerprint ∧
    input.archive.manifestFingerprint = some document.fingerprint) ∧
  ((prepareManifest input).isOk = true → result.2.isOk = false → result.1.isFile = false)

def FileAnswered {α : Type} (key : String) (expected : RecordedDigest) (verify : List UInt8 → Except String α) : Prop :=
  let reply := store.get key expected destination
  ∀ content, reply.1 = .file content →
    (∀ error, reply.2 ≠ .thrown error) ∧
      (fate.removes = true ∨ (reply.2 = .answered ∧ fate.readBack = none ∧ (verify content).isOk = true))

variable {env store fate destination input} {α : Type} {what key : String} {expected : RecordedDigest}
  {verify : List UInt8 → Except String α}

theorem fetchVerified_ok {value : α} (h : (fetchVerified store fate destination what key expected verify).2 = .ok value) :
    ∃ content, (fetchVerified store fate destination what key expected verify).1 = .file content ∧
      verify content = .ok value := by
  unfold fetchVerified at h ⊢
  cases hget : store.get key expected destination with
  | mk after reply =>
    rw [hget] at h
    cases reply with
    | thrown error => cases h
    | failed error => cases h
    | answered =>
      dsimp only at h ⊢
      cases hread : fate.read after with
      | error error =>
        rw [hread] at h
        cases h
      | ok content =>
        rw [hread] at h
        dsimp only at h ⊢
        cases hve : verify content with
        | error error =>
          rw [hve] at h
          cases h
        | ok verified =>
          rw [hve] at h
          cases h
          refine ⟨content, ?_, hve⟩
          cases after with
          | file bytes =>
            unfold DownloadFate.read at hread
            cases hreadBack : fate.readBack with
            | some error =>
              rw [hreadBack] at hread
              cases hread
            | none =>
              rw [hreadBack] at hread
              cases hread
              rfl
          | absent | directory => cases hread

theorem fetchVerified_failed :
    ((fetchVerified store fate destination what key expected verify).2.isOk = false →
      (fetchVerified store fate destination what key expected verify).1.isFile = false) ↔
    FileAnswered store fate destination key expected verify := by
  unfold fetchVerified FileAnswered
  cases hget : store.get key expected destination with
  | mk after reply =>
    cases reply with
    | thrown error => cases after <;> simp [Fetched.isOk]
    | failed error => cases after <;> simp [Fetched.isOk]
    | answered =>
      cases after with
      | absent | directory => simp [DownloadFate.read]
      | file content =>
        cases hreadBack : fate.readBack with
        | some error => simp [DownloadFate.read, hreadBack, Fetched.isOk]
        | none =>
          cases hve : verify content with
          | error error =>
            simp [DownloadFate.read, hreadBack, hve, Fetched.isOk, Except.isOk,
              Except.toBool]
          | ok value => simp [DownloadFate.read, hreadBack, hve, Fetched.isOk, Except.isOk, Except.toBool]

variable {content : List UInt8}

theorem hasDigest_of_archiveMatches (h : archiveMatches env expected content = none) :
    HasDigest env expected content := by
  unfold archiveMatches at h
  split at h
  · cases h
  rename_i hb
  split at h
  · cases h
  rename_i hsha256
  exact ⟨(not_not.1 hb).symm, (not_not.1 hsha256).symm⟩

theorem verifyArchive_ok {value : VerifiedArchive}
    (h : verifyArchive env input expected content = .ok value) : HasDigest env expected content := by
  unfold verifyArchive at h
  split at h
  · cases h
  · rename_i hm
    exact hasDigest_of_archiveMatches hm

theorem problem_of_parse {value : Json} {document : SeedManifestDocument}
    (h : parseSeedManifestDocument value = some document) : seedManifestDocumentProblem document = none := by
  simp only [parseSeedManifestDocument, Option.bind_eq_bind, Option.bind_eq_some_iff] at h
  obtain ⟨-, -, -, -, fingerprint, -, filterFingerprint, -, fileCount, -, dirCount, -, totalBytes, -, entries, -,
    hdo⟩ := h
  split at hdo
  · rename_i hprob
    cases hdo
    exact hprob
  · cases hdo

theorem verifyManifest_ok {fingerprint : String} {document : SeedManifestDocument}
    (h : verifyManifest env expected fingerprint content = .ok document) :
    HasDigest env expected content ∧ (env.parse content).bind parseSeedManifestDocument = some document ∧
      seedManifestDocumentProblem document = none ∧
      seedManifestContentFingerprint env document.entries = document.fingerprint ∧ fingerprint = document.fingerprint := by
  unfold verifyManifest at h
  split at h
  · cases h
  rename_i hm
  split at h
  · cases h
  rename_i parsed hpar
  split at h
  · cases h
  rename_i found hf
  dsimp only at h
  split at h
  · cases h
  rename_i hcl
  split at h
  · cases h
  rename_i hrec
  cases h
  have hde := not_not.1 hcl
  refine ⟨hasDigest_of_archiveMatches hm, ?_, problem_of_parse hf, hde, ?_⟩
  · rw [hpar]
    exact hf
  · rw [← hde]
    exact (not_not.1 hrec).symm

/-- What the checks of an archive download find recorded. -/
theorem prepareArchive_ok (h : prepareArchive input = .ok (key, expected)) :
    input.archive.bytes = some expected.bytes ∧ input.archive.sha256 = some expected.sha256 := by
  unfold prepareArchive at h
  split at h
  · rename_i bytes sha256 objectKey hb hsha256 hobjectKey
    split at h
    · cases h
    split at h
    · cases h
    split at h
    · cases h
    dsimp only at h
    split at h
    · cases h
    · cases h
      exact ⟨hb, hsha256⟩
  · cases h

theorem prepareManifest_ok {fingerprint : String} (h : prepareManifest input = .ok (key, expected, fingerprint)) :
    input.archive.manifestBytes = some expected.bytes ∧ input.archive.manifestSha256 = some expected.sha256 ∧
      input.archive.manifestFingerprint = some fingerprint := by
  unfold prepareManifest at h
  split at h
  · rename_i objectKey bytes sha256 hobjectKey hb hsha256
    split at h
    · cases h
    rename_i found hf
    dsimp only at h
    split at h
    · cases h
    split at h
    · cases h
    · cases h
      exact ⟨hb, hsha256, hf⟩
  · cases h

variable (env store fate destination input)

theorem archiveGuaranteed_iff :
    ArchiveGuaranteed env store fate destination input ↔ ∀ key expected, prepareArchive input = .ok (key, expected) →
      FileAnswered store fate destination key expected (verifyArchive env input expected) := by
  unfold ArchiveGuaranteed SeedDownload.downloadSeedArchive
  cases hprep : prepareArchive input with
  | error error => simp [Fetched.isOk, Except.isOk, Except.toBool]
  | ok request =>
    obtain ⟨key, expected⟩ := request
    obtain ⟨hb, hsha256⟩ := prepareArchive_ok hprep
    have hfail := @fetchVerified_failed store fate destination VerifiedArchive "archive" key expected
      (verifyArchive env input expected)
    constructor
    · rintro ⟨-, hnoFile⟩ key' expected' heq
      cases heq
      exact hfail.1 (hnoFile rfl)
    intro hans
    refine ⟨fun hok => ?_, fun _ => hfail.2 (hans key expected rfl)⟩
    dsimp only at hok ⊢
    obtain ⟨value, hv⟩ : ∃ value, (fetchVerified store fate destination "archive" key expected
        (verifyArchive env input expected)).2 = .ok value := by
      cases hres : (fetchVerified store fate destination "archive" key expected (verifyArchive env input expected)).2 with
      | ok value => exact ⟨value, rfl⟩
      | failed error | thrown error =>
        rw [hres] at hok
        cases hok
    obtain ⟨content, hfile, hver⟩ := fetchVerified_ok hv
    exact ⟨content, expected.bytes, expected.sha256, hfile, hb, hsha256, verifyArchive_ok hver⟩

theorem manifestGuaranteed_iff :
    ManifestGuaranteed env store fate destination input ↔
      ∀ key expected fingerprint, prepareManifest input = .ok (key, expected, fingerprint) →
        FileAnswered store fate destination key expected (verifyManifest env expected fingerprint) := by
  unfold ManifestGuaranteed SeedDownload.downloadSeedManifest
  cases hprep : prepareManifest input with
  | error error => simp [Except.isOk, Except.toBool]
  | ok request =>
    obtain ⟨key, expected, fingerprint⟩ := request
    obtain ⟨hb, hsha256, hfp⟩ := prepareManifest_ok hprep
    have hfail := @fetchVerified_failed store fate destination SeedManifestDocument "manifest" key expected
      (verifyManifest env expected fingerprint)
    constructor
    · rintro ⟨-, hnoFile⟩ key' expected' fingerprint' heq
      cases heq
      exact hfail.1 (hnoFile rfl)
    intro hans
    refine ⟨fun document hok => ?_, fun _ => hfail.2 (hans key expected fingerprint rfl)⟩
    obtain ⟨content, hfile, hver⟩ := fetchVerified_ok hok
    obtain ⟨hdig, hpar, hprob, hcl, hrec⟩ := verifyManifest_ok hver
    exact ⟨content, expected.bytes, expected.sha256, hfile, hb, hsha256, hdig, hpar, hprob, hcl,
      hrec ▸ hfp⟩

end Guarantees

/-- The downloads keep what they promise exactly when, for each of them, the checks refuse the job's facts, or the store
leaves no file, or it does not throw and the file can be removed or is what was asked for. -/
theorem downloads_verified (env : DownloadEnv) (store : DownloadStore) (fate : DownloadFate) (destination : Destination)
    (input : DownloadInput) :
    (ArchiveGuaranteed env store fate destination input ∧ ManifestGuaranteed env store fate destination input) ↔
      (∀ key expected, prepareArchive input = .ok (key, expected) →
        FileAnswered store fate destination key expected (verifyArchive env input expected)) ∧
      ∀ key expected fingerprint, prepareManifest input = .ok (key, expected, fingerprint) →
        FileAnswered store fate destination key expected (verifyManifest env expected fingerprint) :=
  and_congr (archiveGuaranteed_iff env store fate destination input) (manifestGuaranteed_iff env store fate destination input)

def zeroSha256 : Sha256Hex := ⟨String.ofList (List.replicate 64 '0'), by decide⟩

/-- It writes one byte, and then its connection breaks. -/
def brokenStore : DownloadStore where
  kind := "s3"
  get _ _ _ := (.file [0], .thrown "ECONNRESET")

def brokenEnv : DownloadEnv where
  digestOf _ := zeroSha256
  numberText _ := []
  parse _ := none

def brokenInput : DownloadInput where
  archive := {
    format := .tarGz
    bytes := some (.finite 2)
    sha256 := some zeroSha256.val
    objectKey := some "lamasync/seed/job/payload.tar.gz"
    manifestObjectKey := none
    manifestBytes := none
    manifestSha256 := none
    manifestFingerprint := none
    verifiedAt := none }
  jobId := "job"
  now := 0

theorem thrown_get_leaves_file :
    (SeedDownload.downloadSeedArchive brokenEnv brokenStore ⟨none, true⟩ .absent brokenInput).1 = .file [0] ∧
      ¬ArchiveGuaranteed brokenEnv brokenStore ⟨none, true⟩ .absent brokenInput := by
  have hrun : (prepareArchive brokenInput).isOk = true ∧
      (SeedDownload.downloadSeedArchive brokenEnv brokenStore ⟨none, true⟩ .absent brokenInput).1 = .file [0] ∧
      (SeedDownload.downloadSeedArchive brokenEnv brokenStore ⟨none, true⟩ .absent brokenInput).2.isOk = false := by
    decide +kernel
  obtain ⟨hprep, hfile, hfl⟩ := hrun
  refine ⟨hfile, fun hgu => ?_⟩
  have hnoFile := hgu.2 hprep hfl
  rw [hfile] at hnoFile
  cases hnoFile

end LamaSync
