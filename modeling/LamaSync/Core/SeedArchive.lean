import LamaSync.Core.SeedPhase

/-!
# Archive facts of a seed job

The facts the source records about the archive and the manifest it uploaded.  They live in a JSON column, and
`normalizeSeedJobArchiveFacts` is the only way to read them: a field that is missing or malformed reads as `none`.
A digest and a count carry the proof of their own shape, so a normalised record holds only well-formed values, and
writing one and reading it back changes nothing but the bounds on the cleanup texts (`normalize_toJson`).
-/

namespace LamaSync

inductive SeedArchiveFormat where
  | tarZstd | tarGz
  deriving DecidableEq, Repr

def SeedArchiveFormat.text : SeedArchiveFormat → String
  | .tarZstd => "tar.zstd"
  | .tarGz => "tar.gz"

def seedArchiveExtension : SeedArchiveFormat → String
  | .tarZstd => ".tar.zst"
  | .tarGz => ".tar.gz"

def seedObjectKeyPrefix : String := "lamasync/seed"

def seedArchiveObjectKey (jobId : String) (format : SeedArchiveFormat) : String :=
  seedObjectKeyPrefix ++ "/" ++ jobId ++ "/payload" ++ seedArchiveExtension format

def isSha256Hex (s : String) : Bool :=
  s.toList.length == 64 && s.toList.all fun c => ('0' ≤ c && c ≤ '9') || ('a' ≤ c && c ≤ 'f')

abbrev Sha256Hex := { s : String // isSha256Hex s = true }

def hexDigestOrNull : Option Json → Option Sha256Hex
  | some (.str s) => if h : isSha256Hex s = true then some ⟨s, h⟩ else none
  | _ => none

def ofNullableDigest : Option Sha256Hex → Json
  | some d => .str d.val
  | none => .null

@[simp] theorem hexDigestOrNull_ofNullableDigest (d : Option Sha256Hex) :
    hexDigestOrNull (some (ofNullableDigest d)) = d := by
  cases d with
  | none => rfl
  | some d => simp [ofNullableDigest, hexDigestOrNull, d.property]

theorem isNull_ofNullableDigest (d : Option Sha256Hex) :
    Json.isNull (some (ofNullableDigest d)) = d.isNone := by
  cases d <;> rfl

inductive SeedRelayCleanupState where
  | notStarted | cleaned | failed
  deriving DecidableEq, Repr

def SeedRelayCleanupState.text : SeedRelayCleanupState → String
  | .notStarted => "not_started"
  | .cleaned => "cleaned"
  | .failed => "failed"

structure SeedRelayCleanup where
  state : SeedRelayCleanupState
  attempts : Int
  lastAttemptAt : Option PositiveInt
  deletedKeys : List String
  message : Option String

def initialSeedRelayCleanup : SeedRelayCleanup where
  state := .notStarted
  attempts := 0
  lastAttemptAt := none
  deletedKeys := []
  message := none

def SeedRelayCleanup.toJson (c : SeedRelayCleanup) : Json := .obj [
  ("state", .str c.state.text),
  ("attempts", .num (c.attempts : ℚ)),
  ("lastAttemptAt", ofNullableInt c.lastAttemptAt),
  ("deletedKeys", .arr (c.deletedKeys.map .str)),
  ("message", Json.ofNullableString c.message)]

def cleanupStateOf : Option Json → SeedRelayCleanupState
  | some (.str s) =>
    if s == SeedRelayCleanupState.cleaned.text then .cleaned
    else if s == SeedRelayCleanupState.failed.text then .failed
    else .notStarted
  | _ => .notStarted

def deletedKeysOf : Option Json → List String
  | some (.arr items) => (items.filterMap fun item => Json.stringOrNull (some item)).take 64
  | _ => []

def normalizeSeedRelayCleanup (cleanup : Option Json) : SeedRelayCleanup :=
  let record := cleanup.getD .null
  { state := cleanupStateOf (record.field "state")
    attempts := positiveIntOrZero (record.field "attempts")
    lastAttemptAt := positiveIntOrNull (record.field "lastAttemptAt")
    deletedKeys := deletedKeysOf (record.field "deletedKeys")
    message := (Json.stringOrNull (record.field "message")).map fun text => sliceText text 240 }

structure SeedJobArchiveFacts where
  format : SeedArchiveFormat
  bytes : Option PositiveInt
  sha256 : Option Sha256Hex
  objectKey : Option String
  memberCount : Option PositiveInt
  manifestFingerprint : Option Sha256Hex
  manifestObjectKey : Option String
  manifestBytes : Option PositiveInt
  manifestSha256 : Option Sha256Hex
  uploadedAt : Option PositiveInt
  verifiedAt : Option PositiveInt
  cleanup : SeedRelayCleanup

def emptySeedJobArchiveFacts (format : SeedArchiveFormat) : SeedJobArchiveFacts where
  format := format
  bytes := none
  sha256 := none
  objectKey := none
  memberCount := none
  manifestFingerprint := none
  manifestObjectKey := none
  manifestBytes := none
  manifestSha256 := none
  uploadedAt := none
  verifiedAt := none
  cleanup := initialSeedRelayCleanup

def SeedJobArchiveFacts.toJson (f : SeedJobArchiveFacts) : Json := .obj [
  ("format", .str f.format.text),
  ("bytes", ofNullableInt f.bytes),
  ("sha256", ofNullableDigest f.sha256),
  ("objectKey", Json.ofNullableString f.objectKey),
  ("memberCount", ofNullableInt f.memberCount),
  ("manifestFingerprint", ofNullableDigest f.manifestFingerprint),
  ("manifestObjectKey", Json.ofNullableString f.manifestObjectKey),
  ("manifestBytes", ofNullableInt f.manifestBytes),
  ("manifestSha256", ofNullableDigest f.manifestSha256),
  ("uploadedAt", ofNullableInt f.uploadedAt),
  ("verifiedAt", ofNullableInt f.verifiedAt),
  ("cleanup", f.cleanup.toJson)]

def formatOf (fallbackFormat : SeedArchiveFormat) : Option Json → SeedArchiveFormat
  | some (.str s) =>
    if s == SeedArchiveFormat.tarZstd.text then .tarZstd
    else if s == SeedArchiveFormat.tarGz.text then .tarGz
    else fallbackFormat
  | _ => fallbackFormat

def normalizeSeedJobArchiveFacts (value : Json) (fallbackFormat : SeedArchiveFormat) : SeedJobArchiveFacts :=
  if !value.isRecord then emptySeedJobArchiveFacts fallbackFormat
  else {
    format := formatOf fallbackFormat (value.field "format")
    bytes := positiveIntOrNull (value.field "bytes")
    sha256 := hexDigestOrNull (value.field "sha256")
    objectKey := Json.stringOrNull (value.field "objectKey")
    memberCount := positiveIntOrNull (value.field "memberCount")
    manifestFingerprint := hexDigestOrNull (value.field "manifestFingerprint")
    manifestObjectKey := Json.stringOrNull (value.field "manifestObjectKey")
    manifestBytes := positiveIntOrNull (value.field "manifestBytes")
    manifestSha256 := hexDigestOrNull (value.field "manifestSha256")
    uploadedAt := positiveIntOrNull (value.field "uploadedAt")
    verifiedAt := positiveIntOrNull (value.field "verifiedAt")
    cleanup := normalizeSeedRelayCleanup (value.field "cleanup") }

@[simp] theorem formatOf_text (fallbackFormat format : SeedArchiveFormat) :
    formatOf fallbackFormat (some (.str format.text)) = format := by
  cases format <;> rfl

theorem normalize_toJson (f : SeedJobArchiveFacts) (fallbackFormat : SeedArchiveFormat) :
    normalizeSeedJobArchiveFacts f.toJson fallbackFormat =
      { f with cleanup := normalizeSeedRelayCleanup (some f.cleanup.toJson) } := by
  simp [normalizeSeedJobArchiveFacts, SeedJobArchiveFacts.toJson, Json.isRecord, List.lookup_cons]

theorem isNull_sha256_toJson (f : SeedJobArchiveFacts) :
    Json.isNull (f.toJson.field "sha256") = f.sha256.isNone := by
  rw [← isNull_ofNullableDigest]
  simp [SeedJobArchiveFacts.toJson, List.lookup_cons]

/-- Every immutable fact the target needs before it may start is recorded. -/
def seedArchiveFactsComplete (a : SeedJobArchiveFacts) : Bool :=
  a.sha256.isSome && a.bytes.isSome && a.objectKey.isSome && a.memberCount.isSome &&
    a.manifestFingerprint.isSome && a.manifestObjectKey.isSome && a.manifestBytes.isSome &&
    a.manifestSha256.isSome

/-- The two records identify the same archive and manifest.  Clock readings and cleanup are not compared. -/
def seedArchiveFactsEqual (a b : SeedJobArchiveFacts) : Bool :=
  a.format == b.format && a.bytes == b.bytes && a.sha256 == b.sha256 && a.objectKey == b.objectKey &&
    a.memberCount == b.memberCount && a.manifestFingerprint == b.manifestFingerprint &&
    a.manifestObjectKey == b.manifestObjectKey && a.manifestBytes == b.manifestBytes &&
    a.manifestSha256 == b.manifestSha256

@[simp] theorem seedArchiveFactsEqual_refl (a : SeedJobArchiveFacts) : seedArchiveFactsEqual a a = true := by
  simp [seedArchiveFactsEqual]

theorem sha256_of_complete {a : SeedJobArchiveFacts} (h : seedArchiveFactsComplete a = true) :
    a.sha256.isSome = true := by
  simp only [seedArchiveFactsComplete, Bool.and_eq_true] at h
  exact h.1.1.1.1.1.1.1

end LamaSync
