import LamaSync.Core.SeedArchive
import LamaSync.Daemon.SeedRunner

/-!
# The S3 relay store

`createS3SeedRelayStore` keeps the archive and the manifest of a job in an object space reached over HTTP.  The object
space itself is a table that a PUT, the completion of a multipart upload and a DELETE change atomically, and that a HEAD
reads.  How each request of a call goes, and what the call reads of its source, are the call's fate: a request may fail
before or after it is carried out.
-/

namespace LamaSync

structure RelayObject where
  body : List UInt8
  metaSha256 : Option String
  deriving DecidableEq

abbrev ObjectSpace := Table String RelayObject

structure SeedRelayObjectHead where
  bytes : Nat
  sha256 : Option String
  deriving DecidableEq

inductive SeedRelayResult (α : Type) where
  | success (value : α)
  | failure (error : String) (notFound : Bool)
  deriving DecidableEq

/-- What `seedRelayFileDigest` returns, and what a caller of put expects. -/
structure FileDigest where
  bytes : Nat
  sha256 : Sha256Hex
  deriving DecidableEq

def seedRelayKeyJobId (key : String) : List Char := (key.toList.splitOn '/').getD 2 []

def seedRelayKeyFormError (key : String) : Option String :=
  let cs := key.toList
  let segments := cs.splitOn '/'
  if cs.isEmpty then some "the object key is empty"
  else if 4096 < utf16Length cs then some "the object key is too long"
  else if cs.head? = some '/' ∨ cs.head? = some '\\' then some "the object key is absolute"
  else if isWindowsPath cs then some "the object key is a Windows path"
  else if cs.contains '\\' then some "the object key contains a backslash"
  else if cs.any fun c => decide (c.toNat < 0x20) || c.toNat == 0x7f then
    some "the object key contains a control character"
  else if segments.any List.isEmpty then some "the object key has an empty path segment"
  else if segments.any fun s => s == ['.'] || s == ['.', '.'] then some "the object key contains a traversal segment"
  else if !key.startsWith (seedObjectKeyPrefix ++ "/") then
    some ("the object key is not inside the " ++ seedObjectKeyPrefix ++ "/ namespace")
  else if segments.length ≠ 4 then
    some ("the object key must be exactly " ++ seedObjectKeyPrefix ++ "/<jobId>/<name>")
  else if !isValidSeedRelayJobId (seedRelayKeyJobId key) then some "the object key's job id is not a usable key segment"
  else none

def seedRelayKeyError (key : String) (expectedJobId : Option String) : Option String :=
  match seedRelayKeyFormError key, expectedJobId with
  | some error, _ => some error
  | none, none => none
  | none, some expected =>
    let jobId := String.ofList (seedRelayKeyJobId key)
    if jobId = expected then none else some ("the object key belongs to job " ++ jobId ++ ", not " ++ expected)

theorem seedRelayKeyError_of_job {key jobId : String} (h : seedRelayKeyError key (some jobId) = none) :
    seedRelayKeyError key none = none := by
  unfold seedRelayKeyError at h ⊢
  cases hform : seedRelayKeyFormError key with
  | none => rfl
  | some error => rw [hform] at h; cases h

/-- How a HEAD goes.  An answer says what is stored, or that nothing is. -/
inductive HeadFate where
  | answered
  | unreachable
  | refused (error : String)
  /-- The answer does not report the object's size. -/
  | sizeless
  deriving DecidableEq

def HeadFate.problem : HeadFate → Option String
  | .answered => none
  | .unreachable => some "the object space could not be reached for HEAD"
  | .refused error => some error
  | .sizeless => some "the object space did not report the object's size"

/-- How a request that writes goes.  A failed one may have been carried out all the same. -/
inductive WriteFate where
  | answered
  | refused (error : String) (carriedOut : Bool)
  /-- The connection fails. -/
  | lost (error : String) (carriedOut : Bool)
  deriving DecidableEq

def WriteFate.done : WriteFate → Bool
  | .answered => true
  | .refused _ carriedOut => carriedOut
  | .lost _ carriedOut => carriedOut

inductive InitiateFate where
  | answered (uploadId : Option String)
  | refused (error : String)
  | lost (error : String)
  /-- The answer's body cannot be read, which nothing catches. -/
  | unreadable (error : String)
  deriving DecidableEq

structure MultipartFate where
  initiate : InitiateFate
  parts : Option String
  complete : WriteFate

/-- What put finds of its source: why it is missing or could not be staged, the bytes its digest is computed from, and
the bytes that are sent, which differ from these when a file changes meanwhile. -/
structure SourceFate where
  missing : Option String
  read : Except String (List UInt8)
  sent : List UInt8

structure PutFate where
  aborted : Bool
  existing : HeadFate
  source : SourceFate
  single : WriteFate
  multipart : MultipartFate
  deleteKey : WriteFate
  final : HeadFate

structure DeleteFate where
  head : HeadFate
  delete : WriteFate

structure S3SeedRelayStoreOptions where
  partSizeBytes : Option Nat
  multipartThresholdBytes : Option Nat

def seedRelayS3MinPartBytes : Nat := 5 * 1024 * 1024

def seedRelayS3DefaultPartBytes : Nat := 64 * 1024 * 1024

def seedRelayS3MaxPartBytes : Nat := 512 * 1024 * 1024

def seedRelayS3MaxParts : Nat := 10000

def seedRelayS3MaxSinglePutBytes : Nat := 4 * 1024 * 1024 * 1024

def resolvePartSize (options : S3SeedRelayStoreOptions) : Nat :=
  max seedRelayS3MinPartBytes (min seedRelayS3MaxPartBytes (options.partSizeBytes.getD seedRelayS3DefaultPartBytes))

def partCount (bytes partSize : Nat) : Nat := (bytes + partSize - 1) / partSize

def seedRelayS3MultipartProblem (bytes partSize : Nat) : Option String :=
  if seedRelayS3MaxParts < partCount bytes partSize then
    some ("the object would need " ++ toString (partCount bytes partSize) ++ " parts, above S3's limit of " ++
      toString seedRelayS3MaxParts ++ "; raise the part size")
  else none

def seedRelayS3Multipart (bytes : Nat) (options : S3SeedRelayStoreOptions) : Bool :=
  let partSize := resolvePartSize options
  let threshold := max partSize (options.multipartThresholdBytes.getD partSize)
  decide (seedRelayS3MaxSinglePutBytes < bytes) || decide (threshold < bytes)

inductive PutReply where
  | result (r : SeedRelayResult SeedRelayObjectHead)
  | thrown (error : String)
  deriving DecidableEq

section Store

variable (objects : ObjectSpace) (key : String)

def headKey (fate : HeadFate) : SeedRelayResult SeedRelayObjectHead :=
  match fate.problem with
  | some error => .failure error false
  | none =>
    match objects key with
    | none => .failure ("no object stored at " ++ key) true
    | some o => .success ⟨o.body.length, o.metaSha256.filter isSha256Hex⟩

def deleteRequest (fate : WriteFate) : ObjectSpace := if fate.done then objects.erase key else objects

def storeRequest (digest : FileDigest) (sent : List UInt8) (fate : WriteFate) : ObjectSpace :=
  if fate.done then objects.put key ⟨sent, some digest.sha256.val⟩ else objects

def bestEffortDeleteKey (fate : WriteFate) : ObjectSpace := deleteRequest objects key fate

def singlePut (digest : FileDigest) (fate : PutFate) : ObjectSpace × PutReply :=
  let sent := storeRequest objects key digest fate.source.sent fate.single
  match fate.single with
  | .answered => (sent, .result (headKey sent key fate.final))
  | .refused error _ => (bestEffortDeleteKey sent key fate.deleteKey, .result (.failure error false))
  | .lost error _ =>
    (bestEffortDeleteKey sent key fate.deleteKey, .result (.failure ("storing " ++ key ++ " failed: " ++ error) false))

def partsProblem (digest : FileDigest) (fate : PutFate) : Option String :=
  if fate.source.sent.length ≠ digest.bytes then some "the source file changed while it was being uploaded"
  else fate.multipart.parts

/-- An unfinished multipart upload is aborted, and its key removed in case the completion went through. -/
def abandonMultipart (digest : FileDigest) (partSize : Nat) (fate : PutFate) (error : String) : ObjectSpace × PutReply :=
  (bestEffortDeleteKey objects key fate.deleteKey, .result (.failure ("storing " ++ key ++ " in " ++
    toString (partCount digest.bytes partSize) ++ " part(s) failed: " ++ error) false))

def multipartPut (digest : FileDigest) (partSize : Nat) (fate : PutFate) : ObjectSpace × PutReply :=
  match seedRelayS3MultipartProblem digest.bytes partSize with
  | some problem => (objects, .result (.failure problem false))
  | none =>
    match fate.multipart.initiate with
    | .lost error => (objects, .result (.failure ("starting the multipart upload of " ++ key ++ " failed: " ++ error) false))
    | .refused error => (objects, .result (.failure error false))
    | .unreadable error => (objects, .thrown error)
    | .answered uploadId =>
      if uploadId.getD "" = "" then
        (objects, .result (.failure "the object space did not return an upload id for the multipart upload" false))
      else
        match partsProblem digest fate with
        | some error => abandonMultipart objects key digest partSize fate error
        | none =>
          let completed := storeRequest objects key digest fate.source.sent fate.multipart.complete
          match fate.multipart.complete with
          | .answered => (completed, .result (headKey completed key fate.final))
          | .refused error _ => abandonMultipart completed key digest partSize fate error
          | .lost error _ => abandonMultipart completed key digest partSize fate error

def isExpectedBytes (bytes : Nat) : Bool := decide (0 < bytes) && decide ((bytes : Int) ≤ maxSafeInteger)

variable (digestOf : List UInt8 → Sha256Hex) (options : S3SeedRelayStoreOptions)

def putSource (expected : FileDigest) (fate : PutFate) : ObjectSpace × PutReply :=
  match fate.source.missing with
  | some error => (objects, .result (.failure error false))
  | none =>
    match fate.source.read with
    | .error error => (objects, .result (.failure ("the source could not be read: " ++ error) false))
    | .ok content =>
      let digest : FileDigest := ⟨content.length, digestOf content⟩
      if digest.bytes ≠ expected.bytes then
        (objects, .result (.failure ("the source is " ++ toString digest.bytes ++ " bytes but " ++
          toString expected.bytes ++ " were recorded") false))
      else if digest.sha256 ≠ expected.sha256 then
        (objects, .result (.failure "the source SHA-256 does not match the recorded digest" false))
      else if seedRelayS3Multipart digest.bytes options then
        multipartPut objects key digest (resolvePartSize options) fate
      else singlePut objects key digest fate

def s3Put (expected : FileDigest) (fate : PutFate) : ObjectSpace × PutReply :=
  match seedRelayKeyError key none with
  | some error => (objects, .result (.failure error false))
  | none =>
    if !isExpectedBytes expected.bytes then
      (objects, .result (.failure "the expected byte count is not a positive integer" false))
    else if fate.aborted then (objects, .result (.failure "the upload was cancelled" false))
    else
      match headKey objects key fate.existing with
      | .success existing =>
        if existing.bytes ≠ expected.bytes ∨ existing.sha256 ≠ some expected.sha256.val then
          (objects, .result (.failure ("an object already exists at " ++ key ++
            " with different content; seed archive objects are immutable") false))
        else (objects, .result (.success existing))
      | .failure error notFound =>
        if notFound then putSource objects key digestOf options expected fate
        else (objects, .result (.failure error notFound))

def s3Head (fate : HeadFate) : SeedRelayResult SeedRelayObjectHead :=
  match seedRelayKeyError key none with
  | some error => .failure error false
  | none => headKey objects key fate

structure SeedRelayDeletion where
  deleted : Bool
  alreadyAbsent : Bool
  deriving DecidableEq

def s3Delete (fate : DeleteFate) : ObjectSpace × SeedRelayResult SeedRelayDeletion :=
  match seedRelayKeyError key none with
  | some error => (objects, .failure error false)
  | none =>
    match headKey objects key fate.head with
    | .failure error notFound =>
      if notFound then (objects, .success ⟨false, true⟩) else (objects, .failure error notFound)
    | .success _ =>
      let deleted := deleteRequest objects key fate.delete
      match fate.delete with
      | .answered => (deleted, .success ⟨true, false⟩)
      | .refused error _ => (deleted, .failure error false)
      | .lost error _ => (deleted, .failure ("deleting " ++ key ++ " failed: " ++ error) false)

end Store

section Changes

variable {objects : ObjectSpace} {key key' : String} {digestOf : List UInt8 → Sha256Hex}
  {options : S3SeedRelayStoreOptions} {expected : FileDigest} {fate : PutFate} {o : RelayObject}

theorem headKey_stored (h : objects key = some o) :
    headKey objects key .answered = .success ⟨o.body.length, o.metaSha256.filter isSha256Hex⟩ := by
  simp [headKey, HeadFate.problem, h]

theorem headKey_problem {headFate : HeadFate} (h : headFate ≠ .answered) :
    ∃ error, headKey objects key headFate = .failure error false := by
  cases headFate with
  | answered => exact absurd rfl h
  | unreachable | refused _ | sizeless => exact ⟨_, rfl⟩

theorem deleteRequest_other {writeFate : WriteFate} (h : key' ≠ key) :
    deleteRequest objects key writeFate key' = objects key' := by
  unfold deleteRequest
  split
  · exact Table.erase_of_ne h
  · rfl

/-- The stored object is the one put is asked to store, and nothing stops put from seeing that. -/
structure PutRepeats (o : RelayObject) (expected : FileDigest) (fate : PutFate) : Prop where
  bytes : o.body.length = expected.bytes
  sha256 : o.metaSha256 = some expected.sha256.val
  sound : isExpectedBytes expected.bytes = true
  running : fate.aborted = false
  answered : fate.existing = .answered

private theorem s3_filter {text : Option String} {digest : Sha256Hex} :
    text.filter isSha256Hex = some digest.val ↔ text = some digest.val := by
  constructor
  · intro h
    rw [Option.filter_eq_some_iff] at h
    exact h.1
  rintro rfl
  rw [Option.filter_eq_some_iff]
  exact ⟨rfl, digest.property⟩

theorem s3Put_stored (hkey : seedRelayKeyError key none = none) (h : objects key = some o) :
    (PutRepeats o expected fate ∧ s3Put objects key digestOf options expected fate =
      (objects, .result (.success ⟨o.body.length, o.metaSha256.filter isSha256Hex⟩))) ∨
    (¬ PutRepeats o expected fate ∧
      ∃ error, s3Put objects key digestOf options expected fate = (objects, .result (.failure error false))) := by
  unfold s3Put
  rw [hkey]
  dsimp only
  split
  · rename_i hsd
    exact .inr ⟨fun hr => by simp [hr.sound] at hsd, _, rfl⟩
  rename_i hsd
  split
  · rename_i habt
    exact .inr ⟨fun hr => by simp [hr.running] at habt, _, rfl⟩
  rename_i habt
  by_cases hans : fate.existing = .answered
  · rw [hans, headKey_stored h]
    dsimp only
    split
    · rename_i hdiff
      refine .inr ⟨fun hr => ?_, _, rfl⟩
      rcases hdiff with hb | hsha
      · exact hb hr.bytes
      · exact hsha (s3_filter.2 hr.sha256)
    rename_i hsame
    rw [not_or, not_not, not_not] at hsame
    refine .inl ⟨⟨hsame.1, s3_filter.1 hsame.2, ?_, ?_, hans⟩, rfl⟩
    · simpa using hsd
    · simpa using habt
  · obtain ⟨error, hfail⟩ := @headKey_problem objects key _ hans
    rw [hfail]
    exact .inr ⟨fun hr => hans hr.answered, error, rfl⟩

theorem storeRequest_other {digest : FileDigest} {sent : List UInt8} {writeFate : WriteFate} (h : key' ≠ key) :
    storeRequest objects key digest sent writeFate key' = objects key' := by
  unfold storeRequest
  split
  · exact Table.put_of_ne h
  · rfl

variable {digest : FileDigest} {deleteFate : DeleteFate}

private theorem s3_single_other (h : key' ≠ key) :
    (singlePut objects key digest fate).1 key' = objects key' := by
  have hsent := @storeRequest_other objects key key' digest fate.source.sent fate.single h
  unfold singlePut
  split
  · exact hsent
  · exact (deleteRequest_other h).trans hsent
  · exact (deleteRequest_other h).trans hsent

private theorem s3_multipart_other {partSize : Nat} (h : key' ≠ key) :
    (multipartPut objects key digest partSize fate).1 key' = objects key' := by
  have hcomp := @storeRequest_other objects key key' digest fate.source.sent fate.multipart.complete h
  unfold multipartPut
  split
  · rfl
  split
  · rfl
  · rfl
  · rfl
  split
  · rfl
  split
  · exact deleteRequest_other h
  split
  · exact hcomp
  · exact (deleteRequest_other h).trans hcomp
  · exact (deleteRequest_other h).trans hcomp

theorem s3Put_other (h : key' ≠ key) : (s3Put objects key digestOf options expected fate).1 key' = objects key' := by
  unfold s3Put
  split
  · rfl
  split
  · rfl
  split
  · rfl
  split
  · split <;> rfl
  split
  · unfold putSource
    split
    · rfl
    split
    · rfl
    dsimp only
    split
    · rfl
    split
    · rfl
    split
    · exact s3_multipart_other h
    · exact s3_single_other h
  · rfl

theorem s3Delete_other (h : key' ≠ key) :
    (s3Delete objects key deleteFate).1 key' = objects key' := by
  unfold s3Delete
  split
  · rfl
  split
  · split <;> rfl
  · dsimp only
    split <;> exact deleteRequest_other h

def DeleteFate.goesThrough (deleteFate : DeleteFate) : Bool := decide (deleteFate.head = .answered) && deleteFate.delete.done

theorem s3Delete_stored (hkey : seedRelayKeyError key none = none) (h : objects key = some o) :
    (s3Delete objects key deleteFate).1 = if deleteFate.goesThrough = true then objects.erase key else objects := by
  unfold s3Delete
  rw [hkey]
  by_cases hans : deleteFate.head = .answered
  · have hgoes : deleteFate.goesThrough = deleteFate.delete.done := by simp [DeleteFate.goesThrough, hans]
    rw [hans, headKey_stored h, hgoes]
    dsimp only
    split <;> rfl
  obtain ⟨_, hfail⟩ := @headKey_problem objects key _ hans
  have hgoes : deleteFate.goesThrough = false := by simp [DeleteFate.goesThrough, hans]
  rw [hfail, hgoes]
  rfl

end Changes

/-- The ranges of a file that the multipart loop reads, one for each part number. -/
def partRanges (content : List UInt8) (options : S3SeedRelayStoreOptions) : List (List UInt8) :=
  let partSize := resolvePartSize options
  (List.range (partCount content.length partSize)).map fun i =>
    let start := i * partSize
    (content.drop start).take (min partSize (content.length - start))

section Parts

variable {bytes partSize : Nat} {content : List UInt8} {options : S3SeedRelayStoreOptions}

theorem lt_partCount_iff {i : Nat} (h : 0 < partSize) : i < partCount bytes partSize ↔ i * partSize < bytes := by
  unfold partCount
  rw [Nat.lt_iff_add_one_le, Nat.le_div_iff_mul_le h, Nat.add_one_mul]
  omega

theorem resolvePartSize_bounds : seedRelayS3MinPartBytes ≤ resolvePartSize options ∧
    resolvePartSize options ≤ seedRelayS3MaxPartBytes := by
  have hmi : seedRelayS3MinPartBytes ≤ seedRelayS3MaxPartBytes := by decide
  unfold resolvePartSize
  omega

theorem flatten_ranges (content : List UInt8) (partSize count : Nat) :
    ((List.range count).map fun i => (content.drop (i * partSize)).take (min partSize (content.length - i * partSize))).flatten =
      content.take (count * partSize) := by
  induction count with
  | zero => simp
  | succ count ih =>
    have hlast : (content.drop (count * partSize)).take (min partSize (content.length - count * partSize)) =
        (content.drop (count * partSize)).take partSize := by
      rw [← List.length_drop, ← List.take_eq_take_min]
    rw [List.range_succ, List.map_append, List.flatten_append, ih, Nat.add_one_mul, List.take_add]
    simp [hlast]

/-- The parts of an upload, in order, are the file. -/
theorem multipart_parts_rebuild (content : List UInt8) (options : S3SeedRelayStoreOptions) :
    (partRanges content options).flatten = content ∧
    (∀ i part, (partRanges content options)[i]? = some part → part ≠ [] ∧
      (i + 1 < (partRanges content options).length → part.length = resolvePartSize options)) ∧
    seedRelayS3MinPartBytes ≤ resolvePartSize options ∧
    (seedRelayS3MultipartProblem content.length (resolvePartSize options) = none ↔
      (partRanges content options).length ≤ seedRelayS3MaxParts) ∧
    (seedRelayS3Multipart content.length options = true →
      1 < (partRanges content options).length) ∧
    (seedRelayS3Multipart content.length options = false → content.length ≤ seedRelayS3MaxSinglePutBytes ∧
      seedRelayS3MultipartProblem content.length (resolvePartSize options) = none) := by
  obtain ⟨hmin, hmax⟩ := @resolvePartSize_bounds options
  have hpos : 0 < resolvePartSize options := Nat.lt_of_lt_of_le (by decide) hmin
  have hlen : (partRanges content options).length = partCount content.length (resolvePartSize options) := by
    simp [partRanges]
  have hprob : seedRelayS3MultipartProblem content.length (resolvePartSize options) = none ↔
      partCount content.length (resolvePartSize options) ≤ seedRelayS3MaxParts := by
    simp [seedRelayS3MultipartProblem]
  have hall : ∀ i, i < partCount content.length (resolvePartSize options) ↔ i * resolvePartSize options < content.length :=
    fun i => lt_partCount_iff hpos
  refine ⟨?_, ?_, hmin, by rw [hlen, hprob], ?_, ?_⟩
  · have hco := (hall (partCount content.length (resolvePartSize options))).not.1 (Nat.lt_irrefl _)
    exact (flatten_ranges _ _ _).trans (List.take_of_length_le (Nat.not_lt.1 hco))
  · intro i part hpart
    rw [hlen]
    simp only [partRanges, List.getElem?_map, Option.map_eq_some_iff, List.getElem?_eq_some_iff, List.length_range,
      List.getElem_range] at hpart
    obtain ⟨_, ⟨hi, rfl⟩, rfl⟩ := hpart
    have hst := (hall _).1 hi
    refine ⟨List.ne_nil_of_length_pos ?_, fun hnext => ?_⟩
    · simp only [List.length_take, List.length_drop]
      omega
    · have hend := (hall _).1 hnext
      rw [Nat.add_one_mul] at hend
      simp only [List.length_take, List.length_drop]
      omega
  · intro hmu
    rw [hlen, hall, Nat.one_mul]
    have hce : seedRelayS3MaxPartBytes ≤ seedRelayS3MaxSinglePutBytes := by decide
    simp only [seedRelayS3Multipart, Bool.or_eq_true, decide_eq_true_eq] at hmu
    omega
  · intro hsi
    simp only [seedRelayS3Multipart, Bool.or_eq_false_iff, decide_eq_false_iff_not, Nat.not_lt] at hsi
    refine ⟨hsi.1, hprob.2 ?_⟩
    have hfits : seedRelayS3MaxSinglePutBytes ≤ seedRelayS3MaxParts * seedRelayS3MinPartBytes := by decide
    have hc := (hall seedRelayS3MaxParts).not.2
    have hmul := Nat.mul_le_mul_left seedRelayS3MaxParts hmin
    exact Nat.not_lt.1 (hc (by omega))

end Parts

end LamaSync
