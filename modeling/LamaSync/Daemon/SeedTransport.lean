import LamaSync.Daemon.SeedRelayS3
import LamaSync.Lib.Trace

/-!
# The uploads of a seed

`uploadSeedArchive` and `uploadSeedManifest` store one object each, read back what the store says it holds, and delete
the object on any failure.  The object they delete need not be theirs: where put refuses a key that holds an earlier
object, the failure path removes the earlier one.  `relay_objects_immutable` says exactly which uploads leave every
stored object in place.
-/

namespace LamaSync

open Trace

def describeSeedRelayFailure (error : String) : String :=
  "s3 seed relay: " ++ sliceText (String.ofList (trimSpaces (collapseSpaces false error.toList))) 200

def seedArchiveMatchesMetadata (metadata : FileDigest) (observed : SeedRelayObjectHead) : Option String :=
  if observed.bytes ≠ metadata.bytes then
    some ("the archive is " ++ toString observed.bytes ++ " bytes but " ++ toString metadata.bytes ++ " were recorded")
  else
    match observed.sha256 with
    | none => some "the archive's SHA-256 could not be read back"
    | some sha256 =>
      if sha256 ≠ metadata.sha256.val then some "the archive's SHA-256 does not match the recorded digest" else none

structure UploadSeedArchiveInput where
  jobId : String
  format : SeedArchiveFormat
  archive : Option (Except String (List UInt8))
  manifestFingerprint : String
  memberCount : Int

structure SerializedSeedManifest where
  bytes : List UInt8
  nonempty : bytes ≠ []
  fingerprint : Sha256Hex

structure UploadSeedManifestInput where
  jobId : String
  document : Except String SerializedSeedManifest

/-- How the calls of the store go during one upload. -/
structure UploadFate where
  put : PutFate
  head : HeadFate
  delete : DeleteFate

/-- What an upload returns, but for the facts and the metadata, which are read off its input. -/
inductive UploadReply where
  | ok
  | failed (error : String)
  | thrown (error : String)
  deriving DecidableEq

/-- What an upload stores, once its checks have passed, and the problem its metadata will have. -/
structure PreparedUpload where
  key : String
  expected : FileDigest
  metadataProblem : Option String

def isPositiveSafeInteger (n : Int) : Bool := decide (0 < n) && decide (n ≤ maxSafeInteger)

def seedArchiveMetadataProblem (digest : FileDigest) (memberCount : Int) : Option String :=
  if !isPositiveSafeInteger digest.bytes then some "the archive byte count is not a positive integer"
  else if !isPositiveSafeInteger memberCount then some "the archive member count is not a positive integer"
  else none

def seedManifestMetadataProblem (digest : FileDigest) : Option String :=
  if !isPositiveSafeInteger digest.bytes then some "the manifest byte count is not a positive integer" else none

section Upload

variable (digestOf : List UInt8 → Sha256Hex) (options : S3SeedRelayStoreOptions) (objects : ObjectSpace)

def prepareSeedArchive (input : UploadSeedArchiveInput) : Except String PreparedUpload :=
  let key := seedRelayArchiveKey input.jobId input.format
  match seedRelayKeyError key (some input.jobId) with
  | some error => .error error
  | none =>
    match input.archive with
    | none => .error "the archive to upload does not exist"
    | some reading =>
      if !isSha256Hex input.manifestFingerprint then
        .error ("the manifest fingerprint is not a 64-character hex digest, " ++
          "so the archive cannot be attributed to a manifest")
      else
        match reading with
        | .error error => .error (describeSeedRelayFailure ("the archive could not be read: " ++ error))
        | .ok content =>
          if content.isEmpty then .error "the archive is empty"
          else
            let digest : FileDigest := ⟨content.length, digestOf content⟩
            .ok ⟨key, digest, seedArchiveMetadataProblem digest input.memberCount⟩

def prepareSeedManifest (input : UploadSeedManifestInput) : Except String PreparedUpload :=
  match input.document with
  | .error problem => .error ("the source manifest cannot be transported: " ++ problem)
  | .ok document =>
    let key := seedRelayManifestKey input.jobId
    match seedRelayKeyError key (some input.jobId) with
    | some error => .error error
    | none =>
      let digest : FileDigest := ⟨document.bytes.length, digestOf document.bytes⟩
      .ok ⟨key, digest, seedManifestMetadataProblem digest⟩

def bestEffortDelete (key : String) (fate : DeleteFate) : ObjectSpace :=
  match seedRelayKeyError key none with
  | some _ => objects
  | none => (s3Delete objects key fate).1

def storeAndVerify (upload : PreparedUpload) (fate : UploadFate) : ObjectSpace × UploadReply :=
  match s3Put objects upload.key digestOf options upload.expected fate.put with
  | (stored, .thrown error) => (stored, .thrown error)
  | (stored, .result (.failure error _)) =>
    (bestEffortDelete stored upload.key fate.delete, .failed (describeSeedRelayFailure error))
  | (stored, .result (.success _)) =>
    match s3Head stored upload.key fate.head with
    | .failure error _ =>
      (bestEffortDelete stored upload.key fate.delete, .failed (describeSeedRelayFailure error))
    | .success head =>
      match seedArchiveMatchesMetadata upload.expected head with
      | some error => (bestEffortDelete stored upload.key fate.delete,
          .failed (describeSeedRelayFailure (error ++ "; the object was removed")))
      | none =>
        match upload.metadataProblem with
        | some problem => (bestEffortDelete stored upload.key fate.delete, .failed problem)
        | none => (stored, .ok)

def uploadSeedArchive (input : UploadSeedArchiveInput) (fate : UploadFate) : ObjectSpace × UploadReply :=
  match prepareSeedArchive digestOf input with
  | .error error => (objects, .failed error)
  | .ok upload => storeAndVerify digestOf options objects upload fate

def uploadSeedManifest (input : UploadSeedManifestInput) (fate : UploadFate) : ObjectSpace × UploadReply :=
  match prepareSeedManifest digestOf input with
  | .error error => (objects, .failed error)
  | .ok upload => storeAndVerify digestOf options objects upload fate

end Upload

inductive UploadCall where
  | archive (input : UploadSeedArchiveInput) (fate : UploadFate)
  | manifest (input : UploadSeedManifestInput) (fate : UploadFate)

def UploadCall.fate : UploadCall → UploadFate
  | .archive _ fate => fate
  | .manifest _ fate => fate

section Runs

variable (digestOf : List UInt8 → Sha256Hex) (options : S3SeedRelayStoreOptions)

def uploadStep (objects : ObjectSpace) : UploadCall → ObjectSpace
  | .archive input fate => (uploadSeedArchive digestOf options objects input fate).1
  | .manifest input fate => (uploadSeedManifest digestOf options objects input fate).1

def UploadCall.prepared : UploadCall → Except String PreparedUpload
  | .archive input _ => prepareSeedArchive digestOf input
  | .manifest input _ => prepareSeedManifest digestOf input

structure RepeatsStored (o : RelayObject) (upload : PreparedUpload) (fate : UploadFate) : Prop
    extends PutRepeats o upload.expected fate.put where
  readBack : fate.head = .answered
  metadata : upload.metadataProblem = none

/-- An upload leaves what is stored in place: its checks refuse it, its key holds nothing, the object there is the one it
would store and nothing goes wrong, or the delete of its failure path does not go through. -/
def UploadSpares (objects : ObjectSpace) (call : UploadCall) : Prop :=
  match call.prepared digestOf with
  | .error _ => True
  | .ok upload => ∀ o, objects upload.key = some o →
      RepeatsStored o upload call.fate ∨ call.fate.delete.goesThrough = false

variable {digestOf options} {objects : ObjectSpace} {call : UploadCall} {upload : PreparedUpload} {fate : UploadFate}
  {o : RelayObject}

theorem prepared_key (h : call.prepared digestOf = .ok upload) : seedRelayKeyError upload.key none = none := by
  cases call with
  | archive input fate =>
    replace h : prepareSeedArchive digestOf input = .ok upload := h
    unfold prepareSeedArchive at h
    extract_lets key at h
    split at h
    · cases h
    rename_i hkey
    split at h
    · cases h
    split at h
    · cases h
    split at h
    · cases h
    split at h
    · cases h
    · cases h
      exact seedRelayKeyError_of_job hkey
  | manifest input fate =>
    simp only [UploadCall.prepared, prepareSeedManifest] at h
    split at h
    · cases h
    split at h
    · cases h
    rename_i hkey
    cases h
    exact seedRelayKeyError_of_job hkey

private theorem st_delete_stored (hkey : seedRelayKeyError upload.key none = none) (h : objects upload.key = some o) :
    bestEffortDelete objects upload.key fate.delete =
      if fate.delete.goesThrough = true then objects.erase upload.key else objects := by
  unfold bestEffortDelete
  rw [hkey]
  exact s3Delete_stored hkey h

private theorem st_delete_other {key : String} (hne : key ≠ upload.key) :
    bestEffortDelete objects upload.key fate.delete key = objects key := by
  unfold bestEffortDelete
  cases seedRelayKeyError upload.key none with
  | some error => rfl
  | none => exact s3Delete_other hne

theorem storeAndVerify_other {key : String} (hne : key ≠ upload.key) :
    (storeAndVerify digestOf options objects upload fate).1 key = objects key := by
  have hput : (s3Put objects upload.key digestOf options upload.expected fate.put).1 key = objects key := s3Put_other hne
  unfold storeAndVerify
  split
  · rename_i stored error heq
    rw [heq] at hput
    exact hput
  · rename_i stored error notFound heq
    rw [heq] at hput
    exact (st_delete_other hne).trans hput
  rename_i stored head heq
  rw [heq] at hput
  split
  · exact (st_delete_other hne).trans hput
  split
  · exact (st_delete_other hne).trans hput
  split
  · exact (st_delete_other hne).trans hput
  · exact hput

theorem storeAndVerify_stored (hkey : seedRelayKeyError upload.key none = none) (h : objects upload.key = some o) :
    (RepeatsStored o upload fate ∧ (storeAndVerify digestOf options objects upload fate).1 = objects) ∨
    (¬ RepeatsStored o upload fate ∧ (storeAndVerify digestOf options objects upload fate).1 =
      if fate.delete.goesThrough = true then objects.erase upload.key else objects) := by
  have hdel := @st_delete_stored objects upload fate o hkey h
  unfold storeAndVerify
  rcases @s3Put_stored objects upload.key digestOf options upload.expected fate.put o hkey h with
    ⟨hre, hput⟩ | ⟨hno, error, hput⟩
  · rw [hput]
    dsimp only
    have hhead : s3Head objects upload.key fate.head = headKey objects upload.key fate.head := by
      unfold s3Head
      rw [hkey]
    rw [hhead]
    by_cases hans : fate.head = .answered
    · rw [hans, headKey_stored h]
      have hm : seedArchiveMatchesMetadata upload.expected ⟨o.body.length, o.metaSha256.filter isSha256Hex⟩ = none := by
        have hfilt : o.metaSha256.filter isSha256Hex = some upload.expected.sha256.val := by
          rw [hre.sha256, Option.filter_eq_some_iff]
          exact ⟨rfl, upload.expected.sha256.property⟩
        simp [seedArchiveMatchesMetadata, hre.bytes, hfilt]
      dsimp only
      rw [hm]
      cases hprob : upload.metadataProblem with
      | none => exact .inl ⟨⟨hre, hans, hprob⟩, rfl⟩
      | some problem =>
        refine .inr ⟨fun hr => ?_, hdel⟩
        rw [hr.metadata] at hprob
        cases hprob
    · obtain ⟨error, hfail⟩ := @headKey_problem objects upload.key _ hans
      rw [hfail]
      exact .inr ⟨fun hr => hans hr.readBack, hdel⟩
  · rw [hput]
    exact .inr ⟨fun hr => hno hr.toPutRepeats, hdel⟩

variable (digestOf options)

theorem uploadStep_prepared (objects : ObjectSpace) (call : UploadCall) :
    uploadStep digestOf options objects call =
      match call.prepared digestOf with
      | .error _ => objects
      | .ok upload => (storeAndVerify digestOf options objects upload call.fate).1 := by
  cases call with
  | archive input fate =>
    have hstep : uploadStep digestOf options objects (.archive input fate) =
        (uploadSeedArchive digestOf options objects input fate).1 := rfl
    have hprep : (UploadCall.archive input fate).prepared digestOf = prepareSeedArchive digestOf input := rfl
    rw [hstep, hprep]
    unfold uploadSeedArchive
    cases prepareSeedArchive digestOf input <;> rfl
  | manifest input fate =>
    have hstep : uploadStep digestOf options objects (.manifest input fate) =
        (uploadSeedManifest digestOf options objects input fate).1 := rfl
    have hprep : (UploadCall.manifest input fate).prepared digestOf = prepareSeedManifest digestOf input := rfl
    rw [hstep, hprep]
    unfold uploadSeedManifest
    cases prepareSeedManifest digestOf input <;> rfl

theorem uploadStep_extends_iff (objects : ObjectSpace) (call : UploadCall) :
    Table.Extends objects (uploadStep digestOf options objects call) ↔ UploadSpares digestOf objects call := by
  rw [uploadStep_prepared]
  unfold UploadSpares
  cases hprep : call.prepared digestOf with
  | error error => exact ⟨fun _ => trivial, fun _ => Table.Extends.refl objects⟩
  | ok upload =>
    have hkey := prepared_key hprep
    dsimp only
    constructor
    · intro hex o ho
      rcases @storeAndVerify_stored digestOf options objects upload call.fate o hkey ho with
        ⟨hre, -⟩ | ⟨-, hres⟩
      · exact .inl hre
      refine .inr ?_
      cases hgoes : call.fate.delete.goesThrough with
      | false => rfl
      | true =>
        have hkept := hex upload.key o ho
        rw [hres, hgoes, if_pos rfl, Table.erase_self] at hkept
        cases hkept
    · intro hsp key o ho
      by_cases hsame : key = upload.key
      · subst hsame
        rcases @storeAndVerify_stored digestOf options objects upload call.fate o hkey ho with
          ⟨-, hres⟩ | ⟨hno, hres⟩
        · rw [hres]
          exact ho
        rcases hsp o ho with hre | hgoes
        · exact absurd hre hno
        · rw [hres, hgoes, if_neg Bool.false_ne_true]
          exact ho
      · rw [storeAndVerify_other hsame]
        exact ho

/-- Stored objects stay as they are along a run of uploads exactly when every upload of the run spares what it finds. -/
theorem relay_objects_immutable (objects : ObjectSpace) (calls : List UploadCall) :
    (∀ before later after key o, calls = before ++ later ++ after →
      run (uploadStep digestOf options) objects before key = some o →
      run (uploadStep digestOf options) objects (before ++ later) key = some o) ↔
    Always (uploadStep digestOf options) (UploadSpares digestOf) objects calls := by
  have hst : Always (uploadStep digestOf options) (UploadSpares digestOf) objects calls ↔
      Always (uploadStep digestOf options)
        (fun objects call => Table.Extends objects (uploadStep digestOf options objects call)) objects calls := by
    constructor
    · exact fun h => h.mono fun objects call => (uploadStep_extends_iff digestOf options objects call).2
    · exact fun h => h.mono fun objects call => (uploadStep_extends_iff digestOf options objects call).1
  rw [hst, always_rel_iff Table.Extends.refl fun _ _ _ => Table.Extends.trans]
  constructor
  · intro h before later after heq key o
    exact h before later after key o heq
  · intro h before later after key o heq
    exact h before later after heq key o

end Runs

def answeredFate (content : List UInt8) : UploadFate where
  put := {
    aborted := false
    existing := .answered
    source := ⟨none, .ok content, content⟩
    single := .answered
    multipart := ⟨.answered (some "upload"), none, .answered⟩
    deleteKey := .answered
    final := .answered }
  head := .answered
  delete := ⟨.answered, .answered⟩

def exampleDigestOf (content : List UInt8) : Sha256Hex :=
  if content = [1] then ⟨String.ofList (List.replicate 64 'a'), by decide +kernel⟩
  else ⟨String.ofList (List.replicate 64 'b'), by decide +kernel⟩

def archiveUpload (content : List UInt8) : UploadCall :=
  .archive ⟨"job", .tarGz, some (.ok content), String.ofList (List.replicate 64 'c'), 1⟩ (answeredFate content)

/-- The archive of a retried job differs from the stored one: put refuses it, and the failure path deletes the stored
one. -/
theorem differing_upload_deletes_stored :
    let objects := run (uploadStep exampleDigestOf ⟨none, none⟩) (fun _ => none)
    let key := seedRelayArchiveKey "job" .tarGz
    objects [archiveUpload [1]] key = some ⟨[1], some (String.ofList (List.replicate 64 'a'))⟩ ∧
    objects ([archiveUpload [1]] ++ [archiveUpload [2]]) key = none := by
  decide +kernel

end LamaSync
