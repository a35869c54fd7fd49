import LamaSync.Server.FolderSeed

/-!
# Stored seed plans

A row of `folder_seed_plans` keeps parts of its plan as JSON texts.  `rowToSeedPlan` gives every field of them a value of
its type, and `checkSeedPlanValidity` decides on the result.  Most fields decode to what refuses when they are missing or
have another type; three flags of the staging policy decode to what lets a plan through, and the space plan is not looked
into at all (`stored_plan_fails_closed`).
-/

namespace LamaSync

structure SeedPlanRow where
  sourceHostId : Option String
  sourceAuthorityHostId : Option String
  sourceAuthority : Option String
  filterUniverse : Option String
  sourceFileCount : Int
  sourceBytes : Int
  targetFreeBytes : Option Int
  targetFreeMeasuredAt : Option Int
  targetHostId : Option String
  stagingRoot : Option String
  stagingSameFilesystem : Option Int
  targetMeasuredEntries : Option Int
  space : String
  archiveFormat : String
  archiveTooling : String
  archiveToolingReady : Int
  archiveEstimateBytes : Int
  archiveChoiceReason : String
  archiveFallback : Int
  stagingPolicy : String
  configRevision : Int
  filterFingerprint : Option String
  baselineFingerprint : Option String
  expiresAt : Int

/-- The operator's source.  The numbers are as they were stored. -/
structure SeedSourceAuthority where
  hostId : String
  assignmentId : String
  assigned : Bool
  isTarget : Bool
  measurementUsable : Bool
  measurementAgeMs : Json
  fileCount : Json
  totalBytes : Json
  measuredAt : Json
  message : String

structure SeedFilterUniverseFacts where
  fingerprint : Option String
  targetFingerprint : Option String
  isMatch : Bool
  patternCount : Json
  archiveImplemented : Bool
  message : String

structure SeedTargetFacts where
  freeBytes : Option Int
  freeBytesMeasuredAt : Option Int
  measuredOnHostId : Option String
  stagingRoot : Option String
  stagingSameFilesystem : Option Bool
  measuredEntries : Option Int

structure SeedPlanArchive where
  format : SeedArchiveFormat
  tar : Bool
  zstd : Bool
  gzip : Bool
  toolingReady : Bool
  estimateBytes : Int
  choiceReason : String
  fallback : Bool

structure SeedStagingPolicy where
  adjacentToTarget : Bool
  derivedSibling : Bool
  insideTarget : Bool
  sameFilesystem : Option Bool
  message : String

/-- The part of a plan that its validity is decided from.  `space` is a cast of what was stored. -/
structure SeedPlan where
  sourceAuthority : SeedSourceAuthority
  filterUniverse : SeedFilterUniverseFacts
  target : SeedTargetFacts
  space : Json
  archive : SeedPlanArchive
  stagingPolicy : SeedStagingPolicy
  configRevision : Int
  filterFingerprint : Option String
  baselineFingerprint : Option String
  expiresAt : Int

def Json.isTrue : Option Json → Bool
  | some (.bool b) => b
  | _ => false

def Json.isNotFalse : Option Json → Bool
  | some (.bool b) => b
  | _ => true

def Json.boolOrNull : Option Json → Option Bool
  | some (.bool b) => some b
  | _ => none

def Json.numberOr (fallback : Json) : Option Json → Json
  | some (.num q) => .num q
  | some .overflow => .overflow
  | _ => fallback

def Json.stringOr (fallback : String) (value : Option Json) : String := (Json.stringOrNull value).getD fallback

/-- Whether a condition holds of a value. -/
def Json.truthy : Option Json → Bool
  | none | some .null => false
  | some (.bool b) => b
  | some (.num q) => q ≠ 0
  | some (.str s) => s ≠ ""
  | some .overflow | some (.arr _) | some (.obj _) => true

def seedFilterUniverseRequiredReason : String :=
  "A seed archive must be built from exactly the effective filter universe the following sync baseline uses " ++
  "(lamasyncignore, ignore-git-metadata, respect-gitignore). Archiving the raw source tree while sync filters a " ++
  "different tree would produce a seed that cannot validate to zero content changes, and would include members a " ++
  "seed cannot represent. Filter-aware archive construction is implemented: the daemon compiles the same " ++
  "--filter-from rule lines the executor writes, and tar is handed only the manifest's members."

def unmeasuredSpacePlan : Json := .obj [
  ("sourceBytes", .num 0),
  ("sourceFiles", .num 0),
  ("archiveBytesEstimate", .num 0),
  ("extractedBytes", .num 0),
  ("peakBytes", .num 0),
  ("requiredFreeBytes", .num (64 * 1024 * 1024)),
  ("targetFreeBytes", .null),
  ("shortfallBytes", .num 0),
  ("ok", .bool false),
  ("message", .str
    "Target free space is not known yet, so the seed cannot be approved. Measure the target device first.")]

section Decode

-- `JSON.parse`; nothing for a text that is no JSON
variable (parse : String → Option Json)

def safeParse : Option String → Json
  | none => .null
  | some text => (parse text).getD .null

variable (row : SeedPlanRow)

def SeedPlanRow.decodeAuthority : SeedSourceAuthority :=
  let sourceHostId := (row.sourceAuthorityHostId.or row.sourceHostId).getD ""
  let authority := safeParse parse row.sourceAuthority
  if authority.isRecord then {
    hostId := Json.stringOr sourceHostId (authority.field "hostId")
    assignmentId := Json.stringOr "" (authority.field "assignmentId")
    assigned := Json.isTrue (authority.field "assigned")
    isTarget := Json.isTrue (authority.field "isTarget")
    measurementUsable := Json.isTrue (authority.field "measurementUsable")
    measurementAgeMs := Json.numberOr .null (authority.field "measurementAgeMs")
    fileCount := Json.numberOr (.num 0) (authority.field "fileCount")
    totalBytes := Json.numberOr (.num 0) (authority.field "totalBytes")
    measuredAt := Json.numberOr .null (authority.field "measuredAt")
    message := Json.stringOr "The source device is not usable." (authority.field "message") }
  else {
    hostId := sourceHostId
    assignmentId := ""
    assigned := false
    isTarget := false
    measurementUsable := false
    measurementAgeMs := .null
    fileCount := .num row.sourceFileCount
    totalBytes := .num row.sourceBytes
    measuredAt := .null
    message := "This plan predates the explicit source authority; prepare a new plan naming the source device." }

def SeedPlanRow.decodeFilterUniverse : SeedFilterUniverseFacts :=
  let filterUniverse := safeParse parse row.filterUniverse
  if filterUniverse.isRecord then {
    fingerprint := Json.stringOrNull (filterUniverse.field "fingerprint")
    targetFingerprint := Json.stringOrNull (filterUniverse.field "targetFingerprint")
    isMatch := Json.isTrue (filterUniverse.field "match")
    patternCount := Json.numberOr (.num 0) (filterUniverse.field "patternCount")
    archiveImplemented := Json.isTrue (filterUniverse.field "archiveImplemented")
    message := Json.stringOr seedFilterUniverseRequiredReason (filterUniverse.field "message") }
  else {
    fingerprint := none
    targetFingerprint := none
    isMatch := false
    patternCount := .num 0
    archiveImplemented := false
    message := seedFilterUniverseRequiredReason }

def SeedPlanRow.decodeArchive : SeedPlanArchive :=
  let tooling := safeParse parse (some row.archiveTooling)
  { format := if row.archiveFormat = "tar.zstd" then .tarZstd else .tarGz
    tar := tooling.isRecord && Json.isTrue (tooling.field "tar")
    zstd := tooling.isRecord && Json.isTrue (tooling.field "zstd")
    gzip := tooling.isRecord && Json.isTrue (tooling.field "gzip")
    toolingReady := row.archiveToolingReady == 1
    estimateBytes := row.archiveEstimateBytes
    choiceReason := row.archiveChoiceReason
    fallback := row.archiveFallback == 1 }

def SeedPlanRow.decodePolicy : SeedStagingPolicy :=
  let policy := safeParse parse (some row.stagingPolicy)
  if policy.isRecord then {
    adjacentToTarget := Json.isNotFalse (policy.field "adjacentToTarget")
    derivedSibling := Json.isNotFalse (policy.field "derivedSibling")
    insideTarget := Json.isTrue (policy.field "insideTarget")
    sameFilesystem := Json.boolOrNull (policy.field "sameFilesystem")
    message := Json.stringOr "Staging is a sibling of the target." (policy.field "message") }
  else {
    adjacentToTarget := true
    derivedSibling := true
    insideTarget := false
    sameFilesystem := none
    message := "Staging is a sibling of the target." }

def SeedPlanRow.decodeTarget : SeedTargetFacts where
  freeBytes := row.targetFreeBytes
  freeBytesMeasuredAt := row.targetFreeMeasuredAt
  measuredOnHostId := row.targetHostId
  stagingRoot := row.stagingRoot
  stagingSameFilesystem := row.stagingSameFilesystem.map (· == 1)
  measuredEntries := row.targetMeasuredEntries

def rowToSeedPlan : SeedPlan :=
  let space := safeParse parse (some row.space)
  { sourceAuthority := row.decodeAuthority parse
    filterUniverse := row.decodeFilterUniverse parse
    target := row.decodeTarget
    space := if space.isRecord then space else unmeasuredSpacePlan
    archive := row.decodeArchive parse
    stagingPolicy := row.decodePolicy parse
    configRevision := row.configRevision
    filterFingerprint := row.filterFingerprint
    baselineFingerprint := row.baselineFingerprint
    expiresAt := row.expiresAt }

end Decode

/-- `n.toLocaleString("en-US")` of a natural number, on its decimal digits, the last one first. -/
def groupDigits : List Char → List Char
  | a :: b :: c :: d :: rest => a :: b :: c :: ',' :: groupDigits (d :: rest)
  | digits => digits

def toLocaleString (n : Int) : String :=
  let digits := String.ofList (groupDigits (toString n.natAbs).toList.reverse).reverse
  if n < 0 then "-" ++ digits else digits

def seedTargetEmptiness (target : SeedTargetFacts) : Bool × String :=
  let host := target.measuredOnHostId.getD "the target device"
  match target.measuredEntries with
  | none => (false, host ++ " has not measured this folder, so LamaSync cannot confirm the target is empty. A seed only " ++
      "publishes into an empty target, so an unmeasured target is refused rather than assumed. Open the " ++
      "folder on that device and choose Check this device now.")
  | some entries =>
    if entries ≠ 0 then
      (false, host ++ " measures this folder as already containing " ++ toLocaleString entries ++
        " entries. A seed only publishes into an empty target: nothing is merged, moved or overwritten. Decide " ++
        "where that content belongs (keep it, or copy it somewhere else first) and start the seed from an " ++
        "empty directory.")
    else (true, host ++ " measures this folder as empty, so it can receive a seed.")

structure SeedPlanExecutionOptions where
  transportImplemented : Option Bool
  pilot : Option SeedPilotEligibility

def seedExecutionUnavailableReason : String :=
  "Seed execution is switched off for every folder. LamaSync runs a seed only inside the operator's seed " ++
  "pilot, which authorizes ONE folder and ONE source/target pair at a time — the transport has never run " ++
  "between two real machines, so nothing is opened fleet-wide. Preparing a plan is safe and read-only. " ++
  "A sync with an existing baseline keeps its exact fixed timeout. A first run with no usable baseline — the " ++
  "initialization case that hit the dev-vm timeout — is now supervised by a progress-aware stall budget instead, " ++
  "so it is stopped when it genuinely stalls rather than when it runs long."

def seedPlanExecution (options : SeedPlanExecutionOptions) : Bool × String :=
  let pilotEligible := options.pilot.any SeedPilotEligibility.eligible
  if options.transportImplemented.getD false || pilotEligible then
    (true, if pilotEligible then "Seed execution is authorized by the seed pilot for this folder and this device pair."
      else "Seed execution is available.")
  else
    (false, ((options.pilot.map SeedPilotEligibility.reason).filter (· ≠ "")).getD seedExecutionUnavailableReason)

inductive SeedPlanInvalidReason where
  | expired | configChanged | filterChanged | baselineChanged | notRunnable
  deriving DecidableEq

structure SeedPlanValidity where
  reason : Option SeedPlanInvalidReason
  message : Option Json

def SeedPlanValidity.valid (validity : SeedPlanValidity) : Bool := validity.reason.isNone

structure SeedPlanLive where
  now : Int
  configRevision : Int
  filterFingerprint : Option String
  baselineFingerprint : Option String

def checkSeedPlanValidity (plan : SeedPlan) (live : SeedPlanLive) (options : SeedPlanExecutionOptions) : SeedPlanValidity :=
  if plan.expiresAt ≤ live.now then ⟨some .expired, some (.str "This seed plan has expired — prepare a new one.")⟩
  else if live.configRevision ≠ plan.configRevision then
    ⟨some .configChanged, some (.str "The assignment changed since this seed plan was built — prepare a new one.")⟩
  else if live.filterFingerprint ≠ plan.filterFingerprint then
    ⟨some .filterChanged, some (.str "The ignore/filter set changed since this seed plan was built — prepare a new one.")⟩
  else if live.baselineFingerprint ≠ plan.baselineFingerprint then
    ⟨some .baselineChanged, some (.str "The saved sync record changed since this seed plan was built — prepare a new one.")⟩
  else if !plan.sourceAuthority.measurementUsable then ⟨some .notRunnable, some (.str plan.sourceAuthority.message)⟩
  else if !plan.filterUniverse.archiveImplemented then ⟨some .notRunnable, some (.str plan.filterUniverse.message)⟩
  else if !plan.filterUniverse.isMatch then ⟨some .notRunnable, some (.str plan.filterUniverse.message)⟩
  else if !plan.archive.toolingReady then
    ⟨some .notRunnable,
      some (.str "The target device is missing tar or the archive compressor, so this seed cannot run.")⟩
  else if !Json.truthy (plan.space.field "ok") then ⟨some .notRunnable, plan.space.field "message"⟩
  else if !plan.stagingPolicy.adjacentToTarget || !plan.stagingPolicy.derivedSibling || plan.stagingPolicy.insideTarget ||
      plan.stagingPolicy.sameFilesystem != some true then
    ⟨some .notRunnable, some (.str plan.stagingPolicy.message)⟩
  else if !(seedTargetEmptiness plan.target).1 then ⟨some .notRunnable, some (.str (seedTargetEmptiness plan.target).2)⟩
  else if !(seedPlanExecution options).1 then ⟨some .notRunnable, some (.str (seedPlanExecution options).2)⟩
  else ⟨none, some (.str "Seed plan is current and runnable.")⟩

/-- The stored fields that the validity of a plan depends on. -/
inductive PolicyField where
  | measurementUsable | archiveImplemented | isMatch | spaceOk
  | adjacentToTarget | derivedSibling | insideTarget | sameFilesystem
  deriving DecidableEq

def SeedPlan.permits (plan : SeedPlan) : PolicyField → Bool
  | .measurementUsable => plan.sourceAuthority.measurementUsable
  | .archiveImplemented => plan.filterUniverse.archiveImplemented
  | .isMatch => plan.filterUniverse.isMatch
  | .spaceOk => Json.truthy (plan.space.field "ok")
  | .adjacentToTarget => plan.stagingPolicy.adjacentToTarget
  | .derivedSibling => plan.stagingPolicy.derivedSibling
  | .insideTarget => !plan.stagingPolicy.insideTarget
  | .sameFilesystem => plan.stagingPolicy.sameFilesystem == some true

theorem valid_ite {c : Prop} [Decidable c] {reason : SeedPlanInvalidReason} {message : Option Json} {rest : SeedPlanValidity} :
    (if c then ⟨some reason, message⟩ else rest : SeedPlanValidity).valid = true ↔ ¬c ∧ rest.valid = true := by
  by_cases hc : c
  · rw [if_pos hc]
    exact iff_of_false (by simp [SeedPlanValidity.valid]) fun h => h.1 hc
  · rw [if_neg hc]
    exact ⟨fun h => ⟨hc, h⟩, fun h => h.2⟩

theorem permits_of_valid {plan : SeedPlan} {live : SeedPlanLive} {options : SeedPlanExecutionOptions}
    (h : (checkSeedPlanValidity plan live options).valid = true) (field : PolicyField) : plan.permits field = true := by
  simp only [checkSeedPlanValidity, valid_ite] at h
  obtain ⟨-, -, -, -, hus, him, hm, -, hsp, hpo, -⟩ := h
  rw [Bool.not_eq_true', Bool.not_eq_false] at hus him hm hsp
  simp only [Bool.or_eq_true, not_or, Bool.not_eq_true', Bool.not_eq_false, Bool.not_eq_true, bne_eq_false_iff_eq] at hpo
  obtain ⟨⟨⟨had, hde⟩, hin⟩, hsame⟩ := hpo
  cases field with
  | measurementUsable => exact hus
  | archiveImplemented => exact him
  | isMatch => exact hm
  | spaceOk => exact hsp
  | adjacentToTarget => exact had
  | derivedSibling => exact hde
  | insideTarget => simp [SeedPlan.permits, hin]
  | sameFilesystem => simp [SeedPlan.permits, hsame]

section FailsClosed

variable (parse : String → Option Json) (row : SeedPlanRow)

def SeedPlanRow.stored : PolicyField → Option Json
  | .measurementUsable => (safeParse parse row.sourceAuthority).field "measurementUsable"
  | .archiveImplemented => (safeParse parse row.filterUniverse).field "archiveImplemented"
  | .isMatch => (safeParse parse row.filterUniverse).field "match"
  | .spaceOk => (safeParse parse (some row.space)).field "ok"
  | .adjacentToTarget => (safeParse parse (some row.stagingPolicy)).field "adjacentToTarget"
  | .derivedSibling => (safeParse parse (some row.stagingPolicy)).field "derivedSibling"
  | .insideTarget => (safeParse parse (some row.stagingPolicy)).field "insideTarget"
  | .sameFilesystem => (safeParse parse (some row.stagingPolicy)).field "sameFilesystem"

def SeedPlanRow.typed (field : PolicyField) : Prop := ∃ b, row.stored parse field = some (.bool b)

variable {parse row}

theorem typed_of_isTrue {value : Option Json} (h : Json.isTrue value = true) : ∃ b, value = some (.bool b) := by
  unfold Json.isTrue at h
  split at h
  · exact ⟨_, rfl⟩
  · cases h

theorem field_of_not_isRecord {value : Json} (h : value.isRecord = false) (key : String) : value.field key = none := by
  cases value with
  | obj fields => cases h
  | _ => rfl

theorem typed_of_permits {field : PolicyField}
    (hfi : field = .measurementUsable ∨ field = .archiveImplemented ∨ field = .isMatch ∨ field = .sameFilesystem)
    (h : (rowToSeedPlan parse row).permits field = true) : row.typed parse field := by
  rcases hfi with rfl | rfl | rfl | rfl
  · simp only [SeedPlan.permits, rowToSeedPlan, SeedPlanRow.decodeAuthority] at h
    split at h
    · exact typed_of_isTrue h
    · cases h
  · simp only [SeedPlan.permits, rowToSeedPlan, SeedPlanRow.decodeFilterUniverse] at h
    split at h
    · exact typed_of_isTrue h
    · cases h
  · simp only [SeedPlan.permits, rowToSeedPlan, SeedPlanRow.decodeFilterUniverse] at h
    split at h
    · exact typed_of_isTrue h
    · cases h
  simp only [SeedPlan.permits, rowToSeedPlan, SeedPlanRow.decodePolicy] at h
  split at h
  · rw [beq_iff_eq] at h
    unfold Json.boolOrNull at h
    split at h
    · rename_i b heq
      exact ⟨b, heq⟩
    · cases h
  · cases h

theorem permits_untyped {field : PolicyField}
    (hfi : field = .adjacentToTarget ∨ field = .derivedSibling ∨ field = .insideTarget)
    (h : ¬row.typed parse field) : (rowToSeedPlan parse row).permits field = true := by
  have hnotFalse : ∀ value : Option Json, (¬∃ b, value = some (.bool b)) → Json.isNotFalse value = true := by
    intro value hv
    unfold Json.isNotFalse
    split
    · exact absurd ⟨_, rfl⟩ hv
    · rfl
  have hnotTrue : ∀ value : Option Json, (¬∃ b, value = some (.bool b)) → Json.isTrue value = false := by
    intro value hv
    rw [← Bool.not_eq_true]
    exact fun htrue => hv (typed_of_isTrue htrue)
  rcases hfi with rfl | rfl | rfl
  · simp only [SeedPlan.permits, rowToSeedPlan, SeedPlanRow.decodePolicy]
    split
    · exact hnotFalse _ h
    · rfl
  · simp only [SeedPlan.permits, rowToSeedPlan, SeedPlanRow.decodePolicy]
    split
    · exact hnotFalse _ h
    · rfl
  simp only [SeedPlan.permits, rowToSeedPlan, SeedPlanRow.decodePolicy]
  split
  · exact congrArg not (hnotTrue _ h)
  · rfl

theorem permits_spaceOk : (rowToSeedPlan parse row).permits .spaceOk = Json.truthy (row.stored parse .spaceOk) := by
  simp only [SeedPlan.permits, rowToSeedPlan, SeedPlanRow.stored]
  cases hrec : (safeParse parse (some row.space)).isRecord with
  | true => rw [if_pos rfl]
  | false =>
    rw [if_neg Bool.false_ne_true, field_of_not_isRecord hrec]
    rfl

variable (parse row)

/-- The plan of a row fails closed exactly when the three flags of its staging policy are booleans, and `ok` of its space
plan is a boolean or nothing that a condition takes for true. -/
theorem stored_plan_fails_closed :
    ((∀ field, (rowToSeedPlan parse row).permits field = true → row.typed parse field) ∧
      ∀ live options, (checkSeedPlanValidity (rowToSeedPlan parse row) live options).valid = true →
        ∀ field, row.typed parse field) ↔
    (row.typed parse .adjacentToTarget ∧ row.typed parse .derivedSibling ∧ row.typed parse .insideTarget ∧
      (Json.truthy (row.stored parse .spaceOk) = true → row.typed parse .spaceOk)) := by
  constructor
  · rintro ⟨hcl, -⟩
    have hflag : ∀ field, field = .adjacentToTarget ∨ field = .derivedSibling ∨ field = .insideTarget →
        row.typed parse field := by
      intro field hfi
      by_contra hun
      exact hun (hcl field (permits_untyped hfi hun))
    exact ⟨hflag _ (.inl rfl), hflag _ (.inr (.inl rfl)), hflag _ (.inr (.inr rfl)),
      fun hok => hcl .spaceOk (permits_spaceOk.trans hok)⟩
  · rintro ⟨had, hde, hin, hsp⟩
    have hcl : ∀ field, (rowToSeedPlan parse row).permits field = true → row.typed parse field := by
      intro field h
      cases field with
      | measurementUsable => exact typed_of_permits (.inl rfl) h
      | archiveImplemented => exact typed_of_permits (.inr (.inl rfl)) h
      | isMatch => exact typed_of_permits (.inr (.inr (.inl rfl))) h
      | sameFilesystem => exact typed_of_permits (.inr (.inr (.inr rfl))) h
      | spaceOk => exact hsp (permits_spaceOk.symm.trans h)
      | adjacentToTarget => exact had
      | derivedSibling => exact hde
      | insideTarget => exact hin
    exact ⟨hcl, fun live options hv field => hcl field (permits_of_valid hv field)⟩

end FailsClosed

def barePolicyParse (text : String) : Option Json :=
  if text = "\x7b\"sameFilesystem\":true\x7d" then some (.obj [("sameFilesystem", .bool true)])
  else if text = "\x7b\"measurementUsable\":true\x7d" then some (.obj [("measurementUsable", .bool true)])
  else if text = "\x7b\"match\":true,\"archiveImplemented\":true\x7d" then
    some (.obj [("match", .bool true), ("archiveImplemented", .bool true)])
  else if text = "\x7b\"ok\":\"no\"\x7d" then some (.obj [("ok", .str "no")])
  else none

def barePolicyRow : SeedPlanRow where
  sourceHostId := some "source"
  sourceAuthorityHostId := some "source"
  sourceAuthority := some "\x7b\"measurementUsable\":true\x7d"
  filterUniverse := some "\x7b\"match\":true,\"archiveImplemented\":true\x7d"
  sourceFileCount := 1
  sourceBytes := 1
  targetFreeBytes := none
  targetFreeMeasuredAt := none
  targetHostId := some "target"
  stagingRoot := some "/data"
  stagingSameFilesystem := some 1
  targetMeasuredEntries := some 0
  space := "\x7b\"ok\":\"no\"\x7d"
  archiveFormat := "tar.gz"
  archiveTooling := ""
  archiveToolingReady := 1
  archiveEstimateBytes := 1
  archiveChoiceReason := ""
  archiveFallback := 0
  stagingPolicy := "\x7b\"sameFilesystem\":true\x7d"
  configRevision := 1
  filterFingerprint := none
  baselineFingerprint := none
  expiresAt := 10

/-- The plan is valid, though three flags are missing and `ok` is a text. -/
theorem bare_policy_is_valid :
    (checkSeedPlanValidity (rowToSeedPlan barePolicyParse barePolicyRow) ⟨1, 1, none, none⟩
        ⟨none, some ⟨true, ""⟩⟩).valid = true ∧
      ¬barePolicyRow.typed barePolicyParse .adjacentToTarget ∧ ¬barePolicyRow.typed barePolicyParse .derivedSibling ∧
      ¬barePolicyRow.typed barePolicyParse .insideTarget ∧ ¬barePolicyRow.typed barePolicyParse .spaceOk := by
  have hmiss : ∀ field, barePolicyRow.stored barePolicyParse field = none →
      ¬barePolicyRow.typed barePolicyParse field := by
    rintro field hnone ⟨b, hsome⟩
    rw [hnone] at hsome
    cases hsome
  refine ⟨by decide +kernel, hmiss _ rfl, hmiss _ rfl, hmiss _ rfl, ?_⟩
  rintro ⟨b, hsome⟩
  cases hsome

end LamaSync
