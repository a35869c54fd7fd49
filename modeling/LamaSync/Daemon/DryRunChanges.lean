import LamaSync.Core.Json
import LamaSync.Daemon.Execution

/-!
# The changes that a dry run reports

rclone writes a line of JSON for everything it leaves out in a dry run, and statistics.  `accumulateRcloneJsonLog` collects
them, the report of the run carries them as JSON, and `parseDryRunChanges` reads from it the changes of a plan.  A plan
without changes may be carried out as a rebuild of the baseline after another dry run without changes.

A line counts by its action: a copy, a move, a deletion, a move into the backup directory and a new directory are
changes of the content, and the actions that only set a modification time are not.  `skipped_content_is_a_change` says that
no change of the content is lost between the line and the decision.
-/

namespace LamaSync

/-- A number of JavaScript that was read from JSON.  `none` is an infinity, which a literal beyond the doubles is. -/
abbrev JsNumber := Option ℚ

def readNumber : Option Json → Option JsNumber
  | some (.num q) => some (some q)
  | some .overflow => some none
  | _ => none

structure RcloneLogStats where
  files : Nat := 0
  bytes : JsNumber := some 0
  errors : JsNumber := some 0
  checks : JsNumber := some 0
  transfers : JsNumber := some 0
  deletes : Option JsNumber := none
  wouldCopy : List String := []
  wouldDelete : List String := []
  wouldMkdir : List String := []
  deriving DecidableEq

/-- The lists of a plan that an action can belong to. -/
inductive ChangeKind where
  | copy | delete | mkdir
  deriving DecidableEq, Repr

/-- The kind of an action that rclone has left out.  The other actions, such as those that set a modification time, change
no content. -/
def skippedKind (skipped : String) : Option ChangeKind :=
  if skipped = "copy" ∨ skipped = "move" then some .copy
  else if skipped = "delete" ∨ skipped = "move into backup dir" then some .delete
  else if skipped = "make directory" then some .mkdir
  else none

def sentenceKind (msg : String) : Option ChangeKind :=
  if msg = "Would copy" then some .copy
  else if msg = "Would delete" then some .delete
  else if msg = "Would make directory" then some .mkdir
  else none

def lineChange (line : Json) : Option (ChangeKind × String) :=
  let kind := match Json.stringOrNull (line.field "skipped") with
    | some skipped => skippedKind skipped
    | none => (Json.stringOrNull (line.field "msg")).bind sentenceKind
  kind.bind fun kind => (Json.stringOrNull (line.field "object")).map fun object => (kind, object)

namespace RcloneLogStats

variable (acc : RcloneLogStats)

def recordStats (stats : Option Json) : RcloneLogStats :=
  let number := fun key => readNumber (stats.bind fun s => s.field key)
  { acc with
    bytes := (number "bytes").getD acc.bytes
    errors := (number "errors").getD acc.errors
    checks := (number "checks").getD acc.checks
    transfers := (number "transfers").getD acc.transfers
    deletes := (number "deletes").or acc.deletes }

def recordMessage (msg : Option String) : RcloneLogStats :=
  if msg = some "Copied (new)" ∨ msg = some "Copied (server-side copy)" then { acc with files := acc.files + 1 } else acc

def recordChange : Option (ChangeKind × String) → RcloneLogStats
  | some (.copy, object) => { acc with wouldCopy := acc.wouldCopy ++ [object] }
  | some (.delete, object) => { acc with wouldDelete := acc.wouldDelete ++ [object] }
  | some (.mkdir, object) => { acc with wouldMkdir := acc.wouldMkdir ++ [object] }
  | none => acc

def recordLine (line : Json) : RcloneLogStats :=
  ((acc.recordStats (line.field "stats")).recordMessage (Json.stringOrNull (line.field "msg"))).recordChange
    (lineChange line)

end RcloneLogStats

def accumulateRcloneJsonLog (lines : List (Option Json)) (acc : RcloneLogStats) : RcloneLogStats :=
  lines.foldl (fun acc line => line.elim acc acc.recordLine) acc

inductive ReportDetails where
  /-- No details, or a blank text. -/
  | missing
  | unreadable
  | json (value : Json)

def JsNumber.toJson : JsNumber → Json
  | some q => .num q
  | none => .null

def stringsJson (texts : List String) : Json := .arr (texts.map .str)

def RcloneLogStats.statsJson (acc : RcloneLogStats) : Json :=
  .obj ([("files", .num acc.files), ("bytes", acc.bytes.toJson), ("errors", acc.errors.toJson),
    ("checks", acc.checks.toJson), ("transfers", acc.transfers.toJson)] ++
    (acc.deletes.map fun deletes => ("deletes", deletes.toJson)).toList)

def runDetails (acc : RcloneLogStats) (rest : List (String × Json)) : ReportDetails :=
  .json (.obj ([("rclone", acc.statsJson), ("wouldCopy", stringsJson acc.wouldCopy),
    ("wouldDelete", stringsJson acc.wouldDelete), ("wouldMkdir", stringsJson acc.wouldMkdir)] ++ rest))

structure PlanChanges where
  wouldCopy : List String := []
  wouldDelete : List String := []
  wouldMkdir : List String := []
  files : Int := 0
  bytes : Int := 0
  deriving DecidableEq, Repr

def planChangeCap : Nat := 20

def stringList : Option Json → List String
  | some (.arr items) => (items.filterMap fun item => Json.stringOrNull (some item)).take planChangeCap
  | _ => []

def numberField : Option Json → Int
  | some (.num q) => q.floor
  | _ => 0

def parseDryRunChanges : ReportDetails → PlanChanges
  | .json parsed =>
    let stats := parsed.field "rclone"
    let wouldCopy := stringList (parsed.field "wouldCopy")
    let wouldDelete := stringList (parsed.field "wouldDelete")
    let wouldMkdir := stringList (parsed.field "wouldMkdir")
    let accounted := numberField (stats.bind fun s => s.field "transfers") + numberField (stats.bind fun s => s.field "deletes")
    { wouldCopy, wouldDelete, wouldMkdir
      files := if 0 < accounted then accounted
        else (wouldCopy.length + wouldDelete.length + wouldMkdir.length : Nat)
      bytes := numberField (stats.bind fun s => s.field "bytes") }
  | .missing | .unreadable => {}

def planHasContentChanges (changes : PlanChanges) : Bool :=
  changes.wouldCopy ≠ [] || changes.wouldDelete ≠ [] || changes.wouldMkdir ≠ [] || 0 < changes.files || 0 < changes.bytes

/-- `OperationStatus` of the reports; the executor's own ones are `LamaSync.OperationStatus`. -/
inductive ReportStatus where
  | started | success | failed | conflict | recovery | retry | deferred | cancelled
  deriving DecidableEq, Repr

def ReportStatus.text : ReportStatus → String
  | .started => "started"
  | .success => "success"
  | .failed => "failed"
  | .conflict => "conflict"
  | .recovery => "recovery"
  | .retry => "retry"
  | .deferred => "deferred"
  | .cancelled => "cancelled"

structure DryRunReport where
  status : ReportStatus
  summary : Option String
  details : ReportDetails

inductive RecheckReason where
  | noReport | failed | unreadable | changed
  deriving DecidableEq, Repr

inductive ZeroContentRecheck where
  | ok (changes : PlanChanges)
  | refused (reason : RecheckReason) (message : String) (changes : Option PlanChanges)
  deriving DecidableEq

def ZeroContentRecheck.isOk : ZeroContentRecheck → Bool
  | .ok _ => true
  | .refused .. => false

def recheckZeroContentExecution : Option DryRunReport → ZeroContentRecheck
  | none => .refused .noReport "the fresh dry run did not run" none
  | some report =>
    if report.status ≠ .success then
      .refused .failed ("the fresh dry run did not complete (" ++ report.status.text ++ "): " ++
        report.summary.getD "no summary") none
    else match report.details with
      | .missing => .refused .unreadable "the fresh dry run reported no change detail" none
      | .unreadable => .refused .unreadable "the fresh dry run's change detail could not be read" none
      | .json parsed =>
        if !parsed.isRecord then .refused .unreadable "the fresh dry run's change detail could not be read" none
        else
          let changes := parseDryRunChanges (.json parsed)
          if planHasContentChanges changes then
            .refused .changed (toString changes.files ++ " file(s) would transfer since the review") (some changes)
          else .ok changes

namespace RcloneLogStats

variable {acc : RcloneLogStats}

def changesOf (acc : RcloneLogStats) : ChangeKind → List String
  | .copy => acc.wouldCopy
  | .delete => acc.wouldDelete
  | .mkdir => acc.wouldMkdir

theorem changesOf_recordLine (line : Json) (kind : ChangeKind) :
    (acc.recordLine line).changesOf kind = acc.changesOf kind ++
      ((lineChange line).filter fun change => change.1 = kind).toList.map Prod.snd := by
  have hbef : ((acc.recordStats (line.field "stats")).recordMessage
      (Json.stringOrNull (line.field "msg"))).changesOf kind = acc.changesOf kind := by
    unfold recordMessage
    split
    · cases kind <;> rfl
    · cases kind <;> rfl
  unfold recordLine
  generalize (acc.recordStats (line.field "stats")).recordMessage (Json.stringOrNull (line.field "msg")) = before
    at hbef ⊢
  rw [← hbef]
  cases lineChange line with
  | none => simp [recordChange]
  | some change =>
    obtain ⟨found, object⟩ := change
    cases found <;> cases kind <;> simp [recordChange, changesOf, Option.filter]

theorem mem_changesOf {lines : List (Option Json)} {line : Json} {kind : ChangeKind} {object : String}
    (hline : some line ∈ lines) (hchg : lineChange line = some (kind, object)) :
    object ∈ (accumulateRcloneJsonLog lines acc).changesOf kind := by
  have hkept : ∀ (rest : List (Option Json)) (acc : RcloneLogStats), object ∈ acc.changesOf kind →
      object ∈ (accumulateRcloneJsonLog rest acc).changesOf kind := by
    intro rest
    induction rest with
    | nil => exact fun _ h => h
    | cons next rest ih =>
      intro acc hmem
      apply ih
      cases next with
      | none => exact hmem
      | some next =>
        show object ∈ (acc.recordLine next).changesOf kind
        rw [changesOf_recordLine, List.mem_append]
        exact .inl hmem
  induction lines generalizing acc with
  | nil => cases hline
  | cons next rest ih =>
    rcases List.mem_cons.1 hline with rfl | hla
    · refine hkept rest (acc.recordLine line) ?_
      rw [changesOf_recordLine, hchg, List.mem_append]
      exact .inr (by simp)
    · exact ih hla

end RcloneLogStats

private theorem dc_stringList (texts : List String) : stringList (some (stringsJson texts)) = texts.take planChangeCap := by
  have hall : (texts.map Json.str).filterMap (fun item => Json.stringOrNull (some item)) = texts := by
    rw [List.filterMap_map]
    exact List.filterMap_some
  show ((texts.map Json.str).filterMap fun item => Json.stringOrNull (some item)).take planChangeCap = _
  rw [hall]

private theorem dc_take {texts : List String} (h : texts ≠ []) : texts.take planChangeCap ≠ [] := by
  cases texts with
  | nil => exact absurd rfl h
  | cons text texts => exact List.cons_ne_nil _ _

theorem parseDryRunChanges_runDetails (acc : RcloneLogStats) (rest : List (String × Json)) :
    (parseDryRunChanges (runDetails acc rest)).wouldCopy = acc.wouldCopy.take planChangeCap ∧
      (parseDryRunChanges (runDetails acc rest)).wouldDelete = acc.wouldDelete.take planChangeCap ∧
      (parseDryRunChanges (runDetails acc rest)).wouldMkdir = acc.wouldMkdir.take planChangeCap :=
  ⟨dc_stringList _, dc_stringList _, dc_stringList _⟩

theorem planHasContentChanges_of_collected {acc : RcloneLogStats} {rest : List (String × Json)} {kind : ChangeKind}
    (h : acc.changesOf kind ≠ []) : planHasContentChanges (parseDryRunChanges (runDetails acc rest)) = true := by
  obtain ⟨hcopy, hdel, hmk⟩ := parseDryRunChanges_runDetails acc rest
  unfold planHasContentChanges
  rw [hcopy, hdel, hmk]
  cases kind with
  | copy =>
    have hthis : acc.wouldCopy.take planChangeCap ≠ [] := dc_take h
    simp [hthis]
  | delete =>
    have hthis : acc.wouldDelete.take planChangeCap ≠ [] := dc_take h
    simp [hthis]
  | mkdir =>
    have hthis : acc.wouldMkdir.take planChangeCap ≠ [] := dc_take h
    simp [hthis]

theorem recheck_refuses {report : DryRunReport} (h : planHasContentChanges (parseDryRunChanges report.details) = true) :
    (recheckZeroContentExecution (some report)).isOk = false := by
  unfold recheckZeroContentExecution
  dsimp only
  split
  · rfl
  cases hde : report.details with
  | missing | unreadable => rfl
  | json parsed =>
    rw [hde] at h
    dsimp only
    split
    · rfl
    · rfl

/-- An object is reported with one of the actions that change content, or in one of the sentences. -/
def reportsContentChange (line : Json) : Bool :=
  (Json.stringOrNull (line.field "object")).isSome &&
    match Json.stringOrNull (line.field "skipped") with
    | some skipped => skipped ∈ ["copy", "move", "delete", "move into backup dir", "make directory"]
    | none => (Json.stringOrNull (line.field "msg")).any fun msg =>
        msg ∈ ["Would copy", "Would delete", "Would make directory"]

theorem skippedKind_isSome (skipped : String) : (skippedKind skipped).isSome = true ↔
    skipped ∈ ["copy", "move", "delete", "move into backup dir", "make directory"] := by
  simp only [skippedKind, List.mem_cons, List.not_mem_nil, or_false, ← or_assoc]
  split_ifs <;> simp_all

theorem sentenceKind_isSome (msg : String) :
    (sentenceKind msg).isSome = true ↔ msg ∈ ["Would copy", "Would delete", "Would make directory"] := by
  simp only [sentenceKind, List.mem_cons, List.not_mem_nil, or_false]
  split_ifs <;> simp_all

theorem lineChange_of_reports {line : Json} (h : reportsContentChange line = true) : (lineChange line).isSome = true := by
  obtain ⟨hobj, hrep⟩ := Bool.and_eq_true_iff.1 h
  obtain ⟨object, hobj⟩ := Option.isSome_iff_exists.1 hobj
  have hkind (kind : Option ChangeKind) (hkind : kind.isSome = true) :
      (kind.bind fun kind => (Json.stringOrNull (line.field "object")).map fun object => (kind, object)).isSome = true := by
    obtain ⟨kind, rfl⟩ := Option.isSome_iff_exists.1 hkind
    rw [hobj]
    rfl
  refine hkind _ ?_
  split at hrep
  · rename_i skipped hsk
    exact (skippedKind_isSome skipped).2 (of_decide_eq_true hrep)
  · rename_i hsk
    obtain ⟨msg, hmsg, hse⟩ := (Option.any_eq_true _ _).1 hrep
    rw [hmsg]
    exact (sentenceKind_isSome msg).2 (of_decide_eq_true hse)

/-- A dry run in which a line reports a change of the content makes a plan with changes, and no rebuild of the baseline alone
is authorised by it. -/
theorem skipped_content_is_a_change {lines : List (Option Json)} (rest : List (String × Json)) (status : ReportStatus)
    (summary : Option String) (h : ∃ line, some line ∈ lines ∧ reportsContentChange line = true) :
    planHasContentChanges (parseDryRunChanges (runDetails (accumulateRcloneJsonLog lines {}) rest)) = true ∧
      (recheckZeroContentExecution
        (some ⟨status, summary, runDetails (accumulateRcloneJsonLog lines {}) rest⟩)).isOk = false := by
  obtain ⟨line, hline, hrep⟩ := h
  obtain ⟨⟨kind, object⟩, hchg⟩ := Option.isSome_iff_exists.1 (lineChange_of_reports hrep)
  have hco : (accumulateRcloneJsonLog lines {}).changesOf kind ≠ [] :=
    List.ne_nil_of_mem (RcloneLogStats.mem_changesOf hline hchg)
  have hch : planHasContentChanges (parseDryRunChanges (runDetails (accumulateRcloneJsonLog lines {}) rest)) = true :=
    planHasContentChanges_of_collected hco
  exact ⟨hch, recheck_refuses hch⟩

def copyLine : Json := .obj [("object", .str "projects/a.txt"), ("skipped", .str "copy")]

/-- A line about a copy, and one that is no JSON. -/
theorem skipped_content_is_a_change_copy :
    planHasContentChanges (parseDryRunChanges (runDetails (accumulateRcloneJsonLog [some copyLine, none] {}) [])) = true ∧
      (recheckZeroContentExecution
        (some ⟨.success, none, runDetails (accumulateRcloneJsonLog [some copyLine, none] {}) []⟩)).isOk = false :=
  skipped_content_is_a_change [] .success none ⟨copyLine, .head _, by decide +kernel⟩

/-- An action that changes no content is left out of the plan. -/
theorem skipped_time_is_no_change :
    let line := Json.obj [("object", .str "dir"), ("skipped", .str "set directory modification time")]
    Json.stringOrNull (line.field "skipped") ≠ none ∧ Json.stringOrNull (line.field "object") ≠ none ∧
      planHasContentChanges (parseDryRunChanges (runDetails (accumulateRcloneJsonLog [some line] {}) [])) = false ∧
      (recheckZeroContentExecution
        (some ⟨.success, none, runDetails (accumulateRcloneJsonLog [some line] {}) []⟩)).isOk = true := by
  decide +kernel

end LamaSync
