import Mathlib.Data.List.Induction

/-!
# The health of a folder

What the daemon and the server make of the facts about one assignment: the reasons it is not healthy, in the order in which
they are checked, and the state of the worst one.  A run in progress is put in front and decides the state.

`folder_health_worst_first_iff` says for which facts the reasons come worst first.
-/

namespace LamaSync

inductive FolderHealthState where
  | healthy | newHost | resyncRequired | recoverable | unsafeRun | blocked | busy | unknown
  deriving DecidableEq

def folderHealthSeverity : FolderHealthState → Nat
  | .unsafeRun => 6
  | .resyncRequired => 5
  | .blocked => 4
  | .recoverable => 3
  | .newHost => 2
  | .busy => 1
  | .healthy => 0
  | .unknown => 0

inductive FolderHealthReasonCode where
  | ok | neverReported | runInProgress | assignmentDisabled | paused | rcloneMissing | unsupportedFolderType
  | localPathMissing | localPathNotDirectory | localPathUnreadable | localPathUnwritable | diskSpaceLow
  | baselineMissing | baselineIncomplete | baselineError | baselineNotEstablished
  | filterChanged | interrupted | lastRunFailed | conflictsPending
  deriving DecidableEq

inductive FolderHealthActionId where
  | diagnose | plan | sync | initialise | seed | resync | resume | cancel
  deriving DecidableEq

structure FolderHealthReason where
  code : FolderHealthReasonCode
  message : String
  remediation : String
  action : Option FolderHealthActionId

inductive FolderHealthLocalDirState where
  | ok | missing | notDirectory | unreadable | unwritable
  deriving DecidableEq

structure FolderHealthBaselineFacts where
  present : Bool
  ready : Bool
  error : Bool
  path1Count : Option Int
  path2Count : Option Int

structure FolderHealthFacts where
  effectiveType : String
  enabled : Bool
  paused : Bool
  runInProgress : Bool
  rcloneAvailable : Bool
  localDir : FolderHealthLocalDirState
  freeSpaceBytes : Option Int
  freeSpaceThresholdBytes : Option Int
  filterChangedSinceBaseline : Bool
  baseline : FolderHealthBaselineFacts
  activePhase : Option String
  pendingConflicts : Int
  lastRunStatus : Option String

structure ReasonTemplate where
  /-- The state that this reason alone establishes. -/
  state : FolderHealthState
  message : FolderHealthFacts → String
  remediation : String
  action : Option FolderHealthActionId

def reasonTemplate : FolderHealthReasonCode → ReasonTemplate
  | .ok => ⟨.healthy, fun _ => "Baseline is paired and the last run agreed.", "Nothing to do.", none⟩
  | .neverReported => ⟨.unknown, fun _ => "This device has not reported folder health yet.",
      "Run Check this device now to collect a first report.", some .diagnose⟩
  | .runInProgress => ⟨.busy, fun f =>
        if f.activePhase.any (· ≠ "") then "A run is in progress (" ++ f.activePhase.getD "" ++ ")."
        else "A run is in progress.",
      "Wait for it to finish, or stop it deliberately.", some .cancel⟩
  | .assignmentDisabled => ⟨.blocked, fun _ => "This folder is switched off on this device.",
      "Turn the assignment back on before syncing.", none⟩
  | .paused => ⟨.blocked, fun _ => "Sync is paused for this device.",
      "Wait for the pause window to end, or lift the pause.", none⟩
  | .rcloneMissing => ⟨.blocked, fun _ => "rclone is not installed or not on PATH on this device.",
      "Install rclone on the device, then check it again.", some .diagnose⟩
  | .unsupportedFolderType => ⟨.healthy,
      fun f => "This is a " ++ f.effectiveType ++ " folder, so it has no saved sync record to check.",
      "Nothing to do — health checks apply to sync folders.", none⟩
  | .localPathMissing => ⟨.blocked, fun _ => "The local folder does not exist on this device yet.",
      "It is created automatically at the next sync or mount.", some .sync⟩
  | .localPathNotDirectory => ⟨.blocked, fun _ => "The local path exists but is not a directory.",
      "Point the assignment at a directory, then check this device again.", some .diagnose⟩
  | .localPathUnreadable => ⟨.blocked, fun _ => "The local folder cannot be read by the daemon.",
      "Fix the directory permissions on the device, then check it again.", some .diagnose⟩
  | .localPathUnwritable => ⟨.blocked, fun _ => "The local folder cannot be written by the daemon.",
      "Fix the directory permissions on the device, then check it again.", some .diagnose⟩
  | .diskSpaceLow => ⟨.blocked, fun f =>
        match f.freeSpaceBytes with
        | none => "Free space is below this assignment's disk-space floor."
        | some bytes => "Only " ++ toString bytes ++ " bytes free — below the assignment's floor.",
      "Free space on the device or lower the disk-space floor.", some .diagnose⟩
  | .baselineMissing => ⟨.newHost, fun _ => "This device has no saved sync record yet.",
      "Set up this device from the remote, or fill the remote from this device.", some .initialise⟩
  | .baselineIncomplete => ⟨.resyncRequired,
      fun _ => "The saved sync record is incomplete — one side's list is missing.",
      "Preview a rebuild from this card, then approve it.", some .resync⟩
  | .baselineError => ⟨.unsafeRun,
      fun _ => "The saved sync record is unusable — the last sync stopped with a critical error.",
      "Preview a rebuild from this card, then approve it.", some .resync⟩
  | .baselineNotEstablished => ⟨.resyncRequired, fun f =>
        if f.baseline.path1Count = some 0 ∧ 0 < f.baseline.path2Count.getD 0 then
          "The remote listing is empty while this host has data — the last baseline was not established."
        else "The paired listings do not cover the intended baseline.",
      "Preview a rebuild and choose which side wins, then approve it.", some .resync⟩
  | .filterChanged => ⟨.resyncRequired, fun _ => "The effective ignore/filter set changed since the last baseline.",
      "Changing the ignore set moved the file universe; preview a rebuild and approve it.", some .resync⟩
  | .interrupted => ⟨.recoverable, fun _ => "The last run was interrupted; the baseline is still usable.",
      "Continue the interrupted sync.", some .resume⟩
  | .lastRunFailed => ⟨.recoverable, fun _ => "The last run failed; the baseline is still usable.",
      "Continue the sync; if it keeps failing, preview a rebuild.", some .resume⟩
  | .conflictsPending => ⟨.recoverable, fun f => toString f.pendingConflicts ++ " conflict(s) are waiting for review.",
      "Resolve the conflicts, then sync again.", some .sync⟩

namespace FolderHealthReasonCode

def state (code : FolderHealthReasonCode) : FolderHealthState := (reasonTemplate code).state

def severity (code : FolderHealthReasonCode) : Nat := folderHealthSeverity code.state

end FolderHealthReasonCode

namespace FolderHealthFacts

variable (facts : FolderHealthFacts)

def bisync : Bool := facts.effectiveType == "sync"

def diskSpaceLow : Bool :=
  facts.freeSpaceThresholdBytes.any fun floor => 0 < floor && facts.freeSpaceBytes.any (· < floor)

def localDirCodes : List FolderHealthReasonCode :=
  match facts.localDir with
  | .missing => [.localPathMissing]
  | .notDirectory => [.localPathNotDirectory]
  | .unreadable => [.localPathUnreadable]
  | .unwritable => [.localPathUnwritable]
  | .ok => []

def baselineCodes : List FolderHealthReasonCode :=
  if facts.bisync then
    if facts.baseline.error then [.baselineError]
    else if !facts.baseline.present then [.baselineMissing]
    else if !facts.baseline.ready then [.baselineIncomplete]
    else if facts.baseline.path1Count = some 0 ∧ 0 < facts.baseline.path2Count.getD 0 then [.baselineNotEstablished]
    else []
  else []

def lastRunCodes : List FolderHealthReasonCode :=
  if facts.bisync then
    match facts.lastRunStatus with
    | none => []
    | some status =>
      if status = "success" ∨ status = "recovery" then []
      else if status = "retry" ∨ status = "deferred" then [.interrupted]
      else if status = "failed" then [.lastRunFailed]
      else []
  else []

def checkedCodes : List FolderHealthReasonCode :=
  (if facts.enabled then [] else [.assignmentDisabled]) ++ (if facts.paused then [.paused] else []) ++
    (if facts.rcloneAvailable then [] else [.rcloneMissing]) ++
    (if facts.bisync then [] else [.unsupportedFolderType]) ++ facts.localDirCodes ++
    (if facts.diskSpaceLow then [.diskSpaceLow] else []) ++ facts.baselineCodes ++
    (if facts.filterChangedSinceBaseline then [.filterChanged] else []) ++
    (if 0 < facts.pendingConflicts then [.conflictsPending] else []) ++ facts.lastRunCodes

def codes : List FolderHealthReasonCode :=
  let codes := facts.checkedCodes ++ if facts.runInProgress then [.runInProgress] else []
  if codes.length = 0 then [.ok] else codes

def reason (code : FolderHealthReasonCode) : FolderHealthReason :=
  ⟨code, (reasonTemplate code).message facts, (reasonTemplate code).remediation, (reasonTemplate code).action⟩

end FolderHealthFacts

def worstOf (codes : List FolderHealthReasonCode) : FolderHealthState × Int :=
  codes.foldl (fun worst code => if worst.2 < code.severity then (code.state, (code.severity : Int)) else worst) (.healthy, -1)

def runFirst (reasons : List FolderHealthReason) : List FolderHealthReason :=
  let index := reasons.findIdx fun r => r.code = .runInProgress
  match reasons[index]? with
  | some run => if 0 < index then run :: reasons.eraseIdx index else reasons
  | none => reasons

structure FolderHealth where
  state : FolderHealthState
  reasons : List FolderHealthReason

def deriveFolderHealth (facts : FolderHealthFacts) : FolderHealth :=
  let reasons := facts.codes.map facts.reason
  let worst := (worstOf facts.codes).1
  let worst := if worst = .newHost ∧ facts.bisync = false then .healthy else worst
  if facts.runInProgress then ⟨.busy, runFirst reasons⟩ else ⟨worst, reasons⟩

def WorstFirst (facts : FolderHealthFacts) : Prop :=
  let health := deriveFolderHealth facts
  let codes := health.reasons.map FolderHealthReason.code
  if facts.runInProgress then
    health.state = .busy ∧ ∃ rest, codes = .runInProgress :: rest ∧ rest.Pairwise fun c c' => c'.severity ≤ c.severity
  else
    (codes.Pairwise fun c c' => c'.severity ≤ c.severity) ∧
      ∃ c ∈ codes, health.state = c.state ∧ ∀ c' ∈ codes, c'.severity ≤ c.severity

namespace FolderHealthFacts

variable (facts : FolderHealthFacts)

/-- Nothing can run here: the assignment is off or paused, there is no rclone, the path is not usable or the disk is full. -/
def Prevented : Prop :=
  facts.enabled = false ∨ facts.paused = true ∨ facts.rcloneAvailable = false ∨ facts.localDir ≠ .ok ∨
    facts.diskSpaceLow = true

/-- The saved record is there, and it is in error, incomplete or of an empty remote. -/
def BaselineUnusable : Prop :=
  facts.baseline.error = true ∨ facts.baseline.present = true ∧
    (facts.baseline.ready = false ∨ facts.baseline.path1Count = some 0 ∧ 0 < facts.baseline.path2Count.getD 0)

def LastRunStopped : Prop := ∃ status ∈ facts.lastRunStatus, status = "retry" ∨ status = "deferred" ∨ status = "failed"

instance : Decidable facts.LastRunStopped :=
  inferInstanceAs (Decidable (∃ status ∈ facts.lastRunStatus, status = "retry" ∨ status = "deferred" ∨ status = "failed"))

/-- The checks that find something find it worst first. -/
def FoundWorstFirst : Prop :=
  if facts.bisync = true then
    (facts.Prevented → ¬ facts.BaselineUnusable ∧ facts.filterChangedSinceBaseline = false) ∧
    (facts.baseline.error = false → facts.baseline.present = false →
      facts.filterChangedSinceBaseline = false ∧ facts.pendingConflicts ≤ 0 ∧ ¬ facts.LastRunStopped)
  else
    facts.localDir = .ok ∧ facts.diskSpaceLow = false ∧ facts.filterChangedSinceBaseline = false ∧
      facts.pendingConflicts ≤ 0

end FolderHealthFacts

variable {facts : FolderHealthFacts}

variable {c : FolderHealthReasonCode} {p : Prop}

private theorem fh_unless {b : Bool} :
    (if b then [] else [c]).map FolderHealthReasonCode.severity = if b = false then [c.severity] else [] := by
  cases b <;> rfl

private theorem fh_when [Decidable p] :
    (if p then [c] else []).map FolderHealthReasonCode.severity = if p then [c.severity] else [] := by
  split <;> rfl

private theorem fh_severities : facts.checkedCodes.map FolderHealthReasonCode.severity =
    (if facts.enabled = false then [4] else []) ++ (if facts.paused = true then [4] else []) ++
      (if facts.rcloneAvailable = false then [4] else []) ++ (if facts.bisync = false then [0] else []) ++
      (if facts.localDir ≠ .ok then [4] else []) ++ (if facts.diskSpaceLow = true then [4] else []) ++
      (if facts.bisync = true ∧ facts.baseline.error = true then [6] else []) ++
      (if facts.bisync = true ∧ facts.baseline.error = false ∧ facts.baseline.present = false then [2] else []) ++
      (if facts.bisync = true ∧ facts.baseline.error = false ∧ facts.baseline.present = true ∧
        (facts.baseline.ready = false ∨ facts.baseline.path1Count = some 0 ∧ 0 < facts.baseline.path2Count.getD 0)
        then [5] else []) ++
      (if facts.filterChangedSinceBaseline = true then [5] else []) ++ (if 0 < facts.pendingConflicts then [3] else []) ++
      (if facts.bisync = true ∧ facts.LastRunStopped then [3] else []) := by
  have hdir : facts.localDirCodes.map FolderHealthReasonCode.severity = if facts.localDir ≠ .ok then [4] else [] := by
    unfold FolderHealthFacts.localDirCodes
    cases facts.localDir <;> rfl
  have hba : facts.baselineCodes.map FolderHealthReasonCode.severity =
      (if facts.bisync = true ∧ facts.baseline.error = true then [6] else []) ++
      (if facts.bisync = true ∧ facts.baseline.error = false ∧ facts.baseline.present = false then [2] else []) ++
      (if facts.bisync = true ∧ facts.baseline.error = false ∧ facts.baseline.present = true ∧
        (facts.baseline.ready = false ∨ facts.baseline.path1Count = some 0 ∧ 0 < facts.baseline.path2Count.getD 0)
        then [5] else []) := by
    unfold FolderHealthFacts.baselineCodes
    cases facts.bisync <;> cases facts.baseline.error <;> cases facts.baseline.present <;> cases facts.baseline.ready <;>
      simp <;> try rfl
    split <;> rfl
  have hlast : facts.lastRunCodes.map FolderHealthReasonCode.severity =
      if facts.bisync = true ∧ facts.LastRunStopped then [3] else [] := by
    by_cases hstop : facts.bisync = true ∧ facts.LastRunStopped
    · rw [if_pos hstop]
      obtain ⟨hbi, status, hst, hstop⟩ := hstop
      unfold FolderHealthFacts.lastRunCodes
      rw [if_pos hbi, Option.mem_def.1 hst]
      rcases hstop with rfl | rfl | rfl <;> rfl
    rw [if_neg hstop]
    unfold FolderHealthFacts.lastRunCodes
    split
    · rename_i hbi
      split
      · rfl
      rename_i status hst
      have hno : ¬ (status = "retry" ∨ status = "deferred" ∨ status = "failed") := fun h =>
        hstop ⟨hbi, status, hst, h⟩
      simp only [not_or] at hno
      simp [hno]
    · rfl
  unfold FolderHealthFacts.checkedCodes
  simp only [List.map_append, fh_unless, fh_when, hdir, hba, hlast, List.append_assoc]
  rfl

private theorem fh_forall_mem [Decidable p] {n : Nat} {Q : Nat → Prop} :
    (∀ m ∈ (if p then [n] else []), Q m) ↔ (p → Q n) := by
  by_cases h : p <;> simp [h]

private theorem fh_pairwise [Decidable p] {n : Nat} {R : Nat → Nat → Prop} :
    (if p then [n] else []).Pairwise R := by
  by_cases h : p <;> simp [h]

private theorem fh_checked : (facts.checkedCodes.Pairwise fun c c' => c'.severity ≤ c.severity) ↔ facts.FoundWorstFirst := by
  rw [← List.pairwise_map (R := fun n m => m ≤ n), fh_severities]
  simp only [List.pairwise_append, List.mem_append, or_imp, forall_and, fh_forall_mem, fh_pairwise, true_and]
  simp +decide only [imp_false, implies_true, true_and, and_true]
  unfold FolderHealthFacts.FoundWorstFirst FolderHealthFacts.Prevented FolderHealthFacts.BaselineUnusable
  cases facts.bisync with
  | false =>
    simp only [Bool.false_eq_true, false_and, not_false_eq_true, implies_true, and_true, if_false, Int.not_lt, Decidable.not_not,
      Bool.not_eq_true]
    grind
  | true =>
    simp only [Bool.true_eq_false, false_imp_iff, true_and, and_true, if_true, Int.not_lt, Bool.not_eq_true, or_imp]
    cases facts.baseline.error <;> cases facts.baseline.present <;>
      simp only [Bool.true_eq_false, Bool.false_eq_true, false_and, and_false, true_and, and_true, not_false_eq_true,
        not_true_eq_false, implies_true, false_or, true_or, imp_false, true_imp_iff, false_imp_iff] <;> grind

private theorem fh_worstOf {codes : List FolderHealthReasonCode} (h : codes ≠ []) :
    ∃ c ∈ codes, worstOf codes = (c.state, (c.severity : Int)) ∧ ∀ c' ∈ codes, c'.severity ≤ c.severity := by
  induction codes using List.reverseRecOn with
  | nil => exact absurd rfl h
  | append_singleton codes c ih =>
    have hstep : worstOf (codes ++ [c]) =
        if (worstOf codes).2 < c.severity then (c.state, (c.severity : Int)) else worstOf codes := by
      unfold worstOf
      rw [List.foldl_append]
      rfl
    rw [hstep]
    by_cases hnil : codes = []
    · subst hnil
      refine ⟨c, by simp, if_pos ?_, by simp⟩
      have hinit : (worstOf []).2 = -1 := rfl
      omega
    obtain ⟨w, hw, hwo, hmax⟩ := ih hnil
    rw [hwo]
    by_cases hlt : (w.severity : Int) < c.severity
    · refine ⟨c, by simp, if_pos hlt, ?_⟩
      intro c' hc'
      rcases List.mem_append.1 hc' with hc' | hc'
      · have := hmax c' hc'
        omega
      · exact Nat.le_of_eq (congrArg FolderHealthReasonCode.severity (List.mem_singleton.1 hc'))
    · refine ⟨w, List.mem_append_left _ hw, if_neg hlt, ?_⟩
      intro c' hc'
      rcases List.mem_append.1 hc' with hc' | hc'
      · exact hmax c' hc'
      · rw [List.mem_singleton.1 hc']
        omega

private theorem fh_newHost (hc : c ∈ facts.checkedCodes) (hs : c.state = .newHost) :
    facts.bisync = true := by
  have hall : ∀ n ∈ facts.checkedCodes.map FolderHealthReasonCode.severity, n = 2 → facts.bisync = true := by
    rw [fh_severities]
    simp only [List.mem_append, or_imp, forall_and, fh_forall_mem]
    simp +decide only [false_imp_iff, implies_true, true_and, and_true]
    exact fun h _ => h.1
  exact hall _ (List.mem_map_of_mem hc) (congrArg folderHealthSeverity hs)

private theorem fh_no_run : ∀ c ∈ facts.checkedCodes, c ≠ .runInProgress := by
  rintro _ hc rfl
  have hall : ∀ n ∈ facts.checkedCodes.map FolderHealthReasonCode.severity, n ≠ 1 := by
    rw [fh_severities]
    simp only [List.mem_append, or_imp, forall_and, fh_forall_mem]
    simp +decide only [implies_true, and_true]
  exact hall _ (List.mem_map_of_mem hc) rfl

private theorem fh_codes_map (codes : List FolderHealthReasonCode) :
    (codes.map facts.reason).map FolderHealthReason.code = codes := by
  rw [List.map_map]
  exact List.map_id codes

private theorem fh_runFirst {reasons : List FolderHealthReason} {run : FolderHealthReason} (hrun : run.code = .runInProgress)
    (hno : ∀ r ∈ reasons, r.code ≠ .runInProgress) : runFirst (reasons ++ [run]) = run :: reasons := by
  have hin : (reasons ++ [run]).findIdx (fun r => r.code = .runInProgress) = reasons.length := by
    rw [List.findIdx_append, List.findIdx_eq_length_of_false (by simpa using hno)]
    simp [hrun]
  unfold runFirst
  simp only [hin, List.getElem?_concat_length]
  cases reasons with
  | nil => rfl
  | cons r reasons => simp [List.eraseIdx_append_of_length_le]

/-- The reasons are reported worst first exactly when the checks find them worst first. -/
theorem folder_health_worst_first_iff (facts : FolderHealthFacts) : WorstFirst facts ↔ facts.FoundWorstFirst := by
  rw [← fh_checked]
  unfold WorstFirst deriveFolderHealth
  cases hrun : facts.runInProgress with
  | true =>
    have hco : facts.codes = facts.checkedCodes ++ [.runInProgress] := by
      simp [FolderHealthFacts.codes, hrun]
    have hfi : (runFirst (facts.codes.map facts.reason)).map FolderHealthReason.code =
        .runInProgress :: facts.checkedCodes := by
      rw [hco, List.map_append, List.map_singleton, fh_runFirst rfl, List.map_cons, fh_codes_map]
      · rfl
      · exact List.forall_mem_map.2 fh_no_run
    simp only [if_true, true_and, hfi]
    constructor
    · rintro ⟨rest, hrest, hpa⟩
      exact (List.cons.inj hrest).2 ▸ hpa
    · exact fun h => ⟨_, rfl, h⟩
  | false =>
    simp only [Bool.false_eq_true, if_false, fh_codes_map]
    by_cases hnil : facts.checkedCodes = []
    · have hco : facts.codes = [.ok] := by simp [FolderHealthFacts.codes, hrun, hnil]
      have hwo : (worstOf [.ok]).1 = .healthy := rfl
      rw [hco, hnil, hwo]
      simp only [List.pairwise_singleton, List.Pairwise.nil, true_and, iff_true]
      exact ⟨.ok, .head _, rfl, by simp⟩
    have hco : facts.codes = facts.checkedCodes := by simp [FolderHealthFacts.codes, hrun, hnil]
    obtain ⟨c, hc, hwo, hmax⟩ := fh_worstOf hnil
    have hs : (if (worstOf facts.checkedCodes).1 = .newHost ∧ facts.bisync = false then FolderHealthState.healthy
        else (worstOf facts.checkedCodes).1) = c.state := by
      rw [hwo]
      refine if_neg ?_
      rintro ⟨hnew, hno⟩
      exact Bool.false_ne_true (hno.symm.trans (fh_newHost hc hnew))
    rw [hco, hs]
    exact and_iff_left ⟨c, hc, rfl, hmax⟩

def offWithError : FolderHealthFacts where
  effectiveType := "sync"
  enabled := false
  paused := false
  runInProgress := false
  rcloneAvailable := true
  localDir := .ok
  freeSpaceBytes := none
  freeSpaceThresholdBytes := none
  filterChangedSinceBaseline := false
  baseline := ⟨true, false, true, none, none⟩
  activePhase := none
  pendingConflicts := 0
  lastRunStatus := some "success"

/-- Its first reason is that it is switched off. -/
theorem unsafe_reason_second : ¬ WorstFirst offWithError ∧ (deriveFolderHealth offWithError).state = .unsafeRun := by
  refine ⟨fun h => ?_, by decide⟩
  obtain ⟨hpa, -⟩ := h
  revert hpa
  decide

end LamaSync
