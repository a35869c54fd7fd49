import LamaSync.Core.Folders
import Mathlib.Data.List.Basic
import Mathlib.Data.List.Sort
import Mathlib.Data.String.Basic

/-!
# The baseline of a folder

rclone keeps one listing for each side of a pair in the work directory of a folder, and the daemon keeps three files
beside them: the acknowledged fingerprint of the filter universe, the name the same file had before, and a marker
while a resync is outstanding.  This module models what the daemon reads there and the decisions it takes from it.

`filterFrom_of_fingerprintText` says that the text under a fingerprint determines the filter file that rclone is given.
-/

namespace LamaSync

/-- A file that rclone keeps in the work directory. -/
structure ListingFile where
  name : String
  text : String
  mtimeMs : Int
  deriving DecidableEq, Repr

structure WorkDir where
  files : List ListingFile := []
  filterFingerprint : Option String := none
  legacyFilterHash : Option String := none
  resyncRequired : Option String := none
  deriving DecidableEq, Repr

def dropEnding (ending name : String) : Option String :=
  if ending.toList.isSuffixOf name.toList then
    some (String.ofList (name.toList.take (name.toList.length - ending.toList.length)))
  else none

def stemsOf (ending : String) (files : List ListingFile) : List String :=
  files.filterMap fun f => dropEnding ending f.name

def findListing (ending stem : String) (files : List ListingFile) : Option ListingFile :=
  files.find? fun f => f.name == stem ++ ending

def countListingEntries (text : String) : Nat :=
  ((text.toList.splitOn '\n').filter fun line => trimSpaces line ≠ []).length - 1

structure BisyncBaselineInspection where
  present : Bool := false
  ready : Bool := false
  error : Bool := false
  stems : List String := []
  updatedAt : Option Int := none
  path1Count : Option Nat := none
  path2Count : Option Nat := none
  deriving DecidableEq, Repr

def newestListing (stems : List String) (files : List ListingFile) : Option Int :=
  let listings := stems.flatMap fun stem =>
    (findListing ".path1.lst" stem files).toList ++ (findListing ".path2.lst" stem files).toList
  listings.foldl (fun newest f => some (newest.elim f.mtimeMs fun t => if t < f.mtimeMs then f.mtimeMs else t)) none

def inspectBisyncBaseline (files : List ListingFile) (readCounts : Bool) : BisyncBaselineInspection :=
  let error := files.any fun f => (dropEnding ".lst-err" f.name).isSome
  let inFlight := stemsOf ".path1.lst-new" files ++ stemsOf ".path2.lst-new" files
  let path2 := stemsOf ".path2.lst" files
  let stems := ((stemsOf ".path1.lst" files).filter path2.contains).insertionSort fun a b => a ≤ b
  let count := fun ending =>
    if readCounts then some (((stems.head?.bind fun stem => findListing ending stem files).map fun f =>
      countListingEntries f.text).getD 0) else none
  if stems.isEmpty then { error }
  else {
    present := true
    ready := !error && !stems.any inFlight.contains
    error
    stems
    updatedAt := newestListing stems files
    path1Count := count ".path1.lst"
    path2Count := count ".path2.lst" }

variable {ending stem unified : String} {files : List ListingFile} {lines : List String}
  {stored gitignoreOnly : Option String}

theorem dropEnding_eq_some {name : String} : dropEnding ending name = some stem ↔ name = stem ++ ending := by
  unfold dropEnding
  rw [← String.toList_inj, String.toList_append, Option.ite_none_right_eq_some, List.isSuffixOf_iff_suffix]
  constructor
  · rintro ⟨⟨front, hfr⟩, hstem⟩
    cases hstem
    rw [String.toList_ofList, ← hfr]
    simp
  intro h
  rw [h]
  exact ⟨List.suffix_append .., by simp⟩

theorem mem_stemsOf :
    stem ∈ stemsOf ending files ↔ ∃ f ∈ files, f.name = stem ++ ending := by
  unfold stemsOf
  simp only [List.mem_filterMap, dropEnding_eq_some]

theorem inspect_nil (readCounts : Bool) : inspectBisyncBaseline [] readCounts = {} := by
  cases readCounts with
  | true | false => rfl

def isListing (f : ListingFile) : Bool :=
  (dropEnding ".path1.lst" f.name).isSome || (dropEnding ".path2.lst" f.name).isSome

def listings (files : List ListingFile) : List ListingFile := files.filter isListing

private theorem bb_stemsOf_listings (h : ending = ".path1.lst" ∨ ending = ".path2.lst")
    (files : List ListingFile) : stemsOf ending (listings files) = stemsOf ending files := by
  unfold stemsOf listings
  induction files with
  | nil => rfl
  | cons f files ih =>
    by_cases hlist : isListing f = true
    · rw [List.filter_cons_of_pos hlist]
      simp only [List.filterMap_cons, ih]
    have hnone : dropEnding ending f.name = none := by
      unfold isListing at hlist
      rw [Bool.or_eq_true, not_or, Bool.not_eq_true, Bool.not_eq_true, Option.isSome_eq_false_iff,
        Option.isSome_eq_false_iff, Option.isNone_iff_eq_none, Option.isNone_iff_eq_none] at hlist
      rcases h with rfl | rfl
      · exact hlist.1
      · exact hlist.2
    rw [List.filter_cons_of_neg hlist]
    simp only [List.filterMap_cons, hnone, ih]

private theorem bb_present (files : List ListingFile) (readCounts : Bool) :
    (inspectBisyncBaseline files readCounts).present =
      !((stemsOf ".path1.lst" files).filter (stemsOf ".path2.lst" files).contains).isEmpty := by
  unfold inspectBisyncBaseline
  dsimp only
  have hsort : ∀ stems : List String, (stems.insertionSort fun a b => a ≤ b).isEmpty = stems.isEmpty := by
    intro stems
    rw [Bool.eq_iff_iff, List.isEmpty_iff, List.isEmpty_iff, ← List.length_eq_zero_iff, List.length_insertionSort,
      List.length_eq_zero_iff]
  split
  · rename_i hem
    rw [hsort] at hem
    rw [hem]
    rfl
  rename_i hem
  rw [hsort, Bool.not_eq_true] at hem
  rw [hem]
  rfl

theorem present_listings {files' : List ListingFile} (h : listings files = listings files') (readCounts : Bool) :
    (inspectBisyncBaseline files readCounts).present = (inspectBisyncBaseline files' readCounts).present := by
  rw [bb_present, bb_present, ← bb_stemsOf_listings (.inl rfl) files, ← bb_stemsOf_listings (.inr rfl) files,
    ← bb_stemsOf_listings (.inl rfl) files', ← bb_stemsOf_listings (.inr rfl) files', h]

theorem inspect_ready (files : List ListingFile) (readCounts : Bool) :
    (inspectBisyncBaseline files readCounts).ready = (inspectBisyncBaseline files false).ready := by
  unfold inspectBisyncBaseline
  dsimp only
  split
  · rfl
  · rfl

theorem present_of_ready {readCounts : Bool}
    (h : (inspectBisyncBaseline files readCounts).ready = true) :
    (inspectBisyncBaseline files readCounts).present = true ∧
      (inspectBisyncBaseline files readCounts).error = false := by
  unfold inspectBisyncBaseline at h ⊢
  dsimp only at h ⊢
  split at h
  · cases h
  rename_i hst
  rw [if_neg hst]
  rw [Bool.and_eq_true, Bool.not_eq_true'] at h
  exact ⟨rfl, h.1⟩

def SnapshotRules : Type := {lines : List String // ∀ line ∈ lines, line ≠ "" ∧ '\x00' ∉ line.toList}

theorem snapshotRules_nil : ∀ line ∈ ([] : List String), line ≠ "" ∧ '\x00' ∉ line.toList :=
  List.forall_mem_nil _

def FilterPatterns : Type := {lines : List String // ∀ line ∈ lines, line ≠ ""}

def joinLines (lines : List String) : String := "\n".intercalate lines

structure GitignoreFilter where
  rules : SnapshotRules
  lines : List String

def materialiseGitignoreFilter (rules : SnapshotRules) (extraExcludes : FilterPatterns) : Option GitignoreFilter :=
  if rules.1 = [] ∧ extraExcludes.1 = [] then none else some ⟨rules, rules.1 ++ extraExcludes.1⟩

structure FilterUniverse where
  gitignoreFilter : Option GitignoreFilter
  gitignoreRules : Option SnapshotRules
  patterns : FilterPatterns

def filterUniverse (respectGitignore : Bool) (snapshot : SnapshotRules) (patterns : FilterPatterns) : FilterUniverse :=
  if respectGitignore then
    match materialiseGitignoreFilter snapshot patterns with
    | some gf => ⟨some gf, some gf.rules, patterns⟩
    | none => ⟨none, some ⟨[], by simp⟩, patterns⟩
  else ⟨none, none, patterns⟩

def excludeFileText (lines : List String) : String := joinLines lines ++ if lines = [] then "" else "\n"

namespace FilterUniverse

variable (u : FilterUniverse)

def filterFrom : Option String :=
  match u.gitignoreFilter with
  | some gf => some (excludeFileText gf.lines)
  | none => if u.patterns.1 = [] then none else some (excludeFileText u.patterns.1)

def fingerprintText : String :=
  joinLines (u.gitignoreRules.elim [] Subtype.val) ++ "\x00" ++ joinLines u.patterns.1

def fingerprint (sha256 : String → String) : Option String :=
  if u.gitignoreRules.isSome ∨ u.patterns.1 ≠ [] then some (sha256 u.fingerprintText) else none

def legacyFingerprint (sha256 : String → String) : Option String :=
  u.gitignoreFilter.map fun gf => sha256 (joinLines gf.rules.1)

end FilterUniverse

private theorem bb_joinLines_eq_empty (h : ∀ line ∈ lines, line ≠ "") :
    joinLines lines = "" ↔ lines = [] := by
  unfold joinLines
  constructor
  · intro hjoin
    cases lines with
    | nil => rfl
    | cons line rest =>
      exfalso
      apply h line (.head _)
      cases rest with
      | nil => simpa using hjoin
      | cons next rest =>
        rw [String.intercalate_cons_cons, String.append_assoc] at hjoin
        have hnil : line.toList = [] := by
          have hch := congrArg String.toList hjoin
          rw [String.toList_append] at hch
          exact (List.append_eq_nil_iff.1 hch).1
        exact String.toList_inj.1 hnil
  · rintro rfl
    exact String.intercalate_nil

private theorem bb_notMem_joinLines (h : ∀ line ∈ lines, '\x00' ∉ line.toList) :
    '\x00' ∉ (joinLines lines).toList := by
  unfold joinLines
  induction lines with
  | nil => simp
  | cons line rest ih =>
    have hrest := ih fun l hl => h l (.tail _ hl)
    have hline := h line (.head _)
    cases rest with
    | nil => simpa using hline
    | cons next rest =>
      rw [String.intercalate_cons_cons, String.toList_append, String.toList_append]
      simp only [List.mem_append, not_or]
      exact ⟨⟨hline, by decide⟩, hrest⟩

private theorem bb_joinLines_append {rules patterns rules' patterns' : List String}
    (hru : ∀ line ∈ rules, line ≠ "") (hru' : ∀ line ∈ rules', line ≠ "")
    (hpa : ∀ line ∈ patterns, line ≠ "") (hpa' : ∀ line ∈ patterns', line ≠ "")
    (hr : joinLines rules = joinLines rules') (hp : joinLines patterns = joinLines patterns') :
    joinLines (rules ++ patterns) = joinLines (rules' ++ patterns') ∧
      (rules ++ patterns = [] ↔ rules' ++ patterns' = []) := by
  have hrnil : rules = [] ↔ rules' = [] := by
    rw [← bb_joinLines_eq_empty hru, ← bb_joinLines_eq_empty hru', hr]
  have hpnil : patterns = [] ↔ patterns' = [] := by
    rw [← bb_joinLines_eq_empty hpa, ← bb_joinLines_eq_empty hpa', hp]
  refine ⟨?_, by rw [List.append_eq_nil_iff, List.append_eq_nil_iff, hrnil, hpnil]⟩
  by_cases hrn : rules = []
  · rw [hrn, hrnil.1 hrn, List.nil_append, List.nil_append, hp]
  by_cases hpn : patterns = []
  · rw [hpn, hpnil.1 hpn, List.append_nil, List.append_nil, hr]
  unfold joinLines at hr hp ⊢
  rw [String.intercalate_append_of_ne_nil hrn hpn,
    String.intercalate_append_of_ne_nil (fun h => hrn (hrnil.2 h)) (fun h => hpn (hpnil.2 h)), hr, hp]

section Universe

variable {respect respect' : Bool} {snapshot snapshot' : SnapshotRules} {patterns patterns' : FilterPatterns}

private theorem bb_rules :
    (filterUniverse respect snapshot patterns).gitignoreRules.elim [] Subtype.val =
      if respect then snapshot.1 else [] := by
  unfold filterUniverse materialiseGitignoreFilter
  cases respect with
  | false => rfl
  | true =>
    by_cases h : snapshot.1 = [] ∧ patterns.1 = []
    · simp only [h, and_self, if_true]
      rfl
    · simp only [h, if_false, if_true]
      rfl

private theorem bb_patterns : (filterUniverse respect snapshot patterns).patterns = patterns := by
  unfold filterUniverse materialiseGitignoreFilter
  cases respect with
  | false => rfl
  | true =>
    by_cases h : snapshot.1 = [] ∧ patterns.1 = []
    · simp [h]
    · simp [h]

theorem filterFrom_eq : (filterUniverse respect snapshot patterns).filterFrom =
    let lines := (if respect then snapshot.1 else []) ++ patterns.1
    if lines = [] then none else some (excludeFileText lines) := by
  unfold filterUniverse materialiseGitignoreFilter FilterUniverse.filterFrom
  cases respect with
  | false => simp
  | true =>
    by_cases h : snapshot.1 = [] ∧ patterns.1 = []
    · simp [h]
    · simp [h]

theorem filterFrom_of_fingerprintText (h : (filterUniverse respect snapshot patterns).fingerprintText =
      (filterUniverse respect' snapshot' patterns').fingerprintText) :
    (filterUniverse respect snapshot patterns).filterFrom = (filterUniverse respect' snapshot' patterns').filterFrom := by
  have hru : ∀ {r : Bool} {s : SnapshotRules}, ∀ line ∈ (if r then s.1 else []), line ≠ "" ∧ '\x00' ∉ line.toList := by
    intro r s line hline
    cases r with
    | false => cases hline
    | true => exact s.2 line hline
  unfold FilterUniverse.fingerprintText at h
  rw [bb_rules, bb_rules, bb_patterns, bb_patterns] at h
  have hch := congrArg String.toList h
  rw [String.toList_append, String.toList_append, String.toList_append, String.toList_append, List.append_assoc,
    List.append_assoc] at hch
  -- the rules have no NUL, so the first one stands between the two parts
  have hsp : ∀ {xs ys xs' ys' : List Char}, '\x00' ∉ xs → '\x00' ∉ xs' →
      xs ++ ('\x00' :: ys) = xs' ++ ('\x00' :: ys') → xs = xs' ∧ ys = ys' := by
    intro xs ys xs' ys' hx hx' heq
    have htake := congrArg (List.takeWhile fun c => c ≠ '\x00') heq
    have htw : ∀ {zs ws : List Char}, '\x00' ∉ zs →
        List.takeWhile (fun c => c ≠ '\x00') (zs ++ ('\x00' :: ws)) = zs := by
      intro zs ws hz
      rw [List.takeWhile_append_of_pos (by
        intro c hc
        have hne : c ≠ '\x00' := fun heq => hz (heq ▸ hc)
        simpa using hne)]
      simp
    rw [htw hx, htw hx'] at htake
    subst htake
    exact ⟨rfl, (List.cons_inj_right _).1 (List.append_cancel_left heq)⟩
  obtain ⟨hg, hp⟩ := hsp (bb_notMem_joinLines fun line hline => (hru line hline).2)
    (bb_notMem_joinLines fun line hline => (hru line hline).2) hch
  obtain ⟨hjoin, hnil⟩ := bb_joinLines_append (fun line hline => (hru line hline).1)
    (fun line hline => (hru line hline).1) patterns.2 patterns'.2 (String.toList_inj.1 hg) (String.toList_inj.1 hp)
  rw [filterFrom_eq, filterFrom_eq]
  dsimp only
  unfold excludeFileText
  rw [hjoin]
  by_cases hl : (if respect = true then snapshot.1 else []) ++ patterns.1 = []
  · rw [if_pos hl, if_pos (hnil.1 hl)]
  · rw [if_neg hl, if_neg (fun h => hl (hnil.2 h)), if_neg hl, if_neg (fun h => hl (hnil.2 h))]

theorem filterFrom_of_fingerprint_none {sha256 : String → String}
    (h : (filterUniverse respect snapshot patterns).fingerprint sha256 = none) :
    (filterUniverse respect snapshot patterns).filterFrom = none := by
  unfold FilterUniverse.fingerprint at h
  rw [bb_patterns] at h
  split at h
  · cases h
  rename_i hno
  rw [not_or, not_not] at hno
  have hre : respect = false := by
    cases respect with
    | false => rfl
    | true =>
      exfalso
      apply hno.1
      unfold filterUniverse
      cases materialiseGitignoreFilter snapshot patterns with
      | none | some gf => rfl
  rw [filterFrom_eq]
  simp [hre, hno.2]

theorem legacyText_ne (rules : SnapshotRules) : joinLines rules.1 ≠ (filterUniverse respect snapshot patterns).fingerprintText := by
  intro h
  apply bb_notMem_joinLines fun line hline => (rules.2 line hline).2
  rw [h]
  unfold FilterUniverse.fingerprintText
  simp

end Universe

def readTrimmed (text : Option String) : Option String := presentTrimmed text

def WorkDir.readAcknowledgedFingerprint (dir : WorkDir) : Option String :=
  (readTrimmed dir.filterFingerprint).or (readTrimmed dir.legacyFilterHash)

structure FingerprintVerdict where
  changed : Bool
  acknowledge : String
  deriving DecidableEq, Repr

def reconcileFingerprint (stored : Option String) (unified : String) (gitignoreOnly : Option String) :
    FingerprintVerdict :=
  match stored with
  | none => ⟨true, unified⟩
  | some stored =>
    if stored = unified then ⟨false, unified⟩
    else if gitignoreOnly = some stored then ⟨false, unified⟩
    else ⟨true, unified⟩

theorem reconcileFingerprint_changed :
    (reconcileFingerprint stored unified gitignoreOnly).changed = false ↔
      stored = some unified ∨ (stored.isSome ∧ stored = gitignoreOnly) := by
  unfold reconcileFingerprint
  cases stored with
  | none => simp
  | some stored =>
    by_cases hu : stored = unified
    · simp [hu]
    by_cases hg : gitignoreOnly = some stored
    · simp [hu, hg]
    · have hg' : some stored ≠ gitignoreOnly := fun h => hg h.symm
      simp [hu, hg, hg']

theorem reconcileFingerprint_acknowledge :
    (reconcileFingerprint stored unified gitignoreOnly).acknowledge = unified := by
  unfold reconcileFingerprint
  cases stored with
  | none => rfl
  | some stored =>
    dsimp only
    split
    · rfl
    split
    · rfl
    · rfl

inductive BisyncMode where
  | normal | initialise | seed | resync
  deriving DecidableEq, Repr

inductive BisyncAuthority where
  | remote | local
  deriving DecidableEq, Repr

structure BisyncRunControl where
  mode : BisyncMode := .normal
  authority : Option BisyncAuthority := none
  maxDeletePercent : Option Int := none
  planId : Option String := none
  deriving DecidableEq, Repr

inductive ResyncMode where
  | path1 | path2
  deriving DecidableEq, Repr

def ResyncMode.text : ResyncMode → String
  | .path1 => "path1"
  | .path2 => "path2"

def bisyncResyncPlan (baselineReady filterChanged : Bool) (control : Option BisyncRunControl) : Option ResyncMode :=
  match control.filter fun c => c.mode ≠ .normal with
  | some c => some (if c.authority = some .local then .path2 else .path1)
  | none =>
    if !baselineReady then some .path1
    else if filterChanged then some .path1
    else none

def resyncRequested (control : Option BisyncRunControl) : Bool := control.any fun c => c.mode ≠ .normal

theorem bisyncResyncPlan_none {baselineReady filterChanged : Bool} {control : Option BisyncRunControl} :
    bisyncResyncPlan baselineReady filterChanged control = none ↔
      resyncRequested control = false ∧ baselineReady = true ∧ filterChanged = false := by
  unfold bisyncResyncPlan resyncRequested
  cases control with
  | none => cases baselineReady <;> cases filterChanged <;> simp
  | some c =>
    by_cases hmode : c.mode = .normal
    · cases baselineReady <;> cases filterChanged <;> simp [hmode, Option.filter]
    · simp [hmode, Option.filter]

def shouldAcknowledgeFilter (filterChanged runSucceeded baselineEstablished : Bool) : Bool :=
  filterChanged && runSucceeded && baselineEstablished

end LamaSync
