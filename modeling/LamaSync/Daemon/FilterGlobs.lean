import LamaSync.Daemon.FilterAgreement

/-!
# What a filter rule matches

The globs of `rclone` in their own terms: a glob is a list of tokens, two stars stand for anything, one star and a question
mark for anything but a slash, and every other unit for itself.  `filter_rule_matches` says that the regular expression of
a rule reads exactly that, and where a rule is anchored.
-/

namespace LamaSync

open Pattern

inductive GlobToken where
  | stars
  | star
  | question
  | unit (c : CodeUnit)

def globToken (c : CodeUnit) : GlobToken :=
  if c = unit '*' then .star else if c = unit '?' then .question else .unit c

def globTokens : JsString → List GlobToken
  | [] => []
  | [c] => [globToken c]
  | c :: d :: rest =>
    if c = unit '*' ∧ d = unit '*' then .stars :: globTokens rest else globToken c :: globTokens (d :: rest)

def GlobMatches : List GlobToken → JsString → Prop
  | [], text => text = []
  | .stars :: tokens, text => ∃ run rest, text = run ++ rest ∧ GlobMatches tokens rest
  | .star :: tokens, text => ∃ run rest, text = run ++ rest ∧ unit '/' ∉ run ∧ GlobMatches tokens rest
  | .question :: tokens, text => ∃ c rest, text = c :: rest ∧ c ≠ unit '/' ∧ GlobMatches tokens rest
  | .unit c :: tokens, text => ∃ rest, text = c :: rest ∧ GlobMatches tokens rest

def forDirectories (pattern : JsString) : Bool := decide (1 < pattern.length) && pattern.getLast? == some (unit '/')

/-- The glob of a pattern, from the root when it has a slash and otherwise behind any slash. -/
def PatternMatches (pattern path : JsString) : Prop :=
  let glob := if forDirectories pattern then pattern.dropLast else pattern
  if glob.head? = some (unit '/') then GlobMatches (globTokens glob.tail) path
  else if unit '/' ∈ glob then GlobMatches (globTokens glob) path
  else GlobMatches (globTokens glob) path ∨
    ∃ above name, path = above ++ unit '/' :: name ∧ GlobMatches (globTokens glob) name

def GlobToken.term : GlobToken → Term CodeUnit
  | .stars => .many isLineUnit
  | .star => .many isNameUnit
  | .question => .one isNameUnit
  | .unit c => .one (· == c)

def SingleLine (text : JsString) : Prop := ∀ c ∈ text, isLineTerminatorUnit c = false

theorem isNameUnit_iff {c : CodeUnit} : isNameUnit c = true ↔ c ≠ unit '/' := by
  simp [isNameUnit]

theorem accepts_tokens {tokens : List GlobToken} {text : JsString} (h : SingleLine text) :
    accepts (tokens.map GlobToken.term) text = true ↔ GlobMatches tokens text := by
  induction tokens generalizing text with
  | nil => simp [GlobMatches]
  | cons token tokens ih =>
    have hrest : ∀ {run rest : JsString}, text = run ++ rest → SingleLine rest := by
      rintro run rest rfl c hc
      exact h c (List.mem_append_right _ hc)
    rw [List.map_cons]
    cases token with
    | stars =>
      simp only [GlobToken.term, accepts_cons_many, GlobMatches]
      constructor
      · rintro ⟨run, rest, heq, _, hacc⟩
        exact ⟨run, rest, heq, (ih (hrest heq)).1 hacc⟩
      rintro ⟨run, rest, heq, hm⟩
      refine ⟨run, rest, heq, fun c hc => ?_, (ih (hrest heq)).2 hm⟩
      rw [isLineUnit, h c (heq ▸ List.mem_append_left _ hc)]
      rfl
    | star =>
      simp only [GlobToken.term, accepts_cons_many, GlobMatches]
      constructor
      · rintro ⟨run, rest, heq, hrun, hacc⟩
        exact ⟨run, rest, heq, fun hc => isNameUnit_iff.1 (hrun _ hc) rfl, (ih (hrest heq)).1 hacc⟩
      · rintro ⟨run, rest, heq, hrun, hm⟩
        exact ⟨run, rest, heq, fun c hc => isNameUnit_iff.2 fun hsl => hrun (hsl ▸ hc), (ih (hrest heq)).2 hm⟩
    | question =>
      simp only [GlobToken.term, accepts_cons_one, GlobMatches, isNameUnit_iff]
      constructor
      · rintro ⟨c, rest, rfl, hc, hacc⟩
        exact ⟨c, rest, rfl, hc, (ih (hrest (List.singleton_append.symm))).1 hacc⟩
      · rintro ⟨c, rest, rfl, hc, hm⟩
        exact ⟨c, rest, rfl, hc, (ih (hrest (List.singleton_append.symm))).2 hm⟩
    | unit d =>
      simp only [GlobToken.term, accepts_cons_one, GlobMatches, beq_iff_eq]
      constructor
      · rintro ⟨c, rest, rfl, rfl, hacc⟩
        exact ⟨rest, rfl, (ih (hrest (List.singleton_append.symm))).1 hacc⟩
      · rintro ⟨rest, rfl, hm⟩
        exact ⟨d, rest, rfl, rfl, (ih (hrest (List.singleton_append.symm))).2 hm⟩

private theorem fg_cons (t : Term CodeUnit) (ts : List (Term CodeUnit)) :
    RegExpReading.cons t (.terms ts) = .terms (t :: ts) := rfl

variable {glob : JsString}

theorem readGlob_eq_terms (h : unit '[' ∉ glob) :
    readGlob .unit glob = .terms ((globTokens glob).map GlobToken.term) := by
  induction glob using globTokens.induct with
  | case1 => rfl
  | case2 c =>
    have hopen : ¬(c = unit '[' ∧ unit ']' ∈ ([] : JsString)) := nofun
    rw [readGlob, if_neg hopen]
    simp only [List.head?_nil, reduceCtorEq, if_false, globTokens, globToken]
    split
    · rfl
    · split <;> rfl
  | case3 c d rest hst ih =>
    obtain ⟨rfl, rfl⟩ := hst
    rw [readGlob, if_pos rfl, if_pos List.head?_cons, readGlob, ih fun hmem => h (by simp [hmem]), fg_cons, globTokens,
      if_pos ⟨rfl, rfl⟩]
    rfl
  | case4 c d rest hst ih =>
    have hopen : ¬(c = unit '[' ∧ unit ']' ∈ d :: rest) := fun hc => h (hc.1 ▸ (.head _))
    have hrest := ih fun hmem => h (.tail _ hmem)
    rw [readGlob, if_neg hopen, hrest, globTokens, if_neg hst]
    by_cases hstar : c = unit '*'
    · have htwo : ¬(d :: rest).head? = some (unit '*') := fun hhead => hst ⟨hstar, Option.some.inj hhead⟩
      rw [if_pos hstar, if_neg htwo, globToken, if_pos hstar]
      rfl
    · rw [if_neg hstar, globToken, if_neg hstar]
      split <;> rfl

theorem accepts_above {path : JsString} (h : SingleLine path) :
    accepts (directoriesAbove ++ (globTokens glob).map GlobToken.term) path = true ↔
      ∃ above name, path = above ++ unit '/' :: name ∧ GlobMatches (globTokens glob) name := by
  have hname : ∀ {above name : JsString}, path = above ++ unit '/' :: name → SingleLine name := by
    rintro above name rfl c hc
    exact h c (List.mem_append_right _ (.tail _ hc))
  unfold directoriesAbove
  rw [List.cons_append, List.cons_append, List.nil_append, accepts_cons_many]
  simp only [accepts_cons_one, beq_iff_eq]
  constructor
  · rintro ⟨above, _, rfl, _, _, name, rfl, rfl, hacc⟩
    exact ⟨above, name, rfl, (accepts_tokens (hname rfl)).1 hacc⟩
  rintro ⟨above, name, rfl, hm⟩
  refine ⟨above, _, rfl, fun c hc => ?_, _, name, rfl, rfl, (accepts_tokens (hname rfl)).2 hm⟩
  rw [h c (List.mem_append_left _ hc)]
  rfl

theorem newRegExp_anchoredSource (engine : RegExpEngine) (h : unit '[' ∉ glob) :
    ∃ test, newRegExp engine (anchoredSource glob) = .ok test ∧ ∀ path, SingleLine path → (test path = true ↔
      if glob.head? = some (unit '/') then GlobMatches (globTokens glob.tail) path
      else if unit '/' ∈ glob then GlobMatches (globTokens glob) path else GlobMatches (globTokens glob) path ∨
        ∃ above name, path = above ++ unit '/' :: name ∧ GlobMatches (globTokens glob) name) := by
  by_cases hro : glob.head? = some (unit '/')
  · have hsrc : anchoredSource glob = js "^" ++ (globSource .read glob.tail ++ js "$") := by
      simp only [anchoredSource, hro, if_true, true_or, rcloneGlobToRegexSource, List.append_assoc]
    have htail : unit '[' ∉ glob.tail := fun hmem => h (List.mem_of_mem_tail hmem)
    rw [hsrc, newRegExp_rooted, readGlob_eq_terms htail]
    refine ⟨_, rfl, fun path hpath => ?_⟩
    rw [if_pos hro, accepts_tokens hpath]
  by_cases hsl : unit '/' ∈ glob
  · have hsrc : anchoredSource glob = js "^" ++ (globSource .read glob ++ js "$") := by
      simp only [anchoredSource, hro, if_false, false_or, rcloneGlobToRegexSource, if_pos hsl, List.append_assoc]
    rw [hsrc, newRegExp_rooted, readGlob_eq_terms h]
    refine ⟨_, rfl, fun path hpath => ?_⟩
    rw [if_neg hro, if_pos hsl, accepts_tokens hpath]
  have hsrc : anchoredSource glob = js "^(?:.*/)?" ++ (globSource .read glob ++ js "$") := by
    simp only [anchoredSource, hro, if_false, false_or, rcloneGlobToRegexSource, if_neg hsl, List.append_assoc]
  rw [hsrc, newRegExp_floating, readGlob_eq_terms h]
  refine ⟨_, rfl, fun path hpath => ?_⟩
  rw [if_neg hro, if_neg hsl, Bool.or_eq_true, accepts_tokens hpath, accepts_above hpath]

theorem parse_glob {engine : RegExpEngine} {line : JsString} {rule : RcloneFilterRule}
    (h : parseRcloneFilterRule engine line = .ok (some rule)) (hre : isRegexPattern rule.pattern = false) :
    ∃ test, newRegExp engine (anchoredSource (if forDirectories rule.pattern then rule.pattern.dropLast else rule.pattern)) =
        .ok test ∧
      rule.isMatch = fun path isDirectory => forDirectories rule.pattern == isDirectory && test path := by
  unfold parseRcloneFilterRule at h
  dsimp only at h
  split at h
  · cases h
  split at h
  · cases h
  split at h
  · cases h
  split at h
  · cases h
  split at h
  · cases h
  split at h
  · -- a regular expression
    rename_i hyes
    split at h
    · cases h
    cases h
    rw [hyes] at hre
    cases hre
  · split at h
    · cases h
    · rename_i test htest
      cases h
      exact ⟨test, htest, rfl⟩

/-- **A rule without classes and braces matches what its glob says.** With a slash at its end it matches directories, and
else files. -/
theorem filter_rule_matches (engine : RegExpEngine) (line : JsString) (rule : RcloneFilterRule)
    (hrule : parseRcloneFilterRule engine line = .ok (some rule))
    (hplain : ∀ c ∈ rule.pattern, c ≠ unit '[' ∧ c ≠ unit ']' ∧ c ≠ unit '\x7b' ∧ c ≠ unit '\x7d')
    (path : JsString) (hpath : SingleLine path) (isDirectory : Bool) :
    rule.isMatch path isDirectory = true ↔
      forDirectories rule.pattern = isDirectory ∧ PatternMatches rule.pattern path := by
  have hre : isRegexPattern rule.pattern = false := by
    rw [Bool.eq_false_iff]
    intro hyes
    rw [isRegexPattern, Bool.and_eq_true, Bool.and_eq_true, List.isPrefixOf_iff_prefix] at hyes
    exact (hplain _ (hyes.1.1.subset (by decide : unit '\x7b' ∈ js "\x7b\x7b"))).2.2.1 rfl
  obtain ⟨test, htest, hm⟩ := parse_glob hrule hre
  have hopen : unit '[' ∉ (if forDirectories rule.pattern then rule.pattern.dropLast else rule.pattern) := by
    intro hmem
    split at hmem
    · exact (hplain _ (List.mem_of_mem_dropLast hmem)).1 rfl
    · exact (hplain _ hmem).1 rfl
  obtain ⟨test', htest', hrd⟩ := newRegExp_anchoredSource engine hopen
  rw [htest] at htest'
  cases htest'
  rw [hm, Bool.and_eq_true, beq_iff_eq, hrd path hpath]
  rfl

/-- An engine that knows nothing but the sources that are read here. -/
def plainEngine : RegExpEngine := ⟨fun _ => .error [], id⟩

def lineMatches (line path : JsString) (isDirectory : Bool) : Option Bool :=
  match parseRcloneFilterRule plainEngine line with
  | .ok (some rule) => some (rule.isMatch path isDirectory)
  | _ => none

/-- A rule for a directory does not match what is in the directory. -/
theorem directory_rule_not_beneath : lineMatches (js "- sub/") (js "sub") true = some true ∧
    lineMatches (js "- sub/") (js "sub/a.txt") false = some false ∧ lineMatches (js "- sub/") (js "sub/deep") true = some false := by
  decide +kernel

/-- A glob at any depth. -/
theorem filter_rule_matches_below : ∃ rule, parseRcloneFilterRule plainEngine (js "- *.txt") = .ok (some rule) ∧
    (rule.isMatch (js "sub/a.txt") false = true ↔
      forDirectories rule.pattern = false ∧ PatternMatches rule.pattern (js "sub/a.txt")) := by
  have hpar : ∃ rule, parseRcloneFilterRule plainEngine (js "- *.txt") = .ok (some rule) ∧ rule.pattern = js "*.txt" := by
    have hread : (match parseRcloneFilterRule plainEngine (js "- *.txt") with
      | .ok (some rule) => some rule.pattern
      | _ => none) = some (js "*.txt") := by decide +kernel
    split at hread
    case h_1 rule hrule => exact ⟨rule, hrule, Option.some.inj hread⟩
    case h_2 => cases hread
  obtain ⟨rule, hrule, hpa⟩ := hpar
  refine ⟨rule, hrule, filter_rule_matches plainEngine (js "- *.txt") rule hrule ?_ (js "sub/a.txt") ?_ false⟩
  · have hall : ((js "*.txt").all fun c => c != unit '[' && c != unit ']' && c != unit '\x7b' && c != unit '\x7d') = true := by
      decide
    rw [hpa]
    intro c hc
    simpa [and_assoc] using List.all_eq_true.1 hall c hc
  have hall : ((js "sub/a.txt").all fun c => !isLineTerminatorUnit c) = true := by decide
  intro c hc
  simpa using List.all_eq_true.1 hall c hc

end LamaSync
