import LamaSync.Daemon.FilterGlobs

/-!
# The filter of a folder watcher

A watcher drops the events of paths that a line of the filter matches.  It reads every line without its sign, from the root
and with brackets for themselves, so a line that includes a path drops its events as well.  `watch_filter_sound_iff` says
for which lines and paths a dropped event is of a path that the synchronization leaves out.
-/

namespace LamaSync

open Pattern

/-- `line.replace(/^[-+]\s*/, "")`. -/
def stripSign : JsString → JsString
  | [] => []
  | c :: rest => if c = unit '-' ∨ c = unit '+' then rest.dropWhile isSpaceUnit else c :: rest

def watchPatterns (lines : List JsString) : List JsString :=
  (lines.map fun line => trimJs (stripSign line)).filter fun pattern =>
    decide (pattern ≠ []) && decide (pattern.head? ≠ some (unit '#'))

def watchMetacharacters : JsString := js "\\.^$+()[]\x7b\x7d|"

/-- The source of the expression of a glob; at the second star of two nothing is added. -/
def watchSource (skip : Bool) : JsString → JsString
  | [] => []
  | c :: rest =>
    if skip then watchSource false rest
    else if c = unit '*' then
      if rest.head? = some (unit '*') then js ".*" ++ watchSource true rest else js "[^/]*" ++ watchSource false rest
    else if c = unit '?' then js "[^/]" ++ watchSource false rest
    else if watchMetacharacters.contains c then unit '\\' :: c :: watchSource false rest
    else c :: watchSource false rest

/-- Without one slash in front. -/
def dropRoot (text : JsString) : JsString := if text.head? = some (unit '/') then text.tail else text

def globToRegex (engine : RegExpEngine) (pattern : JsString) : Except JsString (JsString → Bool) :=
  newRegExp engine (js "^" ++ (watchSource false (dropRoot pattern) ++ js "$"))

def watchExcludes (engine : RegExpEngine) (lines : List JsString) (rel : JsString) : Bool :=
  (watchPatterns lines).any fun pattern =>
    match globToRegex engine pattern with
    | .ok test => test (dropRoot rel)
    | .error _ => false

section Expression

-- the lemmas of this section share the equations of the readers
attribute [local simp] watchSource globTokens

private theorem wf_head (glob : JsString) {d : CodeUnit} (hd : d = unit '*' ∨ d = unit '(') :
    (watchSource false glob ++ js "$").head? ≠ some d := by
  have hne {c : CodeUnit} (hstar : c ≠ unit '*') (hpa : c ≠ unit '(') : some c ≠ some d := by
    rcases hd with rfl | rfl
    · simpa using hstar
    · simpa using hpa
  cases glob with
  | nil => exact hne (by decide) (by decide)
  | cons c rest =>
    rw [watchSource, if_neg (by decide)]
    by_cases hstar : c = unit '*'
    · rw [if_pos hstar]
      split <;> exact hne (by decide) (by decide)
    rw [if_neg hstar]
    split
    · exact hne (by decide) (by decide)
    split
    · exact hne (by decide) (by decide)
    rename_i hmeta
    refine hne hstar ?_
    rintro rfl
    exact hmeta (by decide)

private theorem wf_read_unit {c : CodeUnit} (rest : JsString) (hstar : c ≠ unit '*') :
    readRegExp .atom (watchSource false (c :: rest) ++ js "$") =
      (readRegExp .atom (watchSource false rest ++ js "$")).cons (globToken c).term := by
  have hhead := wf_head rest (.inl rfl)
  rw [watchSource, if_neg (by decide), if_neg hstar, globToken, if_neg hstar]
  by_cases hqu : c = unit '?'
  · rw [if_pos hqu, if_pos hqu, List.append_assoc, readRegExp_notSlash, quantified_unstarred hhead]
    rfl
  rw [if_neg hqu, if_neg hqu]
  by_cases hmeta : watchMetacharacters.contains c = true
  · rw [if_pos hmeta, List.cons_append, List.cons_append, readRegExp_escaped (isSyntaxCharacter_of_mem (by decide) hmeta) hhead]
    rfl
  · have hop : isOperator c = false := by
      refine isOperator_of_not_mem (unit '*' :: unit '?' :: watchMetacharacters) (by decide) ?_
      simpa [hstar, hqu] using hmeta
    rw [if_neg hmeta, List.cons_append, readRegExp_plain hop hhead]
    rfl

theorem readRegExp_watchSource (glob : JsString) :
    readRegExp .atom (watchSource false glob ++ js "$") = .terms ((globTokens glob).map GlobToken.term) := by
  have hdo : readRegExp .atom (js "$") = .terms [] := by
    show readRegExp .atom [unit '$'] = _
    rw [readRegExp, if_pos ⟨rfl, rfl⟩]
  induction glob using globTokens.induct with
  | case1 => exact hdo
  | case2 c =>
    by_cases hstar : c = unit '*'
    · rw [watchSource, if_neg (by decide), if_pos hstar, if_neg (by decide), watchSource, List.append_nil, readRegExp_star, hdo,
        globTokens, globToken, if_pos hstar]
      rfl
    · rw [wf_read_unit [] hstar, watchSource, List.nil_append, hdo]
      rfl
  | case3 c d rest hst ih =>
    obtain ⟨rfl, rfl⟩ := hst
    rw [watchSource, if_neg (by decide), if_pos rfl, if_pos List.head?_cons, watchSource, if_pos rfl, List.append_assoc,
      readRegExp_twoStars, ih, globTokens, if_pos ⟨rfl, rfl⟩]
    rfl
  | case4 c d rest hst ih =>
    rw [globTokens, if_neg hst]
    by_cases hstar : c = unit '*'
    · have htwo : ¬(d :: rest).head? = some (unit '*') := fun hhead => hst ⟨hstar, Option.some.inj hhead⟩
      rw [watchSource, if_neg (by decide), if_pos hstar, if_neg htwo, List.append_assoc, readRegExp_star, ih, globToken,
        if_pos hstar]
      rfl
    · rw [wf_read_unit _ hstar, ih]
      rfl

theorem globToRegex_eq (engine : RegExpEngine) (pattern : JsString) :
    globToRegex engine pattern = .ok (accepts ((globTokens (dropRoot pattern)).map GlobToken.term)) := by
  rw [globToRegex, newRegExp_anchored engine (wf_head _ (.inr rfl)), readRegExp_watchSource]

end Expression

def WatchMatches (line path : JsString) : Prop :=
  trimJs (stripSign line) ≠ [] ∧ (trimJs (stripSign line)).head? ≠ some (unit '#') ∧
    accepts ((globTokens (dropRoot (trimJs (stripSign line)))).map GlobToken.term) path = true

/-- The glob of a rule, from the root when it begins with a slash. -/
def AnchoredReads (engine : RegExpEngine) (glob path : JsString) : Prop :=
  if glob.head? = some (unit '/') then
    match readGlob .unit glob.tail with
    | .terms ts => accepts ts path = true
    | .syntaxError => False
    | .foreign => ∃ test, engine.compile (anchoredSource glob) = .ok test ∧ test path = true
  else GlobReads engine glob path

def PatternReads (engine : RegExpEngine) (pattern path : JsString) (isDirectory : Bool) : Prop :=
  if isRegexPattern pattern then
    isDirectory = false ∧ ∃ test, newRegExp engine (js "^(?:.*/)?" ++ regexOfPattern pattern ++ js "$") = .ok test ∧ test path = true
  else if forDirectories pattern then isDirectory = true ∧ AnchoredReads engine pattern.dropLast path
  else isDirectory = false ∧ AnchoredReads engine pattern path

/-- A sign, one space and a pattern that reads the path. -/
def RuleOf (engine : RegExpEngine) (isInclude : Bool) (line path : JsString) (isDirectory : Bool) : Prop :=
  ∃ pattern, pattern ≠ [] ∧ trimJs line = signOf isInclude :: unit ' ' :: pattern ∧ PatternReads engine pattern path isDirectory

/-- A minus, one space and a glob for files without classes. -/
def PlainExclude (line : JsString) : Prop :=
  line.head? = some (unit '-') ∧ ∃ glob, trimJs line = js "- " ++ glob ∧ (∃ c rest, glob = c :: rest ∧ isSpaceUnit c = false) ∧
    unit '[' ∉ glob ∧ isRegexPattern glob = false ∧ forDirectories glob = false

def IncludesBehind (engine : RegExpEngine) (lines : List JsString) (path : JsString) (isDirectory : Bool) : Prop :=
  ∀ before line behind, lines = before ++ line :: behind → RuleOf engine true line path isDirectory →
    ∃ other ∈ before, RuleOf engine false other path isDirectory

def DropsOnlyExcluded (engine : RegExpEngine) (lines : List JsString) (path : JsString) (isDirectory : Bool) : Prop :=
  (∀ line ∈ lines, WatchMatches line path →
    (PlainExclude line ∧ isDirectory = false) ∨ ∃ other ∈ lines, RuleOf engine false other path isDirectory) ∧
  ((∃ line ∈ lines, WatchMatches line path) → IncludesBehind engine lines path isDirectory)

section Rules

variable {engine : RegExpEngine} {path : JsString} {isDirectory : Bool}

theorem watchExcludes_iff (lines : List JsString) (hroot : path.head? ≠ some (unit '/')) :
    watchExcludes engine lines path = true ↔ ∃ line ∈ lines, WatchMatches line path := by
  have hpath : dropRoot path = path := if_neg hroot
  simp only [watchExcludes, watchPatterns, globToRegex_eq, hpath, List.any_eq_true, List.mem_filter, List.mem_map,
    Bool.and_eq_true, decide_eq_true_eq, WatchMatches]
  constructor
  · rintro ⟨_, ⟨⟨line, hline, rfl⟩, hne, hcomm⟩, hm⟩
    exact ⟨line, hline, hne, hcomm, hm⟩
  · rintro ⟨line, hline, hne, hcomm, hm⟩
    exact ⟨_, ⟨⟨line, hline, rfl⟩, hne, hcomm⟩, hm⟩

variable {line : JsString}

theorem anchoredReads_iff (glob : JsString) :
    AnchoredReads engine glob path ↔ ∃ test, newRegExp engine (anchoredSource glob) = .ok test ∧ test path = true := by
  unfold AnchoredReads
  split
  · rename_i hro
    have hsrc : anchoredSource glob = js "^" ++ (globSource .read glob.tail ++ js "$") := by
      simp only [anchoredSource, hro, if_true, true_or, rcloneGlobToRegexSource, List.append_assoc]
    rw [hsrc, newRegExp_rooted]
    cases readGlob .unit glob.tail with
    | terms ts | syntaxError => simp
    | foreign => exact Iff.rfl
  · rename_i hfl
    exact globReads_iff engine path hfl

/-- The pattern of a line that is a rule, behind its sign. -/
theorem line_of_parse {rule : RcloneFilterRule} (h : parseRcloneFilterRule engine line = .ok (some rule)) :
    ∃ isInclude pattern, pattern ≠ [] ∧ trimJs line = signOf isInclude :: unit ' ' :: pattern := by
  unfold parseRcloneFilterRule at h
  dsimp only at h
  split at h
  · cases h
  split at h
  · cases h
  split at h
  · cases h
  rename_i hsign
  split at h
  · cases h
  rename_i hsp
  split at h
  · cases h
  rename_i hraw
  cases htrim : trimJs line with
  | nil => simp [htrim] at hsp
  | cons sign rest =>
    cases rest with
    | nil => simp [htrim] at hsp
    | cons blank pattern =>
      simp only [htrim, List.head?_cons, Option.some.injEq, List.getElem?_cons_succ, List.getElem?_cons_zero, not_not,
        List.drop_succ_cons, List.drop_zero, not_and_or] at hsign hsp hraw
      obtain rfl := hsp
      rcases hsign with rfl | rfl
      · exact ⟨false, pattern, hraw, rfl⟩
      · exact ⟨true, pattern, hraw, rfl⟩

theorem ruleOf_iff {isInclude : Bool} : RuleOf engine isInclude line path isDirectory ↔
    ∃ rule, parseRcloneFilterRule engine line = .ok (some rule) ∧ rule.isMatch path isDirectory = true ∧
      rule.isInclude = isInclude := by
  have hrd (pattern : JsString) : PatternReads engine pattern path isDirectory ↔ if isRegexPattern pattern then
        isDirectory = false ∧
          ∃ test, newRegExp engine (js "^(?:.*/)?" ++ regexOfPattern pattern ++ js "$") = .ok test ∧ test path = true
      else if 1 < pattern.length ∧ pattern.getLast? = some (unit '/') then
        isDirectory = true ∧ ∃ test, newRegExp engine (anchoredSource pattern.dropLast) = .ok test ∧ test path = true
      else isDirectory = false ∧ ∃ test, newRegExp engine (anchoredSource pattern) = .ok test ∧ test path = true := by
    simp only [PatternReads, forDirectories, anchoredReads_iff, Bool.and_eq_true, decide_eq_true_eq, beq_iff_eq]
  constructor
  · rintro ⟨pattern, hne, htrim, hpa⟩
    obtain ⟨hsign, hm⟩ := parse_signed engine isInclude pattern htrim hne path isDirectory
    obtain ⟨rule, hrule, hru⟩ := hm.2 ((hrd pattern).1 hpa)
    exact ⟨rule, hrule, hru, hsign rule hrule⟩
  · rintro ⟨rule, hrule, hm, rfl⟩
    obtain ⟨sign, pattern, hne, htrim⟩ := line_of_parse hrule
    obtain ⟨hsign, hiff⟩ := parse_signed engine sign pattern htrim hne path isDirectory
    exact ⟨pattern, hne, hsign rule hrule ▸ htrim, (hrd pattern).2 (hiff.1 ⟨rule, hrule, hm⟩)⟩

theorem ruleOf_unique {a b : Bool} (h : RuleOf engine a line path isDirectory)
    (h' : RuleOf engine b line path isDirectory) : a = b := by
  obtain ⟨rule, hrule, _, rfl⟩ := ruleOf_iff.1 h
  obtain ⟨rule', hrule', _, rfl⟩ := ruleOf_iff.1 h'
  rw [hrule] at hrule'
  cases hrule'
  rfl

theorem includesBehind_cons {rest : List JsString}
    (h : ∀ isInclude, ¬ RuleOf engine isInclude line path isDirectory) :
    IncludesBehind engine (line :: rest) path isDirectory ↔ IncludesBehind engine rest path isDirectory := by
  constructor
  · intro hbeh before other behind heq hincl
    obtain ⟨excluding, hmem, hexcl⟩ := hbeh (line :: before) other behind (by rw [heq, List.cons_append]) hincl
    obtain rfl | hmem := List.mem_cons.1 hmem
    · exact absurd hexcl (h false)
    · exact ⟨excluding, hmem, hexcl⟩
  intro hbeh before other behind heq hincl
  cases before with
  | nil =>
    cases (List.cons.inj heq).1
    exact absurd hincl (h true)
  | cons first before =>
    obtain ⟨excluding, hmem, hexcl⟩ := hbeh before other behind (List.cons.inj heq).2 hincl
    exact ⟨excluding, .tail _ hmem, hexcl⟩

def firstVerdict (engine : RegExpEngine) (path : JsString) (isDirectory : Bool) (lines : List JsString) : Bool :=
  match ((lines.map (parseRcloneFilterRule engine)).filterMap fun
    | .ok rule => rule
    | .error _ => none).find? fun rule => rule.isMatch path isDirectory with
  | some rule => rule.isInclude
  | none => true

theorem firstVerdict_cons_of_not (h : ∀ isInclude, ¬ RuleOf engine isInclude line path isDirectory)
    (rest : List JsString) : firstVerdict engine path isDirectory (line :: rest) = firstVerdict engine path isDirectory rest := by
  unfold firstVerdict
  rw [List.map_cons]
  cases hpa : parseRcloneFilterRule engine line with
  | error _ => rfl
  | ok rule =>
    cases rule with
    | none => rfl
    | some rule =>
      have hno : rule.isMatch path isDirectory = false := by
        by_contra hm
        exact h rule.isInclude (ruleOf_iff.2 ⟨rule, hpa, by simpa using hm, rfl⟩)
      simp only [List.filterMap_cons, List.find?_cons, hno]

theorem firstVerdict_cons_of_rule {isInclude : Bool} (h : RuleOf engine isInclude line path isDirectory)
    (rest : List JsString) : firstVerdict engine path isDirectory (line :: rest) = isInclude := by
  obtain ⟨rule, hpa, hm, rfl⟩ := ruleOf_iff.1 h
  unfold firstVerdict
  rw [List.map_cons, hpa]
  simp only [List.filterMap_cons, List.find?_cons, hm]

theorem firstVerdict_eq_false_iff (lines : List JsString) :
    firstVerdict engine path isDirectory lines = false ↔
      (∃ line ∈ lines, RuleOf engine false line path isDirectory) ∧ IncludesBehind engine lines path isDirectory := by
  induction lines with
  | nil =>
    refine iff_of_false Bool.true_eq_false.mp ?_
    rintro ⟨⟨line, hline, _⟩, _⟩
    cases hline
  | cons line rest ih =>
    by_cases hexcl : RuleOf engine false line path isDirectory
    · refine iff_of_true (firstVerdict_cons_of_rule hexcl rest) ⟨⟨line, .head _, hexcl⟩, ?_⟩
      intro before other behind heq hincl
      cases before with
      | nil =>
        cases (List.cons.inj heq).1
        cases ruleOf_unique hincl hexcl
      | cons first before =>
        cases (List.cons.inj heq).1
        exact ⟨line, .head _, hexcl⟩
    by_cases hincl : RuleOf engine true line path isDirectory
    · rw [firstVerdict_cons_of_rule hincl]
      refine iff_of_false (by decide) ?_
      rintro ⟨_, hbeh⟩
      obtain ⟨other, ho, _⟩ := hbeh [] line rest rfl hincl
      cases ho
    have hno : ∀ isInclude, ¬ RuleOf engine isInclude line path isDirectory := fun isInclude => by
      cases isInclude
      · exact hexcl
      · exact hincl
    rw [firstVerdict_cons_of_not hno, ih, includesBehind_cons hno, List.exists_mem_cons_iff, or_iff_right hexcl]

theorem includes_eq_false_iff (lines : List JsString) (hne : path ≠ []) :
    (compileRcloneFilterRules engine lines).includes path isDirectory = false ↔
      (∃ line ∈ lines, RuleOf engine false line path isDirectory) ∧ IncludesBehind engine lines path isDirectory := by
  rw [← firstVerdict_eq_false_iff]
  have heq : (compileRcloneFilterRules engine lines).includes path isDirectory = firstVerdict engine path isDirectory lines :=
    if_neg hne
  rw [heq]

theorem trim_stripSign_of_plain {glob : JsString} {c : CodeUnit} {rest : JsString}
    (hhead : line.head? = some (unit '-')) (htrim : trimJs line = js "- " ++ glob) (hglob : glob = c :: rest)
    (hc : isSpaceUnit c = false) : trimJs (stripSign line) = glob := by
  -- white space behind the glob is all that is trimmed
  obtain ⟨blank, hline, hbl⟩ : ∃ blank, line = unit '-' :: unit ' ' :: (glob ++ blank) ∧
      ∀ b ∈ blank, isSpaceUnit b = true := by
    cases line with
    | nil => cases hhead
    | cons first tail =>
      cases Option.some.inj hhead
      have hdrop : (unit '-' :: tail).dropWhile isSpaceUnit = unit '-' :: tail := List.dropWhile_cons_of_neg (by decide)
      rw [trimJs, hdrop] at htrim
      refine ⟨(unit '-' :: tail).rtakeWhile isSpaceUnit, ?_, fun b hb => List.mem_rtakeWhile_imp hb⟩
      rw [← List.cons_append, ← List.cons_append]
      show _ = js "- " ++ glob ++ _
      rw [← htrim, List.rdropWhile_append_rtakeWhile]
  have hne : glob ≠ [] := by
    rw [hglob]
    exact List.cons_ne_nil c rest
  have hself : glob.rdropWhile isSpaceUnit = glob := by
    have hw : (js "- " ++ glob).rdropWhile isSpaceUnit = js "- " ++ glob := by
      rw [← htrim, trimJs, List.rdropWhile_idempotent]
    rw [List.rdropWhile_eq_self_iff] at hw ⊢
    intro hl
    have hlast := hw (List.append_ne_nil_of_right_ne_nil _ hl)
    rwa [List.getLast_append_of_ne_nil _ hl] at hlast
  have hstr : stripSign line = glob ++ blank := by
    rw [hline, stripSign, if_pos (.inl rfl), List.dropWhile_cons_of_pos (by decide), hglob, List.cons_append,
      List.dropWhile_cons_of_neg (by rw [hc]; decide)]
  have hst : (glob ++ blank).dropWhile isSpaceUnit = glob ++ blank := by
    rw [hglob, List.cons_append, List.dropWhile_cons_of_neg (by rw [hc]; decide)]
  rw [hstr, trimJs, hst]
  rw [List.rdropWhile] at hself ⊢
  rw [List.reverse_append, List.dropWhile_append_of_pos (by simpa using hbl), hself]

theorem ruleOf_of_plain (hpl : PlainExclude line) (hm : WatchMatches line path) :
    RuleOf engine false line path false := by
  obtain ⟨hhead, glob, htrim, ⟨c, rest, hglob, hc⟩, hopen, hre, hf⟩ := hpl
  have hne : glob ≠ [] := by
    rw [hglob]
    exact List.cons_ne_nil c rest
  have hacc := hm.2.2
  rw [trim_stripSign_of_plain hhead htrim hglob hc] at hacc
  refine ⟨glob, hne, htrim, ?_⟩
  rw [PatternReads, if_neg (by rw [hre]; decide), if_neg (by rw [hf]; decide)]
  refine ⟨rfl, ?_⟩
  -- a slash in front is dropped by both, and the terms behind it are the same
  unfold AnchoredReads
  rw [dropRoot] at hacc
  split
  · rename_i hro
    rw [if_pos hro] at hacc
    rw [readGlob_eq_terms fun hmem => hopen (List.mem_of_mem_tail hmem)]
    exact hacc
  · rename_i hfl
    rw [if_neg hfl] at hacc
    rw [GlobReads, readGlob_eq_terms hopen]
    exact .inl hacc

end Rules

/-- **The watcher drops the event of a path only if the synchronization excludes the path, exactly where the lines that
drop it are plain lines that exclude, or others exclude it, and no line includes it before.** -/
theorem watch_filter_sound_iff (engine : RegExpEngine) (lines : List JsString) (path : JsString) (isDirectory : Bool)
    (hne : path ≠ []) (hroot : path.head? ≠ some (unit '/')) :
    (watchExcludes engine lines path = true →
        (compileRcloneFilterRules engine lines).includes path isDirectory = false) ↔
      DropsOnlyExcluded engine lines path isDirectory := by
  rw [watchExcludes_iff lines hroot, includes_eq_false_iff lines hne]
  constructor
  · intro h
    exact ⟨fun line hline hm => .inr (h ⟨line, hline, hm⟩).1, fun hdr => (h hdr).2⟩
  rintro ⟨hl, hbeh⟩ ⟨line, hline, hm⟩
  refine ⟨?_, hbeh ⟨line, hline, hm⟩⟩
  obtain ⟨hpl, rfl⟩ | ho := hl line hline hm
  · exact ⟨line, hline, ruleOf_of_plain hpl hm⟩
  · exact ho

/-- A file that a line includes: the watcher drops its events. -/
theorem included_file_dropped : watchExcludes plainEngine [js "+ keep.txt"] (js "keep.txt") = true ∧
    (compileRcloneFilterRules plainEngine [js "+ keep.txt"]).includes (js "keep.txt") false = true := by
  decide +kernel

/-- A file that a line excludes. -/
theorem watch_filter_sound_tmp : watchExcludes plainEngine [js "- *.tmp"] (js "a.tmp") = true ∧
    (compileRcloneFilterRules plainEngine [js "- *.tmp"]).includes (js "a.tmp") false = false := by
  have hdr : watchExcludes plainEngine [js "- *.tmp"] (js "a.tmp") = true := by decide +kernel
  refine ⟨hdr, (watch_filter_sound_iff plainEngine [js "- *.tmp"] (js "a.tmp") false (by decide) (by decide)).2
    ⟨?_, ?_⟩ hdr⟩
  · intro line hline _
    cases List.mem_singleton.1 hline
    exact .inl ⟨⟨by decide, js "*.tmp", by decide +kernel, ⟨unit '*', js ".tmp", by decide, by decide⟩, by decide, by decide,
      by decide⟩, rfl⟩
  intro _ before line behind heq hincl
  exfalso
  have hline : line = js "- *.tmp" := by
    have hmem : line ∈ [js "- *.tmp"] := heq ▸ List.mem_append_right before (.head _)
    exact List.mem_singleton.1 hmem
  obtain ⟨pattern, -, htrim, -⟩ := hincl
  have hread : trimJs (js "- *.tmp") = signOf true :: unit ' ' :: pattern := hline ▸ htrim
  rw [show trimJs (js "- *.tmp") = js "- *.tmp" by decide +kernel] at hread
  exact absurd (List.cons.inj hread).1 (by decide)

end LamaSync
