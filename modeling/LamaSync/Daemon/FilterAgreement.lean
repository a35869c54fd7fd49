import LamaSync.Daemon.Gitignore
import LamaSync.Daemon.SeedFilterUniverse

/-!
# The printed rules and the walk they are printed from

A rule line is an entry's path, and the line is read as a pattern.  This module says what the pattern of a path is, in
terms of the path alone (`readGlob`, `GlobReads`, `IgnoredEntry.Reads`), proves that the compiled rules read exactly
that, and compares what they exclude with what the walk found (`filter_universe_agrees_iff`).
-/

namespace LamaSync

open Pattern

/-- What a star or a question mark stands for. -/
def isNameUnit (c : CodeUnit) : Bool := c != unit '/'

/-- What two stars stand for. -/
def isLineUnit (c : CodeUnit) : Bool := !isLineTerminatorUnit c

inductive GlobPosition where
  | unit
  | secondStar
  | inClass (content : JsString)

def readGlob : GlobPosition → JsString → RegExpReading
  | _, [] => .terms []
  | .secondStar, _ :: rest => readGlob .unit rest
  | .inClass content, c :: rest =>
    if c = unit ']' then
      match classTest content with
      | none => .syntaxError
      | some p => (readGlob .unit rest).cons (.one p)
    else if c = unit '\\' then .foreign
    else readGlob (.inClass (content ++ [c])) rest
  | .unit, c :: rest =>
    if c = unit '*' then
      if rest.head? = some (unit '*') then (readGlob .secondStar rest).cons (.many isLineUnit)
      else (readGlob .unit rest).cons (.many isNameUnit)
    else if c = unit '?' then (readGlob .unit rest).cons (.one isNameUnit)
    else if c = unit '[' ∧ unit ']' ∈ rest then readGlob (.inClass []) rest
    else (readGlob .unit rest).cons (.one (· == c))

section Translation

-- the lemmas of this section share the equations of the readers
attribute [local simp] readRegExp globSource readGlob

private theorem fa_classTest_notSlash : classTest (js "^/") = some isNameUnit := by
  have hra : classRanges 0 (js "/") = some [(unit '/', unit '/')] := by decide
  have htest : (fun c => !inRanges [(unit '/', unit '/')] c) = isNameUnit := by
    funext c
    have hc : (unit '/' ≤ c ∧ c ≤ unit '/') ↔ c = unit '/' :=
      ⟨fun h => UInt16.le_antisymm h.2 h.1, fun h => h ▸ ⟨UInt16.le_refl c, UInt16.le_refl c⟩⟩
    simp only [inRanges, List.any_cons, List.any_nil, Bool.or_false, isNameUnit, bne]
    rw [← Bool.decide_and, decide_eq_decide.2 hc, beq_eq_decide]
  show (classRanges 0 (js "/")).map (fun ranges c => !inRanges ranges c) = _
  rw [hra, ← htest]
  rfl

variable {source : JsString} {c : CodeUnit}

theorem quantified_unstarred {p : CodeUnit → Bool} {starred unstarred : RegExpReading}
    (h : source.head? ≠ some (unit '*')) : quantified p source starred unstarred = unstarred.cons (.one p) :=
  if_neg h

theorem readRegExp_twoStars (source : JsString) :
    readRegExp .atom (js ".*" ++ source) = (readRegExp .atom source).cons (.many isLineUnit) := by
  show readRegExp .atom (unit '.' :: unit '*' :: source) = _
  rw [readRegExp, if_neg (fun h => absurd h.1 (by decide)), if_pos rfl]
  rfl

private theorem fa_read_open (source : JsString) :
    readRegExp .atom (unit '[' :: source) = readRegExp (.inClass []) source := by
  rw [readRegExp, if_neg (fun h => absurd h.1 (by decide)), if_neg (by decide), if_pos rfl]

private theorem fa_read_backslash (source : JsString) :
    readRegExp .atom (unit '\\' :: source) = readRegExp .escape source := by
  rw [readRegExp, if_neg (fun h => absurd h.1 (by decide)), if_neg (by decide), if_neg (by decide), if_pos rfl]

private theorem fa_read_inClass (content source : JsString) (hcl : c ≠ unit ']') (hes : c ≠ unit '\\') :
    readRegExp (.inClass content) (c :: source) = readRegExp (.inClass (content ++ [c])) source := by
  rw [readRegExp, if_neg hcl, if_neg hes]

theorem readRegExp_notSlash (source : JsString) :
    readRegExp .atom (js "[^/]" ++ source) =
      quantified isNameUnit source (readRegExp .star source) (readRegExp .atom source) := by
  show readRegExp .atom (unit '[' :: unit '^' :: unit '/' :: unit ']' :: source) = _
  rw [fa_read_open, fa_read_inClass _ _ (by decide) (by decide), fa_read_inClass _ _ (by decide) (by decide)]
  show readRegExp (.inClass (js "^/")) (unit ']' :: source) = _
  rw [readRegExp, if_pos rfl, fa_classTest_notSlash]

theorem readRegExp_star (source : JsString) :
    readRegExp .atom (js "[^/]*" ++ source) = (readRegExp .atom source).cons (.many isNameUnit) := by
  have h := readRegExp_notSlash (unit '*' :: source)
  rw [quantified, if_pos List.head?_cons] at h
  exact h

theorem readRegExp_escaped (hc : isSyntaxCharacter c = true)
    (h : source.head? ≠ some (unit '*')) :
    readRegExp .atom (unit '\\' :: c :: source) = (readRegExp .atom source).cons (.one (· == c)) := by
  rw [fa_read_backslash, readRegExp, if_pos hc, quantified_unstarred h]

theorem readRegExp_plain (hc : isOperator c = false)
    (h : source.head? ≠ some (unit '*')) :
    readRegExp .atom (c :: source) = (readRegExp .atom source).cons (.one (· == c)) := by
  have hne {d : CodeUnit} (hd : isOperator d = true) : c ≠ d := by
    rintro rfl
    rw [hd] at hc
    cases hc
  rw [readRegExp, if_neg (fun h => hne (by decide) h.1), if_neg (hne (by decide)), if_neg (hne (by decide)),
    if_neg (hne (by decide)), if_neg (by rw [hc]; decide), quantified_unstarred h]

theorem isOperator_of_not_mem (operators : JsString) (hlist : js "^$\\.*+?()[\x7b\x7d|" ⊆ operators) (hc : c ∉ operators) :
    isOperator c = false := by
  rw [isOperator, List.contains_eq_mem, decide_eq_false_iff_not]
  exact fun hmem => hc (hlist hmem)

theorem isSyntaxCharacter_of_mem {metacharacters : JsString} (hlist : metacharacters ⊆ js "^$\\.*+?()[]\x7b\x7d|")
    (hc : metacharacters.contains c = true) : isSyntaxCharacter c = true := by
  rw [isSyntaxCharacter, List.contains_iff_mem]
  exact hlist (List.contains_iff_mem.1 hc)

private theorem fa_head_globSource (glob : JsString) {d : CodeUnit} (hd : d = unit '*' ∨ d = unit '(') :
    (globSource .read glob ++ js "$").head? ≠ some d := by
  have hne {c : CodeUnit} (hstar : c ≠ unit '*') (hpa : c ≠ unit '(') : some c ≠ some d := by
    rcases hd with rfl | rfl
    · simpa using hstar
    · simpa using hpa
  cases glob with
  | nil => exact hne (by decide) (by decide)
  | cons c rest =>
    unfold globSource
    by_cases hstar : c = unit '*'
    · rw [if_pos hstar]
      split <;> exact hne (by decide) (by decide)
    rw [if_neg hstar]
    split
    · exact hne (by decide) (by decide)
    split
    · rename_i hopen
      split
      · exact hne hstar (by rw [hopen]; decide)
      · exact hne (by decide) (by decide)
    split
    · exact hne (by decide) (by decide)
    rename_i hmeta
    refine hne hstar ?_
    rintro rfl
    exact hmeta (by decide)

theorem readRegExp_globSource (glob : JsString) : readRegExp .atom (globSource .read glob ++ js "$") = readGlob .unit glob ∧
    readRegExp .atom (globSource .skip glob ++ js "$") = readGlob .secondStar glob ∧
    ∀ content, unit ']' ∈ glob →
      readRegExp (.inClass content) (globSource .copy glob ++ js "$") = readGlob (.inClass content) glob := by
  induction glob with
  | nil =>
    have hdo : readRegExp .atom (js "$") = .terms [] := by
      show readRegExp .atom [unit '$'] = _
      rw [readRegExp, if_pos ⟨rfl, rfl⟩]
    exact ⟨hdo, hdo, nofun⟩
  | cons c rest ih =>
    obtain ⟨hunit, hskip, hcla⟩ := ih
    have hhead := fa_head_globSource rest (.inl rfl)
    refine ⟨?_, hunit, ?_⟩
    · unfold globSource readGlob
      by_cases hstar : c = unit '*'
      · rw [if_pos hstar, if_pos hstar]
        by_cases htwo : rest.head? = some (unit '*')
        · rw [if_pos htwo, if_pos htwo, List.append_assoc, readRegExp_twoStars, hskip]
        · rw [if_neg htwo, if_neg htwo, List.append_assoc, readRegExp_star, hunit]
      rw [if_neg hstar, if_neg hstar]
      by_cases hqu : c = unit '?'
      · rw [if_pos hqu, if_pos hqu, List.append_assoc, readRegExp_notSlash, quantified_unstarred hhead, hunit]
      rw [if_neg hqu, if_neg hqu]
      by_cases hopen : c = unit '['
      · rw [if_pos hopen]
        by_cases hcl : unit ']' ∈ rest
        · rw [if_pos (List.contains_iff_mem.2 hcl), if_pos ⟨hopen, hcl⟩, hopen, List.cons_append, fa_read_open]
          exact hcla [] hcl
        rw [if_neg (fun h => hcl (List.contains_iff_mem.1 h)), if_neg (fun h => hcl h.2), List.append_assoc]
        show readRegExp .atom (unit '\\' :: unit '[' :: (globSource .read rest ++ js "$")) = _
        rw [readRegExp_escaped (by decide) hhead, hunit, hopen]
      have hpl : ¬(c = unit '[' ∧ unit ']' ∈ rest) := fun h => hopen h.1
      rw [if_neg hopen, if_neg hpl]
      by_cases hmeta : regexMetacharacters.contains c = true
      · rw [if_pos hmeta, List.cons_append, List.cons_append,
          readRegExp_escaped (isSyntaxCharacter_of_mem (by decide) hmeta) hhead, hunit]
      · have hop : isOperator c = false := by
          refine isOperator_of_not_mem (unit '*' :: unit '?' :: unit '[' :: regexMetacharacters) (by decide) ?_
          simpa [hstar, hqu, hopen] using hmeta
        rw [if_neg hmeta, List.cons_append, readRegExp_plain hop hhead, hunit]
    · intro content hmem
      unfold globSource readGlob
      rw [List.cons_append, readRegExp]
      by_cases hcl : c = unit ']'
      · rw [if_pos hcl, if_pos hcl, if_pos hcl]
        cases classTest content with
        | none => rfl
        | some p => simp only [quantified_unstarred hhead, hunit]
      · have hrest : unit ']' ∈ rest := (List.mem_cons.1 hmem).resolve_left (Ne.symm hcl)
        rw [if_neg hcl, if_neg hcl, if_neg hcl, hcla _ hrest]

end Translation

def GlobReads (engine : RegExpEngine) (glob path : JsString) : Prop :=
  match readGlob .unit glob with
  | .terms ts => accepts ts path = true ∨ (unit '/' ∉ glob ∧ accepts (directoriesAbove ++ ts) path = true)
  | .syntaxError => False
  | .foreign => ∃ test, engine.compile (anchoredSource glob) = .ok test ∧ test path = true

/-- A source that is anchored is read behind the circumflex, for the parenthesis of the group is not its first unit. -/
theorem newRegExp_anchored (engine : RegExpEngine) {source : JsString} (hpa : source.head? ≠ some (unit '(')) :
    newRegExp engine (js "^" ++ source) =
      match readRegExp .atom source with
      | .terms ts => .ok (accepts ts)
      | .syntaxError => .error (engine.rangeMessage (js "^" ++ source))
      | .foreign => engine.compile (js "^" ++ source) := by
  have hroot : (js "^").isPrefixOf (js "^" ++ source) = true := rfl
  have hab : (js "^(?:.*/)?").isPrefixOf (js "^" ++ source) = false := by
    rw [Bool.eq_false_iff, ne_eq, List.isPrefixOf_iff_prefix]
    rintro ⟨tail, htail⟩
    have hinj : (js "^(?:.*/)?" ++ tail).tail = source := congrArg List.tail htail
    exact hpa (hinj ▸ rfl)
  have hdrop : (js "^" ++ source).drop 1 = source := rfl
  cases hread : readRegExp .atom source <;>
    simp only [newRegExp, hroot, hab, if_true, Bool.false_eq_true, if_false, hdrop, hread, Bool.false_and, Bool.or_false]

theorem newRegExp_rooted (engine : RegExpEngine) (glob : JsString) :
    newRegExp engine (js "^" ++ (globSource .read glob ++ js "$")) =
      match readGlob .unit glob with
      | .terms ts => .ok (accepts ts)
      | .syntaxError => .error (engine.rangeMessage (js "^" ++ (globSource .read glob ++ js "$")))
      | .foreign => engine.compile (js "^" ++ (globSource .read glob ++ js "$")) := by
  rw [newRegExp_anchored engine (fa_head_globSource glob (.inr rfl)), (readRegExp_globSource glob).1]

/-- The regular expression of a glob at any depth. -/
theorem newRegExp_floating (engine : RegExpEngine) (glob : JsString) :
    newRegExp engine (js "^(?:.*/)?" ++ (globSource .read glob ++ js "$")) =
      match readGlob .unit glob with
      | .terms ts => .ok fun text => accepts ts text || accepts (directoriesAbove ++ ts) text
      | .syntaxError => .error (engine.rangeMessage (js "^(?:.*/)?" ++ (globSource .read glob ++ js "$")))
      | .foreign => engine.compile (js "^(?:.*/)?" ++ (globSource .read glob ++ js "$")) := by
  have hbody := (readRegExp_globSource glob).1
  have hroot : (js "^").isPrefixOf (js "^(?:.*/)?" ++ (globSource .read glob ++ js "$")) = true := rfl
  have hab : (js "^(?:.*/)?").isPrefixOf (js "^(?:.*/)?" ++ (globSource .read glob ++ js "$")) = true :=
    List.isPrefixOf_iff_prefix.2 (List.prefix_append ..)
  have hdrop : (js "^(?:.*/)?" ++ (globSource .read glob ++ js "$")).drop 9 = globSource .read glob ++ js "$" := rfl
  cases hread : readGlob .unit glob <;>
    simp only [newRegExp, hroot, hab, if_true, hdrop, hbody, hread, Bool.true_and]

variable {glob : JsString} {names file : List FileName} {listing : Listing}

private theorem fa_newRegExp_anchoredSource (engine : RegExpEngine) (hhead : glob.head? ≠ some (unit '/')) :
    newRegExp engine (anchoredSource glob) =
      match readGlob .unit glob with
      | .terms ts => .ok fun text => accepts ts text || (decide (unit '/' ∉ glob) && accepts (directoriesAbove ++ ts) text)
      | .syntaxError => .error (engine.rangeMessage (anchoredSource glob))
      | .foreign => engine.compile (anchoredSource glob) := by
  by_cases hsl : unit '/' ∈ glob
  · have hsrc : anchoredSource glob = js "^" ++ (globSource .read glob ++ js "$") := by
      simp only [anchoredSource, hhead, if_false, false_or, rcloneGlobToRegexSource, if_pos hsl, List.append_assoc]
    rw [hsrc, newRegExp_rooted]
    cases readGlob .unit glob <;> simp only [hsl, not_true_eq_false, decide_false, Bool.false_and, Bool.or_false]
  have hsrc : anchoredSource glob = js "^(?:.*/)?" ++ (globSource .read glob ++ js "$") := by
    simp only [anchoredSource, hhead, if_false, false_or, rcloneGlobToRegexSource, if_neg hsl, List.append_assoc]
  rw [hsrc, newRegExp_floating]
  cases readGlob .unit glob <;> simp only [hsl, not_false_eq_true, decide_true, Bool.true_and]

theorem globReads_iff (engine : RegExpEngine) (path : JsString) (hhead : glob.head? ≠ some (unit '/')) :
    GlobReads engine glob path ↔ ∃ test, newRegExp engine (anchoredSource glob) = .ok test ∧ test path = true := by
  rw [fa_newRegExp_anchoredSource engine hhead, GlobReads]
  cases readGlob .unit glob with
  | terms ts | syntaxError => simp
  | foreign => exact Iff.rfl

def IgnoredEntry.Reads (engine : RegExpEngine) (entry : IgnoredEntry) (path : JsString) (isDirectory : Bool) : Prop :=
  if entry.isDirectory then isDirectory = true ∧ GlobReads engine entry.path path
  else
    -- the line is trimmed
    let pattern := entry.path.rdropWhile isSpaceUnit
    if pattern = [] then False
    else if isRegexPattern pattern then
      isDirectory = false ∧
        ∃ test, newRegExp engine (js "^(?:.*/)?" ++ regexOfPattern pattern ++ js "$") = .ok test ∧ test path = true
    else if pattern.getLast? = some (unit '/') then isDirectory = true ∧ GlobReads engine pattern.dropLast path
    else isDirectory = false ∧ GlobReads engine pattern path

def signOf (isInclude : Bool) : CodeUnit := if isInclude then unit '+' else unit '-'

theorem parse_signed (engine : RegExpEngine) (isInclude : Bool) {line : JsString} (raw : JsString)
    (htrim : trimJs line = signOf isInclude :: unit ' ' :: raw) (hraw : raw ≠ []) (path : JsString) (isDirectory : Bool) :
    (∀ rule, parseRcloneFilterRule engine line = .ok (some rule) → rule.isInclude = isInclude) ∧
    ((∃ rule, parseRcloneFilterRule engine line = .ok (some rule) ∧ rule.isMatch path isDirectory = true) ↔
      if isRegexPattern raw then
        isDirectory = false ∧ ∃ test, newRegExp engine (js "^(?:.*/)?" ++ regexOfPattern raw ++ js "$") = .ok test ∧ test path = true
      else if 1 < raw.length ∧ raw.getLast? = some (unit '/') then
        isDirectory = true ∧ ∃ test, newRegExp engine (anchoredSource raw.dropLast) = .ok test ∧ test path = true
      else isDirectory = false ∧ ∃ test, newRegExp engine (anchoredSource raw) = .ok test ∧ test path = true) := by
  have hcomm : ¬(some (signOf isInclude) = some (unit '#') ∨ some (signOf isInclude) = some (unit ';')) := by
    cases isInclude <;> decide
  have hsign : ¬(some (signOf isInclude) ≠ some (unit '-') ∧ some (signOf isInclude) ≠ some (unit '+')) := by
    cases isInclude <;> decide
  have hincl : (some (signOf isInclude) == some (unit '+')) = isInclude := by
    cases isInclude <;> decide
  have hsp : ¬((signOf isInclude :: unit ' ' :: raw)[1]? ≠ some (unit ' ')) := fun h => h rfl
  have hdrop : (signOf isInclude :: unit ' ' :: raw).drop 2 = raw := rfl
  simp only [parseRcloneFilterRule, htrim, List.head?_cons, reduceCtorEq, if_false, if_neg hcomm, if_neg hsign,
    if_neg hsp, hdrop, if_neg hraw, hincl]
  by_cases hre : isRegexPattern raw = true
  · simp only [if_pos hre]
    cases newRegExp engine (js "^(?:.*/)?" ++ regexOfPattern raw ++ js "$") with
    | error message | ok test => simp
  simp only [if_neg hre]
  by_cases hdir : 1 < raw.length ∧ raw.getLast? = some (unit '/')
  · have hflag : (decide (1 < raw.length) && raw.getLast? == some (unit '/')) = true := by simpa using hdir
    simp only [hflag, if_true, if_pos hdir]
    cases newRegExp engine (anchoredSource raw.dropLast) with
    | error message | ok test => simp
  have hflag : (decide (1 < raw.length) && raw.getLast? == some (unit '/')) = false := by
    rw [Bool.eq_false_iff]
    simpa using hdir
  simp only [hflag, Bool.false_eq_true, if_false, if_neg hdir]
  cases newRegExp engine (anchoredSource raw) with
  | error message | ok test => simp

private theorem fa_head_initial {p q : JsString} {c : CodeUnit} (hin : p <+: q) (hq : q.head? ≠ some c) :
    p.head? ≠ some c := by
  cases p with
  | nil => nofun
  | cons a p =>
    obtain ⟨t, rfl⟩ := hin
    exact hq

private theorem fa_trim_line (text : JsString) : trimJs (js "- " ++ text) =
    if text.rdropWhile isSpaceUnit = [] then js "-" else js "- " ++ text.rdropWhile isSpaceUnit := by
  have hst : (js "- " ++ text).dropWhile isSpaceUnit = js "- " ++ text := by
    show (unit '-' :: unit ' ' :: text).dropWhile isSpaceUnit = _
    rw [List.dropWhile_cons_of_neg (by decide)]
    rfl
  rw [trimJs, hst, List.rdropWhile, List.reverse_append, List.dropWhile_append]
  by_cases hbl : text.rdropWhile isSpaceUnit = []
  · have hem : text.reverse.dropWhile isSpaceUnit = [] := List.reverse_eq_nil_iff.1 hbl
    rw [if_pos hbl, hem]
    decide
  have hem : ¬(text.reverse.dropWhile isSpaceUnit).isEmpty = true := by
    rw [List.isEmpty_iff]
    exact fun h => hbl (List.reverse_eq_nil_iff.2 h)
  rw [if_neg hbl, if_neg hem, List.reverse_append, List.reverse_reverse]
  rfl

private theorem fa_rule (engine : RegExpEngine) {entry : IgnoredEntry} (hpath : entry.path ≠ [])
    (hhead : entry.path.head? ≠ some (unit '/')) (path : JsString) (isDirectory : Bool) :
    (∀ rule, parseRcloneFilterRule engine entry.rule = .ok (some rule) → rule.isInclude = false) ∧
    ((∃ rule, parseRcloneFilterRule engine entry.rule = .ok (some rule) ∧ rule.isMatch path isDirectory = true) ↔
      entry.Reads engine path isDirectory) := by
  cases hkind : entry.isDirectory with
  | true =>
    have hline : entry.rule = js "- " ++ (entry.path ++ js "/") := by
      rw [IgnoredEntry.rule, if_pos hkind, List.append_assoc]
    have hkeep : (entry.path ++ js "/").rdropWhile isSpaceUnit = entry.path ++ js "/" :=
      List.rdropWhile_concat_neg _ _ _ (by decide)
    have htrim : trimJs entry.rule = js "- " ++ (entry.path ++ js "/") := by
      rw [hline, fa_trim_line, hkeep, if_neg (by simp [js])]
    have hre : ¬isRegexPattern (entry.path ++ js "/") = true := by
      intro h
      have hsuf : js "\x7d\x7d" <:+ entry.path ++ js "/" := by
        rw [isRegexPattern, Bool.and_eq_true, Bool.and_eq_true] at h
        exact List.isSuffixOf_iff_suffix.1 h.1.2
      have hlast := hsuf.getLast (by decide)
      rw [List.getLast_append_of_ne_nil _ (by decide)] at hlast
      exact absurd hlast (by decide)
    have hsl : 1 < (entry.path ++ js "/").length ∧ (entry.path ++ js "/").getLast? = some (unit '/') := by
      refine ⟨?_, List.getLast?_concat⟩
      have := List.length_pos_iff.2 hpath
      rw [List.length_append, show (js "/").length = 1 from rfl]
      omega
    obtain ⟨hexcl, hm⟩ := parse_signed engine false (entry.path ++ js "/") htrim (by simp [js]) path isDirectory
    refine ⟨hexcl, hm.trans ?_⟩
    have hdrop : (entry.path ++ js "/").dropLast = entry.path := List.dropLast_concat
    rw [if_neg hre, if_pos hsl, hdrop, ← globReads_iff engine path hhead, IgnoredEntry.Reads, if_pos hkind]
  | false =>
    have hkind' : ¬entry.isDirectory = true := by rw [hkind]; decide
    have hline : entry.rule = js "- " ++ entry.path := by rw [IgnoredEntry.rule, if_neg hkind']
    by_cases hbl : entry.path.rdropWhile isSpaceUnit = []
    · -- nothing is left of the path, so the line is not a rule
      have htrim : trimJs entry.rule = js "-" := by rw [hline, fa_trim_line, if_pos hbl]
      have hpar (rule : RcloneFilterRule) : parseRcloneFilterRule engine entry.rule ≠ .ok (some rule) := by
        unfold parseRcloneFilterRule
        rw [htrim]
        simp only [if_neg (show ¬js "-" = [] by decide),
          if_neg (show ¬((js "-").head? = some (unit '#') ∨ (js "-").head? = some (unit ';')) by decide),
          if_neg (show ¬((js "-").head? ≠ some (unit '-') ∧ (js "-").head? ≠ some (unit '+')) by decide),
          if_pos (show (js "-")[1]? ≠ some (unit ' ') by decide)]
        nofun
      rw [IgnoredEntry.Reads, if_neg hkind', if_pos hbl]
      refine ⟨fun rule h => absurd h (hpar rule), ?_, nofun⟩
      rintro ⟨rule, h, -⟩
      exact absurd h (hpar rule)
    · have htrim : trimJs entry.rule = js "- " ++ entry.path.rdropWhile isSpaceUnit := by
        rw [hline, fa_trim_line, if_neg hbl]
      have hhead' := fa_head_initial (List.rdropWhile_prefix isSpaceUnit (l := entry.path)) hhead
      obtain ⟨hexcl, hm⟩ := parse_signed engine false (entry.path.rdropWhile isSpaceUnit) htrim hbl path isDirectory
      refine ⟨hexcl, hm.trans ?_⟩
      rw [IgnoredEntry.Reads, if_neg hkind', if_neg hbl]
      -- a single slash would be the path's first unit
      have hlen : 1 < (entry.path.rdropWhile isSpaceUnit).length ∧
          (entry.path.rdropWhile isSpaceUnit).getLast? = some (unit '/') ↔
            (entry.path.rdropWhile isSpaceUnit).getLast? = some (unit '/') := by
        refine and_iff_right_of_imp fun hlast => ?_
        cases hpa : entry.path.rdropWhile isSpaceUnit with
        | nil => exact absurd hpa hbl
        | cons c rest =>
          rw [hpa] at hlast hhead'
          cases rest with
          | nil => exact absurd hlast hhead'
          | cons d rest =>
            rw [List.length_cons, List.length_cons]
            omega
      split
      · exact Iff.rfl
      simp only [hlen]
      split
      · rw [globReads_iff engine path (fa_head_initial (List.dropLast_prefix _) hhead')]
      · rw [globReads_iff engine path hhead']

theorem pathParts_relPath (names : List FileName) : pathParts (relPath names) = names.map FileName.units := by
  cases names with
  | nil => decide
  | cons name names =>
    have hsl : ∀ part ∈ (name :: names).map FileName.units, unit '/' ∉ part :=
      List.forall_mem_map.2 fun n _ => n.noSlash
    have hne : ∀ part ∈ (name :: names).map FileName.units, (!part.isEmpty) = true := by
      refine List.forall_mem_map.2 fun n _ => ?_
      rw [Bool.not_eq_true', List.isEmpty_eq_false_iff]
      exact n.nonempty
    rw [pathParts, relPath, joinPath, List.splitOn_intercalate _ hsl (by simp)]
    exact List.filter_eq_self.2 hne

theorem relPath_injective : Function.Injective relPath := by
  intro names others h
  have hpt : names.map FileName.units = others.map FileName.units := by
    rw [← pathParts_relPath, ← pathParts_relPath, h]
  refine List.map_injective_iff.2 ?_ hpt
  intro a b hun
  cases a
  cases b
  cases hun
  rfl

private theorem fa_relPath_ne_nil (h : names ≠ []) : relPath names ≠ [] := by
  intro hnil
  exact h (relPath_injective (hnil.trans (by decide : [] = relPath [])))

private theorem fa_relPath_ne_dot (names : List FileName) : relPath names ≠ js "." := by
  intro hdot
  have hpt : names.map FileName.units = [js "."] := by
    rw [← pathParts_relPath, hdot]
    decide
  obtain ⟨name, hname, hun⟩ : ∃ name ∈ names, name.units = js "." := by
    rw [← List.mem_map, hpt]
    exact .head _
  exact name.notDot hun

private theorem fa_relPath_head (names : List FileName) : (relPath names).head? ≠ some (unit '/') := by
  cases names with
  | nil => decide
  | cons name names =>
    have hun : name.units <+: relPath (name :: names) := by
      cases names with
      | nil => exact ⟨[], by simp [relPath, joinPath]⟩
      | cons other names => exact ⟨js "/" ++ relPath (other :: names), by simp [relPath, joinPath, js]⟩
    obtain ⟨c, rest, hcons⟩ := List.exists_cons_of_ne_nil name.nonempty
    obtain ⟨tail, htail⟩ := hun
    rw [← htail, hcons]
    intro h
    refine name.noSlash ?_
    rw [hcons, ← Option.some.inj h]
    exact .head _

def withDirectories (names : List FileName) : List (List FileName × Bool) :=
  (List.range names.length).map fun i => (names.take (i + 1), decide (i + 1 < names.length))

theorem universePathIncluded_relPath (includes : JsString → Bool → Bool) (h : names ≠ []) :
    universePathIncluded includes (relPath names) false = true ↔
      ∀ item ∈ withDirectories names, includes (relPath item.1) item.2 = true := by
  have hroot : ¬(relPath names = [] ∨ relPath names = js ".") :=
    not_or.2 ⟨fa_relPath_ne_nil h, fa_relPath_ne_dot names⟩
  rw [universePathIncluded, if_neg hroot, pathParts_relPath, List.all_eq_true, withDirectories, List.forall_mem_map,
    List.length_map]
  refine forall₂_congr fun i hi => ?_
  rw [List.mem_range] at hi
  have hflag : (if i + 1 = names.length then false else true) = decide (i + 1 < names.length) := by
    split <;> simp <;> omega
  rw [hflag, ← List.map_take]
  rfl

/-- The tree has an entry at this path. -/
inductive Listing.Holds : Listing → List FileName → Bool → Prop where
  | file {name content rest} : Holds (.file name content rest) [name] false
  | dir {name entries rest} : Holds (.dir name entries rest) [name] true
  | inside {name entries rest names isDirectory} :
    Holds entries names isDirectory → Holds (.dir name entries rest) (name :: names) isDirectory
  | behindFile {name content rest names isDirectory} :
    Holds rest names isDirectory → Holds (.file name content rest) names isDirectory
  | behindDir {name entries rest names isDirectory} :
    Holds rest names isDirectory → Holds (.dir name entries rest) names isDirectory

def ignoresAt (evaluator : GitignoreEvaluator) (isDirectory : Bool) (above : List FileName) : List FileName → Bool
  | [] => false
  | [name] =>
    if isDirectory then decide (name.units ≠ gitName) && evaluator.isIgnoredDir (relPath (above ++ [name]))
    else evaluator.isIgnored (relPath (above ++ [name]))
  | name :: other :: names =>
    decide (name.units ≠ gitName) && !evaluator.isIgnoredDir (relPath (above ++ [name])) &&
      ignoresAt evaluator isDirectory (above ++ [name]) (other :: names)

private theorem fa_holds_ne_nil {isDirectory : Bool}
    (h : listing.Holds names isDirectory) : names ≠ [] := by
  induction h with
  | file | dir | inside => nofun
  | behindFile _ ih | behindDir _ ih => exact ih

theorem mem_walk (evaluator : GitignoreEvaluator) (listing : Listing) (above : List FileName) (entry : IgnoredEntry) :
    entry ∈ walk evaluator above listing ↔
      ∃ names, entry.names = above ++ names ∧ listing.Holds names entry.isDirectory ∧
        ignoresAt evaluator entry.isDirectory above names = true := by
  induction listing generalizing above with
  | nil =>
    constructor
    · nofun
    · rintro ⟨names, -, hh, -⟩
      cases hh
  | file name content rest ih =>
    rw [walk, List.mem_append, ih above]
    constructor
    · rintro (hmem | ⟨names, hn, hh, hign⟩)
      · split at hmem
        · rename_i hign
          obtain rfl := List.mem_singleton.1 hmem
          exact ⟨[name], rfl, .file, hign⟩
        · cases hmem
      · exact ⟨names, hn, .behindFile hh, hign⟩
    · rintro ⟨names, hn, hh, hign⟩
      obtain ⟨entryNames, isDirectory⟩ := entry
      cases hh with
      | file =>
        left
        have hfile : evaluator.isIgnored (relPath (above ++ [name])) = true := hign
        rw [if_pos hfile]
        exact List.mem_singleton.2 (congrArg (IgnoredEntry.mk · false) hn)
      | behindFile hh => exact .inr ⟨names, hn, hh, hign⟩
  | dir name entries rest ihentries ihrest =>
    rw [walk, List.mem_append, ihrest above]
    constructor
    · rintro (hmem | ⟨names, hn, hh, hign⟩)
      · split at hmem
        · cases hmem
        rename_i hgit
        split at hmem
        · rename_i hign
          obtain rfl := List.mem_singleton.1 hmem
          refine ⟨[name], rfl, .dir, ?_⟩
          simp only [ignoresAt, if_true, hign, Bool.and_true]
          exact decide_eq_true hgit
        rename_i hkept
        obtain ⟨names, hn, hh, hign⟩ := (ihentries (above ++ [name])).1 hmem
        refine ⟨name :: names, by rw [hn, List.append_assoc]; rfl, .inside hh, ?_⟩
        obtain ⟨other, names, rfl⟩ := List.exists_cons_of_ne_nil (fa_holds_ne_nil hh)
        simp only [ignoresAt, hign, Bool.and_true, Bool.and_eq_true, Bool.not_eq_true']
        exact ⟨decide_eq_true hgit, Bool.eq_false_iff.2 hkept⟩
      · exact ⟨names, hn, .behindDir hh, hign⟩
    · rintro ⟨names, hn, hh, hign⟩
      obtain ⟨entryNames, isDirectory⟩ := entry
      cases hh with
      | dir =>
        left
        simp only [ignoresAt, if_true, Bool.and_eq_true, decide_eq_true_eq] at hign
        rw [if_neg hign.1, if_pos hign.2]
        exact List.mem_singleton.2 (congrArg (IgnoredEntry.mk · true) hn)
      | inside hh =>
        left
        rename_i names
        obtain ⟨other, names, rfl⟩ := List.exists_cons_of_ne_nil (fa_holds_ne_nil hh)
        simp only [ignoresAt, Bool.and_eq_true, decide_eq_true_eq, Bool.not_eq_true'] at hign
        obtain ⟨⟨hgit, hkept⟩, hign⟩ := hign
        rw [if_neg hgit, if_neg (by rw [hkept]; decide), ihentries (above ++ [name])]
        exact ⟨other :: names, by rw [hn, List.append_assoc]; rfl, hh, hign⟩
      | behindDir hh => exact .inr ⟨names, hn, hh, hign⟩

def Listing.Ignores (env : GitignoreEnv) (root : Listing) (entry : IgnoredEntry) : Prop :=
  root.Holds entry.names entry.isDirectory ∧ ignoresAt (buildMatcher env root) entry.isDirectory [] entry.names = true

theorem mem_ignoredEntries (env : GitignoreEnv) (root : Listing) (entry : IgnoredEntry) :
    entry ∈ ignoredEntries env root ↔ root.Ignores env entry := by
  rw [ignoredEntries, mem_walk]
  constructor
  · rintro ⟨names, hn, hh, hign⟩
    obtain rfl : entry.names = names := hn
    exact ⟨hh, hign⟩
  · rintro ⟨hh, hign⟩
    exact ⟨entry.names, rfl, hh, hign⟩

def IgnoredEntry.Above (entry : IgnoredEntry) (file : List FileName) : Prop :=
  (entry.names, entry.isDirectory) ∈ withDirectories file

def IgnoredEntry.ReadsAbove (engine : RegExpEngine) (entry : IgnoredEntry) (file : List FileName) : Prop :=
  ∃ item ∈ withDirectories file, entry.Reads engine (relPath item.1) item.2

def FoundIgnored (env : GitignoreEnv) (root : Listing) (file : List FileName) : Prop :=
  ∃ entry ∈ ignoredEntries env root, entry.Above file

def snapshotIncludes (env : GitignoreEnv) (engine : RegExpEngine) (root : Listing) (file : List FileName) : Bool :=
  universePathIncluded (compileRcloneFilterRules engine (buildRcloneFilterSnapshot env root).rules).includes (relPath file)
    false

structure NamesAgree (env : GitignoreEnv) (engine : RegExpEngine) (root : Listing) : Prop where
  apart : ∀ file ∈ root.filePaths, ∀ entry, root.Ignores env entry → entry.ReadsAbove engine file →
    ∃ other, root.Ignores env other ∧ other.Above file
  covered : ∀ file ∈ root.filePaths, ∀ entry, root.Ignores env entry → entry.Above file →
    ∃ other, root.Ignores env other ∧ other.ReadsAbove engine file

private theorem fa_parsed {parsed : Except JsString (Option RcloneFilterRule)} {rule : RcloneFilterRule}
    (h : (match parsed with
      | .ok rule => rule
      | .error _ => none) = some rule) : parsed = .ok (some rule) := by
  cases parsed with
  | error reason => cases h
  | ok found => exact congrArg Except.ok h

private theorem fa_includes (env : GitignoreEnv) (engine : RegExpEngine) (root : Listing) {path : JsString} (hpath : path ≠ [])
    (isDirectory : Bool) :
    (compileRcloneFilterRules engine (buildRcloneFilterSnapshot env root).rules).includes path isDirectory = true ↔
      ∀ entry ∈ ignoredEntries env root, ¬entry.Reads engine path isDirectory := by
  have hrule {entry : IgnoredEntry} (hmem : entry ∈ ignoredEntries env root) := by
    obtain ⟨hh, -⟩ := (mem_ignoredEntries env root entry).1 hmem
    exact fa_rule engine (fa_relPath_ne_nil (fa_holds_ne_nil hh)) (fa_relPath_head entry.names) path isDirectory
  simp only [compileRcloneFilterRules, if_neg hpath, buildRcloneFilterSnapshot]
  constructor
  · intro hincl entry hmem hrd
    obtain ⟨rule, hpa, hm⟩ := (hrule hmem).2.2 hrd
    split at hincl
    · rename_i found hf
      obtain ⟨_, hline, hok⟩ := List.mem_filterMap.1 (List.mem_of_find?_eq_some hf)
      obtain ⟨_, hpr, rfl⟩ := List.mem_map.1 hline
      obtain ⟨other, ho, rfl⟩ := List.mem_map.1 hpr
      rw [(hrule ho).1 found (fa_parsed hok)] at hincl
      cases hincl
    · rename_i hnone
      have hline := @List.mem_map_of_mem _ _ _ _ (parseRcloneFilterRule engine) (@List.mem_map_of_mem _ _ _ _ IgnoredEntry.rule hmem)
      exact List.find?_eq_none.1 hnone rule (List.mem_filterMap.2 ⟨_, hline, by rw [hpa]⟩) hm
  · intro hnone
    split
    · rename_i found hf
      obtain ⟨_, hline, hok⟩ := List.mem_filterMap.1 (List.mem_of_find?_eq_some hf)
      obtain ⟨_, hpr, rfl⟩ := List.mem_map.1 hline
      obtain ⟨entry, he, rfl⟩ := List.mem_map.1 hpr
      have hm := @List.find?_some _ (fun rule : RcloneFilterRule => rule.isMatch path isDirectory) _ _ hf
      exact absurd ((hrule he).2.1 ⟨found, fa_parsed hok, hm⟩) (hnone entry he)
    · rfl

theorem Listing.filePaths_ne_nil (h : file ∈ listing.filePaths) : file ≠ [] := by
  induction listing generalizing file with
  | nil => cases h
  | file name content rest ih =>
    rcases List.mem_cons.1 h with rfl | h
    · nofun
    · exact ih h
  | dir name entries rest ihentries ihrest =>
    rcases List.mem_append.1 h with h | h
    · obtain ⟨names, -, rfl⟩ := List.mem_map.1 h
      nofun
    · exact ihrest h

theorem snapshotIncludes_iff (env : GitignoreEnv) (engine : RegExpEngine) (root : Listing)
    (h : file ∈ root.filePaths) :
    snapshotIncludes env engine root file = true ↔ ∀ entry, root.Ignores env entry → ¬entry.ReadsAbove engine file := by
  rw [snapshotIncludes, universePathIncluded_relPath _ (Listing.filePaths_ne_nil h)]
  have hitem {item : List FileName × Bool} (hmem : item ∈ withDirectories file) : relPath item.1 ≠ [] := by
    obtain ⟨i, hi, rfl⟩ := List.mem_map.1 hmem
    refine fa_relPath_ne_nil fun hnil => ?_
    rcases List.take_eq_nil_iff.1 hnil with h0 | h0
    · cases h0
    · exact Listing.filePaths_ne_nil h h0
  constructor
  · rintro hall entry hig ⟨item, hmem, hrd⟩
    exact (fa_includes env engine root (hitem hmem) item.2).1 (hall item hmem) entry
      ((mem_ignoredEntries env root entry).2 hig) hrd
  intro hnone item hmem
  refine (fa_includes env engine root (hitem hmem) item.2).2 fun entry he hrd => ?_
  exact hnone entry ((mem_ignoredEntries env root entry).1 he) ⟨item, hmem, hrd⟩

/-- The compiled snapshot includes exactly the files that the walk did not find ignored when, read as patterns, the paths
of ignored entries agree with themselves. -/
theorem filter_universe_agrees_iff (env : GitignoreEnv) (engine : RegExpEngine) (root : Listing) :
    (∀ file ∈ root.filePaths, snapshotIncludes env engine root file = true ↔ ¬FoundIgnored env root file) ↔
      NamesAgree env engine root := by
  have hf (file : List FileName) :
      FoundIgnored env root file ↔ ∃ entry, root.Ignores env entry ∧ entry.Above file :=
    exists_congr fun entry => and_congr_left fun _ => mem_ignoredEntries env root entry
  constructor
  · intro hag
    constructor
    · intro file hfile entry hig hrd
      rw [← hf]
      by_contra hnot
      exact (snapshotIncludes_iff env engine root hfile).1 ((hag file hfile).2 hnot) entry hig hrd
    intro file hfile entry hig hab
    by_contra hnone
    have hincl := (snapshotIncludes_iff env engine root hfile).2 fun other ho hrd =>
      hnone ⟨other, ho, hrd⟩
    exact (hag file hfile).1 hincl ((hf file).2 ⟨entry, hig, hab⟩)
  · intro hn file hfile
    rw [snapshotIncludes_iff env engine root hfile, hf]
    constructor
    · rintro hnone ⟨entry, hig, hab⟩
      obtain ⟨other, ho, hrd⟩ := hn.covered file hfile entry hig hab
      exact hnone other ho hrd
    · intro hnot entry hig hrd
      exact hnot (hn.apart file hfile entry hig hrd)

section Namesakes

private def fa_name (text : String) (h : js text ≠ [] ∧ unit '/' ∉ js text ∧ js text ≠ js "." ∧ js text ≠ js "..") : FileName :=
  ⟨js text, h.1, h.2.1, h.2.2.1, h.2.2.2⟩

def namesakeTree : Listing :=
  .file (fa_name ".gitignore" (by decide)) (js "/a.txt\n") <|
  .file (fa_name "a.txt" (by decide)) [] <|
  .dir (fa_name "sub" (by decide)) (.file (fa_name "a.txt" (by decide)) [] .nil) .nil

def anchoredOnly : GitignoreEnv where
  ignores patterns path := patterns.any fun pattern => pattern == js "/" ++ path
  globalExcludes := none
  sha256 _ := ""

def noEngine : RegExpEngine := ⟨fun _ => .error [], fun _ => []⟩

/-- The rule for the root's file excludes the other one too. -/
theorem namesake_is_excluded : ∃ file ∈ namesakeTree.filePaths,
    ¬FoundIgnored anchoredOnly namesakeTree file ∧ snapshotIncludes anchoredOnly noEngine namesakeTree file = false := by
  refine ⟨[fa_name "sub" (by decide), fa_name "a.txt" (by decide)], by decide, ?_, by decide +kernel⟩
  rintro ⟨entry, he, hab⟩
  have hents : ignoredEntries anchoredOnly namesakeTree = [⟨[fa_name "a.txt" (by decide)], false⟩] := by rfl
  rw [hents] at he
  obtain rfl := List.mem_singleton.1 he
  revert hab
  unfold IgnoredEntry.Above
  decide

end Namesakes

end LamaSync
