import LamaSync.Daemon.Gitignore

/-!
# Nested patterns

A pattern of a nested `.gitignore` gets its directory in front (`prefixPattern`), and the result is read as a pattern of the
root.  A pattern without a slash means every level below its directory, and with the directory in front it has a slash and
means one level; and the name of the directory is read as a pattern then.  `nested_pattern_iff` says for which lines and
which directories the two patterns match the same paths.

What one part of a pattern does with one name is a parameter.
-/

namespace LamaSync

/-- A pattern line without its marks. -/
structure GitPattern where
  negated : Bool
  directoryOnly : Bool
  /-- A slash at the beginning or in the middle ties the pattern to its directory. -/
  anchored : Bool
  parts : List JsString
  deriving DecidableEq

def dropLeadingSlash (text : JsString) : JsString := if text.head? = some (unit '/') then text.tail else text

def dropTrailingSlash (text : JsString) : JsString := if text.getLast? = some (unit '/') then text.dropLast else text

/-- A line behind its sign; no pattern when nothing is left of it. -/
def parseGitBody (negated : Bool) (body : JsString) : Option GitPattern :=
  if dropTrailingSlash body = [] then none
  else some {
    negated := negated
    directoryOnly := decide (body.getLast? = some (unit '/'))
    anchored := decide (unit '/' ∈ dropTrailingSlash body)
    parts := (dropLeadingSlash (dropTrailingSlash body)).splitOn (unit '/') }

def parseGitPattern (line : JsString) : Option GitPattern :=
  if line.head? = some (unit '#') then none
  else if line.head? = some (unit '!') then parseGitBody true line.tail
  else parseGitBody false line

section Match

-- whether a part of a pattern matches a name, by its stars, question marks and classes
variable (wild : JsString → JsString → Bool)

def matchParts : List JsString → List FileName → Bool
  | [], names => names.isEmpty
  | part :: parts, names =>
    if part = js "**" then
      if parts.isEmpty then !names.isEmpty else names.tails.any fun rest => matchParts parts rest
    else
      match names with
      | [] => false
      | name :: names => wild part name.units && matchParts parts names

def GitPattern.isMatch (pattern : GitPattern) (path : List FileName) (isDirectory : Bool) : Bool :=
  (!pattern.directoryOnly || isDirectory) &&
    if pattern.anchored then matchParts wild pattern.parts path
    else
      match path.getLast?, pattern.parts with
      | some name, part :: _ => wild part name.units
      | _, _ => false

def gitVerdict (line : JsString) (path : List FileName) (isDirectory : Bool) : Option Bool :=
  (parseGitPattern line).bind fun pattern =>
    if pattern.isMatch wild path isDirectory then some (!pattern.negated) else none

/-- The prefixed line says of the paths below the directory what the line says of them there, and nothing of others. -/
def ScopedToBase (pattern : JsString) (base : List FileName) : Prop :=
  ∀ path isDirectory ignored, gitVerdict wild (prefixPattern pattern (relPath base)) path isDirectory = some ignored ↔
    ∃ inside, path = base ++ inside ∧ gitVerdict wild pattern inside isDirectory = some ignored

def Matchless (line : JsString) : Prop := ∀ path isDirectory, gitVerdict wild line path isDirectory = none

/-- Read as a pattern, every name of the directory matches itself and no other name. -/
def LiteralBase (base : List FileName) : Prop := ∀ name ∈ base, ∀ other : FileName, wild name.units other.units = true ↔ other = name

def bareLine (pattern : JsString) (base : List FileName) : JsString :=
  (if pattern.head? = some (unit '!') then js "!" else []) ++ relPath base ++ js "/"

/-- The name of the directory does not read as a sign or a comment. -/
def SignKept (pattern : JsString) (base : List FileName) : Prop :=
  pattern.head? = some (unit '!') ∨ ((relPath base).head? ≠ some (unit '!') ∧ (relPath base).head? ≠ some (unit '#'))

/-- The line has a slash that is not its last character, or is `**`. -/
def ScopedPattern (pattern : JsString) : Prop :=
  ∃ parsed, parseGitPattern pattern = some parsed ∧ (parsed.anchored = true ∨ parsed.parts = [js "**"])

/-- The line is of the root; or it matches nothing, and if it is empty the directory alone matches nothing; or it is a
pattern with an inner or a leading slash, or `**`, in a directory whose name reads as itself. -/
def PrefixHolds (pattern : JsString) (base : List FileName) : Prop :=
  base = [] ∨ (Matchless wild pattern ∧ (parseGitPattern pattern = none → Matchless wild (bareLine pattern base))) ∨
    (LiteralBase wild base ∧ SignKept pattern base ∧ ScopedPattern pattern)

variable {wild} {parts : List JsString} {base path : List FileName}

theorem matchParts_stars : matchParts wild (js "**" :: parts) path =
    if parts.isEmpty then !path.isEmpty else path.tails.any fun rest => matchParts wild parts rest := by
  rw [matchParts.eq_def]
  exact if_pos rfl

variable {part line : JsString} {parsed prefixed : GitPattern} {isDirectory : Bool}

theorem matchParts_name (h : part ≠ js "**") (name : FileName) :
    matchParts wild (part :: parts) (name :: path) = (wild part name.units && matchParts wild parts path) := by
  rw [matchParts.eq_def]
  exact if_neg h

theorem matchParts_name_nil (h : part ≠ js "**") : matchParts wild (part :: parts) [] = false := by
  rw [matchParts.eq_def]
  exact if_neg h

theorem matchParts_nil (h : parts ≠ []) : matchParts wild parts [] = false := by
  induction parts with
  | nil => exact absurd rfl h
  | cons part parts ih =>
    by_cases hpart : part = js "**"
    · rw [hpart, matchParts_stars]
      split
      · rfl
      rename_i hpt
      rw [List.isEmpty_iff] at hpt
      simpa using ih hpt
    · exact matchParts_name_nil hpart

theorem matchParts_stars_cons (name : FileName) (h : matchParts wild (js "**" :: parts) path = true) :
    matchParts wild (js "**" :: parts) (name :: path) = true := by
  rw [matchParts_stars] at h ⊢
  split
  · rfl
  rename_i hpt
  rw [if_neg hpt, List.any_eq_true] at h
  obtain ⟨rest, hrest, hm⟩ := h
  rw [List.any_eq_true]
  exact ⟨rest, by simpa using .inr (by simpa using hrest), hm⟩

theorem matchParts_append (above : List JsString) (hpt : parts ≠ []) (h : matchParts wild (above ++ parts) path = true) :
    ∃ inside, matchParts wild parts inside = true := by
  induction above generalizing path with
  | nil => exact ⟨path, h⟩
  | cons part above ih =>
    rw [List.cons_append] at h
    by_cases hpart : part = js "**"
    · rw [hpart, matchParts_stars] at h
      split at h
      · rename_i hnil
        simp [hpt] at hnil
      · obtain ⟨rest, -, hrest⟩ := List.any_eq_true.mp h
        exact ih hrest
    · cases path with
      | nil =>
        rw [matchParts_name_nil hpart] at h
        cases h
      | cons name path =>
        rw [matchParts_name hpart, Bool.and_eq_true] at h
        exact ih h.2

theorem exists_ne (name : FileName) : ∃ other : FileName, other ≠ name := by
  by_cases h : name.units = js "a"
  · refine ⟨⟨js "b", by decide, by decide, by decide, by decide⟩, ?_⟩
    rintro rfl
    exact absurd h (by decide)
  refine ⟨⟨js "a", by decide, by decide, by decide, by decide⟩, ?_⟩
  rintro rfl
  exact h rfl

section Stars

variable (hstars : ∀ name : FileName, wild (js "**") name.units = true)

include hstars

theorem LiteralBase.ne_stars (h : LiteralBase wild base) : ∀ name ∈ base, name.units ≠ js "**" := by
  intro name hname hun
  obtain ⟨other, ho⟩ := exists_ne name
  refine ho ((h name hname other).mp ?_)
  rw [hun]
  exact hstars other

theorem matchParts_literal (hli : LiteralBase wild base) :
    matchParts wild (base.map FileName.units ++ parts) path = true ↔
      ∃ inside, path = base ++ inside ∧ matchParts wild parts inside = true := by
  have hne := hli.ne_stars hstars
  induction base generalizing path with
  | nil => simp
  | cons name base ih =>
    have hrest : LiteralBase wild base := fun other ho => hli other (.tail _ ho)
    rw [List.map_cons, List.cons_append]
    cases path with
    | nil => simp [matchParts_name_nil (hne name (.head _))]
    | cons first path =>
      rw [matchParts_name (hne name (.head _))]
      simp only [Bool.and_eq_true, hli name (.head _) first,
        ih hrest fun other ho => hne other (.tail _ ho)]
      constructor
      · rintro ⟨rfl, inside, rfl, hin⟩
        exact ⟨inside, rfl, hin⟩
      rintro ⟨inside, hpath, hin⟩
      rw [List.cons_append, List.cons.injEq] at hpath
      exact ⟨hpath.1, inside, hpath.2, hin⟩

omit hstars

theorem literalBase_of_matchParts {inside : List FileName}
    (hm : matchParts wild (base.map FileName.units ++ parts) (base ++ inside) = true)
    (hsc : ∀ path, matchParts wild (base.map FileName.units ++ parts) path = true → base <+: path) :
    LiteralBase wild base := by
  induction base with
  | nil => exact fun name hname => absurd hname List.not_mem_nil
  | cons name base ih =>
    simp only [List.map_cons, List.cons_append] at hm hsc
    by_cases hun : name.units = js "**"
    · obtain ⟨other, ho⟩ := exists_ne name
      rw [hun] at hm hsc
      have hst := hsc _ (matchParts_stars_cons other hm)
      exact absurd (List.cons_prefix_cons.mp hst).1.symm ho
    rw [matchParts_name hun, Bool.and_eq_true] at hm
    have hcons : ∀ other path, wild name.units other.units = true →
        matchParts wild (base.map FileName.units ++ parts) path = true → other = name ∧ base <+: path := by
      intro other path ho hpath
      have hst := hsc (other :: path) (by rw [matchParts_name hun, ho, hpath, Bool.and_self])
      exact ⟨(List.cons_prefix_cons.mp hst).1.symm, (List.cons_prefix_cons.mp hst).2⟩
    refine List.forall_mem_cons.mpr ⟨fun other => ⟨fun ho => (hcons other _ ho hm.2).1, ?_⟩, ?_⟩
    · rintro rfl
      exact hm.1
    · exact ih hm.2 fun path hpath => (hcons name path hm.1 hpath).2

end Stars

variable {pattern text rest : JsString} {negated : Bool}

theorem head_dropLeadingSlash (h : text.head? ≠ some (unit '/')) : dropLeadingSlash text = text := if_neg h

theorem dropTrailingSlash_append (hrest : rest ≠ []) : dropTrailingSlash (text ++ rest) = text ++ dropTrailingSlash rest := by
  unfold dropTrailingSlash
  rw [List.getLast?_append_of_ne_nil _ hrest]
  split
  · exact List.dropLast_append_of_ne_nil hrest
  · rfl

theorem dropTrailingSlash_cons (c : CodeUnit) (hrest : rest ≠ []) : dropTrailingSlash (c :: rest) = c :: dropTrailingSlash rest :=
  @dropTrailingSlash_append [c] rest hrest

def partsAbove (text : JsString) : List JsString := if text = [] then [] else (dropLeadingSlash text).splitOn (unit '/')

theorem parseGitBody_slash (hrest : rest ≠ []) :
    parseGitBody negated (text ++ unit '/' :: rest) =
      some ⟨negated, decide (rest.getLast? = some (unit '/')), true, partsAbove text ++ (dropTrailingSlash rest).splitOn (unit '/')⟩ := by
  have hdrop : dropTrailingSlash (text ++ unit '/' :: rest) = text ++ unit '/' :: dropTrailingSlash rest := by
    rw [dropTrailingSlash_append (by simp), dropTrailingSlash_cons _ hrest]
  have hlast : (text ++ unit '/' :: rest).getLast? = rest.getLast? := by
    rw [List.getLast?_append_of_ne_nil _ (by simp), List.getLast?_cons_of_ne_nil hrest]
  have hpt : (dropLeadingSlash (text ++ unit '/' :: dropTrailingSlash rest)).splitOn (unit '/') =
      partsAbove text ++ (dropTrailingSlash rest).splitOn (unit '/') := by
    cases text with
    | nil => simp [dropLeadingSlash, partsAbove]
    | cons c text =>
      rw [partsAbove, if_neg (by simp)]
      by_cases hc : (c :: text).head? = some (unit '/')
      · have hword : dropLeadingSlash (c :: text) = text := if_pos hc
        have hw : dropLeadingSlash (c :: text ++ unit '/' :: dropTrailingSlash rest) =
            text ++ unit '/' :: dropTrailingSlash rest := if_pos hc
        rw [hword, hw]
        exact List.splitOn_append_cons_self _ _
      · rw [head_dropLeadingSlash hc, @head_dropLeadingSlash (c :: text ++ unit '/' :: dropTrailingSlash rest) hc]
        exact List.splitOn_append_cons_self _ _
  rw [parseGitBody, hdrop, hlast, if_neg (by simp), hpt]
  simp

theorem parseGitBody_rest (hrest : dropLeadingSlash text ≠ []) :
    parseGitBody negated text =
      some ⟨negated, decide ((dropLeadingSlash text).getLast? = some (unit '/')), decide (unit '/' ∈ dropTrailingSlash text),
        (dropTrailingSlash (dropLeadingSlash text)).splitOn (unit '/')⟩ := by
  by_cases hsl : text.head? = some (unit '/')
  · obtain ⟨rest, rfl⟩ : ∃ rest, text = unit '/' :: rest := by
      cases text with
      | nil => cases hsl
      | cons c rest => exact ⟨rest, by rw [Option.some.inj hsl]⟩
    have hle : dropLeadingSlash (unit '/' :: rest) = rest := if_pos rfl
    rw [hle] at hrest ⊢
    rw [dropTrailingSlash_cons _ hrest]
    have hbody := @parseGitBody_slash [] rest negated hrest
    rw [List.nil_append] at hbody
    rw [hbody]
    simp [partsAbove]
  · rw [head_dropLeadingSlash hsl] at hrest ⊢
    have hne : dropTrailingSlash text ≠ [] := by
      intro hnil
      unfold dropTrailingSlash at hnil
      split at hnil
      · rename_i hlast
        obtain ⟨c, rfl⟩ : ∃ c, text = [c] := by
          rw [← List.length_eq_one_iff]
          have hlen := congrArg List.length hnil
          rw [List.length_dropLast, List.length_nil] at hlen
          have := List.length_pos_iff.mpr hrest
          omega
        exact hsl hlast
      · exact hrest hnil
    have hhead : (dropTrailingSlash text).head? ≠ some (unit '/') := by
      intro hhead
      unfold dropTrailingSlash at hhead
      split at hhead
      · rw [List.head?_dropLast] at hhead
        split at hhead
        · exact hsl hhead
        · cases hhead
      · exact hsl hhead
    rw [parseGitBody, if_neg hne, head_dropLeadingSlash hhead]

theorem parseGitBody_nil (h : dropLeadingSlash text = []) : parseGitBody negated text = none := by
  rw [parseGitBody, if_pos]
  unfold dropLeadingSlash at h
  split at h
  · rename_i hsl
    cases text with
    | nil => rfl
    | cons c text =>
      rw [List.tail_cons] at h
      rw [h, Option.some.inj hsl]
      rfl
  · rw [h]
    rfl

def signless (line : JsString) : JsString := if line.head? = some (unit '!') then line.tail else line

theorem parseGitPattern_eq (h : pattern.head? ≠ some (unit '#')) :
    parseGitPattern pattern = parseGitBody (decide (pattern.head? = some (unit '!'))) (signless pattern) := by
  rw [parseGitPattern, if_neg h, signless]
  split
  · rename_i hsign
    rw [decide_eq_true hsign]
  · rename_i hsign
    rw [decide_eq_false hsign]

theorem relPath_ne_nil_of_base (hbase : base ≠ []) : relPath base ≠ [] ∧ (relPath base).head? ≠ some (unit '/') ∧
    (relPath base).splitOn (unit '/') = base.map FileName.units := by
  have hsp : (relPath base).splitOn (unit '/') = base.map FileName.units :=
    List.splitOn_intercalate (unit '/') (List.forall_mem_map.mpr fun name _ => name.noSlash) (by simpa using hbase)
  obtain ⟨name, rest, rfl⟩ := List.exists_cons_of_ne_nil hbase
  obtain ⟨c, tail, hun⟩ := List.exists_cons_of_ne_nil name.nonempty
  have hst : ∃ more, relPath (name :: rest) = c :: more := by
    cases rest with
    | nil => exact ⟨tail, by simp [relPath, joinPath, hun]⟩
    | cons other rest => exact ⟨_, by simp only [relPath, joinPath, List.map_cons, List.intercalate_cons_cons, hun]; rfl⟩
  obtain ⟨more, hmore⟩ := hst
  refine ⟨by simp [hmore], ?_, hsp⟩
  rw [hmore, List.head?_cons]
  intro hc
  refine name.noSlash ?_
  rw [hun, Option.some.inj hc]
  exact .head _

theorem prefixPattern_nested (hbase : base ≠ []) :
    prefixPattern pattern (relPath base) =
      (if pattern.head? = some (unit '!') then js "!" else []) ++ relPath base ++ unit '/' :: dropLeadingSlash (signless pattern) := by
  have hsl : js "/" = [unit '/'] := rfl
  rw [prefixPattern, if_neg (relPath_ne_nil_of_base hbase).1, hsl, List.append_assoc _ [unit '/']]
  rfl

theorem parse_prefixPattern (hbase : base ≠ []) (hcomm : pattern.head? ≠ some (unit '#')) (hsign : SignKept pattern base)
    (hpar : parseGitPattern pattern = some parsed) :
    parseGitPattern (prefixPattern pattern (relPath base)) =
      some ⟨parsed.negated, parsed.directoryOnly, true, base.map FileName.units ++ parsed.parts⟩ := by
  obtain ⟨hne, hhead, hsp⟩ := relPath_ne_nil_of_base hbase
  rw [parseGitPattern_eq hcomm] at hpar
  have hrest : dropLeadingSlash (signless pattern) ≠ [] := by
    intro hnil
    rw [parseGitBody_nil hnil] at hpar
    cases hpar
  rw [parseGitBody_rest hrest, Option.some.injEq] at hpar
  subst hpar
  have hab : partsAbove (relPath base) = base.map FileName.units := by
    rw [partsAbove, if_neg hne, head_dropLeadingSlash hhead, hsp]
  rw [prefixPattern_nested hbase]
  by_cases hneg : pattern.head? = some (unit '!')
  · rw [if_pos hneg, decide_eq_true hneg, parseGitPattern, if_neg (by simp [js]; decide), if_pos (by simp [js])]
    have htail : (js "!" ++ relPath base ++ unit '/' :: dropLeadingSlash (signless pattern)).tail =
        relPath base ++ unit '/' :: dropLeadingSlash (signless pattern) := by
      simp [js]
    rw [htail, parseGitBody_slash hrest, hab]
  obtain hsign | ⟨hmark, hhash⟩ := hsign
  · exact absurd hsign hneg
  · have hheadLine : (relPath base ++ unit '/' :: dropLeadingSlash (signless pattern)).head? = (relPath base).head? :=
      List.head?_append_of_ne_nil _ hne
    rw [if_neg hneg, decide_eq_false hneg, List.nil_append, parseGitPattern, hheadLine, if_neg hhash, if_neg hmark,
      parseGitBody_slash hrest, hab]

theorem negated_of_parseGitBody {body : JsString} (h : parseGitBody negated body = some parsed) :
    parsed.negated = negated := by
  rw [parseGitBody] at h
  split at h
  · cases h
  · cases h
    rfl

/-- Where the sign is lost, the line of a file below negates by its own first unit. -/
theorem parse_unsigned (hbase : base ≠ []) (hsign : ¬SignKept pattern base)
    (hpref : parseGitPattern (prefixPattern pattern (relPath base)) = some prefixed) :
    pattern.head? ≠ some (unit '!') ∧
      parseGitBody true ((relPath base).tail ++ unit '/' :: dropLeadingSlash (signless pattern)) = some prefixed := by
  rw [SignKept, not_or, not_and_or, not_not, not_not] at hsign
  obtain ⟨hneg, hmark⟩ := hsign
  obtain ⟨hne, -, -⟩ := relPath_ne_nil_of_base hbase
  have hheadLine : (relPath base ++ unit '/' :: dropLeadingSlash (signless pattern)).head? = (relPath base).head? :=
    List.head?_append_of_ne_nil _ hne
  rw [prefixPattern_nested hbase, if_neg hneg, List.nil_append, parseGitPattern, hheadLine] at hpref
  split at hpref
  · cases hpref
  rename_i hhash
  rw [if_pos (hmark.resolve_right hhash), List.tail_append_of_ne_nil hne] at hpref
  exact ⟨hneg, hpref⟩

theorem parts_prefixPattern (hbase : base ≠ []) (hcomm : pattern.head? ≠ some (unit '#'))
    (hpar : parseGitPattern pattern = some parsed)
    (hpref : parseGitPattern (prefixPattern pattern (relPath base)) = some prefixed) :
    prefixed.anchored = true ∧ prefixed.directoryOnly = parsed.directoryOnly ∧ ∃ above, prefixed.parts = above ++ parsed.parts := by
  by_cases hsign : SignKept pattern base
  · rw [parse_prefixPattern hbase hcomm hsign hpar] at hpref
    cases hpref
    exact ⟨rfl, rfl, _, rfl⟩
  obtain ⟨-, hpref⟩ := parse_unsigned hbase hsign hpref
  rw [parseGitPattern_eq hcomm] at hpar
  have hrest : dropLeadingSlash (signless pattern) ≠ [] := by
    intro hnil
    rw [parseGitBody_nil hnil] at hpar
    cases hpar
  rw [parseGitBody_rest hrest, Option.some.injEq] at hpar
  subst hpar
  rw [parseGitBody_slash hrest] at hpref
  cases hpref
  exact ⟨rfl, rfl, _, rfl⟩

theorem gitVerdict_eq_some {ignored : Bool} :
    gitVerdict wild line path isDirectory = some ignored ↔ ∃ parsed, parseGitPattern line = some parsed ∧
      parsed.isMatch wild path isDirectory = true ∧ ignored = !parsed.negated := by
  rw [gitVerdict, Option.bind_eq_some_iff]
  refine exists_congr fun parsed => and_congr_right fun _ => ?_
  split
  · rename_i hm
    simp [hm, eq_comm]
  · rename_i hm
    simp [hm]

theorem matchless_iff :
    Matchless wild line ↔ ∀ parsed, parseGitPattern line = some parsed → ∀ path isDirectory,
      parsed.isMatch wild path isDirectory = false := by
  constructor
  · intro h parsed hpar path isDirectory
    rw [← Bool.not_eq_true]
    intro hm
    have hverd := gitVerdict_eq_some.mpr ⟨parsed, hpar, hm, rfl⟩
    rw [h path isDirectory] at hverd
    cases hverd
  · intro h path isDirectory
    rw [Option.eq_none_iff_forall_ne_some]
    intro ignored hverd
    obtain ⟨parsed, hpar, hm, -⟩ := gitVerdict_eq_some.mp hverd
    rw [h parsed hpar] at hm
    cases hm

theorem isMatch_anchored (h : parsed.anchored = true) :
    parsed.isMatch wild path isDirectory = true ↔
      (parsed.directoryOnly = true → isDirectory = true) ∧ matchParts wild parsed.parts path = true := by
  rw [GitPattern.isMatch, h, Bool.and_eq_true]
  cases parsed.directoryOnly <;> simp

theorem isMatch_floating (h : parsed.anchored = false)
    (hpt : parsed.parts = [part]) :
    parsed.isMatch wild path isDirectory = true ↔
      (parsed.directoryOnly = true → isDirectory = true) ∧ ∃ name, path.getLast? = some name ∧ wild part name.units = true := by
  rw [GitPattern.isMatch, h, hpt, Bool.and_eq_true]
  cases hlast : path.getLast? <;> cases parsed.directoryOnly <;> simp

theorem parts_of_parse (h : parseGitPattern line = some parsed) :
    parsed.parts ≠ [] ∧ (parsed.anchored = false → ∃ part, parsed.parts = [part]) := by
  have hbody : ∀ negated body, parseGitBody negated body = some parsed →
      parsed.parts ≠ [] ∧ (parsed.anchored = false → ∃ part, parsed.parts = [part]) := by
    intro negated body hbody
    rw [parseGitBody] at hbody
    split at hbody
    · cases hbody
    cases hbody
    refine ⟨List.splitOn_ne_nil _ _, fun hfl => ?_⟩
    rw [decide_eq_false_iff_not] at hfl
    have hhead : (dropTrailingSlash body).head? ≠ some (unit '/') := fun hhead => hfl (List.mem_of_head? hhead)
    exact ⟨_, by rw [head_dropLeadingSlash hhead, List.splitOn_eq_singleton hfl]⟩
  rw [parseGitPattern] at h
  split at h
  · cases h
  split at h
  · exact hbody true _ h
  · exact hbody false _ h

theorem signKept_of_same (hbase : base ≠ []) (hcomm : pattern.head? ≠ some (unit '#'))
    (hpar : parseGitPattern pattern = some parsed)
    (hpref : parseGitPattern (prefixPattern pattern (relPath base)) = some prefixed)
    (hsame : parsed.negated = prefixed.negated) : SignKept pattern base := by
  by_contra hsign
  obtain ⟨hne, hpref⟩ := parse_unsigned hbase hsign hpref
  rw [parseGitPattern_eq hcomm, decide_eq_false hne] at hpar
  rw [negated_of_parseGitBody hpar, negated_of_parseGitBody hpref] at hsame
  cases hsame

theorem readLines_not_comment {content : JsString} (h : pattern ∈ readLines content) : pattern.head? ≠ some (unit '#') := by
  have hline := (List.mem_filter.mp h).2
  rw [Bool.and_eq_true, bne_iff_ne] at hline
  exact hline.2

section Scope

variable (hstars : ∀ name : FileName, wild (js "**") name.units = true)

include hstars

variable {parsed : GitPattern}

theorem isMatch_of_matchParts {line : JsString} (h : parseGitPattern line = some parsed)
    (hm : matchParts wild parsed.parts path = true) : ∃ other, parsed.isMatch wild other true = true := by
  cases hanch : parsed.anchored with
  | true => exact ⟨path, (isMatch_anchored hanch).mpr ⟨fun _ => rfl, hm⟩⟩
  | false =>
    obtain ⟨part, hpart⟩ := (parts_of_parse h).2 hanch
    rw [hpart] at hm
    cases path with
    | nil =>
      rw [matchParts_nil (by simp)] at hm
      cases hm
    | cons name path =>
      refine ⟨[name], (isMatch_floating hanch hpart).mpr ⟨fun _ => rfl, name, rfl, ?_⟩⟩
      by_cases hpartStars : part = js "**"
      · rw [hpartStars]
        exact hstars name
      · rw [matchParts_name hpartStars, Bool.and_eq_true] at hm
        exact hm.1

theorem matchless_prefixPattern (hbase : base ≠ []) (hcomm : pattern.head? ≠ some (unit '#'))
    (hpar : parseGitPattern pattern = some parsed) (h : Matchless wild pattern) :
    Matchless wild (prefixPattern pattern (relPath base)) := by
  rw [matchless_iff]
  intro prefixed hpref path isDirectory
  obtain ⟨hanch, -, above, hpt⟩ := parts_prefixPattern hbase hcomm hpar hpref
  rw [← Bool.not_eq_true]
  intro hm
  have hmatchParts := ((isMatch_anchored hanch).mp hm).2
  rw [hpt] at hmatchParts
  obtain ⟨inside, hin⟩ := matchParts_append above (parts_of_parse hpar).1 hmatchParts
  obtain ⟨other, ho⟩ := isMatch_of_matchParts hstars hpar hin
  rw [matchless_iff.mp h parsed hpar] at ho
  cases ho

omit hstars in
theorem prefixPattern_empty (hbase : base ≠ []) (hcomm : pattern.head? ≠ some (unit '#')) (h : parseGitPattern pattern = none) :
    prefixPattern pattern (relPath base) = bareLine pattern base := by
  have hrest : dropLeadingSlash (signless pattern) = [] := by
    by_contra hne
    rw [parseGitPattern_eq hcomm, parseGitBody_rest hne] at h
    cases h
  rw [prefixPattern_nested hbase, hrest]
  rfl

theorem isMatch_prefixed {isDirectory : Bool} (hli : LiteralBase wild base)
    (hsc : parsed.anchored = true ∨ parsed.parts = [js "**"]) :
    GitPattern.isMatch wild ⟨parsed.negated, parsed.directoryOnly, true, base.map FileName.units ++ parsed.parts⟩ path isDirectory =
        true ↔
      ∃ inside, path = base ++ inside ∧ parsed.isMatch wild inside isDirectory = true := by
  rw [isMatch_anchored rfl]
  dsimp only
  rw [matchParts_literal hstars hli, ← exists_and_left]
  refine exists_congr fun inside => ?_
  rw [and_left_comm]
  refine and_congr_right fun _ => ?_
  cases hanch : parsed.anchored with
  | true => rw [isMatch_anchored hanch]
  | false =>
    obtain hsc | hsc := hsc
    · rw [hanch] at hsc
      cases hsc
    rw [isMatch_floating hanch hsc, hsc, matchParts_stars]
    refine and_congr_right fun _ => ?_
    cases hlast : inside.getLast? with
    | none =>
      rw [List.getLast?_eq_none_iff] at hlast
      simp [hlast]
    | some name =>
      have hne : inside ≠ [] := by
        rintro rfl
        cases hlast
      simp [hne, hstars name]

theorem scopedToBase_iff (hcomm : pattern.head? ≠ some (unit '#')) :
    ScopedToBase wild pattern base ↔ PrefixHolds wild pattern base := by
  by_cases hroot : base = []
  · subst hroot
    refine iff_of_true ?_ (.inl rfl)
    intro path isDirectory ignored
    have hsame : prefixPattern pattern (relPath []) = pattern := if_pos rfl
    rw [hsame]
    simp
  constructor
  · intro hsc
    by_cases hdead : Matchless wild pattern
    · refine .inr (.inl ⟨hdead, fun hnone path isDirectory => ?_⟩)
      rw [← prefixPattern_empty hroot hcomm hnone, Option.eq_none_iff_forall_ne_some]
      intro ignored hverd
      obtain ⟨inside, -, hin⟩ := (hsc path isDirectory ignored).mp hverd
      rw [hdead] at hin
      cases hin
    · rw [matchless_iff] at hdead
      push Not at hdead
      obtain ⟨parsed, hpar, inside, isDirectory, hm⟩ := hdead
      rw [ne_eq, Bool.not_eq_false] at hm
      -- What the line says of a path it must also say in front of its directory, and the other way round.
      have hfo : ∀ other, parsed.isMatch wild other isDirectory = true → ∃ prefixed,
          parseGitPattern (prefixPattern pattern (relPath base)) = some prefixed ∧
          prefixed.isMatch wild (base ++ other) isDirectory = true ∧ (!parsed.negated) = !prefixed.negated := fun other ho =>
        gitVerdict_eq_some.mp ((hsc (base ++ other) isDirectory _).mpr
          ⟨other, rfl, gitVerdict_eq_some.mpr ⟨parsed, hpar, ho, rfl⟩⟩)
      obtain ⟨prefixed, hpref, hprefixedMatch, hsame⟩ := hfo inside hm
      have hsign := signKept_of_same hroot hcomm hpar hpref (by simpa using hsame)
      have hrd := parse_prefixPattern hroot hcomm hsign hpar
      rw [hrd] at hpref
      cases hpref
      have hli : LiteralBase wild base := by
        refine literalBase_of_matchParts ((isMatch_anchored rfl).mp hprefixedMatch).2 fun path hpath => ?_
        obtain ⟨below, hbe, -⟩ := (hsc path true _).mp
          (gitVerdict_eq_some.mpr ⟨_, hrd, (isMatch_anchored rfl).mpr ⟨fun _ => rfl, hpath⟩, rfl⟩)
        exact ⟨below, hbe.symm⟩
      refine .inr (.inr ⟨hli, hsign, parsed, hpar, ?_⟩)
      cases hanch : parsed.anchored with
      | true => exact .inl rfl
      | false =>
        obtain ⟨part, hpart⟩ := (parts_of_parse hpar).2 hanch
        right
        rw [hpart]
        by_contra hnot
        have hname : part ≠ js "**" := fun heq => hnot (by rw [heq])
        -- A name that the part matches would have to be matched two levels down as well.
        obtain ⟨honly, name, -, hwild⟩ := (isMatch_floating hanch hpart).mp hm
        obtain ⟨deep, hdeep, hdeepMatch, -⟩ :=
          hfo [name, name] ((isMatch_floating hanch hpart).mpr ⟨honly, name, rfl, hwild⟩)
        rw [hrd] at hdeep
        cases hdeep
        have hpt := ((isMatch_anchored rfl).mp hdeepMatch).2
        dsimp only at hpt
        rw [hpart, matchParts_literal hstars hli] at hpt
        obtain ⟨below, hbe, hbelowMatch⟩ := hpt
        rw [← List.append_cancel_left hbe, matchParts_name hname] at hbelowMatch
        simp [matchParts] at hbelowMatch
  · rintro (hnil | ⟨hdead, hbare⟩ | ⟨hli, hsign, parsed, hpar, hsco⟩)
    · exact absurd hnil hroot
    · have hpref : Matchless wild (prefixPattern pattern (relPath base)) := by
        cases hpar : parseGitPattern pattern with
        | none =>
          rw [prefixPattern_empty hroot hcomm hpar]
          exact hbare hpar
        | some parsed => exact matchless_prefixPattern hstars hroot hcomm hpar hdead
      intro path isDirectory ignored
      rw [hpref path isDirectory]
      refine iff_of_false (by simp) ?_
      rintro ⟨inside, -, hin⟩
      rw [hdead] at hin
      cases hin
    · intro path isDirectory ignored
      have hrd := parse_prefixPattern hroot hcomm hsign hpar
      simp only [gitVerdict_eq_some, hrd, hpar, Option.some.injEq, exists_eq_left',
        isMatch_prefixed hstars hli hsco]
      constructor
      · rintro ⟨⟨inside, rfl, hin⟩, hign⟩
        exact ⟨inside, rfl, hin, hign⟩
      · rintro ⟨inside, rfl, hin, hign⟩
        exact ⟨⟨inside, rfl, hin⟩, hign⟩

end Scope

end Match

/-- A line of a nested `.gitignore` matches with its directory in front exactly the paths below the directory that it
matches there, if and only if the condition holds. -/
theorem nested_pattern_iff (wild : JsString → JsString → Bool) (hstars : ∀ name : FileName, wild (js "**") name.units = true)
    (content pattern : JsString) (hline : pattern ∈ readLines content) (base : List FileName) :
    ScopedToBase wild pattern base ↔ PrefixHolds wild pattern base :=
  scopedToBase_iff hstars (readLines_not_comment hline)

def plainWild (part name : JsString) : Bool := part.all (· == unit '*') || part == name

def packagesName : FileName := ⟨js "packages", by decide, by decide, by decide, by decide⟩

def distName : FileName := ⟨js "dist", by decide, by decide, by decide, by decide⟩

theorem nested_pattern_dist :
    ScopedToBase plainWild (js "/dist") [packagesName] ↔ PrefixHolds plainWild (js "/dist") [packagesName] :=
  nested_pattern_iff plainWild (fun _ => by simp only [plainWild, Bool.or_eq_true]; left; decide) (js "/dist\n") (js "/dist") (by decide)
    [packagesName]

/-- The line `dist` of `packages/.gitignore` ignores `packages/packages/dist`, and `packages/dist` does not. -/
theorem floating_pattern_is_anchored :
    js "dist" ∈ readLines (js "dist\n") ∧ ¬ScopedToBase plainWild (js "dist") [packagesName] := by
  refine ⟨by decide, fun hsc => ?_⟩
  have hverd := (hsc [packagesName, packagesName, distName] true true).mpr
    ⟨[packagesName, distName], rfl, by decide⟩
  exact absurd hverd (by decide)

end LamaSync
