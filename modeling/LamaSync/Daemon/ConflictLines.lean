import LamaSync.Daemon.NewerWins

/-!
# The conflict lines of rclone

The output of a bisync run is a list of lines.  A report of a conflict is a plain line or the message of a JSON line: the
word `CONFLICT`, two spaces, the path and, behind two more spaces, the times of the two sides.  The JSON line prints the
path with the characters escaped that a JSON text cannot hold.  Any other line may have the word in it as well.

The parser takes for the path what stands between white space behind the word.  `parses_exactly_iff` says for which outputs
these are the paths that were reported: those whose reported paths have no white space in them and are printed as they
are, where no other line has the word with a name behind it that is not reported.
-/

namespace LamaSync

variable {cs rest taken name line front : List Char} {p : Char → Bool} {json : JsonText}

theorem dropWord_eq_some_iff {word : List Char} :
    dropWord word cs = some rest ↔ ∃ found, cs = found ++ rest ∧ found.map Char.toLower = word := by
  induction word generalizing cs with
  | nil => simp [dropWord, eq_comm]
  | cons w word ih =>
    cases cs with
    | nil =>
      simp only [dropWord, reduceCtorEq, false_iff]
      rintro ⟨found, hnil, hword⟩
      obtain ⟨rfl, -⟩ := List.append_eq_nil_iff.1 hnil.symm
      cases hword
    | cons c cs =>
      rw [dropWord]
      by_cases hc : c.toLower = w
      · rw [if_pos hc, ih]
        constructor
        · rintro ⟨found, rfl, hf⟩
          exact ⟨c :: found, rfl, by rw [List.map_cons, hc, hf]⟩
        rintro ⟨found, hcs, hf⟩
        cases found with
        | nil => cases hf
        | cons c' found =>
          obtain ⟨rfl, rfl⟩ := List.cons.inj hcs
          exact ⟨found, rfl, (List.cons.inj hf).2⟩
      · rw [if_neg hc]
        simp only [reduceCtorEq, false_iff]
        rintro ⟨found, hcs, hf⟩
        cases found with
        | nil => cases hf
        | cons c' found =>
          obtain ⟨rfl, rfl⟩ := List.cons.inj hcs
          exact hc (List.cons.inj hf).1

private theorem cl_span (htk : ∀ c ∈ taken, p c = true)
    (hrest : ∀ c ∈ rest.head?, p c = false) :
    (taken ++ rest).takeWhile p = taken ∧ (taken ++ rest).dropWhile p = rest := by
  rw [List.takeWhile_append_of_pos htk, List.dropWhile_append_of_pos htk]
  cases rest with
  | nil => simp
  | cons c rest =>
    have hc := hrest c rfl
    simp [hc]

private theorem cl_dropWhile_head : ∀ c ∈ (cs.dropWhile p).head?, p c = false := by
  intro c hc
  have hhead := List.head?_dropWhile_not p cs
  rw [Option.mem_def.1 hc] at hhead
  simpa using hhead

theorem dropSpaces_eq_some_iff :
    dropSpaces cs = some rest ↔ ∃ spaces, cs = spaces ++ rest ∧ (spaces ≠ [] ∧ ∀ c ∈ spaces, isJsSpace c = true) ∧
      ∀ c ∈ rest.head?, isJsSpace c = false := by
  constructor
  · intro h
    cases cs with
    | nil => cases h
    | cons c cs =>
      rw [dropSpaces] at h
      split at h
      · rename_i hc
        rw [Option.some.injEq] at h
        subst h
        refine ⟨c :: cs.takeWhile isJsSpace, ?_, ⟨List.cons_ne_nil _ _, ?_⟩, cl_dropWhile_head⟩
        · rw [List.cons_append, List.takeWhile_append_dropWhile]
        intro x hx
        rcases List.mem_cons.1 hx with rfl | hx
        · exact hc
        · exact List.mem_takeWhile_imp hx
      · cases h
  · rintro ⟨spaces, rfl, ⟨hne, hsp⟩, hrest⟩
    cases spaces with
    | nil => exact absurd rfl hne
    | cons c spaces =>
      rw [List.cons_append, dropSpaces, if_pos (hsp c (.head _)),
        (cl_span (fun x hx => hsp x (.tail _ hx)) hrest).2]

theorem takeSome_eq_some_iff :
    takeSome p cs = some taken ↔ (taken ≠ [] ∧ ∀ c ∈ taken, p c = true) ∧
      ∃ rest, cs = taken ++ rest ∧ ∀ c ∈ rest.head?, p c = false := by
  unfold takeSome
  rw [Option.filter_eq_some_iff]
  constructor
  · rintro ⟨htk, hne⟩
    rw [Option.some.injEq] at htk
    subst htk
    refine ⟨⟨by simpa using hne, fun c hc => List.mem_takeWhile_imp hc⟩, cs.dropWhile p, ?_, cl_dropWhile_head⟩
    exact List.takeWhile_append_dropWhile.symm
  rintro ⟨⟨hne, htk⟩, rest, rfl, hrest⟩
  rw [(cl_span htk hrest).1]
  exact ⟨rfl, by simpa using hne⟩

section Search

variable {α : Type} {reader : List Char → Option α} {a : α}

theorem firstMatch_eq_some_iff {line : List Char} :
    firstMatch reader line = some a ↔ ∃ before text, line = before ++ text ∧ reader text = some a ∧
      ∀ earlier later, line = earlier ++ later → earlier.length < before.length → reader later = none := by
  induction line with
  | nil =>
    constructor
    · intro h
      refine ⟨[], [], rfl, h, ?_⟩
      intro earlier later _ hlen
      exact absurd hlen (Nat.not_lt_zero _)
    rintro ⟨before, text, hnil, htext, -⟩
    obtain ⟨-, rfl⟩ := List.append_eq_nil_iff.1 hnil.symm
    exact htext
  | cons c cs ih =>
    rw [firstMatch, Option.or_eq_some_iff]
    constructor
    · rintro (hhere | ⟨hnone, hla⟩)
      · refine ⟨[], c :: cs, rfl, hhere, ?_⟩
        intro earlier later _ hlen
        exact absurd hlen (Nat.not_lt_zero _)
      · obtain ⟨before, text, rfl, htext, hfi⟩ := ih.1 hla
        refine ⟨c :: before, text, rfl, htext, ?_⟩
        intro earlier later heq hlen
        cases earlier with
        | nil =>
          rw [List.nil_append] at heq
          exact heq ▸ hnone
        | cons c' earlier => exact hfi earlier later (List.cons.inj heq).2 (Nat.lt_of_succ_lt_succ hlen)
    · rintro ⟨before, text, heq, htext, hfi⟩
      cases before with
      | nil =>
        rw [List.nil_append] at heq
        exact .inl (heq ▸ htext)
      | cons c' before =>
        obtain ⟨rfl, rfl⟩ := List.cons.inj heq
        refine .inr ⟨hfi [] _ rfl (Nat.succ_pos _), ih.2 ⟨before, text, rfl, htext, ?_⟩⟩
        intro earlier later hsp hlen
        exact hfi (c :: earlier) later (congrArg (c :: ·) hsp) (Nat.succ_lt_succ hlen)

theorem firstMatch_ne_none {before text : List Char} (h : reader text = some a) :
    firstMatch reader (before ++ text) ≠ none := by
  induction before with
  | nil =>
    cases text with
    | nil | cons c text => simp [firstMatch, h]
  | cons c before ih => simp [firstMatch, ih]

theorem firstMatch_append {passed text : List Char}
    (h : ∀ earlier later, passed = earlier ++ later → later ≠ [] → reader (later ++ text) = none) :
    firstMatch reader (passed ++ text) = firstMatch reader text := by
  induction passed with
  | nil => rfl
  | cons c passed ih =>
    have hhere : reader (c :: (passed ++ text)) = none := h [] (c :: passed) rfl (List.cons_ne_nil _ _)
    rw [List.cons_append, firstMatch, hhere, Option.none_or]
    exact ih fun earlier later hsp => h (c :: earlier) later (congrArg (c :: ·) hsp)

end Search

def ConflictAhead (name text : List Char) : Prop :=
  ∃ word spaces rest, text = word ++ (spaces ++ (name ++ rest)) ∧ word.map Char.toLower = "conflict".toList ∧
    (spaces ≠ [] ∧ ∀ c ∈ spaces, isJsSpace c = true) ∧ (name ≠ [] ∧ ∀ c ∈ name, isJsSpace c = false) ∧
    ∀ c ∈ rest.head?, isJsSpace c = true

/-- The first name behind the word in a line. -/
def Mentions (line name : List Char) : Prop :=
  ∃ before text, line = before ++ text ∧ ConflictAhead name text ∧
    ∀ earlier later, line = earlier ++ later → earlier.length < before.length → ∀ other, ¬ ConflictAhead other later

def readConflict (cs : List Char) : Option (List Char) :=
  ((dropWord "conflict".toList cs).bind dropSpaces).bind (takeSome fun c => !isJsSpace c)

theorem readConflict_eq_some_iff : readConflict cs = some name ↔ ConflictAhead name cs := by
  unfold readConflict ConflictAhead
  simp only [Option.bind_eq_some_iff, dropWord_eq_some_iff, dropSpaces_eq_some_iff, takeSome_eq_some_iff,
    Bool.not_eq_true', Bool.not_eq_false']
  constructor
  · rintro ⟨behind, ⟨behindWord, ⟨word, rfl, hword⟩, spaces, rfl, hsp, -⟩, hname, rest, rfl, hrest⟩
    exact ⟨word, spaces, rest, rfl, hword, hsp, hname, hrest⟩
  rintro ⟨word, spaces, rest, rfl, hword, hsp, ⟨hne, hname⟩, hrest⟩
  refine ⟨name ++ rest, ⟨_, ⟨word, rfl, hword⟩, spaces, rfl, hsp, ?_⟩, ⟨hne, hname⟩, rest, rfl, hrest⟩
  intro c hc
  rw [List.head?_append_of_ne_nil _ hne] at hc
  exact hname c (List.mem_of_mem_head? hc)

theorem conflictPath_eq_some_iff : conflictPath line = some name ↔ Mentions line name := by
  have hread : conflictPath line = firstMatch readConflict line := rfl
  rw [hread, firstMatch_eq_some_iff]
  unfold Mentions
  simp only [readConflict_eq_some_iff, Option.eq_none_iff_forall_ne_some, ne_eq]

theorem lineConflict_path_iff {path : String} :
    (lineConflict line).map ParsedConflict.path = some path ↔ conflictPath line = some path.toList := by
  unfold lineConflict
  split
  · rename_i hword
    simp only [Option.map_none, reduceCtorEq, false_iff]
    intro hpath
    obtain ⟨before, text, rfl, hread, -⟩ := firstMatch_eq_some_iff.1 hpath
    obtain ⟨behindSpaces, hbeh, -⟩ := Option.bind_eq_some_iff.1 hread
    obtain ⟨behindWord, hf, -⟩ := Option.bind_eq_some_iff.1 hbeh
    exact firstMatch_ne_none hf (Option.isNone_iff_eq_none.1 hword)
  · rw [Option.map_map, Option.map_eq_some_iff]
    constructor
    · rintro ⟨chars, hch, rfl⟩
      simpa using hch
    · intro h
      exact ⟨_, h, by simp⟩

def physicalLines (stdout stderr : String) : List (List Char) := (stdout ++ "\n" ++ stderr).toList.splitOn '\n'

/-- The paths that are read are the first names behind the word. -/
theorem mem_parsed_iff {stdout stderr path : String} :
    path ∈ (parseBisyncConflicts stdout stderr).map ParsedConflict.path ↔
      ∃ line ∈ physicalLines stdout stderr, Mentions line path.toList := by
  have hl : path ∈ (parseBisyncConflicts stdout stderr).map ParsedConflict.path ↔
      path ∈ (conflictLines stdout stderr).map ParsedConflict.path := by
    constructor
    · intro h
      obtain ⟨c, hc, rfl⟩ := List.mem_map.1 h
      exact List.mem_map_of_mem (mem_conflictLines hc)
    intro h
    obtain ⟨c, hc, rfl⟩ := List.mem_map.1 h
    exact List.mem_map.2 (exists_reported hc)
  rw [hl]
  unfold conflictLines physicalLines
  simp only [List.mem_map, List.mem_filterMap, ← conflictPath_eq_some_iff, ← lineConflict_path_iff,
    Option.map_eq_some_iff]
  constructor
  · rintro ⟨c, ⟨line, hline, hc⟩, rfl⟩
    exact ⟨line, hline, c, hc, rfl⟩
  · rintro ⟨line, hline, c, hc, rfl⟩
    exact ⟨c, ⟨line, hline, hc⟩, rfl⟩

/-- How a JSON line prints the characters of a path. -/
structure JsonText where
  escape : Char → List Char
  escape_ne_nil : ∀ c, escape c ≠ []
  escape_unspaced : ∀ c, isJsSpace c = false → ∀ d ∈ escape c, isJsSpace d = false

def JsonText.backslashed : JsonText where
  escape c := if c = '"' ∨ c = '\\' then ['\\', c] else [c]
  escape_ne_nil c := by split <;> simp
  escape_unspaced c hc d hd := by
    split at hd
    · rcases List.mem_cons.1 hd with rfl | hd
      · decide
      · exact List.mem_singleton.1 hd ▸ hc
    · exact List.mem_singleton.1 hd ▸ hc

def JsonText.quote (json : JsonText) (path : String) : List Char := path.toList.flatMap json.escape

def LineText : Type := { text : List Char // '\n' ∉ text }

def JsonFront : Type := { text : List Char // ∀ c ∈ text, isJsSpace c = false }

inductive OutputLine where
  | plain (path : String) (behind : LineText)
  | json (front : JsonFront) (path : String) (behind : LineText)
  | other (text : LineText)

namespace OutputLine

def report (printed : List Char) (behind : LineText) : List Char :=
  "CONFLICT".toList ++ ("  ".toList ++ (printed ++ ("  ".toList ++ behind.val)))

def text (json : JsonText) : OutputLine → List Char
  | .plain path behind => report path.toList behind
  | .json front path behind => front.val ++ report (json.quote path) behind
  | .other text => text.val

def reported : OutputLine → Option String
  | .plain path _ | .json _ path _ => some path
  | .other _ => none

def Prints (json : JsonText) (printed : List Char) : OutputLine → Prop
  | .plain path _ => path.toList = printed
  | .json _ path _ => json.quote path = printed
  | .other text => Mentions text.val printed

end OutputLine

def outputChars (json : JsonText) : List OutputLine → List Char
  | [] => []
  | line :: lines => line.text json ++ '\n' :: outputChars json lines

def outputText (json : JsonText) (lines : List OutputLine) : String := String.ofList (outputChars json lines)

def Reported (lines : List OutputLine) (path : String) : Prop := ∃ line ∈ lines, line.reported = some path

private theorem cl_front (hne : front ≠ []) (hfr : ∀ c ∈ front, isJsSpace c = false) :
    readConflict (front ++ ("CONFLICT".toList ++ rest)) = none := by
  rw [Option.eq_none_iff_forall_ne_some]
  intro name hname
  obtain ⟨word, spaces, behind, htext, hword, ⟨hspa, hspace⟩, -, -⟩ := readConflict_eq_some_iff.1 hname
  obtain ⟨space, spaces, rfl⟩ := List.exists_cons_of_ne_nil hspa
  have hlen : word.length = "CONFLICT".toList.length := by
    rw [← List.length_map Char.toLower, hword]
    rfl
  -- The space behind the word would stand in the word `CONFLICT` or in front of it.
  have hun : ∀ c ∈ front ++ "CONFLICT".toList, isJsSpace c = false := by
    intro c hc
    rcases List.mem_append.1 hc with hc | hc
    · exact hfr c hc
    · exact (by simp [isJsSpace] : ∀ c ∈ "CONFLICT".toList, isJsSpace c = false) c hc
  have hf : (front ++ "CONFLICT".toList)[word.length]? = some space := by
    have hpos : 0 < front.length := List.length_pos_of_ne_nil hne
    have hat := congrArg (fun cs : List Char => cs[word.length]?) htext
    rw [← List.append_assoc, List.getElem?_append_left (by rw [List.length_append]; omega),
      List.getElem?_append_right (Nat.le_refl _), Nat.sub_self] at hat
    exact hat
  have hsp := hspace space (.head _)
  rw [hun space (List.mem_of_getElem? hf)] at hsp
  cases hsp

theorem mentions_report {printed : List Char} {behind : LineText}
    (hfr : ∀ c ∈ front, isJsSpace c = false) (hne : printed ≠ []) (hpr : ∀ c ∈ printed, isJsSpace c = false) :
    Mentions (front ++ OutputLine.report printed behind) name ↔ printed = name := by
  have hread : conflictPath (front ++ OutputLine.report printed behind) = some printed := by
    have hskip : firstMatch readConflict (front ++ OutputLine.report printed behind) =
        firstMatch readConflict (OutputLine.report printed behind) := by
      apply firstMatch_append
      rintro earlier later rfl hla
      exact cl_front hla fun c hc => hfr c (List.mem_append_right _ hc)
    have hah : ConflictAhead printed (OutputLine.report printed behind) := by
      have hword : "CONFLICT".toList.map Char.toLower = "conflict".toList := by decide
      have hsp : "  ".toList ≠ [] ∧ ∀ c ∈ "  ".toList, isJsSpace c = true := by simp [isJsSpace]
      refine ⟨_, _, _, rfl, hword, hsp, ⟨hne, hpr⟩, ?_⟩
      intro c hc
      obtain rfl : ' ' = c := by simpa using hc
      decide
    refine hskip.trans (firstMatch_eq_some_iff.2 ⟨[], _, rfl, readConflict_eq_some_iff.2 hah, ?_⟩)
    intro earlier later _ hlen
    exact absurd hlen (Nat.not_lt_zero _)
  rw [← conflictPath_eq_some_iff, hread, Option.some.injEq]

theorem splitOn_outputChars {lines : List OutputLine}
    (h : ∀ line ∈ lines, '\n' ∉ line.text json) :
    (outputChars json lines ++ rest).splitOn '\n' = lines.map (OutputLine.text json) ++ rest.splitOn '\n' := by
  induction lines with
  | nil => rfl
  | cons line lines ih =>
    have hline : '\n' ∉ line.text json := h line (.head _)
    rw [outputChars, List.append_assoc, List.cons_append, List.splitOn_append_cons_self_of_not_mem hline,
      ih fun l hl => h l (.tail _ hl), List.map_cons, List.cons_append]

theorem physicalLines_outputText {stdout stderr : List OutputLine}
    (h : ∀ line ∈ stdout ++ stderr, '\n' ∉ line.text json) :
    physicalLines (outputText json stdout) (outputText json stderr) =
      stdout.map (OutputLine.text json) ++ [] :: (stderr.map (OutputLine.text json) ++ [[]]) := by
  have hst : (outputChars json stderr).splitOn '\n' = stderr.map (OutputLine.text json) ++ [[]] := by
    rw [← List.append_nil (outputChars json stderr),
      splitOn_outputChars fun line hline => h line (List.mem_append_right _ hline), List.splitOn_nil]
  have hch : (outputText json stdout ++ "\n" ++ outputText json stderr).toList =
      outputChars json stdout ++ ([] ++ '\n' :: outputChars json stderr) := by
    simp [outputText]
  unfold physicalLines
  rw [hch, splitOn_outputChars fun line hline => h line (List.mem_append_left _ hline),
    List.splitOn_append_cons_self_of_not_mem List.not_mem_nil, hst]

section Exact

variable (json : JsonText) (stdout stderr : List OutputLine)

def parsedConflicts : List ParsedConflict := parseBisyncConflicts (outputText json stdout) (outputText json stderr)

structure ParsesExactly : Prop where
  once : ((parsedConflicts json stdout stderr).map ParsedConflict.path).Nodup
  exact : ∀ path, path ∈ (parsedConflicts json stdout stderr).map ParsedConflict.path ↔ Reported (stdout ++ stderr) path
  untouched : ∀ (strategy : ConflictStrategy) (role : String) (env : Surroundings) (path : String),
    ¬ Reported (stdout ++ stderr) path →
      ∀ e ∈ (applyAutomaticConflicts (parsedConflicts json stdout stderr) strategy role env).log Host.step {},
        e.treats path = false

structure PrintedPlainly : Prop where
  unspaced : ∀ path, Reported (stdout ++ stderr) path → path ≠ "" ∧ ∀ c ∈ path.toList, isJsSpace c = false
  printed : ∀ path, Reported (stdout ++ stderr) path → ∃ line ∈ stdout ++ stderr, line.Prints json path.toList
  nothingElse : ∀ line ∈ stdout ++ stderr, ∀ path : String, line.Prints json path.toList →
    Reported (stdout ++ stderr) path

variable {json stdout stderr}

variable {line : OutputLine} {path : String}

private theorem cl_oneLine (h : ∀ path, line.reported = some path → ∀ c ∈ path.toList, isJsSpace c = false) : '\n' ∉ line.text json := by
  have hrep : ∀ (printed : List Char) (behind : LineText), '\n' ∉ printed →
      '\n' ∉ OutputLine.report printed behind := by
    intro printed behind hpr hbr
    have hbeh : '\n' ∉ behind.val := behind.property
    unfold OutputLine.report at hbr
    simp only [List.mem_append, hpr, hbeh, or_false, false_or] at hbr
    revert hbr
    decide
  have hsp : ∀ text : List Char, (∀ c ∈ text, isJsSpace c = false) → '\n' ∉ text := by
    intro text htext hbr
    exact absurd (htext _ hbr) (by decide)
  cases line with
  | plain path behind => exact hrep _ _ (hsp _ (h path rfl))
  | json front path behind =>
    intro hbr
    rcases List.mem_append.1 hbr with hfr | hme
    · exact hsp _ front.property hfr
    refine hrep _ _ (hsp _ ?_) hme
    intro c hc
    obtain ⟨d, hd, hcd⟩ := List.mem_flatMap.1 hc
    exact json.escape_unspaced d (h path rfl d hd) c hcd
  | other text => exact text.property

private theorem cl_mentions {name : List Char}
    (h : ∀ path, line.reported = some path → path ≠ "" ∧ ∀ c ∈ path.toList, isJsSpace c = false) :
    Mentions (line.text json) name ↔ line.Prints json name := by
  cases line with
  | plain path behind =>
    obtain ⟨hne, hsp⟩ := h path rfl
    have hfr : ∀ c ∈ ([] : List Char), isJsSpace c = false := by simp
    exact mentions_report hfr (by simpa using hne) hsp
  | json front path behind =>
    obtain ⟨hne, hsp⟩ := h path rfl
    refine mentions_report front.property ?_ ?_
    · obtain ⟨c, cs, hcs⟩ := List.exists_cons_of_ne_nil (by simpa using hne : path.toList ≠ [])
      intro hnil
      unfold JsonText.quote at hnil
      rw [hcs, List.flatMap_cons, List.append_eq_nil_iff] at hnil
      exact json.escape_ne_nil c hnil.1
    intro c hc
    obtain ⟨d, hd, hcd⟩ := List.mem_flatMap.1 hc
    exact json.escape_unspaced d (hsp d hd) c hcd
  | other text => exact Iff.rfl

private theorem cl_mentions_nil (name : List Char) : ¬ Mentions [] name := by
  rintro ⟨before, text, hnil, ⟨word, spaces, rest, htext, hword, -⟩, -⟩
  obtain ⟨-, rfl⟩ := List.append_eq_nil_iff.1 hnil.symm
  obtain ⟨rfl, -⟩ := List.append_eq_nil_iff.1 htext.symm
  cases hword

theorem mem_parsedConflicts_iff (h : ∀ path, Reported (stdout ++ stderr) path → path ≠ "" ∧ ∀ c ∈ path.toList, isJsSpace c = false) :
    path ∈ (parsedConflicts json stdout stderr).map ParsedConflict.path ↔
      ∃ line ∈ stdout ++ stderr, line.Prints json path.toList := by
  have hown : ∀ line ∈ stdout ++ stderr, ∀ own, line.reported = some own →
      own ≠ "" ∧ ∀ c ∈ own.toList, isJsSpace c = false := fun line hmem own hrep => h own ⟨line, hmem, hrep⟩
  unfold parsedConflicts
  rw [mem_parsed_iff, physicalLines_outputText fun line hmem => cl_oneLine fun own hrep => (hown line hmem own hrep).2]
  constructor
  · rintro ⟨text, htext, hme⟩
    have hne : text ≠ [] := fun hnil => cl_mentions_nil _ (hnil ▸ hme)
    have hline : text ∈ (stdout ++ stderr).map (OutputLine.text json) := by simpa [hne] using htext
    obtain ⟨line, hmem, rfl⟩ := List.mem_map.1 hline
    exact ⟨line, hmem, (cl_mentions (hown line hmem)).1 hme⟩
  rintro ⟨line, hmem, hpr⟩
  refine ⟨line.text json, ?_, (cl_mentions (hown line hmem)).2 hpr⟩
  have htext : line.text json ∈ (stdout ++ stderr).map (OutputLine.text json) := List.mem_map_of_mem hmem
  rw [List.map_append, List.mem_append] at htext
  rcases htext with hout | herr
  · exact List.mem_append_left _ hout
  · exact List.mem_append_right _ (.tail _ (List.mem_append_left _ herr))

theorem parsedConflicts_unspaced (h : path ∈ (parsedConflicts json stdout stderr).map ParsedConflict.path) :
    path ≠ "" ∧ ∀ c ∈ path.toList, isJsSpace c = false := by
  obtain ⟨c, hc, rfl⟩ := List.mem_map.1 h
  obtain ⟨line, -, hline⟩ := List.mem_filterMap.1 (mem_conflictLines hc)
  exact lineConflict_path hline

private theorem cl_untouched {conflicts : List ParsedConflict}
    (h : path ∉ conflicts.map ParsedConflict.path) (strategy : ConflictStrategy) (role : String) (env : Surroundings) :
    ∀ e ∈ (applyAutomaticConflicts conflicts strategy role env).log Host.step {}, e.treats path = false := by
  intro e he
  rw [applyAutomaticConflicts_log] at he
  by_contra htr
  have hfi : (conflicts.zipIdx.flatMap (conflictSteps strategy role env.automaticEnd)).filter
      (fun e => e.treats path) = [] := conflictSteps_untreated 0 h
  rw [List.filter_eq_nil_iff] at hfi
  exact hfi e he (by simpa using htr)

variable (json stdout stderr)

/-- The conflicts of a run are read exactly when the reported paths have no white space and are printed as they are, and
nothing else is printed like a path. -/
theorem parses_exactly_iff : ParsesExactly json stdout stderr ↔ PrintedPlainly json stdout stderr := by
  constructor
  · intro h
    have hun : ∀ path, Reported (stdout ++ stderr) path → path ≠ "" ∧ ∀ c ∈ path.toList, isJsSpace c = false :=
      fun path hrep => parsedConflicts_unspaced ((h.exact path).2 hrep)
    exact {
      unspaced := hun
      printed := fun path hrep => (mem_parsedConflicts_iff hun).1 ((h.exact path).2 hrep)
      nothingElse := fun line hmem path hpr =>
        (h.exact path).1 ((mem_parsedConflicts_iff hun).2 ⟨line, hmem, hpr⟩) }
  · intro h
    have hex : ∀ path, path ∈ (parsedConflicts json stdout stderr).map ParsedConflict.path ↔
        Reported (stdout ++ stderr) path := by
      intro path
      rw [mem_parsedConflicts_iff h.unspaced]
      constructor
      · rintro ⟨line, hmem, hpr⟩
        exact h.nothingElse line hmem path hpr
      · exact h.printed path
    exact {
      once := parseBisyncConflicts_nodup _ _
      exact := hex
      untouched := fun strategy role env path hpath => cl_untouched (fun hmem => hpath ((hex path).1 hmem)) _ _ _ }

end Exact

def blankReport : OutputLine := .plain "my file.txt" ⟨"(path1 mtime=12 path2 mtime=7)".toList, by decide⟩

/-- A path with a blank in it is read up to the blank. -/
theorem blank_cuts_path : ¬ ParsesExactly .backslashed [blankReport] [] := by
  intro h
  have hread : "my" ∈ (parsedConflicts .backslashed [blankReport] []).map ParsedConflict.path := by decide +kernel
  obtain ⟨line, hmem, hrep⟩ := (h.exact "my").1 hread
  rw [List.append_nil, List.mem_singleton] at hmem
  subst hmem
  exact absurd hrep (by decide)

end LamaSync
