import LamaSync.Daemon.SeedExtraction

/-!
# The listing of an archive

tar prints a line for each member of an archive, and `validateSeedArchive` accepts the archive when it finds nothing wrong
in them.  A line that `parseVerboseMemberLine` cannot read is not refused: unless it starts with a slash or contains two
dots, the whole line is taken for the name of a member.  `listing_refusal` says which lines get past the validation.
-/

namespace LamaSync

def splitLines : List Char → List (List Char)
  | [] => [[]]
  | '\n' :: rest => [] :: splitLines rest
  | '\r' :: '\n' :: rest => [] :: splitLines rest
  | c :: rest =>
    match splitLines rest with
    | [] => [[c]]
    | line :: lines => (c :: line) :: lines

def isDotExcluded (c : Char) : Bool := c == '\n' || c == '\r' || c.toNat == 0x2028 || c.toNat == 0x2029

/-- `.{n}` at the start: the rest behind `n` UTF-16 units. -/
def skipUnits : Nat → List Char → Option (List Char)
  | 0, cs => some cs
  | _, [] => none
  | n + 1, c :: cs =>
    if isDotExcluded c then none
    else if c.toNat ≤ 0xFFFF then skipUnits n cs
    else
      match n with
      | 0 => none
      | n + 1 => skipUnits n cs

def skipMany (p : Char → Bool) : List Char → Option (List Char)
  | [] => none
  | c :: cs => if p c then some (cs.dropWhile p) else none

/-- Exactly these, one after the other. -/
def skipEach : List (Char → Bool) → List Char → Option (List Char)
  | [], cs => some cs
  | _ :: _, [] => none
  | p :: ps, c :: cs => if p c then skipEach ps cs else none

/-- `(?::\d{2}(?:\.\d+)?)?`: what follows it is a space, so each part is there when its first character is. -/
def skipSeconds : List Char → Option (List Char)
  | ':' :: cs =>
    match skipEach [Char.isDigit, Char.isDigit] cs with
    | some ('.' :: cs) => skipMany Char.isDigit cs
    | rest => rest
  | cs => some cs

/-- The first unit of the line.  Half of a pair is printed as a replacement character. -/
def memberType : List Char → Char
  | c :: _ => if c.toNat ≤ 0xFFFF then c else Char.ofNat 0xFFFD
  | [] => ' '

def parseVerboseMemberLine (line : String) : Option ArchiveMember := do
  let cs ← skipUnits 10 line.toList
  let cs ← skipMany isJsSpace cs
  let cs ← skipMany (fun c => !isJsSpace c) cs
  let cs ← skipMany isJsSpace cs
  let cs ← skipMany Char.isDigit cs
  let cs ← skipMany isJsSpace cs
  let cs ← skipEach [Char.isDigit, Char.isDigit, Char.isDigit, Char.isDigit, (· == '-'), Char.isDigit, Char.isDigit,
    (· == '-'), Char.isDigit, Char.isDigit] cs
  let cs ← skipMany isJsSpace cs
  let cs ← skipEach [Char.isDigit, Char.isDigit, (· == ':'), Char.isDigit, Char.isDigit] cs
  let cs ← skipSeconds cs
  let name ← skipEach [isJsSpace] cs
  if name.any isDotExcluded then none else some ⟨memberType line.toList, String.ofList name⟩

structure ArchiveMemberListing where
  ok : Bool
  names : List String
  typeOffenders : List String
  message : String
  deriving DecidableEq

structure ArchiveMemberVerdict where
  ok : Bool
  offenders : List String
  count : Nat
  message : String
  deriving DecidableEq

structure ArchiveMemberSample where
  count : Nat
  sample : List String
  deriving DecidableEq

structure ArchiveValidation where
  ok : Bool
  members : ArchiveMemberSample
  offenders : List String
  message : String
  deriving DecidableEq

structure ListCommandResult where
  exitCode : Int
  stdout : String
  stderr : String

def includesTwoDots : List Char → Bool
  | '.' :: '.' :: _ => true
  | _ :: cs => includesTwoDots cs
  | [] => false

def sliceList {α : Type} (items : List α) (n : Int) : List α :=
  items.take (if n < 0 then items.length + n else n).toNat

def sliceEnd (text : String) (n : Nat) : String := String.ofList (takeUtf16 text.toList.reverse n).reverse

section Listing

variable (sampleCap : Int)

def listingLines (stdout : String) : List String :=
  ((splitLines stdout.toList).filter fun line => !line.isEmpty).map String.ofList

def listLine (found : List String × List String) (line : String) : List String × List String :=
  match parseVerboseMemberLine line with
  | none =>
    if line.toList.head? = some '/' ∨ includesTwoDots line.toList = true then (found.1, found.2 ++ [sliceText line 200])
    else (found.1 ++ [normalizeArchiveMemberName line], found.2)
  | some parsed =>
    if parsed.type ≠ '-' ∧ parsed.type ≠ 'd' then
      if (found.2.length : Int) < sampleCap then
        (found.1, found.2 ++ [parsed.name ++ " (type " ++ parsed.type.toString ++ ")"])
      else found
    else
      let name := normalizeArchiveMemberName parsed.name
      if name = "" then found else (found.1 ++ [name], found.2)

def listArchiveMembers (result : ListCommandResult) : ArchiveMemberListing :=
  if result.exitCode ≠ 0 then
    ⟨false, [], [], "the archive could not be listed (tar exit " ++ toString result.exitCode ++ "): " ++
      sliceEnd result.stderr 300⟩
  else
    let found := (listingLines result.stdout).foldl (listLine sampleCap) ([], [])
    ⟨true, found.1, found.2, ""⟩

def memberOffenders (members : List String) : List String :=
  members.foldl (fun offenders member =>
    if isSafeArchiveMember member then offenders
    else if (offenders.length : Int) < sampleCap then offenders ++ [sliceText member 200]
    else offenders) []

def validateArchiveMembers (members : List String) : ArchiveMemberVerdict :=
  let offenders := memberOffenders sampleCap members
  if 0 < offenders.length then
    ⟨false, offenders, members.length,
      "The seed archive contains " ++ toString offenders.length ++ " unsafe path(s); refusing to extract. " ++
        "Unsafe members are absolute paths, \x60..\x60 traversal, or control characters."⟩
  else ⟨true, [], members.length, "All archive members are safe relative paths."⟩

def validateSeedArchive (result : ListCommandResult) : ArchiveValidation :=
  let listing := listArchiveMembers sampleCap result
  if !listing.ok then ⟨false, ⟨0, []⟩, [], listing.message⟩
  else
    let nameVerdict := validateArchiveMembers sampleCap listing.names
    let members : ArchiveMemberSample := ⟨listing.names.length, sliceList listing.names sampleCap⟩
    if !nameVerdict.ok || !listing.typeOffenders.isEmpty then
      ⟨false, members, sliceList (nameVerdict.offenders ++ listing.typeOffenders) sampleCap,
        if listing.typeOffenders.isEmpty then nameVerdict.message
        else "The seed archive contains members that are not regular files or directories; refusing to extract."⟩
    else
      ⟨true, members, [], "All " ++ toString listing.names.length ++ " archive members are safe regular files or directories."⟩

end Listing

/-- The line reads as a regular file or a directory with a safe name.  The root of the archive has no name below itself,
and its own is safe. -/
def IsMemberLine (line : String) : Prop :=
  ∃ member, parseVerboseMemberLine line = some member ∧ (member.type = '-' ∨ member.type = 'd') ∧
    (isSafeArchiveMember (normalizeArchiveMemberName member.name) = true ∨
      normalizeArchiveMemberName member.name = "" ∧ isSafeArchiveMember member.name = true)

/-- A line that cannot be read, and is taken for a name. -/
def IsBareName (line : String) : Prop :=
  parseVerboseMemberLine line = none ∧ line.toList.head? ≠ some '/' ∧ includesTwoDots line.toList = false

/-- A line that the validation counts against the archive, given a sample that may hold an offender. -/
inductive Refused (sampleCap : Int) (line : String) : Prop where
  | unreadable (hline : parseVerboseMemberLine line = none)
      (htext : line.toList.head? = some '/' ∨ includesTwoDots line.toList = true)
  | bareName (hline : IsBareName line) (hname : isSafeArchiveMember (normalizeArchiveMemberName line) = false)
      (hcap : 0 < sampleCap)
  | ofType (member : ArchiveMember) (hline : parseVerboseMemberLine line = some member)
      (htype : member.type ≠ '-' ∧ member.type ≠ 'd') (hcap : 0 < sampleCap)
  | ofName (member : ArchiveMember) (hline : parseVerboseMemberLine line = some member)
      (htype : member.type = '-' ∨ member.type = 'd') (hroot : normalizeArchiveMemberName member.name ≠ "")
      (hname : isSafeArchiveMember (normalizeArchiveMemberName member.name) = false) (hcap : 0 < sampleCap)

inductive Unchecked (sampleCap : Int) (line : String) : Prop where
  | bareName (hline : IsBareName line)
      (hname : isSafeArchiveMember (normalizeArchiveMemberName line) = true ∨ sampleCap ≤ 0)
  | nameless (member : ArchiveMember) (hline : parseVerboseMemberLine line = some member)
      (htype : member.type = '-' ∨ member.type = 'd') (hroot : normalizeArchiveMemberName member.name = "")
      (hname : isSafeArchiveMember member.name = false)
  | ofType (member : ArchiveMember) (hline : parseVerboseMemberLine line = some member)
      (htype : member.type ≠ '-' ∧ member.type ≠ 'd') (hcap : sampleCap ≤ 0)
  | ofName (member : ArchiveMember) (hline : parseVerboseMemberLine line = some member)
      (htype : member.type = '-' ∨ member.type = 'd') (hroot : normalizeArchiveMemberName member.name ≠ "")
      (hname : isSafeArchiveMember (normalizeArchiveMemberName member.name) = false) (hcap : sampleCap ≤ 0)

variable {sampleCap : Int} {line : String}

theorem unchecked_of_not (hme : ¬IsMemberLine line) (href : ¬Refused sampleCap line) : Unchecked sampleCap line := by
  cases hline : parseVerboseMemberLine line with
  | none =>
    have hbare : IsBareName line := by
      have htext : ¬(line.toList.head? = some '/' ∨ includesTwoDots line.toList = true) :=
        fun h => href (.unreadable hline h)
      rw [not_or, Bool.not_eq_true] at htext
      exact ⟨hline, htext⟩
    refine .bareName hbare ?_
    by_contra! hno
    exact href (.bareName hbare (Bool.eq_false_iff.mpr hno.1) hno.2)
  | some member =>
    by_cases htype : member.type = '-' ∨ member.type = 'd'
    · by_cases hroot : normalizeArchiveMemberName member.name = ""
      · refine .nameless member hline htype hroot (Bool.eq_false_iff.mpr fun hname => hme ?_)
        exact ⟨member, hline, htype, .inr ⟨hroot, hname⟩⟩
      · have hname : isSafeArchiveMember (normalizeArchiveMemberName member.name) = false :=
          Bool.eq_false_iff.mpr fun hname => hme ⟨member, hline, htype, .inl hname⟩
        exact .ofName member hline htype hroot hname (not_lt.mp fun hcap => href (.ofName member hline htype hroot hname hcap))
    · rw [not_or] at htype
      exact .ofType member hline htype (not_lt.mp fun hcap => href (.ofType member hline htype hcap))

theorem Unchecked.not_memberLine (h : Unchecked sampleCap line) : ¬IsMemberLine line := by
  rintro ⟨member, hme, htype, hname⟩
  cases h with
  | bareName hline => simp [hline.1] at hme
  | nameless other hline ho hroot hbadName =>
    obtain rfl := Option.mem_unique hme hline
    obtain hname | hname := hname
    · rw [hroot] at hname
      exact absurd hname (by decide)
    · exact absurd hname.2 (by simp [hbadName])
  | ofType other hline ho =>
    obtain rfl := Option.mem_unique hme hline
    exact htype.elim ho.1 ho.2
  | ofName other hline ho hroot hbadName =>
    obtain rfl := Option.mem_unique hme hline
    obtain hname | hname := hname
    · exact absurd hname (by simp [hbadName])
    · exact hroot hname.1

def listedName (line : String) : Option String :=
  match parseVerboseMemberLine line with
  | none =>
    if line.toList.head? = some '/' ∨ includesTwoDots line.toList = true then none
    else some (normalizeArchiveMemberName line)
  | some parsed =>
    if parsed.type ≠ '-' ∧ parsed.type ≠ 'd' then none
    else if normalizeArchiveMemberName parsed.name = "" then none
    else some (normalizeArchiveMemberName parsed.name)

def OffendsListing (sampleCap : Int) (line : String) : Prop :=
  (parseVerboseMemberLine line = none ∧ (line.toList.head? = some '/' ∨ includesTwoDots line.toList = true)) ∨
    ∃ member, parseVerboseMemberLine line = some member ∧ (member.type ≠ '-' ∧ member.type ≠ 'd') ∧ 0 < sampleCap

theorem listLine_names (found : List String × List String) :
    (listLine sampleCap found line).1 = found.1 ++ (listedName line).toList := by
  unfold listLine listedName
  cases parseVerboseMemberLine line with
  | none => dsimp only; split <;> simp
  | some parsed =>
    dsimp only
    split
    · split <;> simp
    · split <;> simp

theorem listLine_offenders (found : List String × List String) :
    (listLine sampleCap found line).2 = [] ↔ found.2 = [] ∧ ¬OffendsListing sampleCap line := by
  unfold listLine OffendsListing
  cases hline : parseVerboseMemberLine line with
  | none =>
    dsimp only
    split
    · simp_all
    · simp_all
  | some parsed =>
    dsimp only
    by_cases htype : parsed.type ≠ '-' ∧ parsed.type ≠ 'd'
    · rw [if_pos htype]
      split
      · rename_i hroom
        have : ¬(found.2 = [] ∧ ¬0 < sampleCap) := by
          rintro ⟨hnil, hcap⟩
          simp [hnil] at hroom
          exact hcap hroom
        simp_all
      · rename_i hroom
        constructor
        · intro hnil
          refine ⟨hnil, ?_⟩
          simp [hnil] at hroom
          simp
          omega
        · exact And.left
    · rw [if_neg htype]
      simp only [Option.some.injEq, reduceCtorEq, false_and, false_or, exists_eq_left', htype, not_false_eq_true, and_true]
      split <;> rfl

theorem foldl_listLine (lines : List String) (found : List String × List String) :
    (lines.foldl (listLine sampleCap) found).1 = found.1 ++ lines.filterMap listedName ∧
      ((lines.foldl (listLine sampleCap) found).2 = [] ↔
        found.2 = [] ∧ ∀ line ∈ lines, ¬OffendsListing sampleCap line) := by
  induction lines generalizing found with
  | nil => simp
  | cons line lines ih =>
    obtain ⟨hn, hoff⟩ := ih (listLine sampleCap found line)
    rw [List.foldl_cons]
    constructor
    · rw [hn, listLine_names, List.append_assoc]
      cases hname : listedName line <;> simp [hname]
    · rw [hoff, listLine_offenders, List.forall_mem_cons, and_assoc]

theorem memberOffenders_eq_nil (members : List String) :
    memberOffenders sampleCap members = [] ↔ sampleCap ≤ 0 ∨ ∀ member ∈ members, isSafeArchiveMember member = true := by
  suffices h : ∀ offenders : List String,
      members.foldl (fun offenders member =>
        if isSafeArchiveMember member then offenders
        else if (offenders.length : Int) < sampleCap then offenders ++ [sliceText member 200]
        else offenders) offenders = [] ↔
      offenders = [] ∧ (sampleCap ≤ 0 ∨ ∀ member ∈ members, isSafeArchiveMember member = true) by
    simpa [memberOffenders] using h []
  induction members with
  | nil => simp
  | cons member members ih =>
    intro offenders
    rw [List.foldl_cons, ih, List.forall_mem_cons]
    cases hsafe : isSafeArchiveMember member with
    | true => simp
    | false =>
      simp only [Bool.false_eq_true, if_false, false_and, or_false]
      split
      · rename_i hroom
        simp only [List.append_eq_nil_iff, List.cons_ne_nil, and_false, false_and, false_iff, not_and, not_le]
        rintro rfl
        simpa using hroom
      rename_i hroom
      constructor
      · rintro ⟨rfl, -⟩
        exact ⟨rfl, by simpa using hroom⟩
      · rintro ⟨hnil, hcap⟩
        exact ⟨hnil, .inl hcap⟩

theorem refused_iff :
    Refused sampleCap line ↔ OffendsListing sampleCap line ∨
      0 < sampleCap ∧ ∃ name, listedName line = some name ∧ isSafeArchiveMember name = false := by
  constructor
  · intro h
    cases h with
    | unreadable hline htext => exact .inl (.inl ⟨hline, htext⟩)
    | bareName hline hname hcap =>
      refine .inr ⟨hcap, _, ?_, hname⟩
      simp [listedName, hline.1, hline.2]
    | ofType member hline htype hcap => exact .inl (.inr ⟨member, hline, htype, hcap⟩)
    | ofName member hline htype hroot hname hcap =>
      refine .inr ⟨hcap, _, ?_, hname⟩
      have htype : ¬(member.type ≠ '-' ∧ member.type ≠ 'd') := by tauto
      simp only [listedName, hline, if_neg htype, if_neg hroot]
  · rintro ((⟨hline, htext⟩ | ⟨member, hline, htype, hcap⟩) | ⟨hcap, name, hlist, hname⟩)
    · exact .unreadable hline htext
    · exact .ofType member hline htype hcap
    · unfold listedName at hlist
      cases hline : parseVerboseMemberLine line with
      | none =>
        rw [hline] at hlist
        dsimp only at hlist
        split at hlist
        · cases hlist
        rename_i htext
        rw [not_or, Bool.not_eq_true] at htext
        cases hlist
        exact .bareName ⟨hline, htext⟩ hname hcap
      | some member =>
        rw [hline] at hlist
        dsimp only at hlist
        split at hlist
        · cases hlist
        rename_i htype
        split at hlist
        · cases hlist
        rename_i hroot
        cases hlist
        exact .ofName member hline (by tauto) hroot hname hcap

theorem validateSeedArchive_ok (result : ListCommandResult) :
    (validateSeedArchive sampleCap result).ok = true ↔
      result.exitCode = 0 ∧ ∀ line ∈ listingLines result.stdout, ¬Refused sampleCap line := by
  unfold validateSeedArchive listArchiveMembers
  by_cases hexit : result.exitCode = 0
  · obtain ⟨hn, hoff⟩ := @foldl_listLine sampleCap (listingLines result.stdout) ([], [])
    have hverd : (validateArchiveMembers sampleCap ((listingLines result.stdout).filterMap listedName)).ok = true ↔
        sampleCap ≤ 0 ∨ ∀ member ∈ (listingLines result.stdout).filterMap listedName, isSafeArchiveMember member = true := by
      rw [← memberOffenders_eq_nil]
      unfold validateArchiveMembers
      dsimp only
      split
      · rename_i hsome
        simpa using List.length_pos_iff.mp hsome
      · rename_i hnone
        simpa using hnone
    have hall : (∀ line ∈ listingLines result.stdout, ¬Refused sampleCap line) ↔
        (∀ line ∈ listingLines result.stdout, ¬OffendsListing sampleCap line) ∧
        (sampleCap ≤ 0 ∨ ∀ member ∈ (listingLines result.stdout).filterMap listedName, isSafeArchiveMember member = true) := by
      simp only [refused_iff, List.mem_filterMap]
      grind
    rw [hall, ← hverd]
    simp only [hexit, ne_eq, not_true_eq_false, if_false, hn, List.nil_append, Bool.not_true, Bool.false_eq_true, true_and]
    simp only [true_and] at hoff
    rw [← hoff]
    split
    · rename_i hbad
      simp only [Bool.false_eq_true, false_iff]
      simpa [or_iff_not_imp_left, and_comm] using hbad
    · rename_i hgood
      simpa [and_comm] using hgood
  · simp [hexit]

/-- Acceptance means that every line is a proper member exactly when no line gets past the validation unchecked, unless
tar fails or another line is refused. -/
theorem listing_refusal (sampleCap : Int) (result : ListCommandResult) :
    ((validateSeedArchive sampleCap result).ok = true → ∀ line ∈ listingLines result.stdout, IsMemberLine line) ↔
      (result.exitCode ≠ 0 ∨ (∃ line ∈ listingLines result.stdout, Refused sampleCap line) ∨
        ∀ line ∈ listingLines result.stdout, ¬Unchecked sampleCap line) := by
  rw [validateSeedArchive_ok]
  constructor
  · intro hpr
    by_cases hacc : result.exitCode = 0 ∧ ∀ line ∈ listingLines result.stdout, ¬Refused sampleCap line
    · right
      right
      intro line hline hun
      exact hun.not_memberLine (hpr hacc line hline)
    by_cases hexit : result.exitCode = 0
    · right
      left
      by_contra hnone
      exact hacc ⟨hexit, fun line hline href => hnone ⟨line, hline, href⟩⟩
    · exact .inl hexit
  · rintro hcond ⟨hexit, hacc⟩ line hline
    obtain hfail | ⟨other, ho, href⟩ | hchk := hcond
    · exact absurd hexit hfail
    · exact absurd href (hacc other ho)
    · by_contra hme
      exact hchk line hline (unchecked_of_not hme (hacc line hline))

def deviceLine : String := "crw-rw-rw- 0/0 1,3 2024-01-01 00:00 dev/null"

def deviceListing : ListCommandResult where
  exitCode := 0
  stdout := "crw-rw-rw- 0/0 1,3 2024-01-01 00:00 dev/null\n"
  stderr := ""

/-- The line of the device cannot be read, and the archive is accepted. -/
theorem device_line_is_accepted :
    (validateSeedArchive 20 deviceListing).ok = true ∧
      ¬((validateSeedArchive 20 deviceListing).ok = true →
        ∀ line ∈ listingLines deviceListing.stdout, IsMemberLine line) := by
  have hfc : listingLines deviceListing.stdout = [deviceLine] ∧ parseVerboseMemberLine deviceLine = none ∧
      (validateSeedArchive 20 deviceListing).ok = true := by
    decide +kernel
  obtain ⟨hl, hun, hacc⟩ := hfc
  refine ⟨hacc, fun hpr => ?_⟩
  obtain ⟨member, hme, -⟩ := hpr hacc deviceLine (by simp [hl])
  rw [hun] at hme
  cases hme

end LamaSync
