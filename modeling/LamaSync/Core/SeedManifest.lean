import LamaSync.Core.SeedArchive
import LamaSync.Lib.Texts
import Mathlib.Algebra.Order.Field.Rat
import Mathlib.Data.List.Basic

/-!
# The manifest that travels with a seed

The source describes the members of its archive in a document, the target reads the document back and derives the
content fingerprint from the members again.  `seedManifestDocumentProblem` says what a document must be.  An accepted one
is read back as it was written (`parseSeedManifestDocument_toJson`), and the text that is hashed says of each member what
it is, up to its modification time (`digestLines_injective`).
-/

namespace LamaSync

open Texts

/-- A number.  The infinities and what is not a number are one value here: no check tells them apart. -/
inductive JsDouble where
  | finite (q : ℚ)
  | nonFinite
  deriving DecidableEq

def JsDouble.isCount : JsDouble → Bool
  | .finite q => q.den == 1 && decide (0 ≤ q.num) && decide (q.num ≤ maxSafeInteger)
  | .nonFinite => false

inductive SeedEntryKind where
  | file | dir
  deriving DecidableEq, Repr

def SeedEntryKind.text : SeedEntryKind → String
  | .file => "file"
  | .dir => "dir"

structure SeedManifestEntryDocument where
  path : String
  kind : SeedEntryKind
  size : JsDouble
  mtimeMs : JsDouble
  sha256 : Option String
  deriving DecidableEq

structure SeedManifestDocument where
  version : JsDouble
  fingerprint : String
  filterFingerprint : Option String
  fileCount : JsDouble
  dirCount : JsDouble
  totalBytes : JsDouble
  entries : List SeedManifestEntryDocument
  deriving DecidableEq

def seedManifestEntryLimit : Nat := 2000000

def JsDouble.text (other : JsDouble → List Char) (n : JsDouble) : List Char :=
  match n with
  | .finite q => if q.den = 1 ∧ 0 ≤ q.num then Nat.toDigits 10 q.num.toNat else other n
  | .nonFinite => other n

def digestLine (other : JsDouble → List Char) (entry : SeedManifestEntryDocument) : List Char :=
  entry.path.toList ++ '\x00' :: (entry.kind.text.toList ++ '\x00' :: (entry.size.text other ++
    '\x00' :: ((entry.sha256.getD "-").toList ++ ['\n'])))

def seedManifestContentDigestInput (other : JsDouble → List Char) (entries : List SeedManifestEntryDocument) : String :=
  String.ofList (entries.flatMap (digestLine other))

def isControlCharacter (c : Char) : Bool := c.toNat < 0x20 || c.toNat == 0x7f

def isSafeRelativePath (path : String) : Bool :=
  path.toList.head? != some '/' && !path.toList.contains '\\' &&
    (path.toList.splitOn '/').all fun s => s != [] && s != ['.'] && s != ['.', '.']

def firstChars (path : String) : String := sliceText path 120

def entryProblem (entry : SeedManifestEntryDocument) : Option String :=
  if entry.path.toList = [] ∨ 4096 < utf16Length entry.path.toList then
    some "a transported manifest member has an unusable path"
  else if !isSafeRelativePath entry.path then
    some ("a transported manifest member path is not a safe relative path: " ++ firstChars entry.path)
  else if entry.path.toList.any isControlCharacter then
    some "a transported manifest member path contains a control character"
  else if !entry.size.isCount then
    some ("a transported manifest member has an unusable size: " ++ firstChars entry.path)
  else if entry.mtimeMs = .nonFinite then
    some ("a transported manifest member has an unusable modification time: " ++ firstChars entry.path)
  else
    match entry.kind, entry.sha256 with
    | .file, none => some ("a transported manifest file member has no usable checksum: " ++ firstChars entry.path)
    | .file, some sha256 =>
      if isSha256Hex sha256 then none
      else some ("a transported manifest file member has no usable checksum: " ++ firstChars entry.path)
    | .dir, some _ => some ("a transported manifest directory member carries a checksum: " ++ firstChars entry.path)
    | .dir, none => none

def countKind (kind : SeedEntryKind) (entries : List SeedManifestEntryDocument) : Nat :=
  entries.countP fun entry => entry.kind == kind

def JsDouble.value : JsDouble → ℚ
  | .finite q => q
  | .nonFinite => 0

def fileBytes (entries : List SeedManifestEntryDocument) : ℚ :=
  ((entries.filter fun entry => entry.kind == .file).map fun entry => entry.size.value).sum

def seedManifestDocumentProblem (document : SeedManifestDocument) : Option String :=
  if document.version ≠ .finite 1 then some "the transported manifest has an unknown version"
  else if !isSha256Hex document.fingerprint then
    some "the transported manifest content fingerprint is not a 64-character hex digest"
  else if document.filterFingerprint.any fun fingerprint => !isSha256Hex fingerprint then
    some "the transported manifest filter fingerprint is neither null nor a 64-character hex digest"
  else if !document.fileCount.isCount then some "the transported manifest fileCount is not a non-negative integer"
  else if !document.dirCount.isCount then some "the transported manifest dirCount is not a non-negative integer"
  else if !document.totalBytes.isCount then some "the transported manifest totalBytes is not a non-negative integer"
  else if seedManifestEntryLimit < document.entries.length then
    some "the transported manifest has more members than a seed can describe"
  else if (document.entries.length : ℚ) ≠ document.fileCount.value + document.dirCount.value then
    some "the transported manifest's member count does not match its file and directory counts"
  else
    match document.entries.findSome? entryProblem with
    | some problem => some problem
    | none =>
      if (countKind .file document.entries : ℚ) ≠ document.fileCount.value ∨
          (countKind .dir document.entries : ℚ) ≠ document.dirCount.value then
        some "the transported manifest's member kinds do not match its declared counts"
      else if fileBytes document.entries ≠ document.totalBytes.value then
        some "the transported manifest's total byte count does not match its members"
      else none

def JsDouble.toJson : JsDouble → Json
  | .finite q => .num q
  | .nonFinite => .null

def SeedManifestEntryDocument.toJson (entry : SeedManifestEntryDocument) : Json := .obj [
  ("path", .str entry.path),
  ("kind", .str entry.kind.text),
  ("size", entry.size.toJson),
  ("mtimeMs", entry.mtimeMs.toJson),
  ("sha256", Json.ofNullableString entry.sha256)]

def SeedManifestDocument.toJson (document : SeedManifestDocument) : Json := .obj [
  ("version", document.version.toJson),
  ("fingerprint", .str document.fingerprint),
  ("filterFingerprint", Json.ofNullableString document.filterFingerprint),
  ("fileCount", document.fileCount.toJson),
  ("dirCount", document.dirCount.toJson),
  ("totalBytes", document.totalBytes.toJson),
  ("entries", .arr (document.entries.map SeedManifestEntryDocument.toJson))]

def numberOf : Option Json → Option JsDouble
  | some (.num q) => some (.finite q)
  | some .overflow => some .nonFinite
  | _ => none

def textOf : Option Json → Option String
  | some (.str s) => some s
  | _ => none

def nullableTextOf : Option Json → Option (Option String)
  | some (.str s) => some (some s)
  | some .null => some none
  | _ => none

def kindOf : Option Json → Option SeedEntryKind
  | some (.str s) => if s = "file" then some .file else if s = "dir" then some .dir else none
  | _ => none

def parseEntry (raw : Json) : Option SeedManifestEntryDocument := do
  guard raw.isRecord
  let path ← textOf (raw.field "path")
  let kind ← kindOf (raw.field "kind")
  let size ← numberOf (raw.field "size")
  let mtimeMs ← numberOf (raw.field "mtimeMs")
  let sha256 ← nullableTextOf (raw.field "sha256")
  pure ⟨path, kind, size, mtimeMs, sha256⟩

def entriesOf : Option Json → Option (List SeedManifestEntryDocument)
  | some (.arr items) => items.mapM parseEntry
  | _ => none

def parseSeedManifestDocument (value : Json) : Option SeedManifestDocument := do
  guard value.isRecord
  guard (numberOf (value.field "version") = some (.finite 1))
  let fingerprint ← textOf (value.field "fingerprint")
  let filterFingerprint ← nullableTextOf (value.field "filterFingerprint")
  let fileCount ← numberOf (value.field "fileCount")
  let dirCount ← numberOf (value.field "dirCount")
  let totalBytes ← numberOf (value.field "totalBytes")
  let entries ← entriesOf (value.field "entries")
  let document := ⟨.finite 1, fingerprint, filterFingerprint, fileCount, dirCount, totalBytes, entries⟩
  if seedManifestDocumentProblem document = none then some document else none

section RoundTrip

variable {document : SeedManifestDocument} {entry : SeedManifestEntryDocument}

theorem finite_of_isCount {n : JsDouble} (h : n.isCount = true) : ∃ q, n = .finite q := by
  cases n with
  | finite q => exact ⟨q, rfl⟩
  | nonFinite => cases h

theorem numberOf_toJson {n : JsDouble} (h : n ≠ .nonFinite) : numberOf (some n.toJson) = some n := by
  cases n with
  | finite q => rfl
  | nonFinite => exact absurd rfl h

theorem nullableTextOf_ofNullableString (text : Option String) :
    nullableTextOf (some (Json.ofNullableString text)) = some text := by
  cases text <;> rfl

theorem kindOf_text (kind : SeedEntryKind) : kindOf (some (.str kind.text)) = some kind := by
  cases kind <;> rfl

structure MemberAccepted (entry : SeedManifestEntryDocument) : Prop where
  safe : isSafeRelativePath entry.path = true
  plain : ∀ c ∈ entry.path.toList, isControlCharacter c = false
  size : entry.size.isCount = true
  mtimeMs : entry.mtimeMs ≠ .nonFinite
  file : entry.kind = .file → ∃ sha256, entry.sha256 = some sha256 ∧ isSha256Hex sha256 = true
  dir : entry.kind = .dir → entry.sha256 = none

theorem ite_some_eq_none {α : Type} {c : Prop} [Decidable c] {problem : α} {rest : Option α} :
    (if c then some problem else rest) = none ↔ ¬c ∧ rest = none := by
  by_cases h : c <;> simp [h]

theorem memberAccepted_of_entryProblem (h : entryProblem entry = none) : MemberAccepted entry := by
  simp only [entryProblem, ite_some_eq_none] at h
  obtain ⟨-, hsafe, hpl, hsize, hmt, hsha⟩ := h
  rw [Bool.not_eq_true', Bool.not_eq_false] at hsafe hsize
  rw [Bool.not_eq_true, List.any_eq_false] at hpl
  refine ⟨hsafe, fun c hc => by simpa using hpl c hc, hsize, hmt, ?_, ?_⟩
  · intro hkind
    rw [hkind] at hsha
    cases he : entry.sha256 with
    | none =>
      rw [he] at hsha
      cases hsha
    | some sha256 =>
      rw [he] at hsha
      refine ⟨sha256, rfl, ?_⟩
      dsimp only at hsha
      split at hsha
      · assumption
      · cases hsha
  · intro hkind
    rw [hkind] at hsha
    cases he : entry.sha256 with
    | none => rfl
    | some sha256 =>
      rw [he] at hsha
      cases hsha

structure DocumentAccepted (document : SeedManifestDocument) : Prop where
  version : document.version = .finite 1
  fileCount : document.fileCount.isCount = true
  dirCount : document.dirCount.isCount = true
  totalBytes : document.totalBytes.isCount = true
  members : ∀ entry ∈ document.entries, MemberAccepted entry

theorem documentAccepted_of_problem (h : seedManifestDocumentProblem document = none) : DocumentAccepted document := by
  simp only [seedManifestDocumentProblem, ite_some_eq_none] at h
  obtain ⟨hve, -, -, hfileCount, hdirCount, htotalBytes, -, -, hme⟩ := h
  rw [Bool.not_eq_true', Bool.not_eq_false] at hfileCount hdirCount htotalBytes
  split at hme
  · cases hme
  rename_i hnone
  exact ⟨not_not.1 hve, hfileCount, hdirCount, htotalBytes,
    fun entry hmem => memberAccepted_of_entryProblem (List.findSome?_eq_none_iff.1 hnone entry hmem)⟩

theorem parseEntry_toJson (h : MemberAccepted entry) : parseEntry entry.toJson = some entry := by
  obtain ⟨size, hsize⟩ := finite_of_isCount h.size
  have hread : numberOf (some entry.size.toJson) = some entry.size := numberOf_toJson (by rw [hsize]; simp)
  have hmt : numberOf (some entry.mtimeMs.toJson) = some entry.mtimeMs := numberOf_toJson h.mtimeMs
  simp [parseEntry, SeedManifestEntryDocument.toJson, Json.isRecord, List.lookup_cons, textOf, kindOf_text, hread, hmt,
    nullableTextOf_ofNullableString]

theorem mapM_parseEntry {entries : List SeedManifestEntryDocument} (h : ∀ entry ∈ entries, MemberAccepted entry) :
    (entries.map SeedManifestEntryDocument.toJson).mapM parseEntry = some entries := by
  induction entries with
  | nil => rfl
  | cons entry entries ih =>
    have hen := parseEntry_toJson (h entry (.head _))
    have hents := ih fun e he => h e (.tail _ he)
    rw [List.map_cons, List.mapM_cons, hen, hents]
    rfl

theorem parseSeedManifestDocument_toJson (h : seedManifestDocumentProblem document = none) :
    parseSeedManifestDocument document.toJson = some document := by
  have hacc := documentAccepted_of_problem h
  have hc : ∀ n : JsDouble, n.isCount = true → numberOf (some n.toJson) = some n := by
    intro n hn
    obtain ⟨q, rfl⟩ := finite_of_isCount hn
    rfl
  have hf := hc _ hacc.fileCount
  have hdirs := hc _ hacc.dirCount
  have hb := hc _ hacc.totalBytes
  have hents := mapM_parseEntry hacc.members
  have hve : numberOf (some document.version.toJson) = some (.finite 1) := by
    rw [hacc.version]
    rfl
  have hsame : (⟨.finite 1, document.fingerprint, document.filterFingerprint, document.fileCount, document.dirCount,
      document.totalBytes, document.entries⟩ : SeedManifestDocument) = document := by
    rw [← hacc.version]
  simp [parseSeedManifestDocument, SeedManifestDocument.toJson, Json.isRecord, List.lookup_cons, textOf, hve, hf,
    hdirs, hb, nullableTextOf_ofNullableString, entriesOf, hents, hsame, h]

end RoundTrip

section Digest

variable {other : JsDouble → List Char} {a b : SeedManifestEntryDocument}

/-- What the digest says of a member. -/
def SeedManifestEntryDocument.content (entry : SeedManifestEntryDocument) :
    String × SeedEntryKind × JsDouble × Option String :=
  (entry.path, entry.kind, entry.size, entry.sha256)

theorem text_of_isCount (other : JsDouble → List Char) {n : JsDouble} (h : n.isCount = true) :
    ∃ k : Nat, n = .finite k ∧ n.text other = Nat.toDigits 10 k := by
  obtain ⟨q, rfl⟩ := finite_of_isCount h
  simp only [JsDouble.isCount, Bool.and_eq_true, beq_iff_eq, decide_eq_true_eq] at h
  obtain ⟨⟨hden, hno⟩, -⟩ := h
  refine ⟨q.num.toNat, ?_, if_pos ⟨hden, hno⟩⟩
  have hq : ((q.num.toNat : Int) : ℚ) = q := by
    rw [Int.toNat_of_nonneg hno]
    exact Rat.den_eq_one_iff q |>.1 hden
  rw [← Int.cast_natCast, hq]

theorem digits_no_nul (k : Nat) : '\x00' ∉ Nat.toDigits 10 k := notMem_toDigits (by decide) k

theorem isSha256Hex_no_newline {sha256 : String} (h : isSha256Hex sha256 = true) : '\n' ∉ sha256.toList := by
  intro hmem
  simp only [isSha256Hex, Bool.and_eq_true, List.all_eq_true] at h
  exact absurd (h.2 _ hmem) (by decide)

theorem sha_no_newline (h : MemberAccepted a) : '\n' ∉ (a.sha256.getD "-").toList := by
  cases hkind : a.kind with
  | file =>
    obtain ⟨sha256, hsha, hhex⟩ := h.file hkind
    rw [hsha]
    exact isSha256Hex_no_newline hhex
  | dir =>
    rw [h.dir hkind]
    decide

theorem sha_injective (ha : MemberAccepted a) (hb : MemberAccepted b) (hkind : a.kind = b.kind)
    (h : (a.sha256.getD "-").toList = (b.sha256.getD "-").toList) : a.sha256 = b.sha256 := by
  cases hA : a.kind with
  | file =>
    obtain ⟨shaA, hshaA, -⟩ := ha.file hA
    obtain ⟨shaB, hshaB, -⟩ := hb.file (hkind ▸ hA)
    rw [hshaA, hshaB] at h ⊢
    exact congrArg some (String.toList_inj.1 h)
  | dir => rw [ha.dir hA, hb.dir (hkind ▸ hA)]

theorem digestLine_injective (ha : MemberAccepted a) (hb : MemberAccepted b) {rest rest' : List Char}
    (h : digestLine other a ++ rest = digestLine other b ++ rest') : a.content = b.content ∧ rest = rest' := by
  obtain ⟨k, hk, htextA⟩ := text_of_isCount other ha.size
  obtain ⟨l, hl, htextB⟩ := text_of_isCount other hb.size
  have hpath : ∀ {e : SeedManifestEntryDocument}, MemberAccepted e → '\x00' ∉ e.path.toList := by
    intro e he hmem
    exact absurd (he.plain _ hmem) (by decide)
  have hkind : ∀ kind : SeedEntryKind, '\x00' ∉ kind.text.toList := by
    intro kind
    cases kind <;> decide
  simp only [digestLine, List.append_assoc, List.cons_append, htextA, htextB] at h
  obtain ⟨hpa, hafterPath⟩ := eq_of_first_separator (hpath ha) (hpath hb) h
  obtain ⟨hki, hafterKind⟩ := eq_of_first_separator (hkind _) (hkind _) hafterPath
  obtain ⟨hsi, hafterSize⟩ := eq_of_first_separator (digits_no_nul k) (digits_no_nul l) hafterKind
  obtain ⟨hshas, hrest⟩ := eq_of_first_separator (sha_no_newline ha) (sha_no_newline hb) hafterSize
  refine ⟨?_, by simpa using hrest⟩
  have hkindEq : a.kind = b.kind := by
    cases hA : a.kind <;> cases hB : b.kind <;> rw [hA, hB] at hki <;> first | rfl | exact absurd hki (by decide)
  simp only [SeedManifestEntryDocument.content, Prod.mk.injEq]
  exact ⟨String.toList_inj.1 hpa, hkindEq, by rw [hk, hl, toDigits_injective hsi], sha_injective ha hb hkindEq hshas⟩

theorem digestLines_injective {as bs : List SeedManifestEntryDocument} (has : ∀ e ∈ as, MemberAccepted e)
    (hbs : ∀ e ∈ bs, MemberAccepted e) (h : as.flatMap (digestLine other) = bs.flatMap (digestLine other)) :
    as.map SeedManifestEntryDocument.content = bs.map SeedManifestEntryDocument.content := by
  have hne : ∀ e : SeedManifestEntryDocument, digestLine other e ≠ [] := by
    intro e
    simp [digestLine]
  induction as generalizing bs with
  | nil =>
    cases bs with
    | nil => rfl
    | cons b bs =>
      rw [List.flatMap_nil, List.flatMap_cons] at h
      exact absurd (List.append_eq_nil_iff.1 h.symm).1 (hne b)
  | cons a as ih =>
    cases bs with
    | nil =>
      rw [List.flatMap_nil, List.flatMap_cons] at h
      exact absurd (List.append_eq_nil_iff.1 h).1 (hne a)
    | cons b bs =>
      rw [List.flatMap_cons, List.flatMap_cons] at h
      obtain ⟨hcont, hrest⟩ := digestLine_injective (has a (.head _)) (hbs b (.head _)) h
      have htail := ih (fun e he => has e (.tail _ he)) (fun e he => hbs e (.tail _ he)) hrest
      rw [List.map_cons, List.map_cons, hcont, htail]

end Digest

/-- An accepted document is read back as it was written, and two accepted documents with one digest input have the same
members, of the same kinds, sizes and hashes. -/
theorem manifest_encoding (other : JsDouble → List Char) :
    (∀ document, seedManifestDocumentProblem document = none →
      parseSeedManifestDocument document.toJson = some document) ∧
    ∀ document document', seedManifestDocumentProblem document = none → seedManifestDocumentProblem document' = none →
      seedManifestContentDigestInput other document.entries = seedManifestContentDigestInput other document'.entries →
      document.entries.map SeedManifestEntryDocument.content = document'.entries.map SeedManifestEntryDocument.content := by
  refine ⟨fun document h => parseSeedManifestDocument_toJson h, fun document document' h h' hin => ?_⟩
  have hte := congrArg String.toList hin
  simp only [seedManifestContentDigestInput, String.toList_ofList] at hte
  exact digestLines_injective (documentAccepted_of_problem h).members (documentAccepted_of_problem h').members hte

def albumManifest : SeedManifestDocument where
  version := .finite 1
  fingerprint := "0000000000000000000000000000000000000000000000000000000000000000"
  filterFingerprint := none
  fileCount := .finite 1
  dirCount := .finite 1
  totalBytes := .finite 3
  entries := [
    ⟨"album", .dir, .finite 0, .finite 1700000000000, none⟩,
    ⟨"album/a b.jpg", .file, .finite 3, .finite 1700000000000,
      some "00000000000000000000000000000000000000000000000000000000000000aa"⟩]

theorem manifest_encoding_album :
    parseSeedManifestDocument albumManifest.toJson = some albumManifest ∧
      albumManifest.entries.map SeedManifestEntryDocument.content =
        albumManifest.entries.map SeedManifestEntryDocument.content := by
  have h : seedManifestDocumentProblem albumManifest = none := by decide +kernel
  have hen := manifest_encoding fun _ => []
  exact ⟨hen.1 albumManifest h, hen.2 albumManifest albumManifest h h rfl⟩

end LamaSync
