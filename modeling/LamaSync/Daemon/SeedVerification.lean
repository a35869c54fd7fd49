import LamaSync.Core.SeedManifest

/-!
# The verification of an extracted tree

`verifyExtractedTree` looks every member of the manifest up in the extracted tree, and then walks the tree for entries that
the manifest does not have.  The look-up follows the links that lie on the way to a member, and the walk enters none: a link
anywhere is found because its own path is no member of the right kind.  `verified_iff` says that a tree is verified exactly
when it is what the manifest describes and all of it can be read.
-/

namespace LamaSync

structure EntryName where
  chars : List Char
  nonempty : chars ≠ []
  noSlash : '/' ∉ chars
  notDot : chars ≠ ['.']
  notDotDot : chars ≠ ['.', '.']
  deriving DecidableEq

/-- What `lstat` says of an entry. -/
inductive EntryStat where
  | file (content : List UInt8)
  | dir
  /-- A link, a device, a pipe or a socket. -/
  | other
  deriving DecidableEq

abbrev EntryPath := List (List Char)

/-- The entries of a directory, in the order they are read.  Behind a link anything may be found. -/
inductive ExtractedEntries where
  | nil
  | file (name : EntryName) (content : List UInt8) (rest : ExtractedEntries)
  | dir (name : EntryName) (entries : ExtractedEntries) (rest : ExtractedEntries)
  | link (name : EntryName) (behind : EntryPath → Option EntryStat) (rest : ExtractedEntries)
  | special (name : EntryName) (rest : ExtractedEntries)

namespace ExtractedEntries

def names : ExtractedEntries → List (List Char)
  | nil => []
  | file name _ rest | dir name _ rest | link name _ rest | special name rest => name.chars :: names rest

def Distinct : ExtractedEntries → Prop
  | nil => True
  | file name _ rest | link name _ rest | special name rest => name.chars ∉ rest.names ∧ Distinct rest
  | dir name entries rest => name.chars ∉ rest.names ∧ Distinct entries ∧ Distinct rest

def items : ExtractedEntries → List (EntryPath × EntryStat)
  | nil => []
  | file name content rest => ([name.chars], .file content) :: items rest
  | dir name entries rest =>
    ([name.chars], .dir) :: (items entries).map (fun item => (name.chars :: item.1, item.2)) ++ items rest
  | link name _ rest | special name rest => ([name.chars], .other) :: items rest

/-- What is found at a path below the directory.  The last name of it is not followed, and those before it are. -/
def find : ExtractedEntries → EntryPath → Option EntryStat
  | _, [] => some .dir
  | nil, _ :: _ => none
  | file name content rest, part :: parts =>
    if name.chars = part then (if parts = [] then some (.file content) else none) else find rest (part :: parts)
  | dir name entries rest, part :: parts =>
    if name.chars = part then find entries parts else find rest (part :: parts)
  | link name behind rest, part :: parts =>
    if name.chars = part then (if parts = [] then some .other else behind parts) else find rest (part :: parts)
  | special name rest, part :: parts =>
    if name.chars = part then (if parts = [] then some .other else none) else find rest (part :: parts)

end ExtractedEntries

structure ExtractedTree where
  entries : ExtractedEntries
  distinct : entries.Distinct

/-- The calls that fail, whatever is there, and the texts and digests of what is compared. -/
structure VerifyIo where
  lstatFails : EntryPath → Bool
  readdirFails : EntryPath → Bool
  readError : EntryPath → Option String
  sha256 : List UInt8 → String
  printNumber : JsDouble → List Char

structure VerifyTreeResult where
  ok : Bool
  checked : Nat
  mismatches : List String
  message : String
  deriving DecidableEq

def entryPathOf (path : String) : EntryPath := path.toList.splitOn '/'

def relativeText (path : EntryPath) : String := String.ofList (['/'].intercalate path)

section Verify

variable (io : VerifyIo) (tree : ExtractedTree) (manifest : SeedManifestDocument) (cap : Nat)

def checkEntry (entry : SeedManifestEntryDocument) : Except String (Option String × Bool) :=
  let path := entryPathOf entry.path
  match if io.lstatFails path then none else tree.entries.find path with
  | none => .ok (some ("missing: " ++ entry.path), false)
  | some stat =>
    match entry.kind, stat with
    | .dir, .dir => .ok (none, true)
    | .dir, _ => .ok (some ("not a directory: " ++ entry.path), true)
    | .file, .file content =>
      if JsDouble.finite content.length ≠ entry.size then
        .ok (some ("size mismatch: " ++ entry.path ++ " (expected " ++ String.ofList (entry.size.text io.printNumber) ++
          ", found " ++ toString content.length ++ ")"), false)
      else
        match io.readError path with
        | some error => .error error
        | none =>
          if entry.sha256 ≠ none ∧ some (io.sha256 content) ≠ entry.sha256 then
            .ok (some ("checksum mismatch: " ++ entry.path), false)
          else .ok (none, true)
    | .file, _ => .ok (some ("not a regular file: " ++ entry.path), false)

def checkEntries : List SeedManifestEntryDocument → Nat → List String → Except String (Nat × List String)
  | [], checked, mismatches => .ok (checked, mismatches)
  | entry :: entries, checked, mismatches =>
    if cap ≤ mismatches.length then .ok (checked, mismatches)
    else
      match checkEntry io tree entry with
      | .error error => .error error
      | .ok (mismatch, counted) =>
        checkEntries entries (if counted then checked + 1 else checked) (mismatches ++ mismatch.toList)

def isExpected (path : EntryPath) : Bool := manifest.entries.any fun entry => entry.path == relativeText path

def scanDirectory (below : EntryPath) (entries : ExtractedEntries) (mismatches : List String) : List String :=
  entries.names.foldl (fun mismatches name =>
    if isExpected manifest (below ++ [name]) then mismatches
    else mismatches ++ ["unexpected entry: " ++ relativeText (below ++ [name])]) mismatches

def walkBelow (below : EntryPath) : ExtractedEntries → List String → List String
  | .nil, mismatches => mismatches
  | .file _ _ rest, mismatches | .link _ _ rest, mismatches | .special _ rest, mismatches => walkBelow below rest mismatches
  | .dir name entries rest, mismatches =>
    let mismatches := walkBelow below rest mismatches
    let path := below ++ [name.chars]
    if !isExpected manifest path ∨ cap ≤ mismatches.length then mismatches
    else if io.readdirFails path then mismatches ++ ["unreadable directory: " ++ relativeText path]
    else walkBelow path entries (scanDirectory manifest path entries mismatches)

/-- The second loop, from the root. -/
def walkTree (mismatches : List String) : List String :=
  if cap ≤ mismatches.length then mismatches
  else if io.readdirFails [] then mismatches ++ ["unreadable directory: " ++ relativeText []]
  else walkBelow io manifest cap [] tree.entries (scanDirectory manifest [] tree.entries mismatches)

def verifyExtractedTree : Except String VerifyTreeResult :=
  match checkEntries io tree cap manifest.entries 0 [] with
  | .error error => .error error
  | .ok (checked, mismatches) =>
    let mismatches := walkTree io tree manifest cap mismatches
    match mismatches with
    | first :: _ =>
      .ok ⟨false, checked, mismatches, "The extracted tree does not match the source: " ++ toString mismatches.length ++
        " problem(s), e.g. " ++ first ++ "."⟩
    | [] =>
      .ok ⟨true, checked, [], "Verified " ++ toString checked ++ " of " ++ toString manifest.entries.length ++
        " manifest entries byte-for-byte."⟩

end Verify

/-- What an entry of the tree has to be for a member. -/
def EntryStat.Matches (io : VerifyIo) (stat : EntryStat) (entry : SeedManifestEntryDocument) : Prop :=
  match entry.kind, stat with
  | .dir, .dir => True
  | .file, .file content => entry.size = .finite content.length ∧ entry.sha256 = some (io.sha256 content)
  | _, _ => False

/-- The tree has every member, of the right kind, size and digest, and nothing else. -/
structure TreeEquals (io : VerifyIo) (tree : ExtractedTree) (manifest : SeedManifestDocument) : Prop where
  present : ∀ entry ∈ manifest.entries, ∃ stat, (entryPathOf entry.path, stat) ∈ tree.entries.items ∧ stat.Matches io entry
  nothingElse : ∀ item ∈ tree.entries.items, ∃ entry ∈ manifest.entries, entryPathOf entry.path = item.1

structure TreeReadable (io : VerifyIo) (tree : ExtractedTree) : Prop where
  root : io.readdirFails [] = false
  lstat : ∀ item ∈ tree.entries.items, io.lstatFails item.1 = false
  directory : ∀ item ∈ tree.entries.items, item.2 = .dir → io.readdirFails item.1 = false
  file : ∀ item ∈ tree.entries.items, ∀ content, item.2 = .file content → io.readError item.1 = none

namespace ExtractedEntries

variable {entries : ExtractedEntries} {path : EntryPath} {stat : EntryStat}

theorem head_mem_names (h : (path, stat) ∈ entries.items) : ∃ part parts, path = part :: parts ∧ part ∈ entries.names := by
  induction entries with
  | nil => cases h
  | file name content rest ih | link name behind rest ih | special name rest ih =>
    obtain h | h := List.mem_cons.mp h
    · cases h
      exact ⟨_, [], rfl, by simp [names]⟩
    · obtain ⟨part, parts, rfl, hmem⟩ := ih h
      exact ⟨part, parts, rfl, by simp [names, hmem]⟩
  | dir name below rest _ ih =>
    simp only [items, List.cons_append, List.mem_cons, List.mem_append, List.mem_map] at h
    obtain h | ⟨item, -, h⟩ | h := h
    · cases h
      exact ⟨_, [], rfl, by simp [names]⟩
    · cases h
      exact ⟨_, item.1, rfl, by simp [names]⟩
    · obtain ⟨part, parts, rfl, hmem⟩ := ih h
      exact ⟨part, parts, rfl, by simp [names, hmem]⟩

theorem ne_nil_of_mem_items (h : (path, stat) ∈ entries.items) : path ≠ [] := by
  obtain ⟨part, parts, rfl, -⟩ := head_mem_names h
  exact List.cons_ne_nil _ _

theorem mem_items_of_mem_names {name : List Char} (h : name ∈ entries.names) : ∃ stat, ([name], stat) ∈ entries.items := by
  induction entries with
  | nil => cases h
  | file first content rest ih | dir first below rest _ ih | link first behind rest ih | special first rest ih =>
    obtain rfl | h := List.mem_cons.mp h
    · exact ⟨_, .head _⟩
    · obtain ⟨stat, hstat⟩ := ih h
      exact ⟨stat, by simp [items, hstat]⟩

theorem find_of_mem_items (hdist : entries.Distinct) (h : (path, stat) ∈ entries.items) : entries.find path = some stat := by
  induction entries generalizing path with
  | nil => cases h
  | file name content rest ih | link name behind rest ih | special name rest ih =>
    obtain h | h := List.mem_cons.mp h
    · cases h
      simp [find]
    obtain ⟨part, parts, rfl, hmem⟩ := head_mem_names h
    have hne : name.chars ≠ part := fun heq => hdist.1 (heq ▸ hmem)
    rw [find, if_neg hne]
    exact ih hdist.2 h
  | dir name below rest ihBelow ih =>
    simp only [items, List.cons_append, List.mem_cons, List.mem_append, List.mem_map] at h
    obtain h | ⟨item, hitem, h⟩ | h := h
    · cases h
      simp [find]
    · cases h
      rw [find, if_pos rfl]
      exact ihBelow hdist.2.1 hitem
    obtain ⟨part, parts, rfl, hmem⟩ := head_mem_names h
    have hne : name.chars ≠ part := fun heq => hdist.1 (heq ▸ hmem)
    rw [find, if_neg hne]
    exact ih hdist.2.2 h

/-- What is found at a path is an entry of the tree, or there is something on the way that is neither a file nor a
directory. -/
theorem mem_items_of_find (hpath : path ≠ []) (h : entries.find path = some stat) :
    (path, stat) ∈ entries.items ∨ ∃ link, (link, .other) ∈ entries.items := by
  induction entries generalizing path with
  | nil =>
    cases path with
    | nil => exact absurd rfl hpath
    | cons part parts => cases h
  | file name content rest ih | special name rest ih =>
    cases path with
    | nil => exact absurd rfl hpath
    | cons part parts =>
      rw [find] at h
      split at h
      · rename_i hname
        split at h
        · rename_i hpt
          cases h
          subst hname hpt
          exact .inl (by simp [items])
        · cases h
      · obtain hmem | ⟨link, hlink⟩ := ih hpath h
        · exact .inl (by simp [items, hmem])
        · exact .inr ⟨link, by simp [items, hlink]⟩
  | link name behind rest ih =>
    cases path with
    | nil => exact absurd rfl hpath
    | cons part parts =>
      rw [find] at h
      split at h
      · exact .inr ⟨[name.chars], by simp [items]⟩
      obtain hmem | ⟨link, hlink⟩ := ih hpath h
      · exact .inl (by simp [items, hmem])
      · exact .inr ⟨link, by simp [items, hlink]⟩
  | dir name below rest ihBelow ih =>
    cases path with
    | nil => exact absurd rfl hpath
    | cons part parts =>
      rw [find] at h
      split at h
      · rename_i hname
        subst hname
        by_cases hpt : parts = []
        · subst hpt
          have hstat : stat = .dir := by
            cases below <;> exact (Option.some.inj h).symm
          subst hstat
          exact .inl (by simp [items])
        obtain hmem | ⟨link, hlink⟩ := ihBelow hpt h
        · exact .inl (by simp [items, hmem])
        · exact .inr ⟨name.chars :: link, by simp [items, hlink]⟩
      · obtain hmem | ⟨link, hlink⟩ := ih hpath h
        · exact .inl (by simp [items, hmem])
        · exact .inr ⟨link, by simp [items, hlink]⟩

end ExtractedEntries

variable {path : EntryPath} {entry : SeedManifestEntryDocument} {mismatches : List String}

theorem noSlash_of_mem_items {entries : ExtractedEntries} {stat : EntryStat}
    (h : (path, stat) ∈ entries.items) : ∀ part ∈ path, '/' ∉ part := by
  induction entries generalizing path with
  | nil => cases h
  | file name content rest ih | link name behind rest ih | special name rest ih =>
    obtain h | h := List.mem_cons.mp h
    · cases h
      simpa using name.noSlash
    · exact ih h
  | dir name below rest ihBelow ih =>
    simp only [ExtractedEntries.items, List.cons_append, List.mem_cons, List.mem_append, List.mem_map] at h
    obtain h | ⟨item, hitem, h⟩ | h := h
    · cases h
      simpa using name.noSlash
    · cases h
      exact List.forall_mem_cons.mpr ⟨name.noSlash, ihBelow hitem⟩
    · exact ih h

theorem text_eq_relativeText {text : String} (hpath : path ≠ []) (hno : ∀ part ∈ path, '/' ∉ part) :
    text = relativeText path ↔ entryPathOf text = path := by
  unfold relativeText entryPathOf
  constructor
  · rintro rfl
    rw [String.toList_ofList]
    exact List.splitOn_intercalate '/' hno hpath
  · rintro rfl
    rw [List.intercalate_splitOn, String.ofList_toList]

variable {io : VerifyIo} {tree : ExtractedTree} {manifest : SeedManifestDocument} {cap : Nat}

theorem isExpected_iff (hpath : path ≠ []) (hno : ∀ part ∈ path, '/' ∉ part) :
    isExpected manifest path = true ↔ ∃ entry ∈ manifest.entries, entryPathOf entry.path = path := by
  simp only [isExpected, List.any_eq_true, beq_iff_eq, text_eq_relativeText hpath hno]

/-- What the first loop finds at the path of a member. -/
def Checks (io : VerifyIo) (tree : ExtractedTree) (entry : SeedManifestEntryDocument) : Prop :=
  io.lstatFails (entryPathOf entry.path) = false ∧
    ∃ stat, tree.entries.find (entryPathOf entry.path) = some stat ∧ stat.Matches io entry ∧
      ∀ content, stat = .file content → io.readError (entryPathOf entry.path) = none

theorem checkEntry_iff (hacc : MemberAccepted entry) :
    (∃ counted, checkEntry io tree entry = .ok (none, counted)) ↔ Checks io tree entry := by
  unfold checkEntry Checks
  dsimp only
  cases hls : io.lstatFails (entryPathOf entry.path) with
  | true => simp
  | false =>
    simp only [Bool.false_eq_true, if_false, true_and]
    cases hfind : tree.entries.find (entryPathOf entry.path) with
    | none => simp
    | some stat =>
      simp only [Option.some.injEq, exists_eq_left']
      cases hkind : entry.kind with
      | dir => cases stat <;> simp [EntryStat.Matches, hkind]
      | file =>
        cases stat with
        | dir | other => simp [EntryStat.Matches, hkind]
        | file content =>
          obtain ⟨sha256, hsha, -⟩ := hacc.file hkind
          simp only [EntryStat.Matches, hkind, hsha, EntryStat.file.injEq, forall_eq']
          by_cases hsize : JsDouble.finite content.length = entry.size
          · rw [if_neg (not_not.mpr hsize)]
            cases hread : io.readError (entryPathOf entry.path) with
            | some error => simp
            | none =>
              by_cases hdig : io.sha256 content = sha256
              · simp [← hsize, hdig]
              · have ho : ¬sha256 = io.sha256 content := fun h => hdig h.symm
                simp [hdig, ho]
          · have ho : ¬entry.size = .finite content.length := fun h => hsize h.symm
            simp [hsize, ho]

theorem checkEntries_of_mismatch (entries : List SeedManifestEntryDocument) (checked : Nat)
    (h : mismatches ≠ []) {counted : Nat} {found : List String}
    (hrun : checkEntries io tree cap entries checked mismatches = .ok (counted, found)) : found ≠ [] := by
  induction entries generalizing checked mismatches with
  | nil =>
    cases hrun
    exact h
  | cons entry entries ih =>
    rw [checkEntries] at hrun
    split at hrun
    · cases hrun
      exact h
    split at hrun
    · cases hrun
    · exact ih _ (by simp [h]) hrun

theorem checkEntries_iff (hcap : 1 ≤ cap) (entries : List SeedManifestEntryDocument)
    (hacc : ∀ entry ∈ entries, MemberAccepted entry) (checked : Nat) :
    (∃ counted, checkEntries io tree cap entries checked [] = .ok (counted, [])) ↔ ∀ entry ∈ entries, Checks io tree entry := by
  induction entries generalizing checked with
  | nil => simp [checkEntries]
  | cons entry entries ih =>
    obtain ⟨he, hents⟩ := List.forall_mem_cons.mp hacc
    have hroom : ¬cap ≤ ([] : List String).length := not_le.mpr hcap
    rw [List.forall_mem_cons, ← checkEntry_iff he]
    simp only [checkEntries, if_neg hroom]
    cases hch : checkEntry io tree entry with
    | error error => simp
    | ok outcome =>
      obtain ⟨mismatch, counted⟩ := outcome
      cases mismatch with
      | none =>
        simp only [Option.toList, List.append_nil]
        rw [ih hents]
        simp
      | some mismatch =>
        simp only [Except.ok.injEq, Prod.mk.injEq, reduceCtorEq, false_and, exists_false, false_and, iff_false]
        rintro ⟨final, hrun⟩
        exact checkEntries_of_mismatch entries _ (by simp) hrun rfl

theorem scanDirectory_eq_nil (below : EntryPath) (entries : ExtractedEntries) (mismatches : List String) :
    scanDirectory manifest below entries mismatches = [] ↔
      mismatches = [] ∧ ∀ name ∈ entries.names, isExpected manifest (below ++ [name]) = true := by
  unfold scanDirectory
  induction entries.names generalizing mismatches with
  | nil => simp
  | cons name names ih =>
    rw [List.foldl_cons, ih, List.forall_mem_cons]
    split <;> simp_all

theorem walkBelow_of_mismatch (below : EntryPath) (entries : ExtractedEntries)
    (h : mismatches ≠ []) : walkBelow io manifest cap below entries mismatches ≠ [] := by
  induction entries generalizing below mismatches with
  | nil => exact h
  | file name content rest ih | link name behind rest ih | special name rest ih => exact ih below h
  | dir name entries rest ihEntries ih =>
    have hla := ih below h
    rw [walkBelow]
    split
    · exact hla
    split
    · simp
    · refine ihEntries _ fun hscan => hla ?_
      exact ((scanDirectory_eq_nil _ entries _).mp hscan).1

theorem walkBelow_eq_nil (hcap : 1 ≤ cap) (below : EntryPath) (entries : ExtractedEntries) (mismatches : List String)
    (hn : ∀ name ∈ entries.names, isExpected manifest (below ++ [name]) = true) :
    walkBelow io manifest cap below entries mismatches = [] ↔
      mismatches = [] ∧ ∀ item ∈ entries.items, isExpected manifest (below ++ item.1) = true ∧
        (item.2 = .dir → io.readdirFails (below ++ item.1) = false) := by
  induction entries generalizing below mismatches with
  | nil => simp [walkBelow, ExtractedEntries.items]
  | file name content rest ih | link name behind rest ih | special name rest ih =>
    obtain ⟨hname, hrest⟩ := List.forall_mem_cons.mp hn
    rw [walkBelow, ih below mismatches hrest, ExtractedEntries.items, List.forall_mem_cons]
    simp [hname]
  | dir name entries rest ihEntries ih =>
    obtain ⟨hname, hrest⟩ := List.forall_mem_cons.mp hn
    simp only [walkBelow, hname, Bool.not_true, Bool.false_eq_true, false_or]
    simp only [ExtractedEntries.items, List.cons_append, List.forall_mem_cons, List.forall_mem_append, List.forall_mem_map,
      hname, true_and, forall_const]
    have hla := ih below mismatches hrest
    split
    · rename_i hfull
      have hne : walkBelow io manifest cap below rest mismatches ≠ [] := by
        intro hnil
        rw [hnil] at hfull
        exact absurd hfull (not_le.mpr hcap)
      simp only [hne, false_iff] at hla ⊢
      tauto
    · split
      · rename_i hfl
        simp [hfl]
      · rename_i hrd
        rw [Bool.not_eq_true] at hrd
        simp only [hrd, true_and]
        by_cases hscan : ∀ inner ∈ entries.names, isExpected manifest (below ++ [name.chars] ++ [inner]) = true
        · rw [ihEntries _ _ hscan, scanDirectory_eq_nil, hla]
          simp only [List.append_assoc, List.cons_append, List.nil_append] at hscan ⊢
          tauto
        have hf : scanDirectory manifest (below ++ [name.chars]) entries
            (walkBelow io manifest cap below rest mismatches) ≠ [] :=
          fun hnil => hscan ((scanDirectory_eq_nil _ entries _).mp hnil).2
        simp only [walkBelow_of_mismatch _ entries hf, false_iff]
        rintro ⟨-, hbe, -⟩
        refine hscan fun inner hin => ?_
        obtain ⟨stat, hitem⟩ := ExtractedEntries.mem_items_of_mem_names hin
        simpa using (hbe _ hitem).1

theorem walkTree_eq_nil (hcap : 1 ≤ cap) (mismatches : List String) :
    walkTree io tree manifest cap mismatches = [] ↔
      mismatches = [] ∧ io.readdirFails [] = false ∧ ∀ item ∈ tree.entries.items,
        (∃ entry ∈ manifest.entries, entryPathOf entry.path = item.1) ∧ (item.2 = .dir → io.readdirFails item.1 = false) := by
  have hexp : ∀ item ∈ tree.entries.items,
      (isExpected manifest item.1 = true ↔ ∃ entry ∈ manifest.entries, entryPathOf entry.path = item.1) := fun item hitem =>
    isExpected_iff (ExtractedEntries.ne_nil_of_mem_items hitem) (noSlash_of_mem_items hitem)
  unfold walkTree
  split
  · rename_i hfull
    have hne : mismatches ≠ [] := by
      rintro rfl
      exact absurd hfull (not_le.mpr hcap)
    simp [hne]
  split
  · rename_i hfl
    simp [hfl]
  · rename_i hrd
    rw [Bool.not_eq_true] at hrd
    by_cases hscan : ∀ name ∈ tree.entries.names, isExpected manifest ([] ++ [name]) = true
    · rw [walkBelow_eq_nil hcap [] tree.entries _ hscan, scanDirectory_eq_nil]
      simp only [List.nil_append] at hscan ⊢
      constructor
      · rintro ⟨⟨hnil, -⟩, hit⟩
        exact ⟨hnil, hrd, fun item hitem => ⟨(hexp item hitem).mp (hit item hitem).1, (hit item hitem).2⟩⟩
      · rintro ⟨hnil, -, hit⟩
        exact ⟨⟨hnil, hscan⟩, fun item hitem => ⟨(hexp item hitem).mpr (hit item hitem).1, (hit item hitem).2⟩⟩
    · have hf : scanDirectory manifest [] tree.entries mismatches ≠ [] :=
        fun hnil => hscan ((scanDirectory_eq_nil _ tree.entries _).mp hnil).2
      simp only [walkBelow_of_mismatch _ tree.entries hf, false_iff]
      rintro ⟨-, -, hit⟩
      refine hscan fun name hname => ?_
      obtain ⟨stat, hitem⟩ := ExtractedEntries.mem_items_of_mem_names hname
      exact (hexp _ hitem).mpr (hit _ hitem).1

/-- The verification reports success. -/
def Verified (io : VerifyIo) (tree : ExtractedTree) (manifest : SeedManifestDocument) (cap : Nat) : Prop :=
  ∃ result, verifyExtractedTree io tree manifest cap = .ok result ∧ result.ok = true

theorem verified_iff_loops (hcap : 1 ≤ cap) (hacc : ∀ entry ∈ manifest.entries, MemberAccepted entry) :
    Verified io tree manifest cap ↔
      (∀ entry ∈ manifest.entries, Checks io tree entry) ∧ walkTree io tree manifest cap [] = [] := by
  rw [← checkEntries_iff hcap manifest.entries hacc 0]
  unfold Verified verifyExtractedTree
  cases hrun : checkEntries io tree cap manifest.entries 0 [] with
  | error error => simp
  | ok outcome =>
    obtain ⟨checked, mismatches⟩ := outcome
    dsimp only
    cases mismatches with
    | nil => cases hwalk : walkTree io tree manifest cap [] <;> simp
    | cons first others =>
      have hwalk : walkTree io tree manifest cap (first :: others) ≠ [] :=
        fun hnil => by cases ((walkTree_eq_nil hcap _).mp hnil).1
      cases hf : walkTree io tree manifest cap (first :: others) with
      | nil => exact absurd hf hwalk
      | cons mismatch mismatches => simp

theorem matches_other : ¬EntryStat.other.Matches io entry := by
  cases hkind : entry.kind <;> simp [EntryStat.Matches, hkind]

theorem entryPathOf_ne_nil (path : String) : entryPathOf path ≠ [] := List.splitOn_ne_nil '/' path.toList

/-- A tree is verified exactly when it is what the manifest describes and all of it can be read. -/
theorem verified_iff (io : VerifyIo) (tree : ExtractedTree) (manifest : SeedManifestDocument) (cap : Nat) (hcap : 1 ≤ cap)
    (haccepted : seedManifestDocumentProblem manifest = none) :
    Verified io tree manifest cap ↔ TreeEquals io tree manifest ∧ TreeReadable io tree := by
  have hme := (documentAccepted_of_problem haccepted).members
  rw [verified_iff_loops hcap hme, walkTree_eq_nil hcap]
  constructor
  · rintro ⟨hch, -, hroot, hit⟩
    -- The member at the path of an entry of the tree finds that entry.
    have hf : ∀ item ∈ tree.entries.items, ∃ entry ∈ manifest.entries, io.lstatFails item.1 = false ∧
        item.2.Matches io entry ∧ ∀ content, item.2 = .file content → io.readError item.1 = none := by
      intro item hitem
      obtain ⟨entry, he, hpath⟩ := (hit item hitem).1
      obtain ⟨hls, stat, hfind, hm, hread⟩ := hch entry he
      rw [hpath] at hls hfind hread
      rw [ExtractedEntries.find_of_mem_items tree.distinct hitem] at hfind
      cases hfind
      exact ⟨entry, he, hls, hm, hread⟩
    constructor
    · constructor
      · intro entry he
        obtain ⟨-, stat, hfind, hm, -⟩ := hch entry he
        obtain hmem | ⟨link, hlink⟩ := ExtractedEntries.mem_items_of_find (entryPathOf_ne_nil entry.path) hfind
        · exact ⟨stat, hmem, hm⟩
        · obtain ⟨other, -, -, ho, -⟩ := hf _ hlink
          exact absurd ho matches_other
      · exact fun item hitem => (hit item hitem).1
    · constructor
      · exact hroot
      · intro item hitem
        obtain ⟨-, -, hls, -⟩ := hf item hitem
        exact hls
      · exact fun item hitem => (hit item hitem).2
      · intro item hitem
        obtain ⟨-, -, -, -, hread⟩ := hf item hitem
        exact hread
  · rintro ⟨heq, hre⟩
    refine ⟨?_, rfl, hre.root, fun item hitem => ⟨heq.nothingElse item hitem, hre.directory item hitem⟩⟩
    intro entry he
    obtain ⟨stat, hitem, hm⟩ := heq.present entry he
    exact ⟨hre.lstat _ hitem, stat, ExtractedEntries.find_of_mem_items tree.distinct hitem, hm,
      hre.file _ hitem⟩

def draftsName : EntryName where
  chars := "drafts".toList
  nonempty := by decide
  noSlash := by decide
  notDot := by decide
  notDotDot := by decide

/-- One empty directory. -/
def draftsTree : ExtractedTree where
  entries := .dir draftsName .nil .nil
  distinct := ⟨List.not_mem_nil, trivial, trivial⟩

def draftsManifest : SeedManifestDocument where
  version := .finite 1
  fingerprint := "0000000000000000000000000000000000000000000000000000000000000000"
  filterFingerprint := none
  fileCount := .finite 0
  dirCount := .finite 1
  totalBytes := .finite 0
  entries := [⟨"drafts", .dir, .finite 0, .finite 1700000000000, none⟩]

def listingFails (path : Option EntryPath) : VerifyIo where
  lstatFails := fun _ => false
  readdirFails := fun other => some other == path
  readError := fun _ => none
  sha256 := fun _ => ""
  printNumber := fun _ => []

theorem draftsTree_equals (path : Option EntryPath) : TreeEquals (listingFails path) draftsTree draftsManifest := by
  constructor
  · intro entry he
    obtain rfl := List.mem_singleton.mp he
    exact ⟨.dir, by decide, trivial⟩
  intro item hitem
  obtain rfl := List.mem_singleton.mp hitem
  exact ⟨_, .head _, by decide⟩

theorem verified_iff_drafts : Verified (listingFails none) draftsTree draftsManifest 20 := by
  refine (verified_iff (listingFails none) draftsTree draftsManifest 20 (by decide) (by decide +kernel)).mpr
    ⟨draftsTree_equals none, ?_⟩
  exact ⟨rfl, fun _ _ => rfl, fun _ _ _ => rfl, fun _ _ _ _ => rfl⟩

/-- A directory that cannot be listed is not verified, though the tree is what the manifest describes. -/
theorem unlisted_directory_not_verified :
    seedManifestDocumentProblem draftsManifest = none ∧
      ¬(Verified (listingFails (some ["drafts".toList])) draftsTree draftsManifest 20 ↔
        TreeEquals (listingFails (some ["drafts".toList])) draftsTree draftsManifest) := by
  have hacc : seedManifestDocumentProblem draftsManifest = none := by decide +kernel
  refine ⟨hacc, fun hex => ?_⟩
  have hver := hex.mpr (draftsTree_equals _)
  rw [verified_iff_loops (by decide) (documentAccepted_of_problem hacc).members, walkTree_eq_nil (by decide)] at hver
  obtain ⟨-, -, -, hit⟩ := hver
  have hlist := (hit ([draftsName.chars], .dir) (.head _)).2 rfl
  exact absurd hlist (by decide)

end LamaSync
