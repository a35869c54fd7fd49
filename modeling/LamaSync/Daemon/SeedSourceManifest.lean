import LamaSync.Core.SeedManifest
import LamaSync.Daemon.FilterAgreement

/-!
# The manifest of a source tree

`buildSeedManifest` walks the part of a tree that the filter includes, with a stack of directories, and describes what it
finds.  A directory that is excluded is not entered, one whose name cannot be archived is not either, and one without a file
below it is dropped in the end.  `manifest_covers_universe` says that the files of the manifest are exactly those of the
universe that can be archived, and its directories those above them.
-/

namespace LamaSync

/-- What `stat` and the digest say of a regular file. -/
structure SourceFile where
  size : Nat
  mtimeMs : ℚ
  sha256 : String

/-- What an entry of a directory is.  What `stat` says, or why it or the reading of the file fails. -/
inductive DirentKind where
  | file (read : Except JsString SourceFile)
  | directory (mtimeMs : Except JsString ℚ)
  | symlink
  | special

def DirentKind.isDirectory : DirentKind → Bool
  | .directory _ => true
  | .file _ | .symlink | .special => false

structure Dirent where
  name : FileName
  kind : DirentKind

structure SourceTree where
  root : JsString
  readdir : List FileName → Except JsString (List Dirent)

namespace SourceTree

variable (tree : SourceTree)

/-- The directory holds such an entry. -/
def Has (above : List FileName) (dirent : Dirent) : Prop := ∃ dirents, tree.readdir above = .ok dirents ∧ dirent ∈ dirents

inductive IsDirectory : List FileName → Prop where
  | root : IsDirectory []
  | inside {above : List FileName} {name : FileName} {mtimeMs : Except JsString ℚ} (habove : IsDirectory above)
      (hentry : tree.Has above ⟨name, .directory mtimeMs⟩) : IsDirectory (above ++ [name])

def IsFile (names : List FileName) : Prop :=
  ∃ above name read, names = above ++ [name] ∧ tree.IsDirectory above ∧ tree.Has above ⟨name, .file read⟩

end SourceTree

structure SeedSourceFilterUniverse where
  fingerprint : String
  patterns : List JsString
  includes : JsString → Bool → Bool

structure SeedManifestEntry where
  path : JsString
  kind : SeedEntryKind
  size : Nat
  mtimeMs : Int
  sha256 : Option String
  deriving DecidableEq

structure SeedUnsupportedMember where
  path : JsString
  reason : String
  deriving DecidableEq

structure ManifestFilter where
  fingerprint : String
  patternCount : Nat
  skippedCount : Nat
  skippedSample : List JsString

structure SourceManifest where
  entries : List SeedManifestEntry
  fileCount : Nat
  dirCount : Nat
  totalBytes : Nat
  fingerprint : String
  statsFingerprint : String
  unsupported : List SeedUnsupportedMember
  emptyDirsPruned : List JsString
  filter : ManifestFilter

/-- Why there is no manifest.  `stopped` stands for a walk that does not end. -/
inductive ManifestError where
  | thrown (message : JsString)
  | stopped
  deriving DecidableEq

/-- The order of names and paths, and the digest of a text. -/
structure ManifestEnv where
  localeLe : JsString → JsString → Bool
  sha256 : JsString → String

def seedManifestSkippedSampleCap : Nat := 20

def seedSourcePathUnsafeReason (path : JsString) : Option String :=
  if path.any fun c => c < 0x20 || c == 0x7f then some "name contains a control character"
  else if path.contains (unit '\\') then some "name contains a backslash"
  else none

def roundMs (mtimeMs : ℚ) : Int := (mtimeMs + 1 / 2).floor

/-- The local variables of the walk.  The last directory that was pushed comes first. -/
structure ManifestWalk where
  stack : List (List FileName)
  entries : List SeedManifestEntry
  unsupported : List SeedUnsupportedMember
  skippedCount : Nat
  skippedSample : List JsString

section Walk

variable (env : ManifestEnv) (tree : SourceTree) (filter : SeedSourceFilterUniverse) (cap : Nat)

def ManifestWalk.skip (walk : ManifestWalk) (rel : JsString) : ManifestWalk :=
  { walk with
    skippedCount := walk.skippedCount + 1
    skippedSample :=
      if walk.skippedSample.length < seedManifestSkippedSampleCap then walk.skippedSample ++ [rel] else walk.skippedSample }

def ManifestWalk.refuse (walk : ManifestWalk) (rel : JsString) (reason : String) : ManifestWalk :=
  { walk with unsupported := walk.unsupported ++ [⟨rel, reason⟩] }

def capMessage : JsString := js ("source universe exceeds the " ++ toString cap ++ "-entry manifest cap")

def visitDirent (above : List FileName) (walk : ManifestWalk) (dirent : Dirent) : Except ManifestError ManifestWalk :=
  if cap ≤ walk.entries.length + walk.unsupported.length then .error (.thrown (capMessage cap))
  else
    let names := above ++ [dirent.name]
    let rel := relPath names
    if !filter.includes rel dirent.kind.isDirectory then .ok (walk.skip rel)
    else
      match seedSourcePathUnsafeReason rel with
      | some reason => .ok (walk.refuse rel reason)
      | none =>
        match dirent.kind with
        | .symlink => .ok (walk.refuse rel "symlink")
        | .directory (.error error) => .error (.thrown error)
        | .directory (.ok mtimeMs) =>
          .ok { walk with
            entries := walk.entries ++ [⟨rel, .dir, 0, roundMs mtimeMs, none⟩]
            stack := names :: walk.stack }
        | .special => .ok (walk.refuse rel "not a regular file")
        | .file (.error error) => .error (.thrown error)
        | .file (.ok file) =>
          .ok { walk with entries := walk.entries ++ [⟨rel, .file, file.size, roundMs file.mtimeMs, some file.sha256⟩] }

def visitDirents (above : List FileName) : List Dirent → ManifestWalk → Except ManifestError ManifestWalk
  | [], walk => .ok walk
  | dirent :: dirents, walk =>
    match visitDirent filter cap above walk dirent with
    | .error error => .error error
    | .ok walk => visitDirents above dirents walk

/-- The loop over the stack, for at most so many directories. -/
def walkStack : Nat → ManifestWalk → Except ManifestError ManifestWalk
  | fuel, walk =>
    match walk.stack with
    | [] => .ok walk
    | dir :: stack =>
      match fuel with
      | 0 => .error .stopped
      | fuel + 1 =>
        match tree.readdir dir with
        | .error message =>
          .error (.thrown (js "cannot read " ++ joinPath (tree.root :: dir.map FileName.units) ++ js ": " ++ message))
        | .ok dirents =>
          match visitDirents filter cap dir (dirents.mergeSort fun a b => env.localeLe a.name.units b.name.units)
              { walk with stack := stack } with
          | .error error => .error error
          | .ok walk => walkStack fuel walk

def parentText (path : JsString) : JsString :=
  if unit '/' ∈ path then (path.rdropWhile (· != unit '/')).dropLast else []

def parentTexts : Nat → JsString → List JsString
  | 0, _ => []
  | fuel + 1, parent => if parent = [] then [] else parent :: parentTexts fuel (parentText parent)

def dirsWithContent (entries : List SeedManifestEntry) : List JsString :=
  (entries.filter fun entry => entry.kind == .file).flatMap fun entry =>
    parentTexts entry.path.length (parentText entry.path)

def isKept (entries : List SeedManifestEntry) (entry : SeedManifestEntry) : Bool :=
  entry.kind != .dir || (dirsWithContent entries).contains entry.path

def contentLine (entry : SeedManifestEntry) : JsString :=
  entry.path ++ js "\x00" ++ js entry.kind.text ++ js "\x00" ++ js (toString entry.size) ++ js "\x00" ++
    js (entry.sha256.getD "-") ++ js "\n"

def statsLine (entry : SeedManifestEntry) : JsString :=
  entry.path ++ js "\x00" ++ js entry.kind.text ++ js "\x00" ++ js (toString entry.size) ++ js "\x00" ++
    js (toString entry.mtimeMs) ++ js "\n"

def countEntries (kept : List SeedManifestEntry) : Nat × Nat × Nat :=
  kept.foldl (fun counts entry =>
    if entry.kind = .file then (counts.1 + 1, counts.2.1, counts.2.2 + entry.size)
    else (counts.1, counts.2.1 + 1, counts.2.2)) (0, 0, 0)

def buildSeedManifest : Except ManifestError SourceManifest :=
  match walkStack env tree filter cap (cap + 1) ⟨[[]], [], [], 0, []⟩ with
  | .error error => .error error
  | .ok walk =>
    let entries := walk.entries.mergeSort fun a b => env.localeLe a.path b.path
    let kept := entries.filter (isKept entries)
    let counts := countEntries kept
    .ok {
      entries := kept
      fileCount := counts.1
      dirCount := counts.2.1
      totalBytes := counts.2.2
      fingerprint := env.sha256 (kept.flatMap contentLine)
      statsFingerprint := env.sha256 (kept.flatMap statsLine)
      unsupported := walk.unsupported.mergeSort fun a b => env.localeLe a.path b.path
      emptyDirsPruned := (entries.filter fun entry => !isKept entries entry).map SeedManifestEntry.path
      filter := ⟨filter.fingerprint, filter.patterns.length, walk.skippedCount, walk.skippedSample⟩ }

end Walk

/-- The path has this one as a directory above it. -/
def IsAncestor (ancestor path : JsString) : Prop := ancestor ≠ [] ∧ ∃ rest, path = ancestor ++ unit '/' :: rest

structure CoversUniverse (tree : SourceTree) (includes : JsString → Bool → Bool) (manifest : SourceManifest) : Prop where
  files : ∀ path, (∃ entry ∈ manifest.entries, entry.kind = .file ∧ entry.path = path) ↔
    ∃ names, tree.IsFile names ∧ relPath names = path ∧ universePathIncluded includes path false = true ∧
      seedSourcePathUnsafeReason path = none
  directories : ∀ path, (∃ entry ∈ manifest.entries, entry.kind = .dir ∧ entry.path = path) ↔
    ∃ entry ∈ manifest.entries, entry.kind = .file ∧ IsAncestor path entry.path
  fileCount : manifest.fileCount = (manifest.entries.filter fun entry => entry.kind == .file).length
  dirCount : manifest.dirCount = (manifest.entries.filter fun entry => entry.kind == .dir).length
  totalBytes : manifest.totalBytes = ((manifest.entries.filter fun entry => entry.kind == .file).map SeedManifestEntry.size).sum

theorem parentText_eq {above last : JsString} (h : unit '/' ∉ last) : parentText (above ++ unit '/' :: last) = above := by
  have hdrop : (above ++ unit '/' :: last).rdropWhile (· != unit '/') = above ++ [unit '/'] := by
    have hsp : above ++ unit '/' :: last = (above ++ [unit '/']) ++ last := by simp
    rw [hsp, List.rdropWhile, List.reverse_append, List.dropWhile_append_of_pos]
    · simp
    intro c hc
    rw [List.mem_reverse] at hc
    simpa using fun heq : c = unit '/' => h (heq ▸ hc)
  rw [parentText, if_pos (by simp), hdrop, List.dropLast_concat]

theorem parentText_of_not_mem {path : JsString} (h : unit '/' ∉ path) : parentText path = [] := if_neg h

theorem exists_last_slash {path : JsString} (h : unit '/' ∈ path) :
    ∃ above last, path = above ++ unit '/' :: last ∧ unit '/' ∉ last := by
  induction path using List.reverseRecOn with
  | nil => cases h
  | append_singleton path c ih =>
    by_cases hc : c = unit '/'
    · exact ⟨path, [], by rw [hc], List.not_mem_nil⟩
    have hmem : unit '/' ∈ path := by
      obtain h | h := List.mem_append.mp h
      · exact h
      · exact absurd (List.mem_singleton.mp h).symm hc
    obtain ⟨above, last, rfl, hlast⟩ := ih hmem
    refine ⟨above, last ++ [c], by simp, ?_⟩
    simp only [List.mem_append, List.mem_singleton, not_or]
    exact ⟨hlast, fun heq => hc heq.symm⟩

theorem isAncestor_concat {ancestor above last : JsString} (hlast : unit '/' ∉ last) :
    IsAncestor ancestor (above ++ unit '/' :: last) ↔ ancestor ≠ [] ∧ (ancestor = above ∨ IsAncestor ancestor above) := by
  constructor
  · rintro ⟨hne, rest, hrest⟩
    refine ⟨hne, ?_⟩
    obtain ⟨middle, hmi, htail⟩ | ⟨middle, hmi, htail⟩ := List.append_eq_append_iff.mp hrest
    · cases middle with
      | nil => exact .inl (by simpa using hmi)
      | cons c middle =>
        rw [List.cons_append, List.cons.injEq] at htail
        rw [htail.2] at hlast
        exact absurd (by simp) hlast
    · cases middle with
      | nil => exact .inl (by simpa using hmi.symm)
      | cons c middle =>
        rw [List.cons_append, List.cons.injEq] at htail
        rw [← htail.1] at hmi
        exact .inr ⟨hne, middle, hmi⟩
  · rintro ⟨hne, rfl | ⟨-, rest, rfl⟩⟩
    · exact ⟨hne, last, rfl⟩
    · exact ⟨hne, rest ++ unit '/' :: last, by simp⟩

theorem mem_parentTexts (fuel : Nat) (path ancestor : JsString) (hfuel : path.length ≤ fuel) :
    ancestor ∈ parentTexts fuel (parentText path) ↔ IsAncestor ancestor path := by
  induction fuel generalizing path with
  | zero =>
    obtain rfl := List.length_eq_zero_iff.mp (Nat.le_zero.mp hfuel)
    simp [parentTexts, IsAncestor]
  | succ fuel ih =>
    by_cases hsl : unit '/' ∈ path
    · obtain ⟨above, last, rfl, hlast⟩ := exists_last_slash hsl
      rw [parentText_eq hlast, parentTexts]
      have hlen : above.length ≤ fuel := by
        simp only [List.length_append, List.length_cons] at hfuel
        omega
      rw [isAncestor_concat hlast]
      split
      · rename_i hnil
        subst hnil
        simp only [List.not_mem_nil, false_iff, not_and, not_or]
        refine fun hne => ⟨hne, ?_⟩
        rintro ⟨-, rest, hrest⟩
        simp at hrest
      · rename_i hne
        rw [List.mem_cons, ih above hlen]
        constructor
        · rintro (rfl | h)
          · exact ⟨hne, .inl rfl⟩
          · exact ⟨h.1, .inr h⟩
        · exact And.right
    · rw [parentText_of_not_mem hsl]
      simp only [parentTexts, if_true, List.not_mem_nil, false_iff]
      rintro ⟨-, rest, rfl⟩
      exact hsl (by simp)

def InUniverse (includes : JsString → Bool → Bool) (names : List FileName) (isDirectory : Bool) : Prop :=
  universePathIncluded includes (relPath names) isDirectory = true ∧ seedSourcePathUnsafeReason (relPath names) = none

theorem relPath_concat (above : List FileName) (name : FileName) :
    relPath (above ++ [name]) = if above = [] then name.units else relPath above ++ unit '/' :: name.units := by
  induction above with
  | nil => simp [relPath, joinPath]
  | cons first above ih =>
    cases above with
    | nil => simp [relPath, joinPath]
    | cons second above =>
      simp only [relPath, joinPath, List.cons_append, List.map_cons, List.map_append, List.map_nil, reduceCtorEq, if_false,
        List.intercalate_cons_cons] at ih ⊢
      rw [ih]
      simp

theorem universePathIncluded_names (includes : JsString → Bool → Bool) {names : List FileName} (h : names ≠ [])
    (isDirectory : Bool) :
    universePathIncluded includes (relPath names) isDirectory = true ↔
      ∀ i < names.length, includes (relPath (names.take (i + 1))) (if i + 1 = names.length then isDirectory else true) = true := by
  have hne : relPath names ≠ [] := fun hnil => h (relPath_injective (hnil.trans (by decide : [] = relPath [])))
  have hdot : relPath names ≠ js "." := by
    intro hdot
    have hpt : names.map FileName.units = [js "."] := by
      rw [← pathParts_relPath, hdot]
      decide
    obtain ⟨name, rfl⟩ := List.length_eq_one_iff.mp (by simpa using congrArg List.length hpt)
    exact name.notDot (by simpa using hpt)
  rw [universePathIncluded, if_neg (not_or.mpr ⟨hne, hdot⟩), pathParts_relPath, List.all_eq_true]
  simp only [List.length_map, List.mem_range, ← List.map_take]
  rfl

theorem universePathIncluded_concat (includes : JsString → Bool → Bool) (above : List FileName) (name : FileName)
    (isDirectory : Bool) :
    universePathIncluded includes (relPath (above ++ [name])) isDirectory = true ↔
      universePathIncluded includes (relPath above) true = true ∧ includes (relPath (above ++ [name])) isDirectory = true := by
  have hroot : universePathIncluded includes (relPath []) true = true := by
    rw [universePathIncluded, if_pos (.inl (by decide))]
  have hab : universePathIncluded includes (relPath above) true = true ↔
      ∀ i < above.length, includes (relPath (above.take (i + 1))) true = true := by
    by_cases hnil : above = []
    · subst hnil
      simp [hroot]
    · simp only [universePathIncluded_names includes hnil, ite_self]
  rw [hab, universePathIncluded_names includes (by simp)]
  simp only [List.length_append, List.length_singleton, Nat.lt_succ_iff_lt_or_eq, Nat.add_right_cancel_iff]
  constructor
  · intro h
    constructor
    · intro i hi
      have hin := h i (.inl hi)
      rwa [if_neg (by omega), List.take_append_of_le_length (by omega)] at hin
    · have hlast := h above.length (.inr rfl)
      rwa [if_pos rfl, List.take_of_length_le (by simp)] at hlast
  · rintro ⟨hin, hlast⟩ i (hi | rfl)
    · rw [if_neg (by omega), List.take_append_of_le_length (by omega)]
      exact hin i hi
    · rwa [if_pos rfl, List.take_of_length_le (by simp)]

/-- A path that can be archived is below directories that can be. -/
theorem unsafeReason_above {above : List FileName} {name : FileName}
    (h : seedSourcePathUnsafeReason (relPath (above ++ [name])) = none) : seedSourcePathUnsafeReason (relPath above) = none := by
  have hsub : relPath above ⊆ relPath (above ++ [name]) := by
    rw [relPath_concat]
    split
    · rename_i hnil
      rw [hnil]
      exact fun c hc => absurd hc (by simp [relPath, joinPath])
    · exact List.subset_append_left _ _
  unfold seedSourcePathUnsafeReason at h ⊢
  split at h
  · cases h
  rename_i hctl
  split at h
  · cases h
  rename_i hba
  rw [if_neg, if_neg]
  · exact fun hmem => hba (by simpa using hsub (by simpa using hmem))
  intro hany
  rw [List.any_eq_true] at hany hctl
  obtain ⟨c, hc, hbad⟩ := hany
  exact hctl ⟨c, hsub hc, hbad⟩

theorem inUniverse_concat {includes : JsString → Bool → Bool} {above : List FileName} {name : FileName} {isDirectory : Bool} :
    InUniverse includes (above ++ [name]) isDirectory ↔ InUniverse includes above true ∧
      includes (relPath (above ++ [name])) isDirectory = true ∧ seedSourcePathUnsafeReason (relPath (above ++ [name])) = none := by
  unfold InUniverse
  rw [universePathIncluded_concat]
  constructor
  · rintro ⟨⟨hab, hincl⟩, hsafe⟩
    exact ⟨⟨hab, unsafeReason_above hsafe⟩, hincl, hsafe⟩
  · rintro ⟨⟨hab, -⟩, hincl, hsafe⟩
    exact ⟨⟨hab, hincl⟩, hsafe⟩

section Steps

variable {env : ManifestEnv} {tree : SourceTree} {filter : SeedSourceFilterUniverse} {cap : Nat}

def entryOf (filter : SeedSourceFilterUniverse) (above : List FileName) (dirent : Dirent) : Option SeedManifestEntry :=
  let rel := relPath (above ++ [dirent.name])
  match dirent.kind with
  | .directory (.ok mtimeMs) =>
    if filter.includes rel true = true ∧ seedSourcePathUnsafeReason rel = none then some ⟨rel, .dir, 0, roundMs mtimeMs, none⟩
    else none
  | .file (.ok file) =>
    if filter.includes rel false = true ∧ seedSourcePathUnsafeReason rel = none then
      some ⟨rel, .file, file.size, roundMs file.mtimeMs, some file.sha256⟩
    else none
  | .directory (.error _) | .file (.error _) | .symlink | .special => none

def directoryOf (filter : SeedSourceFilterUniverse) (above : List FileName) (dirent : Dirent) : Option (List FileName) :=
  (entryOf filter above dirent).bind fun entry => if entry.kind = .dir then some (above ++ [dirent.name]) else none

/-- The entry is one that the manifest should have. -/
def Admits (filter : SeedSourceFilterUniverse) (above : List FileName) (dirent : Dirent) (kind : SeedEntryKind) : Prop :=
  filter.includes (relPath (above ++ [dirent.name])) (decide (kind = .dir)) = true ∧
    seedSourcePathUnsafeReason (relPath (above ++ [dirent.name])) = none ∧
    match kind with
    | .dir => ∃ mtimeMs, dirent.kind = .directory mtimeMs
    | .file => ∃ read, dirent.kind = .file read

variable {above : List FileName} {dirent : Dirent}

theorem entryOf_eq_some {entry : SeedManifestEntry} (h : entryOf filter above dirent = some entry) :
    Admits filter above dirent entry.kind ∧ entry.path = relPath (above ++ [dirent.name]) := by
  unfold entryOf at h
  dsimp only at h
  split at h
  · rename_i mtimeMs hkind
    split at h
    · rename_i hadm
      cases h
      exact ⟨⟨hadm.1, hadm.2, _, hkind⟩, rfl⟩
    · cases h
  · rename_i file hkind
    split at h
    · rename_i hadm
      cases h
      exact ⟨⟨hadm.1, hadm.2, _, hkind⟩, rfl⟩
    · cases h
  all_goals cases h

variable {walk after : ManifestWalk}

/-- The spec of one step: a step that does not throw adds what the entry is to be described as. -/
theorem visitDirent_ok (h : visitDirent filter cap above walk dirent = .ok after) :
    walk.entries.length < cap ∧ after.entries = walk.entries ++ (entryOf filter above dirent).toList ∧
      after.stack = (directoryOf filter above dirent).toList ++ walk.stack ∧
      ∀ kind, Admits filter above dirent kind → ∃ entry, entryOf filter above dirent = some entry ∧ entry.kind = kind := by
  unfold visitDirent at h
  split at h
  · cases h
  refine ⟨by omega, ?_⟩
  obtain ⟨name, kind⟩ := dirent
  unfold directoryOf entryOf Admits
  dsimp only at h ⊢
  split at h
  · rename_i hexcl
    rw [Bool.not_eq_true'] at hexcl
    cases h
    cases kind with
    | symlink | special =>
      refine ⟨by simp [ManifestWalk.skip], by simp [ManifestWalk.skip], ?_⟩
      rintro (_ | _) <;> simp
    | file read | directory read =>
      cases read <;> rw [DirentKind.isDirectory] at hexcl <;>
        refine ⟨by simp [ManifestWalk.skip, hexcl], by simp [ManifestWalk.skip, hexcl], ?_⟩ <;>
        rintro (_ | _) <;> simp [hexcl]
  · rename_i hincl
    rw [Bool.not_eq_true', Bool.not_eq_false] at hincl
    cases hre : seedSourcePathUnsafeReason (relPath (above ++ [name])) with
    | some reason =>
      rw [hre] at h
      cases h
      cases kind with
      | symlink | special => simp [ManifestWalk.refuse]
      | file read | directory read => cases read <;> simp [ManifestWalk.refuse]
    | none =>
      rw [hre] at h
      cases kind with
      | symlink | special =>
        cases h
        refine ⟨by simp [ManifestWalk.refuse], by simp [ManifestWalk.refuse], ?_⟩
        rintro (_ | _) <;> simp
      | file read | directory read =>
        cases read with
        | error error => cases h
        | ok read =>
          cases h
          rw [DirentKind.isDirectory] at hincl
          refine ⟨by simp [hincl], by simp [hincl], ?_⟩
          rintro (_ | _) <;> simp [hincl]

theorem visitDirents_ok {dirents : List Dirent} (h : visitDirents filter cap above dirents walk = .ok after) :
    after.entries = walk.entries ++ dirents.filterMap (entryOf filter above) ∧
      after.stack = (dirents.filterMap (directoryOf filter above)).reverse ++ walk.stack ∧
      (walk.entries.length ≤ cap → after.entries.length ≤ cap) ∧
      ∀ dirent ∈ dirents, ∀ kind, Admits filter above dirent kind →
        ∃ entry, entryOf filter above dirent = some entry ∧ entry.kind = kind := by
  induction dirents generalizing walk with
  | nil =>
    cases h
    simp
  | cons dirent dirents ih =>
    rw [visitDirents] at h
    split at h
    · cases h
    rename_i next hstep
    obtain ⟨hroom, hents, hsk, had⟩ := visitDirent_ok hstep
    obtain ⟨hentriesRest, hstackRest, hcap, hadmitsRest⟩ := ih h
    refine ⟨?_, ?_, ?_, List.forall_mem_cons.mpr ⟨had, hadmitsRest⟩⟩
    · rw [hentriesRest, hents, List.append_assoc]
      cases he : entryOf filter above dirent <;> simp [he]
    · rw [hstackRest, hsk]
      cases hdir : directoryOf filter above dirent <;> simp [hdir]
    intro _
    refine hcap ?_
    rw [hents]
    cases entryOf filter above dirent <;> simp <;> omega

def Recorded (entries : List SeedManifestEntry) (kind : SeedEntryKind) (names : List FileName) : Prop :=
  ∃ entry ∈ entries, entry.kind = kind ∧ entry.path = relPath names

/-- The root, or a directory with an entry. -/
def Listed (entries : List SeedManifestEntry) (names : List FileName) : Prop := names = [] ∨ Recorded entries .dir names

def Admitted (tree : SourceTree) (includes : JsString → Bool → Bool) (kind : SeedEntryKind) (names : List FileName) : Prop :=
  match kind with
  | .dir => tree.IsDirectory names ∧ InUniverse includes names true
  | .file => tree.IsFile names ∧ InUniverse includes names false

structure WalkInvariant (tree : SourceTree) (filter : SeedSourceFilterUniverse) (walk : ManifestWalk) : Prop where
  stack : ∀ names ∈ walk.stack, Admitted tree filter.includes .dir names
  found : ∀ entry ∈ walk.entries, ∃ above name, entry.path = relPath (above ++ [name]) ∧
    Admitted tree filter.includes entry.kind (above ++ [name]) ∧ Listed walk.entries above
  described : ∀ names, Listed walk.entries names → names ∈ walk.stack ∨
    ∀ dirent, tree.Has names dirent → ∀ kind, Admits filter names dirent kind →
      Recorded walk.entries kind (names ++ [dirent.name])

theorem admitted_root : Admitted tree filter.includes .dir [] :=
  ⟨.root, by rw [universePathIncluded, if_pos (.inl (by decide))], by decide⟩

theorem admitted_concat {kind : SeedEntryKind}
    (hab : Admitted tree filter.includes .dir above) (he : tree.Has above dirent) (h : Admits filter above dirent kind) :
    Admitted tree filter.includes kind (above ++ [dirent.name]) := by
  obtain ⟨hdir, huniv⟩ := hab
  obtain ⟨hincl, hsafe, hkind⟩ := h
  cases kind with
  | dir =>
    obtain ⟨mtimeMs, hkind⟩ := hkind
    refine ⟨@SourceTree.IsDirectory.inside tree above dirent.name mtimeMs hdir ?_, inUniverse_concat.mpr ⟨huniv, hincl, hsafe⟩⟩
    rwa [← hkind]
  | file =>
    obtain ⟨read, hkind⟩ := hkind
    refine ⟨⟨above, dirent.name, read, rfl, hdir, ?_⟩, inUniverse_concat.mpr ⟨huniv, hincl, hsafe⟩⟩
    rwa [← hkind]

variable {names : List FileName}

theorem Recorded.append {entries more : List SeedManifestEntry} {kind : SeedEntryKind}
    (h : Recorded entries kind names) : Recorded (entries ++ more) kind names := by
  obtain ⟨entry, he, h⟩ := h
  exact ⟨entry, List.mem_append_left _ he, h⟩

theorem Listed.append {entries more : List SeedManifestEntry} (h : Listed entries names) :
    Listed (entries ++ more) names := h.imp_right Recorded.append

theorem WalkInvariant.step {dir : List FileName} {stack : List (List FileName)} {walk after : ManifestWalk}
    {dirents sorted : List Dirent} (hinv : WalkInvariant tree filter walk) (hsk : walk.stack = dir :: stack)
    (hread : tree.readdir dir = .ok dirents) (hsort : ∀ dirent, dirent ∈ sorted ↔ dirent ∈ dirents)
    (hvi : visitDirents filter cap dir sorted { walk with stack := stack } = .ok after)
    (hlist : Listed walk.entries dir) : WalkInvariant tree filter after := by
  obtain ⟨hents, hstackAfter, -, had⟩ := visitDirents_ok hvi
  have hdir := hinv.stack dir (by simp [hsk])
  have hhas : ∀ dirent ∈ sorted, tree.Has dir dirent := fun dirent hdi => ⟨dirents, hread, (hsort dirent).mp hdi⟩
  have hnewDirectory : ∀ names ∈ sorted.filterMap (directoryOf filter dir), ∃ dirent ∈ sorted,
      names = dir ++ [dirent.name] ∧ Admits filter dir dirent .dir := by
    intro names hn
    obtain ⟨dirent, hdi, hn⟩ := List.mem_filterMap.mp hn
    obtain ⟨entry, he, hkind⟩ := Option.bind_eq_some_iff.mp hn
    split at hkind
    · rename_i hdirKind
      cases hkind
      exact ⟨dirent, hdi, rfl, hdirKind ▸ (entryOf_eq_some he).1⟩
    · cases hkind
  constructor
  · intro names hn
    rw [hstackAfter, List.mem_append, List.mem_reverse] at hn
    obtain hn | hn := hn
    · obtain ⟨dirent, hdi, rfl, hadm⟩ := hnewDirectory names hn
      exact admitted_concat hdir (hhas dirent hdi) hadm
    · exact hinv.stack names (by simp [hsk, hn])
  · intro entry he
    rw [hents, List.mem_append, List.mem_filterMap] at he
    obtain he | ⟨dirent, hdi, he⟩ := he
    · obtain ⟨above, name, hpath, hadm, hab⟩ := hinv.found entry he
      exact ⟨above, name, hpath, hadm, hents ▸ hab.append⟩
    · obtain ⟨hadm, hpath⟩ := entryOf_eq_some he
      exact ⟨dir, dirent.name, hpath, admitted_concat hdir (hhas dirent hdi) hadm, hents ▸ hlist.append⟩
  · intro names hn
    -- A directory is one that was known before, or one that this turn has found.
    have hc : Listed walk.entries names ∨ names ∈ sorted.filterMap (directoryOf filter dir) := by
      obtain hroot | ⟨entry, he, hkind, hpath⟩ := hn
      · exact .inl (.inl hroot)
      rw [hents, List.mem_append, List.mem_filterMap] at he
      obtain he | ⟨dirent, hdi, he⟩ := he
      · exact .inl (.inr ⟨entry, he, hkind, hpath⟩)
      have heq : names = dir ++ [dirent.name] := relPath_injective (hpath.symm.trans (entryOf_eq_some he).2)
      refine .inr (List.mem_filterMap.mpr ⟨dirent, hdi, ?_⟩)
      rw [directoryOf, he, Option.bind_some, if_pos hkind, heq]
    obtain hkn | hnew := hc
    · obtain hwait | hdone := hinv.described names hkn
      · rw [hsk, List.mem_cons] at hwait
        obtain rfl | hwait := hwait
        · right
          rintro dirent ⟨others, hoth, hdi⟩ kind hadm
          obtain rfl := Except.ok.inj (hread.symm.trans hoth)
          have hmem := (hsort dirent).mpr hdi
          obtain ⟨entry, he, hkind⟩ := had dirent hmem kind hadm
          refine ⟨entry, ?_, hkind, (entryOf_eq_some he).2⟩
          rw [hents]
          exact List.mem_append_right _ (List.mem_filterMap.mpr ⟨dirent, hmem, he⟩)
        · left
          rw [hstackAfter]
          exact List.mem_append_right _ hwait
      · right
        intro dirent hdi kind hadm
        rw [hents]
        exact (hdone dirent hdi kind hadm).append
    · left
      rw [hstackAfter, List.mem_append, List.mem_reverse]
      exact .inl hnew

/-- The directories on the stack have been found. -/
def StackListed (walk : ManifestWalk) : Prop := ∀ names ∈ walk.stack, Listed walk.entries names

theorem StackListed.step {dir : List FileName} {stack : List (List FileName)} {walk after : ManifestWalk}
    {sorted : List Dirent} (h : StackListed walk) (hsk : walk.stack = dir :: stack)
    (hvi : visitDirents filter cap dir sorted { walk with stack := stack } = .ok after) : StackListed after := by
  obtain ⟨hents, hstackAfter, -, -⟩ := visitDirents_ok hvi
  intro names hn
  rw [hstackAfter, List.mem_append, List.mem_reverse] at hn
  rw [hents]
  obtain hn | hn := hn
  · obtain ⟨dirent, hdi, hn⟩ := List.mem_filterMap.mp hn
    obtain ⟨entry, he, hkind⟩ := Option.bind_eq_some_iff.mp hn
    split at hkind
    · rename_i hdirKind
      cases hkind
      exact .inr ⟨entry, List.mem_append_right _ (List.mem_filterMap.mpr ⟨dirent, hdi, he⟩), hdirKind,
        (entryOf_eq_some he).2⟩
    · cases hkind
  · exact (h names (by simp [hsk, hn])).append

/-- The run lemma: a walk that ends has described every directory it found. -/
theorem walkStack_ok (fuel : Nat) (hinv : WalkInvariant tree filter walk)
    (hlist : StackListed walk) (h : walkStack env tree filter cap fuel walk = .ok after) :
    WalkInvariant tree filter after ∧ after.stack = [] := by
  induction fuel generalizing walk with
  | zero =>
    unfold walkStack at h
    split at h
    · rename_i hsk
      cases h
      exact ⟨hinv, hsk⟩
    · cases h
  | succ fuel ih =>
    unfold walkStack at h
    split at h
    · rename_i hsk
      cases h
      exact ⟨hinv, hsk⟩
    rename_i dir stack hsk
    dsimp only at h
    split at h
    · cases h
    rename_i dirents hread
    split at h
    · cases h
    rename_i next hvi
    exact ih (hinv.step hsk hread (fun dirent => List.mem_mergeSort) hvi (hlist dir (by simp [hsk])))
      (hlist.step hsk hvi) h

theorem visitDirent_ne_stopped (above : List FileName) (walk : ManifestWalk) (dirent : Dirent) :
    visitDirent filter cap above walk dirent ≠ .error .stopped := by
  unfold visitDirent
  split
  · simp
  dsimp only
  split
  · simp
  split
  · simp
  · split <;> simp

theorem visitDirents_ne_stopped (above : List FileName) (dirents : List Dirent) (walk : ManifestWalk) :
    visitDirents filter cap above dirents walk ≠ .error .stopped := by
  induction dirents generalizing walk with
  | nil => simp [visitDirents]
  | cons dirent dirents ih =>
    rw [visitDirents]
    split
    · rename_i error her
      intro hstop
      exact visitDirent_ne_stopped above walk dirent (her.trans hstop)
    · exact ih _

theorem length_directories_le (above : List FileName) (dirents : List Dirent) :
    (dirents.filterMap (directoryOf filter above)).length ≤ (dirents.filterMap (entryOf filter above)).length := by
  induction dirents with
  | nil => simp
  | cons dirent dirents ih =>
    cases he : entryOf filter above dirent with
    | none =>
      have hdir : directoryOf filter above dirent = none := by rw [directoryOf, he, Option.bind_none]
      simpa [he, hdir] using ih
    | some entry =>
      cases hdir : directoryOf filter above dirent with
      | none | some names =>
        simp only [List.filterMap_cons, he, hdir, List.length_cons]
        omega

theorem walkStack_ne_stopped (fuel : Nat) (walk : ManifestWalk) (hents : walk.entries.length ≤ cap)
    (hfuel : walk.stack.length + (cap - walk.entries.length) ≤ fuel) :
    walkStack env tree filter cap fuel walk ≠ .error .stopped := by
  induction fuel generalizing walk with
  | zero =>
    unfold walkStack
    split
    · simp
    · rename_i dir stack hsk
      simp [hsk] at hfuel
  | succ fuel ih =>
    unfold walkStack
    split
    · simp
    rename_i dir stack hsk
    dsimp only
    split
    · simp
    split
    · rename_i error her
      intro hstop
      exact visitDirents_ne_stopped _ _ _ (her.trans hstop)
    · rename_i next hvi
      obtain ⟨hnext, hstackNext, hcap, -⟩ := visitDirents_ok hvi
      dsimp only at hnext hstackNext hcap
      refine ih next (hcap hents) ?_
      have hlen := congrArg List.length hnext
      have hlengthStack := congrArg List.length hstackNext
      have hdi := @length_directories_le filter dir
        ((‹List Dirent›).mergeSort fun a b => env.localeLe a.name.units b.name.units)
      simp only [List.length_append, List.length_reverse, hsk, List.length_cons] at hlen hlengthStack hfuel
      omega

theorem buildSeedManifest_ne_stopped (env : ManifestEnv) (tree : SourceTree) (filter : SeedSourceFilterUniverse) (cap : Nat) :
    buildSeedManifest env tree filter cap ≠ .error .stopped := by
  unfold buildSeedManifest
  split
  · rename_i error her
    intro hstop
    rw [Except.error.injEq] at hstop
    rw [hstop] at her
    refine walkStack_ne_stopped (cap + 1) _ (Nat.zero_le cap) ?_ her
    simp
    omega
  · simp

variable {walk : ManifestWalk}

theorem listed_of_admitted (hinv : WalkInvariant tree filter walk) (hsk : walk.stack = [])
    (h : tree.IsDirectory names) (huniv : InUniverse filter.includes names true) : Listed walk.entries names := by
  induction h with
  | root => exact .inl rfl
  | @inside above name mtimeMs hab he ih =>
    obtain ⟨huniverseAbove, hincl, hsafe⟩ := inUniverse_concat.mp huniv
    obtain hwait | hdone := hinv.described above (ih huniverseAbove)
    · rw [hsk] at hwait
      cases hwait
    · exact .inr (hdone _ he .dir ⟨hincl, hsafe, mtimeMs, rfl⟩)

theorem recorded_file_iff (hinv : WalkInvariant tree filter walk) (hsk : walk.stack = []) (names : List FileName) :
    Recorded walk.entries .file names ↔ tree.IsFile names ∧ InUniverse filter.includes names false := by
  constructor
  · rintro ⟨entry, he, hkind, hpath⟩
    obtain ⟨above, name, hname, hadm, -⟩ := hinv.found entry he
    obtain rfl : names = above ++ [name] := relPath_injective (hpath.symm.trans hname)
    rw [hkind] at hadm
    exact hadm
  rintro ⟨⟨above, name, read, rfl, hdir, he⟩, huniv⟩
  obtain ⟨huniverseAbove, hincl, hsafe⟩ := inUniverse_concat.mp huniv
  obtain hwait | hdone := hinv.described above (listed_of_admitted hinv hsk hdir huniverseAbove)
  · rw [hsk] at hwait
    cases hwait
  · exact hdone _ he .file ⟨hincl, hsafe, read, rfl⟩

theorem recorded_ancestor (hinv : WalkInvariant tree filter walk) (names : List FileName)
    (hn : ∃ entry ∈ walk.entries, entry.path = relPath names) {ancestor : JsString}
    (h : IsAncestor ancestor (relPath names)) : ∃ entry ∈ walk.entries, entry.kind = .dir ∧ entry.path = ancestor := by
  induction names using List.reverseRecOn with
  | nil =>
    obtain ⟨-, rest, hrest⟩ := h
    simp [relPath, joinPath] at hrest
  | append_singleton above name ih =>
    obtain ⟨entry, he, hpath⟩ := hn
    obtain ⟨parent, child, hch, -, hlist⟩ := hinv.found entry he
    have heq : above ++ [name] = parent ++ [child] := relPath_injective (hpath.symm.trans hch)
    obtain ⟨rfl, -⟩ := List.append_inj' heq rfl
    rw [relPath_concat] at h
    split at h
    · obtain ⟨-, rest, hrest⟩ := h
      exact absurd (by rw [hrest]; simp) name.noSlash
    rename_i hne
    obtain hroot | ⟨directory, hdir, hkind, hdirectoryPath⟩ := hlist
    · exact absurd hroot hne
    obtain ⟨-, rfl | hab⟩ := (isAncestor_concat name.noSlash).mp h
    · exact ⟨directory, hdir, hkind, hdirectoryPath⟩
    · exact ih ⟨directory, hdir, hdirectoryPath⟩ hab

theorem mem_dirsWithContent (entries : List SeedManifestEntry) (path : JsString) :
    path ∈ dirsWithContent entries ↔ ∃ entry ∈ entries, entry.kind = .file ∧ IsAncestor path entry.path := by
  simp only [dirsWithContent, List.mem_flatMap, List.mem_filter, beq_iff_eq, mem_parentTexts _ _ _ le_rfl, and_assoc]

theorem countEntries_eq (kept : List SeedManifestEntry) :
    countEntries kept = ((kept.filter fun entry => entry.kind == .file).length,
      (kept.filter fun entry => entry.kind == .dir).length,
      ((kept.filter fun entry => entry.kind == .file).map SeedManifestEntry.size).sum) := by
  suffices h : ∀ counts : Nat × Nat × Nat,
      kept.foldl (fun counts entry =>
        if entry.kind = .file then (counts.1 + 1, counts.2.1, counts.2.2 + entry.size)
        else (counts.1, counts.2.1 + 1, counts.2.2)) counts =
      (counts.1 + (kept.filter fun entry => entry.kind == .file).length,
        counts.2.1 + (kept.filter fun entry => entry.kind == .dir).length,
        counts.2.2 + ((kept.filter fun entry => entry.kind == .file).map SeedManifestEntry.size).sum) by
    simpa [countEntries] using h (0, 0, 0)
  induction kept with
  | nil => simp
  | cons entry kept ih =>
    intro counts
    rw [List.foldl_cons, ih]
    cases hkind : entry.kind with
    | file =>
      have hdir : (SeedEntryKind.file == SeedEntryKind.dir) = false := rfl
      simp [hkind, hdir]
      omega
    | dir =>
      have hfile : (SeedEntryKind.dir == SeedEntryKind.file) = false := rfl
      simp [hkind, hfile]
      omega

end Steps

theorem coversUniverse_of_ok (env : ManifestEnv) (tree : SourceTree) (filter : SeedSourceFilterUniverse) (cap : Nat)
    (manifest : SourceManifest) (h : buildSeedManifest env tree filter cap = .ok manifest) :
    CoversUniverse tree filter.includes manifest := by
  unfold buildSeedManifest at h
  split at h
  · cases h
  rename_i walk hwalk
  have hst : WalkInvariant tree filter ⟨[[]], [], [], 0, []⟩ := by
    constructor
    · intro names hn
      obtain rfl := List.mem_singleton.mp hn
      exact admitted_root
    · intro entry he
      cases he
    rintro names (rfl | ⟨entry, he, -⟩)
    · exact .inl (.head _)
    · cases he
  have hlist : StackListed ⟨[[]], [], [], 0, []⟩ := fun names hn => .inl (List.mem_singleton.mp hn)
  obtain ⟨hinv, hsk⟩ := walkStack_ok (cap + 1) hst hlist hwalk
  have hsort : ∀ entry, entry ∈ walk.entries.mergeSort (fun a b => env.localeLe a.path b.path) ↔ entry ∈ walk.entries :=
    fun entry => List.mem_mergeSort
  generalize walk.entries.mergeSort (fun a b => env.localeLe a.path b.path) = entries at h hsort
  obtain rfl := (Except.ok.inj h).symm
  have hfile : ∀ entry, entry.kind = .file → (entry ∈ entries.filter (isKept entries) ↔ entry ∈ walk.entries) := by
    intro entry hkind
    have hkept : isKept entries entry = true := by simp [isKept, hkind]
    rw [List.mem_filter, hsort, hkept, and_iff_left rfl]
  have hdir : ∀ entry, entry.kind = .dir → (entry ∈ entries.filter (isKept entries) ↔
      entry ∈ walk.entries ∧ ∃ file ∈ walk.entries, file.kind = .file ∧ IsAncestor entry.path file.path) := by
    intro entry hkind
    have hkept : isKept entries entry = true ↔ entry.path ∈ dirsWithContent entries := by simp [isKept, hkind]
    simp only [List.mem_filter, hsort, hkept, mem_dirsWithContent]
  constructor
  · intro path
    constructor
    · rintro ⟨entry, he, hkind, rfl⟩
      have hmem := (hfile entry hkind).mp he
      obtain ⟨above, name, hpath, -⟩ := hinv.found entry hmem
      obtain ⟨htree, huniv⟩ := (recorded_file_iff hinv hsk _).mp ⟨entry, hmem, hkind, hpath⟩
      rw [hpath]
      exact ⟨_, htree, rfl, huniv⟩
    · rintro ⟨names, htree, rfl, huniv⟩
      obtain ⟨entry, he, hkind, hpath⟩ := (recorded_file_iff hinv hsk names).mpr ⟨htree, huniv⟩
      exact ⟨entry, (hfile entry hkind).mpr he, hkind, hpath⟩
  · intro path
    constructor
    · rintro ⟨entry, he, hkind, rfl⟩
      obtain ⟨-, file, hmem, hfileKind, han⟩ := (hdir entry hkind).mp he
      exact ⟨file, (hfile file hfileKind).mpr hmem, hfileKind, han⟩
    rintro ⟨file, hmem, hfileKind, han⟩
    have hfileMem := (hfile file hfileKind).mp hmem
    obtain ⟨above, name, hpath, -⟩ := hinv.found file hfileMem
    obtain ⟨entry, he, hkind, rfl⟩ := recorded_ancestor hinv _ ⟨file, hfileMem, hpath⟩ (hpath ▸ han)
    exact ⟨entry, (hdir entry hkind).mpr ⟨he, file, hfileMem, hfileKind, han⟩, hkind, rfl⟩
  · simp only [countEntries_eq]
  · simp only [countEntries_eq]
  · simp only [countEntries_eq]

/-- The walk ends, and a manifest covers exactly the universe of its tree. -/
theorem manifest_covers_universe (env : ManifestEnv) (tree : SourceTree) (filter : SeedSourceFilterUniverse) (cap : Nat) :
    buildSeedManifest env tree filter cap ≠ .error .stopped ∧
      ∀ manifest, buildSeedManifest env tree filter cap = .ok manifest → CoversUniverse tree filter.includes manifest :=
  ⟨buildSeedManifest_ne_stopped env tree filter cap, coversUniverse_of_ok env tree filter cap⟩

def notesName : FileName := ⟨js "notes.txt", by decide, by decide, by decide, by decide⟩

def docsName : FileName := ⟨js "docs", by decide, by decide, by decide, by decide⟩

def docsTree : SourceTree where
  root := js "/data"
  readdir := fun names =>
    if names = [] then .ok [⟨docsName, .directory (.ok 0)⟩]
    else if names = [docsName] then .ok [⟨notesName, .file (.ok ⟨3, 0, "aa"⟩)⟩]
    else .error (js "ENOENT")

def everything : SeedSourceFilterUniverse := ⟨"", [], fun _ _ => true⟩

def plainEnv : ManifestEnv := ⟨fun _ _ => true, fun _ => ""⟩

theorem manifest_covers_docs :
    ∃ manifest, buildSeedManifest plainEnv docsTree everything 10 = .ok manifest ∧
      CoversUniverse docsTree everything.includes manifest := by
  have hwalk : ∃ walk, walkStack plainEnv docsTree everything 10 11 ⟨[[]], [], [], 0, []⟩ = .ok walk := by
    have hno : seedSourcePathUnsafeReason (relPath [docsName, notesName]) = none := by decide
    have hdocs : seedSourcePathUnsafeReason (relPath [docsName]) = none := by decide
    simp [walkStack, docsTree, everything, visitDirents, visitDirent, hdocs, hno]
  obtain ⟨walk, hwalk⟩ := hwalk
  have hbu : ∃ manifest, buildSeedManifest plainEnv docsTree everything 10 = .ok manifest := by
    unfold buildSeedManifest
    rw [hwalk]
    exact ⟨_, rfl⟩
  obtain ⟨manifest, hma⟩ := hbu
  exact ⟨manifest, hma, (manifest_covers_universe plainEnv docsTree everything 10).2 manifest hma⟩

end LamaSync
