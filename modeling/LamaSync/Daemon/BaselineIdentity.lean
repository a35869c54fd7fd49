import LamaSync.Core.SeedManifest
import LamaSync.Daemon.FolderPlan
import Mathlib.Data.List.Induction

/-!
# What the identity of a baseline tells

A plan remembers the pairs of listings by a digest, and a listing that is written again is to change it.  The digest is of
the names of the pairs and of the newest time of all their listings.  `baseline_fingerprint_detects_iff` says which
changes it shows.
-/

namespace LamaSync

open Texts

/-- A work directory: no two files have one name. -/
structure StateDir where
  files : List ListingFile
  names : (files.map ListingFile.name).Nodup

namespace StateDir

variable (d : StateDir)

/-- Both sides of the pair are there. -/
def PairedStem (stem : String) : Prop :=
  (∃ f ∈ d.files, f.name = stem ++ ".path1.lst") ∧ ∃ f ∈ d.files, f.name = stem ++ ".path2.lst"

def PairedListing (f : ListingFile) : Prop :=
  f ∈ d.files ∧ ∃ stem, d.PairedStem stem ∧ (f.name = stem ++ ".path1.lst" ∨ f.name = stem ++ ".path2.lst")

def Records (name : String) (sizeBytes : Nat) (mtimeMs : Int) : Prop :=
  ∃ f, d.PairedListing f ∧ f.name = name ∧ f.text.utf8ByteSize = sizeBytes ∧ f.mtimeMs = mtimeMs

/-- A paired listing was added or removed, or has another size or time. -/
def ListingsChanged (d d' : StateDir) : Prop :=
  ∃ name sizeBytes mtimeMs, ¬ (d.Records name sizeBytes mtimeMs ↔ d'.Records name sizeBytes mtimeMs)

def pairNames : String :=
  ",".intercalate (((stemsOf ".path1.lst" d.files).filter (stemsOf ".path2.lst" d.files).contains).insertionSort fun a b => a ≤ b)

def NewestAt (mtimeMs : Int) : Prop :=
  (∃ f, d.PairedListing f ∧ f.mtimeMs = mtimeMs) ∧ ∀ f, d.PairedListing f → f.mtimeMs ≤ mtimeMs

def fingerprint (sha256 : String → String) : String := baselineFingerprint sha256 (inspectBisyncBaseline d.files false)

end StateDir

variable {d d' : StateDir} {sha256 : String → String}

theorem StateDir.findListing_eq {ending stem : String} {f : ListingFile} :
    findListing ending stem d.files = some f ↔ f ∈ d.files ∧ f.name = stem ++ ending := by
  unfold findListing
  constructor
  · intro h
    exact ⟨List.mem_of_find?_eq_some h, by simpa using List.find?_some h⟩
  rintro ⟨hf, hname⟩
  cases hfind : d.files.find? fun f => f.name == stem ++ ending with
  | none => exact absurd (beq_iff_eq.2 hname) (by simpa using List.find?_eq_none.1 hfind f hf)
  | some f' =>
    have hname' : f'.name = stem ++ ending := by simpa using List.find?_some hfind
    exact congrArg some (List.inj_on_of_nodup_map d.names (List.mem_of_find?_eq_some hfind) hf (hname'.trans hname.symm))

private theorem bi_newest (files : List ListingFile) :
    (files.foldl (fun newest f => some (newest.elim f.mtimeMs fun t => if t < f.mtimeMs then f.mtimeMs else t)) none = none →
      files = []) ∧
    ∀ t, files.foldl (fun newest f => some (newest.elim f.mtimeMs fun t => if t < f.mtimeMs then f.mtimeMs else t)) none = some t →
      (∃ f ∈ files, f.mtimeMs = t) ∧ ∀ f ∈ files, f.mtimeMs ≤ t := by
  induction files using List.reverseRecOn with
  | nil => exact ⟨fun _ => rfl, fun t h => by cases h⟩
  | append_singleton files f ih =>
    rw [List.foldl_append, List.foldl_cons, List.foldl_nil]
    refine ⟨fun h => absurd h (Option.some_ne_none _), fun t ht => ?_⟩
    cases ht
    cases hnew : files.foldl (fun newest f =>
        some (newest.elim f.mtimeMs fun t => if t < f.mtimeMs then f.mtimeMs else t)) none with
    | none =>
      obtain rfl := ih.1 hnew
      simp
    | some t =>
      obtain ⟨⟨g, hg, rfl⟩, hmax⟩ := ih.2 t hnew
      simp only [Option.elim_some, List.mem_append, List.mem_singleton]
      split
      · refine ⟨⟨f, .inr rfl, rfl⟩, fun f' hf' => ?_⟩
        rcases hf' with hf' | rfl
        · have := hmax f' hf'
          omega
        · exact Int.le_refl _
      refine ⟨⟨g, .inl hg, rfl⟩, fun f' hf' => ?_⟩
      rcases hf' with hf' | rfl
      · exact hmax f' hf'
      · omega

theorem StateDir.mem_stems {stem : String} :
    stem ∈ ((stemsOf ".path1.lst" d.files).filter (stemsOf ".path2.lst" d.files).contains).insertionSort (fun a b => a ≤ b) ↔
      d.PairedStem stem := by
  rw [List.mem_insertionSort, List.mem_filter, List.contains_iff_mem, mem_stemsOf, mem_stemsOf]
  rfl

private theorem bi_paired {f : ListingFile} :
    f ∈ (((stemsOf ".path1.lst" d.files).filter (stemsOf ".path2.lst" d.files).contains).insertionSort
      (fun a b => a ≤ b)).flatMap (fun stem =>
        (findListing ".path1.lst" stem d.files).toList ++ (findListing ".path2.lst" stem d.files).toList) ↔
      d.PairedListing f := by
  simp only [List.mem_flatMap, StateDir.mem_stems, List.mem_append, Option.mem_toList, StateDir.findListing_eq]
  constructor
  · rintro ⟨stem, hstem, ⟨hf, hname⟩ | ⟨hf, hname⟩⟩
    · exact ⟨hf, stem, hstem, .inl hname⟩
    · exact ⟨hf, stem, hstem, .inr hname⟩
  rintro ⟨hf, stem, hstem, hname | hname⟩
  · exact ⟨stem, hstem, .inl ⟨hf, hname⟩⟩
  · exact ⟨stem, hstem, .inr ⟨hf, hname⟩⟩

private theorem bi_inspect :
    ((inspectBisyncBaseline d.files false).present = false ∧ d.pairNames = "" ∧ ∀ t, ¬ d.NewestAt t) ∨
      ∃ t, (inspectBisyncBaseline d.files false).present = true ∧ (inspectBisyncBaseline d.files false).updatedAt = some t ∧
        ",".intercalate (inspectBisyncBaseline d.files false).stems = d.pairNames ∧ d.NewestAt t := by
  unfold inspectBisyncBaseline StateDir.pairNames
  dsimp only
  split
  · rename_i hnil
    rw [List.isEmpty_iff] at hnil
    refine .inl ⟨rfl, by rw [hnil]; rfl, ?_⟩
    rintro t ⟨⟨f, ⟨-, stem, hstem, -⟩, -⟩, -⟩
    have hmem := StateDir.mem_stems.2 hstem
    rw [hnil] at hmem
    cases hmem
  · rename_i hst
    right
    unfold newestListing
    dsimp only
    cases hnew : List.foldl _ none _ with
    | none =>
      obtain ⟨stem, hmem⟩ := List.exists_mem_of_ne_nil _ fun hnil => hst (List.isEmpty_iff.2 hnil)
      have hstem := StateDir.mem_stems.1 hmem
      obtain ⟨⟨f, hf, hname⟩, -⟩ := id hstem
      have hlist := bi_paired.2 ⟨hf, stem, hstem, .inl hname⟩
      rw [(bi_newest _).1 hnew] at hlist
      cases hlist
    | some t =>
      obtain ⟨⟨f, hf, htime⟩, hmax⟩ := (bi_newest _).2 t hnew
      exact ⟨t, rfl, rfl, rfl, ⟨f, bi_paired.1 hf, htime⟩, fun f hf => hmax f (bi_paired.2 hf)⟩

theorem StateDir.NewestAt.unique {t t' : Int} (h : d.NewestAt t) (h' : d.NewestAt t') : t = t' := by
  obtain ⟨⟨f, hf, rfl⟩, hmax⟩ := h
  obtain ⟨⟨f', hf', rfl⟩, hmax'⟩ := h'
  exact Int.le_antisymm (hmax' f hf) (hmax f' hf')

private theorem bi_text {a b : String} {t t' : Int} (h : a ++ "|" ++ toString t = b ++ "|" ++ toString t') :
    a = b ∧ t = t' := by
  have hbar : ∀ s : Int, '|' ∉ (toString s).toList := fun s => notMem_toString (by decide) (.inl (by decide))
  have hlist : a.toList ++ '|' :: (toString t).toList = b.toList ++ '|' :: (toString t').toList := by
    simpa using congrArg String.toList h
  obtain ⟨hab, htime⟩ := eq_of_last_separator (hbar t) (hbar t') hlist
  exact ⟨String.toList_inj.1 hab, toString_injective (String.toList_inj.1 htime)⟩

theorem StateDir.fingerprint_eq_iff (hinj : Function.Injective sha256) (hnone : ∀ text, sha256 text ≠ "none") :
    d.fingerprint sha256 = d'.fingerprint sha256 ↔ d.pairNames = d'.pairNames ∧ ∀ t, d.NewestAt t ↔ d'.NewestAt t := by
  unfold StateDir.fingerprint baselineFingerprint
  rcases @bi_inspect d with ⟨hno, hn, hne⟩ | ⟨t, hpres, hupd, hn, hnew⟩ <;>
    rcases @bi_inspect d' with ⟨hno', hn', hne'⟩ | ⟨t', hpres', hupd', hn', hnew'⟩
  · simp [hno, hno', hn, hn', hne, hne']
  · simp only [hno, hpres', Bool.not_false, Bool.not_true, Bool.false_eq_true, if_true, if_false]
    constructor
    · intro h
      exact absurd h.symm (hnone _)
    · rintro ⟨-, h⟩
      exact absurd ((h t').2 hnew') (hne t')
  · simp only [hno', hpres, Bool.not_false, Bool.not_true, Bool.false_eq_true, if_true, if_false]
    constructor
    · intro h
      exact absurd h (hnone _)
    · rintro ⟨-, h⟩
      exact absurd ((h t).1 hnew) (hne' t)
  · simp only [hpres, hpres', Bool.not_true, Bool.false_eq_true, if_false, hupd, hupd', hn, hn',
      Option.getD_some]
    constructor
    · intro h
      obtain ⟨heq, rfl⟩ := bi_text (hinj h)
      exact ⟨heq, fun s => ⟨fun hs => hs.unique hnew ▸ hnew', fun hs => hs.unique hnew' ▸ hnew⟩⟩
    · rintro ⟨heq, h⟩
      rw [heq, ((h t).1 hnew).unique hnew']

/-- The fingerprint changes with the listings exactly when no change keeps both the names of the pairs and the newest time. -/
theorem baseline_fingerprint_detects_iff (hinj : Function.Injective sha256) (hnone : ∀ text, sha256 text ≠ "none")
    (d d' : StateDir) :
    (d.ListingsChanged d' → d.fingerprint sha256 ≠ d'.fingerprint sha256) ↔
      (d.pairNames = d'.pairNames → (∀ t, d.NewestAt t ↔ d'.NewestAt t) → ¬ d.ListingsChanged d') := by
  rw [Ne, StateDir.fingerprint_eq_iff hinj hnone]
  constructor
  · exact fun h hn hnew hchg => h hchg ⟨hn, hnew⟩
  · exact fun h hchg hsame => h hsame.1 hsame.2 hchg

def onePair (text : String) (mtimeMs : Int) : StateDir where
  files := [⟨"docs.path1.lst", text, mtimeMs⟩, ⟨"docs.path2.lst", "# v1\n", 9⟩]
  names := by
    simp only [List.map_cons, List.map_nil]
    decide

def markedText (text : String) : String := "sha256:" ++ text

private theorem bi_marked : Function.Injective markedText ∧ ∀ text, markedText text ≠ "none" := by
  constructor
  · intro a b h
    exact String.append_right_inj _ |>.1 h
  intro text h
  have hhead := congrArg (fun s => s.toList.head?) h
  simp [markedText] at hhead

private theorem bi_onePair {text : String} {t : Int} {sizeBytes : Nat} {mtimeMs : Int} :
    (onePair text t).Records "docs.path1.lst" sizeBytes mtimeMs ↔ text.utf8ByteSize = sizeBytes ∧ t = mtimeMs := by
  constructor
  · rintro ⟨f, ⟨hf, -⟩, hname, hsize, htime⟩
    simp only [onePair, List.mem_cons, List.not_mem_nil, or_false] at hf
    rcases hf with rfl | rfl
    · exact ⟨hsize, htime⟩
    · exact absurd hname (by decide)
  rintro ⟨hsize, htime⟩
  have hfi : "docs.path1.lst" = "docs" ++ ".path1.lst" := by decide
  have hse : "docs.path2.lst" = "docs" ++ ".path2.lst" := by decide
  exact ⟨⟨"docs.path1.lst", text, t⟩, ⟨.head _, "docs", ⟨⟨_, .head _, hfi⟩, _, .tail _ (.head _), hse⟩, .inl hfi⟩,
    rfl, hsize, htime⟩

private theorem bi_changed {text text' : String} {t t' : Int} (h : t ≠ t') :
    (onePair text t).ListingsChanged (onePair text' t') :=
  ⟨"docs.path1.lst", text.utf8ByteSize, t, fun hsame => h (bi_onePair.1 (hsame.1 (bi_onePair.2 ⟨rfl, rfl⟩))).2.symm⟩

/-- The newest listing was written again. -/
theorem baseline_fingerprint_detects_newer : (onePair "# v1\n" 1).ListingsChanged (onePair "# v1\n" 10) ∧
    (onePair "# v1\n" 1).fingerprint markedText ≠ (onePair "# v1\n" 10).fingerprint markedText := by
  have hchg : (onePair "# v1\n" 1).ListingsChanged (onePair "# v1\n" 10) := bi_changed (by decide)
  refine ⟨hchg, (baseline_fingerprint_detects_iff bi_marked.1 bi_marked.2 _ _).2 (fun _ hnew => ?_) hchg⟩
  have hten : (onePair "# v1\n" 10).NewestAt 10 := by
    obtain ⟨f, hf, -, -, htime⟩ := bi_onePair.2 (⟨rfl, rfl⟩ : "# v1\n".utf8ByteSize = _ ∧ (10 : Int) = 10)
    refine ⟨⟨f, hf, htime⟩, fun g hg => ?_⟩
    rcases List.mem_cons.1 hg.1 with rfl | hg
    · decide
    · rw [List.mem_singleton.1 hg]
      decide
  obtain ⟨⟨f, hf, htime⟩, -⟩ := (hnew 10).2 hten
  rcases List.mem_cons.1 hf.1 with rfl | hf
  · exact absurd htime (by decide)
  · rw [List.mem_singleton.1 hf] at htime
    exact absurd htime (by decide)

/-- The listing that is not the newest was written again. -/
theorem older_listing_unnoticed : Function.Injective markedText ∧
    (onePair "# v1\n" 1).ListingsChanged (onePair "# v1\n\"a\"\n" 5) ∧
      (onePair "# v1\n" 1).fingerprint markedText = (onePair "# v1\n\"a\"\n" 5).fingerprint markedText :=
  ⟨bi_marked.1, bi_changed (by decide), by decide +kernel⟩

end LamaSync
