import LamaSync.Lib.Table
import LamaSync.Server.BrowsePaths

/-!
# The cache of prefix sizes

A measured prefix is kept under a key for five minutes.  A write counts up the generation of its folder when it starts, and
drops what it can have changed when it ends; a measurement is not kept when the generation went up since it began.  Both
go by the spelling of the references.
-/

namespace LamaSync

structure PrefixSizeCount where
  objectCount : Nat
  bytes : Nat

structure CachedSize extends PrefixSizeCount where
  calculatedAt : Int

structure CacheEntry where
  kind : BrowseKind
  folderId : String
  path : String
  size : CachedSize

def sizeCacheTtlMs : Int := 5 * 60000

/-- The two maps of the module. -/
structure SizeCache where
  prefixSizeCache : Table String CacheEntry
  folderWriteGenerations : Table String Nat

def prefixSizeKey (ref : BrowseRef) (pathPrefix : String) : String :=
  destKey { ref with path := joinRelativePath ref.path pathPrefix }

def folderKeyPrefix (ref : BrowseRef) : String := ref.kind.text ++ ":" ++ ref.folderId.getD "" ++ ":"

def folderScope (ref : BrowseRef) : String := destKey { ref with path := "" }

/-- A write at `a` can change what is measured at `b`. -/
def pathsIntersect (a b : String) : Bool :=
  a == b || a == "" || (b ++ "/").toList.isPrefixOf a.toList || (a ++ "/").toList.isPrefixOf b.toList

namespace SizeCache

/-- The entry is served, or found too old and deleted. -/
def getCachedPrefixSize (cache : SizeCache) (ref : BrowseRef) (pathPrefix : String) (now : Int) :
    SizeCache × Option CachedSize :=
  let key := prefixSizeKey ref pathPrefix
  match cache.prefixSizeCache key with
  | none => (cache, none)
  | some hit =>
    if now - hit.size.calculatedAt > sizeCacheTtlMs then
      ({ cache with prefixSizeCache := cache.prefixSizeCache.erase key }, none)
    else (cache, some hit.size)

def folderWriteGeneration (cache : SizeCache) (ref : BrowseRef) : Nat :=
  (cache.folderWriteGenerations (folderScope ref)).getD 0

def bumpFolderWriteGeneration (cache : SizeCache) (ref : BrowseRef) : SizeCache :=
  { cache with
    folderWriteGenerations := cache.folderWriteGenerations.put (folderScope ref) (cache.folderWriteGeneration ref + 1) }

def seedPrefixSize (cache : SizeCache) (ref : BrowseRef) (pathPrefix : String) (size : PrefixSizeCount)
    (unlessGenerationAfter : Nat) (now : Int) : SizeCache :=
  if unlessGenerationAfter < cache.folderWriteGeneration ref then cache
  else
    { cache with
      prefixSizeCache := cache.prefixSizeCache.put (prefixSizeKey ref pathPrefix)
        ⟨ref.kind, ref.folderId.getD "", joinRelativePath ref.path pathPrefix, { size with calculatedAt := now }⟩ }

def dropsEntry (ref : BrowseRef) (key : String) (entry : CacheEntry) : Bool :=
  entry.kind == ref.kind && entry.folderId == ref.folderId.getD "" &&
    (folderKeyPrefix ref).toList.isPrefixOf key.toList && pathsIntersect (trimSlashes ref.path) entry.path

def dropFolderPrefixSizes (cache : SizeCache) (ref : BrowseRef) : SizeCache :=
  { cache with prefixSizeCache := fun key => (cache.prefixSizeCache key).filter fun entry => !dropsEntry ref key entry }

variable {cache : SizeCache} {refs : List BrowseRef}

theorem bumpFolderWriteGeneration_generation (cache : SizeCache) (ref ref' : BrowseRef) :
    (cache.bumpFolderWriteGeneration ref).folderWriteGeneration ref' =
      if folderScope ref' = folderScope ref then cache.folderWriteGeneration ref' + 1
      else cache.folderWriteGeneration ref' := by
  by_cases h : folderScope ref' = folderScope ref
  · rw [if_pos h]
    simp [folderWriteGeneration, bumpFolderWriteGeneration, h]
  · rw [if_neg h]
    simp [folderWriteGeneration, bumpFolderWriteGeneration, Table.put_of_ne h]

theorem getCached_keeps (cache : SizeCache) (ref : BrowseRef) (pathPrefix : String) (now : Int) :
    (cache.getCachedPrefixSize ref pathPrefix now).1.folderWriteGenerations = cache.folderWriteGenerations ∧
      ∀ key entry, (cache.getCachedPrefixSize ref pathPrefix now).1.prefixSizeCache key = some entry →
        cache.prefixSizeCache key = some entry := by
  unfold getCachedPrefixSize
  dsimp only
  split
  · exact ⟨rfl, fun _ _ h => h⟩
  split
  · refine ⟨rfl, fun key entry he => ?_⟩
    have hkey : key ≠ prefixSizeKey ref pathPrefix := by
      rintro rfl
      cases Table.erase_self.symm.trans he
    exact (Table.erase_of_ne hkey).symm.trans he
  · exact ⟨rfl, fun _ _ h => h⟩

theorem getCached_some {ref : BrowseRef} {pathPrefix : String} {now : Int} {size : CachedSize}
    (h : (cache.getCachedPrefixSize ref pathPrefix now).2 = some size) :
    ∃ entry, cache.prefixSizeCache (prefixSizeKey ref pathPrefix) = some entry ∧ entry.size = size := by
  unfold getCachedPrefixSize at h
  dsimp only at h
  split at h
  · cases h
  rename_i entry he
  split at h
  · cases h
  · cases h
    exact ⟨entry, he, rfl⟩

theorem bumpAll_cache (cache : SizeCache) (refs : List BrowseRef) :
    (refs.foldl bumpFolderWriteGeneration cache).prefixSizeCache = cache.prefixSizeCache := by
  induction refs generalizing cache with
  | nil => rfl
  | cons ref refs ih =>
    rw [List.foldl_cons, ih]
    rfl

theorem bumpAll_le (cache : SizeCache) (refs : List BrowseRef) (ref : BrowseRef) :
    cache.folderWriteGeneration ref ≤ (refs.foldl bumpFolderWriteGeneration cache).folderWriteGeneration ref := by
  induction refs generalizing cache with
  | nil => exact le_refl _
  | cons ref' refs ih =>
    rw [List.foldl_cons]
    refine le_trans ?_ (ih _)
    rw [bumpFolderWriteGeneration_generation]
    split <;> omega

theorem bumpAll_lt {ref ref' : BrowseRef} (hmem : ref' ∈ refs) (hsc : folderScope ref = folderScope ref') :
    cache.folderWriteGeneration ref < (refs.foldl bumpFolderWriteGeneration cache).folderWriteGeneration ref := by
  induction refs generalizing cache with
  | nil => cases hmem
  | cons first refs ih =>
    rw [List.foldl_cons]
    rcases List.mem_cons.1 hmem with rfl | hla
    · have hle := bumpAll_le (cache.bumpFolderWriteGeneration ref') refs ref
      rw [bumpFolderWriteGeneration_generation, if_pos hsc] at hle
      omega
    have hlt : (cache.bumpFolderWriteGeneration first).folderWriteGeneration ref <
        (refs.foldl bumpFolderWriteGeneration (cache.bumpFolderWriteGeneration first)).folderWriteGeneration ref :=
      ih hla
    have hle := bumpAll_le cache [first] ref
    exact lt_of_le_of_lt hle hlt

theorem dropAll_generations (cache : SizeCache) (refs : List BrowseRef) :
    (refs.foldl dropFolderPrefixSizes cache).folderWriteGenerations = cache.folderWriteGenerations := by
  induction refs generalizing cache with
  | nil => rfl
  | cons ref refs ih =>
    rw [List.foldl_cons, ih]
    rfl

theorem dropAll_cache {key : String} {entry : CacheEntry}
    (h : (refs.foldl dropFolderPrefixSizes cache).prefixSizeCache key = some entry) :
    cache.prefixSizeCache key = some entry ∧ ∀ ref ∈ refs, dropsEntry ref key entry = false := by
  induction refs generalizing cache with
  | nil => exact ⟨h, fun _ hno => (List.not_mem_nil hno).elim⟩
  | cons ref refs ih =>
    rw [List.foldl_cons] at h
    obtain ⟨he, hrest⟩ := ih h
    obtain ⟨hf, hkept⟩ := Option.filter_eq_some_iff.1 he
    refine ⟨hf, ?_⟩
    intro ref' hmem
    rcases List.mem_cons.1 hmem with rfl | hla
    · simpa using hkept
    · exact hrest ref' hla

end SizeCache

end LamaSync
