import LamaSync.Server.BrowseExclusion

/-!
# Freshness of cached prefix sizes

`SizeHistory` adds to the server what an observer writes down: when each write started and ended, and over which places and
from when each cached size was measured.

A size is fresh when no write that touches its place overlaps the time from the start of the measurement to the read.  The
cache keeps entries until a write ends, and compares spellings.  So it serves a size that is not fresh when a write that was
running when the measurement began ended before it, when a write and a measurement spell a place differently, and while
a write is running.
-/

namespace LamaSync

open Trace

structure WriteSpan where
  write : BrowseWrite
  start : Nat
  stop : Option Nat

structure Measured where
  ref : BrowseRef
  pathPrefix : String
  place : Place
  size : PrefixSizeCount
  start : Nat

def BrowseMeasurement.place (m : BrowseMeasurement) : Place := measuredPlace m.store m.ref m.pathPrefix

structure SizeHistory where
  server : BrowseServer
  clock : Nat
  spans : Table String WriteSpan
  began : Table String Nat
  /-- By the key of the cached size. -/
  measured : Table String Measured

namespace SizeHistory

def observe (clock : Nat) (span : Option WriteSpan) (running : Option BrowseWrite) : Option WriteSpan :=
  match span, running with
  | none, none => none
  | none, some w => some ⟨w, clock, none⟩
  | some span, some _ => some span
  | some span, none => some { span with stop := some (span.stop.getD clock) }

def step (h : SizeHistory) (e : BrowseEvent) : SizeHistory where
  server := h.server.step e
  clock := h.clock + 1
  spans := fun i => observe h.clock (h.spans i) ((h.server.step e).writing i)
  began := fun i => (h.began i).orElse fun _ => ((h.server.step e).measuring i).map fun _ => h.clock
  measured :=
    match h.server.seeds e with
    | none => h.measured
    | some seed =>
      h.measured.put (prefixSizeKey seed.ref seed.pathPrefix)
        ⟨seed.ref, seed.pathPrefix, measuredPlace seed.store seed.ref seed.pathPrefix, seed.size,
          (h.began seed.id).getD h.clock⟩

def ServesLatest (h : SizeHistory) : BrowseEvent → Prop
  | .read ref pathPrefix now => ∀ size, (h.server.sizes.getCachedPrefixSize ref pathPrefix now).2 = some size →
      ∃ m, h.measured (prefixSizeKey ref pathPrefix) = some m ∧ size.toPrefixSizeCount = m.size ∧
        ∀ i span, h.spans i = some span → span.write.Touches m.place → span.stop = none ∨ ∃ t ∈ span.stop, t < m.start
  | _ => True

def ServesFresh (h : SizeHistory) : BrowseEvent → Prop
  | .read ref pathPrefix now => ∀ size, (h.server.sizes.getCachedPrefixSize ref pathPrefix now).2 = some size →
      ∃ m, h.measured (prefixSizeKey ref pathPrefix) = some m ∧ size.toPrefixSizeCount = m.size ∧
        ∀ i span, h.spans i = some span → span.write.Touches m.place → ∃ t ∈ span.stop, t < m.start
  | _ => True

end SizeHistory

def BrowseRequest.Sees (r : BrowseRequest) (ref : BrowseRef) (pathPrefix : String) : Prop :=
  ∃ ref' ∈ r.changedRefs, ref'.kind = ref.kind ∧ ref'.folderId.getD "" = ref.folderId.getD "" ∧
    pathsIntersect (trimSlashes ref'.path) (joinRelativePath ref.path pathPrefix) = true

namespace SizeHistory

def GuardHolds (h : SizeHistory) : BrowseEvent → Prop
  | .start _ folders r _ => ∀ stores, r.stores folders = .ok stores →
      (∀ i m, h.server.measuring i = some m → BrowseWrite.Touches ⟨r, stores.1, stores.2⟩ m.place →
        r.Sees m.ref m.pathPrefix) ∧
      ∀ key entry m, h.server.sizes.prefixSizeCache key = some entry → h.measured key = some m →
        BrowseWrite.Touches ⟨r, stores.1, stores.2⟩ m.place → r.Sees m.ref m.pathPrefix
  | .size _ folders ref pathPrefix _ _ => ∀ store, ref.store folders = .ok store → ∀ i w, h.server.writing i = some w →
      w.Touches (measuredPlace store ref pathPrefix) → w.request.Sees ref pathPrefix
  | .sizeEnd id outcome now => ∀ seed b, h.server.seeds (.sizeEnd id outcome now) = some seed → h.began id = some b →
      ∀ i span, h.spans i = some span → span.write.Touches (measuredPlace seed.store seed.ref seed.pathPrefix) →
        span.start < b → ∀ t ∈ span.stop, t < b
  | _ => True

def ReadsAreQuiet (h : SizeHistory) : BrowseEvent → Prop
  | .read ref pathPrefix _ => ∀ m, h.measured (prefixSizeKey ref pathPrefix) = some m →
      ∀ i w, h.server.writing i = some w → ¬ w.Touches m.place
  | _ => True

end SizeHistory

def newSizeHistory (now : Int) : SizeHistory where
  server := newBrowseServer [] now
  clock := 0
  spans := fun _ => none
  began := fun _ => none
  measured := fun _ => none

/-- The write has ended before the measurement began, or it runs and is seen. -/
def WriteSpan.Past (span : WriteSpan) (m : Measured) : Prop :=
  (span.stop = none ∧ span.write.request.Sees m.ref m.pathPrefix) ∨ ∃ t ∈ span.stop, t < m.start

structure SizeHistory.Backs (h : SizeHistory) (key : String) (entry : CacheEntry) (m : Measured) : Prop where
  measured : h.measured key = some m
  key : key = prefixSizeKey m.ref m.pathPrefix
  kind : entry.kind = m.ref.kind
  folderId : entry.folderId = m.ref.folderId.getD ""
  path : entry.path = joinRelativePath m.ref.path m.pathPrefix
  size : entry.size.toPrefixSizeCount = m.size
  past : ∀ i span, h.spans i = some span → span.write.Touches m.place → span.Past m

structure SizeHistory.Runs (h : SizeHistory) (i : String) (m : BrowseMeasurement) (b : Nat) : Prop where
  began : h.began i = some b
  before : b < h.clock
  generation : m.generationAtStart ≤ h.server.sizes.folderWriteGeneration m.ref
  spans : ∀ j span, h.spans j = some span → span.write.Touches m.place →
    m.generationAtStart < h.server.sizes.folderWriteGeneration m.ref ∨
      (span.start < b ∧ (span.stop = none → span.write.request.Sees m.ref m.pathPrefix)) ∨ ∃ t ∈ span.stop, t < b

structure SizeHistory.SizesHold (h : SizeHistory) : Prop where
  measuring : ∀ i m, h.server.measuring i = some m → ∃ b, h.Runs i m b
  cached : ∀ key entry, h.server.sizes.prefixSizeCache key = some entry → ∃ m, h.Backs key entry m

/-- What is observed is what happened; a running measurement that a write has disturbed will be refused, unless the write
ran when it began; and a write that touches the place of a cached size ended before, or will drop it. -/
structure FreshInv (h : SizeHistory) : Prop where
  jobs : BrowseInv h.server
  spanned : ∀ i w, h.server.writing i = some w → ∃ start, h.spans i = some ⟨w, start, none⟩
  spans : ∀ i span, h.spans i = some span → h.server.hasJob i = true ∧ span.start < h.clock ∧
    (∀ t ∈ span.stop, t < h.clock) ∧ (span.stop = none → h.server.writing i = some span.write)
  began : ∀ i b, h.began i = some b → h.server.hasJob i = true
  sizes : h.SizesHold

variable {h : SizeHistory} {e : BrowseEvent}

theorem freshInv_new (now : Int) : FreshInv (newSizeHistory now) where
  jobs := browseInv_new (by simp)
  spanned i w hw := by cases hw
  spans i span hspan := by cases hspan
  began i b hb := by cases hb
  sizes := ⟨fun i m hm => (nomatch hm), fun key entry he => (nomatch he)⟩

variable {r : BrowseRequest} {ref : BrowseRef} {pathPrefix : String}

private theorem bf_sees_bumps (hsees : r.Sees ref pathPrefix) (cache : SizeCache) : cache.folderWriteGeneration ref <
      (r.changedRefs.foldl SizeCache.bumpFolderWriteGeneration cache).folderWriteGeneration ref := by
  obtain ⟨ref', hmem, hkind, hfol, -⟩ := hsees
  refine SizeCache.bumpAll_lt hmem ?_
  simp only [folderScope, destKey, hkind, hfol]

variable {entry : CacheEntry}

private theorem bf_sees_drops {m : Measured} (hsees : r.Sees m.ref m.pathPrefix)
    (hkind : entry.kind = m.ref.kind) (hfol : entry.folderId = m.ref.folderId.getD "")
    (hpath : entry.path = joinRelativePath m.ref.path m.pathPrefix) :
    ∃ ref ∈ r.changedRefs, SizeCache.dropsEntry ref (prefixSizeKey m.ref m.pathPrefix) entry = true := by
  obtain ⟨ref, hmem, hkind', hfol', hme⟩ := hsees
  refine ⟨ref, hmem, ?_⟩
  have hst : folderKeyPrefix ref = folderKeyPrefix m.ref := by simp only [folderKeyPrefix, hkind', hfol']
  have hkey : (folderKeyPrefix m.ref).toList <+: (prefixSizeKey m.ref m.pathPrefix).toList := by
    simp only [folderKeyPrefix, prefixSizeKey, destKey, String.toList_append]
    exact List.prefix_append _ _
  simp only [SizeCache.dropsEntry, hkind, hfol, hpath, hkind', hfol', hst, hme, beq_self_eq_true,
    Bool.and_true, Bool.true_and, List.isPrefixOf_iff_prefix]
  exact hkey

variable {i : String}

theorem BrowseServer.hasJob_step {s : BrowseServer} (hi : s.hasJob i = true) (e : BrowseEvent) :
    (s.step e).hasJob i = true := by
  rw [hasJob_iff] at hi ⊢
  have hmove := browseStep_move s e
  generalize s.step e = s' at hmove
  cases hmove with
  | rows hids | finish _ hids | measure _ _ _ _ hids | walked _ _ _ hids | seeded _ hids | unmeasured hids =>
    exact hids i hi
  | launch =>
    obtain ⟨job, hjob, hid⟩ := List.mem_map.1 hi
    exact List.mem_map.2 ⟨job, List.mem_append_left _ hjob, hid⟩
  | read => exact hi
  | restart =>
    show i ∈ (Rows.update s.browseJobs _ _).map BrowseJob.id
    rw [Rows.map_update]
    · exact hi
    · intro job
      rfl

private theorem bf_spans (hI : FreshInv h) {span' : WriteSpan} (hspan : (h.step e).spans i = some span') :
    (h.spans i = some span' ∧ (span'.stop = none → (h.server.step e).writing i = some span'.write)) ∨
    (∃ span, h.spans i = some span ∧ span.stop = none ∧ h.server.writing i = some span.write ∧
      (h.server.step e).writing i = none ∧ span' = { span with stop := some h.clock }) ∨
    (h.spans i = none ∧ ∃ w, (h.server.step e).writing i = some w ∧ span' = ⟨w, h.clock, none⟩) := by
  have hobs : SizeHistory.observe h.clock (h.spans i) ((h.server.step e).writing i) = some span' := hspan
  cases hold : h.spans i with
  | none =>
    rw [hold] at hobs
    cases hw : (h.server.step e).writing i with
    | none =>
      rw [hw] at hobs
      cases hobs
    | some w =>
      rw [hw] at hobs
      cases hobs
      exact .inr (.inr ⟨rfl, w, rfl, rfl⟩)
  | some span =>
    obtain ⟨hjob, -, -, hopen⟩ := hI.spans i span hold
    rw [hold] at hobs
    cases hw : (h.server.step e).writing i with
    | some w =>
      rw [hw] at hobs
      cases hobs
      refine .inl ⟨rfl, fun hstop => ?_⟩
      rcases BrowseServer.writing_step hw with hbef | ⟨_, _, _, _, -, hnew, -⟩
      · rw [Table.unique (hopen hstop) hbef]
      · cases hnew.symm.trans hjob
    | none =>
      rw [hw] at hobs
      cases hobs
      cases hstop : span.stop with
      | none => exact .inr (.inl ⟨span, rfl, hstop, hopen hstop, rfl, rfl⟩)
      | some t =>
        refine .inl ⟨?_, by rintro ⟨⟩⟩
        cases span
        cases hstop
        rfl

private theorem bf_runs (hI : FreshInv h) {m : BrowseMeasurement} (hm : h.server.measuring i = some m)
    (hle : h.server.sizes.folderWriteGeneration m.ref ≤ (h.server.step e).sizes.folderWriteGeneration m.ref)
    (hla : ∀ j w, h.spans j = none → (h.server.step e).writing j = some w → w.Touches m.place →
      h.server.sizes.folderWriteGeneration m.ref < (h.server.step e).sizes.folderWriteGeneration m.ref) :
    ∃ b, (h.step e).Runs i m b := by
  obtain ⟨b, hb, hcl, hge, hsp⟩ := hI.sizes.measuring i m hm
  refine ⟨b, ?_, Nat.lt_succ_of_lt hcl, le_trans hge hle, ?_⟩
  · show (h.began i).orElse _ = some b
    rw [hb]
    rfl
  intro j span' hspan' hto
  rcases bf_spans hI hspan' with ⟨hold, -⟩ | ⟨span, hold, hstop, -, -, rfl⟩ | ⟨hnone, w, hw, rfl⟩
  · exact (hsp j span' hold hto).imp_left fun hlt => lt_of_lt_of_le hlt hle
  · rcases hsp j span hold hto with hlt | ⟨hst, -⟩ | ⟨t, ht, -⟩
    · exact .inl (lt_of_lt_of_le hlt hle)
    · exact .inr (.inl ⟨hst, by rintro ⟨⟩⟩)
    · rw [hstop] at ht
      cases ht
  · exact .inl (lt_of_le_of_lt hge (hla j w hnone hw hto))

variable {key : String}

private theorem bf_backs (hI : FreshInv h)
    (he : h.server.sizes.prefixSizeCache key = some entry) (hmeas : (h.step e).measured key = h.measured key)
    (hnd : ∀ j w, h.server.writing j = some w → (h.server.step e).writing j = none →
      ∀ ref ∈ w.request.changedRefs, SizeCache.dropsEntry ref key entry = false)
    (hla : ∀ j w m, h.spans j = none → (h.server.step e).writing j = some w → h.measured key = some m →
      w.Touches m.place → w.request.Sees m.ref m.pathPrefix) : ∃ m, (h.step e).Backs key entry m := by
  obtain ⟨m, hm, hkey, hkind, hfol, hpath, hsize, hsp⟩ := hI.sizes.cached key entry he
  refine ⟨m, hmeas.trans hm, hkey, hkind, hfol, hpath, hsize, ?_⟩
  intro j span' hspan' hto
  rcases bf_spans hI hspan' with ⟨hold, -⟩ | ⟨span, hold, hstop, hw, hgone, rfl⟩ | ⟨hnone, w, hw, rfl⟩
  · exact hsp j span' hold hto
  · exfalso
    rcases hsp j span hold hto with ⟨-, hsees⟩ | ⟨t, ht, -⟩
    · obtain ⟨ref, hmem, hdr⟩ := bf_sees_drops hsees hkind hfol hpath
      rw [← hkey, hnd j span.write hw hgone ref hmem] at hdr
      cases hdr
    · rw [hstop] at ht
      cases ht
  · exact .inl ⟨rfl, hla j w m hnone hw hm hto⟩

/-- While no write starts or ends, the records stay, and with them what is known of the measurements and entries that
stay. -/
private structure QuietStep (h : SizeHistory) (e : BrowseEvent) : Prop where
  spans : ∀ j span, (h.step e).spans j = some span → h.spans j = some span
  runs : ∀ i m, h.server.measuring i = some m → ∃ b, (h.step e).Runs i m b
  backs : ∀ key entry, h.server.sizes.prefixSizeCache key = some entry →
    (h.step e).measured key = h.measured key → ∃ m, (h.step e).Backs key entry m

private theorem bf_quiet (hI : FreshInv h) (hwr : (h.server.step e).writing = h.server.writing)
    (hle : ∀ ref, h.server.sizes.folderWriteGeneration ref ≤ (h.server.step e).sizes.folderWriteGeneration ref) :
    QuietStep h e := by
  have hno : ∀ {j : String} {w : BrowseWrite}, h.spans j = none → (h.server.step e).writing j = some w → False := by
    intro j w hnone hw
    obtain ⟨start, hspan⟩ := hI.spanned j w (hwr ▸ hw)
    cases hnone.symm.trans hspan
  have hst : ∀ {j : String} {w : BrowseWrite}, h.server.writing j = some w → (h.server.step e).writing j = none →
      False := by
    intro j w hw hgone
    rw [hwr, hw] at hgone
    cases hgone
  constructor
  · intro j span' hspan
    rcases bf_spans hI hspan with ⟨hold, -⟩ | ⟨span, -, -, hw, hgone, -⟩ | ⟨hnone, w, hw, -⟩
    · exact hold
    · exact (hst hw hgone).elim
    · exact (hno hnone hw).elim
  · exact fun i m hm => bf_runs hI hm (hle m.ref) fun j w hnone hw => (hno hnone hw).elim
  intro key entry he hmeas
  exact bf_backs hI he hmeas (fun j w hw hgone => (hst hw hgone).elim)
    fun j w m hnone hw => (hno hnone hw).elim

private theorem bf_measured (hsd : h.server.seeds e = none) : (h.step e).measured = h.measured := by
  simp only [SizeHistory.step, hsd]

variable {now : Int}

private theorem bf_seeded (hq : QuietStep h e) {seed : BrowseSeed}
    (hsd : h.server.seeds e = some seed)
    (he : (h.server.sizes.prefixSizeCache.put (prefixSizeKey seed.ref seed.pathPrefix)
      ⟨seed.ref.kind, seed.ref.folderId.getD "", joinRelativePath seed.ref.path seed.pathPrefix,
        { seed.size with calculatedAt := now }⟩) key = some entry)
    (hsp : ∀ i span, h.spans i = some span →
      span.write.Touches (measuredPlace seed.store seed.ref seed.pathPrefix) →
      (span.stop = none ∧ span.write.request.Sees seed.ref seed.pathPrefix) ∨
        ∃ t ∈ span.stop, t < (h.began seed.id).getD h.clock) : ∃ m, (h.step e).Backs key entry m := by
  have hmeas : (h.step e).measured = h.measured.put (prefixSizeKey seed.ref seed.pathPrefix)
      ⟨seed.ref, seed.pathPrefix, measuredPlace seed.store seed.ref seed.pathPrefix, seed.size,
        (h.began seed.id).getD h.clock⟩ := by
    simp only [SizeHistory.step, hsd]
  by_cases hkey : key = prefixSizeKey seed.ref seed.pathPrefix
  · subst hkey
    cases Table.put_self.symm.trans he
    exact ⟨_, (congrFun hmeas _).trans Table.put_self, rfl, rfl, rfl, rfl, rfl,
      fun i span hspan => hsp i span (hq.spans i span hspan)⟩
  · refine hq.backs key entry ((Table.put_of_ne hkey).symm.trans he) ?_
    exact (congrFun hmeas key).trans (Table.put_of_ne hkey)

private theorem bf_seed_generation (cache : SizeCache) (ref : BrowseRef) (pathPrefix : String) (size : PrefixSizeCount)
    (generation : Nat) (now : Int) (ref' : BrowseRef) :
    (cache.seedPrefixSize ref pathPrefix size generation now).folderWriteGeneration ref' =
      cache.folderWriteGeneration ref' := by
  rw [SizeCache.seedPrefixSize]
  split <;> rfl

variable {id : String} {folders : S3Folders}

private theorem bf_launch (hI : FreshInv h)
    {stores : BrowseStore × BrowseStore} (hg : h.GuardHolds (.start id folders r now))
    (hsto : r.stores folders = .ok stores)
    (hs : h.server.step (.start id folders r now) = h.server.launched id r stores now) :
    (h.step (.start id folders r now)).SizesHold := by
  obtain ⟨hseesMeasuring, hseesCached⟩ := hg stores hsto
  have hlau : ∀ {j : String} {w : BrowseWrite}, h.spans j = none →
      (h.server.step (.start id folders r now)).writing j = some w → w = ⟨r, stores.1, stores.2⟩ := by
    intro j w hnone hw
    rw [hs] at hw
    by_cases hj : j = id
    · subst hj
      exact Option.some.inj (hw.symm.trans Table.put_self)
    · obtain ⟨start, hspan⟩ := hI.spanned j w ((Table.put_of_ne hj).symm.trans hw)
      cases hnone.symm.trans hspan
  have hsi : (h.server.step (.start id folders r now)).sizes =
      r.changedRefs.foldl SizeCache.bumpFolderWriteGeneration h.server.sizes := by
    rw [hs]
    rfl
  constructor
  · intro i m hm
    have hm : (h.server.step (.start id folders r now)).measuring i = some m := hm
    rw [hs] at hm
    refine bf_runs hI hm ?_ ?_
    · rw [hsi]
      exact SizeCache.bumpAll_le _ _ _
    intro j w hnone hw hto
    rw [hlau hnone hw] at hto
    rw [hsi]
    exact bf_sees_bumps (hseesMeasuring i m hm hto) _
  · intro key entry he
    have he : (h.server.step (.start id folders r now)).sizes.prefixSizeCache key = some entry := he
    rw [hsi, SizeCache.bumpAll_cache] at he
    refine bf_backs hI he (congrFun (bf_measured rfl) key) ?_ ?_
    · intro j w hw hgone
      rw [hs] at hgone
      have hj : j ≠ id := by
        rintro rfl
        cases Table.put_self.symm.trans hgone
      cases hw.symm.trans ((Table.put_of_ne hj).symm.trans hgone)
    · intro j w m hnone hw hm hto
      rw [hlau hnone hw] at hto ⊢
      exact hseesCached key entry m he hm hto

private theorem bf_finish (hI : FreshInv h) {error : Option String} {ended : BrowseWrite}
    (hnd : h.server.writing id = some ended)
    (hwr : (h.server.step (.finish id error now)).writing = h.server.writing.erase id)
    (hmeas : (h.server.step (.finish id error now)).measuring = h.server.measuring)
    (hsi : (h.server.step (.finish id error now)).sizes =
      ended.request.changedRefs.foldl SizeCache.dropFolderPrefixSizes h.server.sizes) :
    (h.step (.finish id error now)).SizesHold := by
  have hno : ∀ {j : String} {w : BrowseWrite}, h.spans j = none →
      (h.server.step (.finish id error now)).writing j = some w → False := by
    intro j w hnone hw
    rw [hwr] at hw
    have hj : j ≠ id := by
      rintro rfl
      cases Table.erase_self.symm.trans hw
    obtain ⟨start, hspan⟩ := hI.spanned j w ((Table.erase_of_ne hj).symm.trans hw)
    cases hnone.symm.trans hspan
  constructor
  · intro i m hm
    have hm : (h.server.step (.finish id error now)).measuring i = some m := hm
    rw [hmeas] at hm
    refine bf_runs hI hm (le_of_eq ?_) fun j w hnone hw => (hno hnone hw).elim
    rw [hsi]
    simp only [SizeCache.folderWriteGeneration, SizeCache.dropAll_generations]
  · intro key entry he
    have he : (h.server.step (.finish id error now)).sizes.prefixSizeCache key = some entry := he
    rw [hsi] at he
    obtain ⟨hf, hdr⟩ := SizeCache.dropAll_cache he
    refine bf_backs hI hf (congrFun (bf_measured rfl) key) ?_ fun j w m hnone hw => (hno hnone hw).elim
    intro j w hw hgone
    rw [hwr] at hgone
    have hj : j = id := by
      by_contra hj
      cases hw.symm.trans ((Table.erase_of_ne hj).symm.trans hgone)
    subst hj
    rw [Table.unique hw hnd]
    exact hdr

private theorem bf_measure (hI : FreshInv h) {walk : SizeOutcome} {store : BrowseStore}
    (hg : h.GuardHolds (.size id folders ref pathPrefix walk now))
    (hq : QuietStep h (.size id folders ref pathPrefix walk now)) (hnew : h.server.hasJob id = false)
    (hsto : ref.store folders = .ok store)
    (hmeas : (h.server.step (.size id folders ref pathPrefix walk now)).measuring =
      h.server.measuring.put id ⟨ref, pathPrefix, store, h.server.sizes.folderWriteGeneration ref⟩)
    (hsi : (h.server.step (.size id folders ref pathPrefix walk now)).sizes = h.server.sizes)
    (hsd : h.server.seeds (.size id folders ref pathPrefix walk now) = none) :
    (h.step (.size id folders ref pathPrefix walk now)).SizesHold := by
  constructor
  · intro i m hm
    have hm : (h.server.step (.size id folders ref pathPrefix walk now)).measuring i = some m := hm
    rw [hmeas] at hm
    by_cases hi : i = id
    · subst hi
      cases Table.put_self.symm.trans hm
      refine ⟨h.clock, ?_, Nat.lt_succ_self _, ?_, ?_⟩
      · have hnone : h.began i = none := by
          cases hb : h.began i with
          | none => rfl
          | some b => cases hnew.symm.trans (hI.began i b hb)
        show (h.began i).orElse (fun _ => ((h.server.step _).measuring i).map _) = _
        rw [hnone, hmeas, Table.put_self]
        rfl
      · show _ ≤ (h.server.step _).sizes.folderWriteGeneration ref
        rw [hsi]
      · intro j span hspan hto
        obtain ⟨-, hst, -, hopen⟩ := hI.spans j span (hq.spans j span hspan)
        exact .inr (.inl ⟨hst, fun hnone => hg store hsto j span.write (hopen hnone) hto⟩)
    · exact hq.runs i m ((Table.put_of_ne hi).symm.trans hm)
  · intro key entry he
    have he : (h.server.step (.size id folders ref pathPrefix walk now)).sizes.prefixSizeCache key = some entry :=
      he
    rw [hsi] at he
    exact hq.backs key entry he (congrFun (bf_measured hsd) key)

private theorem bf_walked (hI : FreshInv h) {size : PrefixSizeCount} {store : BrowseStore}
    (hg : h.GuardHolds (.size id folders ref pathPrefix (.measured size) now))
    (hq : QuietStep h (.size id folders ref pathPrefix (.measured size) now)) (hnew : h.server.hasJob id = false)
    (hst : ref.store folders = .ok store)
    (hsd : h.server.seeds (.size id folders ref pathPrefix (.measured size) now) =
      some ⟨id, ref, pathPrefix, store, size⟩)
    (he : (h.server.sizes.seedPrefixSize ref pathPrefix size (h.server.sizes.folderWriteGeneration ref)
      now).prefixSizeCache key = some entry) :
    ∃ m, (h.step (.size id folders ref pathPrefix (.measured size) now)).Backs key entry m := by
  rw [SizeCache.seedPrefixSize, if_neg (lt_irrefl _)] at he
  refine bf_seeded hq hsd he ?_
  intro j span hspan hto
  have hnone : h.began id = none := by
    cases hb : h.began id with
    | none => rfl
    | some b => cases hnew.symm.trans (hI.began id b hb)
  obtain ⟨-, -, hstop, hopen⟩ := hI.spans j span hspan
  rw [hnone]
  cases hs : span.stop with
  | none => exact .inl ⟨rfl, hg store hst j span.write (hopen hs) hto⟩
  | some t => exact .inr ⟨t, rfl, hstop t hs⟩

private theorem bf_measureEnd (hI : FreshInv h) {m : BrowseMeasurement} {size : PrefixSizeCount}
    (hg : h.GuardHolds (.sizeEnd id (.measured size) now))
    (hq : QuietStep h (.sizeEnd id (.measured size) now)) (hm : h.server.measuring id = some m)
    (he : (h.server.sizes.seedPrefixSize m.ref m.pathPrefix size m.generationAtStart now).prefixSizeCache key =
      some entry) : ∃ m, (h.step (.sizeEnd id (.measured size) now)).Backs key entry m := by
  by_cases hmv : m.generationAtStart < h.server.sizes.folderWriteGeneration m.ref
  · rw [SizeCache.seedPrefixSize, if_pos hmv] at he
    have hsd : h.server.seeds (.sizeEnd id (.measured size) now) = none := by
      simp only [BrowseServer.seeds, hm, if_pos hmv]
    exact hq.backs key entry he (congrFun (bf_measured hsd) key)
  rw [SizeCache.seedPrefixSize, if_neg hmv] at he
  have hsd : h.server.seeds (.sizeEnd id (.measured size) now) =
      some ⟨id, m.ref, m.pathPrefix, m.store, size⟩ := by
    simp only [BrowseServer.seeds, hm, if_neg hmv]
  obtain ⟨b, hb, -, -, hbef⟩ := hI.sizes.measuring id m hm
  refine bf_seeded hq hsd he ?_
  intro j span hspan hto
  rw [hb]
  -- the generation did not move, so the write ended before the measurement began, or ran then
  rcases hbef j span hspan hto with hlt | ⟨hst, hsees⟩ | hnd
  · exact absurd hlt hmv
  · cases hs : span.stop with
    | none => exact .inl ⟨rfl, hsees hs⟩
    | some t => exact .inr ⟨t, rfl, hg _ b hsd hb j span hspan hto hst t hs⟩
  · exact .inr hnd

private theorem bf_sizes (hI : FreshInv h) (hg : h.GuardHolds e) : (h.step e).SizesHold := by
  have hmove := browseStep_move h.server e
  have hq := @bf_quiet h e hI
  generalize hs : h.server.step e = s' at hmove hq
  have hmeas : ∀ {i : String} {m : BrowseMeasurement}, (h.step e).server.measuring i = some m →
      s'.measuring i = some m := by
    intro i m hm
    rw [← hs]
    exact hm
  have hents : ∀ {key : String} {entry : CacheEntry}, (h.step e).server.sizes.prefixSizeCache key = some entry →
      s'.sizes.prefixSizeCache key = some entry := by
    intro key entry he
    rw [← hs]
    exact he
  have her : ∀ {id i : String} {m : BrowseMeasurement}, h.server.measuring.erase id i = some m →
      h.server.measuring i = some m := by
    intro id i m hm
    have hi : i ≠ id := by
      rintro rfl
      cases Table.erase_self.symm.trans hm
    exact (Table.erase_of_ne hi).symm.trans hm
  cases hmove with
  | @rows _ jobs sizes _ hids hsd hsi =>
    have hge : ∀ ref, h.server.sizes.folderWriteGeneration ref ≤ sizes.folderWriteGeneration ref := by
      intro ref
      rcases hsi with rfl | ⟨refs, rfl⟩
      · exact le_refl _
      · exact SizeCache.bumpAll_le _ _ _
    have hca : sizes.prefixSizeCache = h.server.sizes.prefixSizeCache := by
      rcases hsi with rfl | ⟨refs, rfl⟩
      · rfl
      · exact SizeCache.bumpAll_cache _ _
    have hsame := hq rfl hge
    refine ⟨fun i m hm => hsame.runs i m (hmeas hm), fun key entry he => ?_⟩
    exact hsame.backs key entry (hca ▸ hents he) (congrFun (bf_measured hsd) key)
  | launch hnew hthr hbusy hsto => exact bf_launch hI hg hsto hs
  | finish hw => exact bf_finish hI hw (by rw [hs]) (by rw [hs]) (by rw [hs])
  | measure hnew hkind hsd hst =>
    exact bf_measure hI hg (hq rfl fun ref => le_refl _) hnew hst (by rw [hs]) (by rw [hs]) hsd
  | walked hnew hsd hst =>
    have hsame := hq rfl fun ref' => le_of_eq (bf_seed_generation ..).symm
    refine ⟨fun i m hm => hsame.runs i m (hmeas hm), fun key entry he => ?_⟩
    exact bf_walked hI hg hsame hnew hst hsd (hents he)
  | seeded hm =>
    have hsame := hq rfl fun ref' => le_of_eq (bf_seed_generation ..).symm
    refine ⟨fun i m hm => hsame.runs i m (her (hmeas hm)), fun key entry he => ?_⟩
    exact bf_measureEnd hI hg hsame hm (hents he)
  | unmeasured hids hsd =>
    have hsame := hq rfl fun ref' => le_refl _
    refine ⟨fun i m hm => hsame.runs i m (her (hmeas hm)), fun key entry he => ?_⟩
    exact hsame.backs key entry (hents he) (congrFun (bf_measured hsd) key)
  | @read ref pathPrefix now =>
    obtain ⟨hge, hca⟩ := SizeCache.getCached_keeps h.server.sizes ref pathPrefix now
    have hsame := hq rfl fun ref' => le_of_eq (by simp only [SizeCache.folderWriteGeneration, hge])
    exact ⟨fun i m hm => hsame.runs i m (hmeas hm),
      fun key entry he => hsame.backs key entry (hca key entry (hents he)) rfl⟩
  | restart => exact ⟨fun i m hm => (by cases hmeas hm), fun key entry he => (by cases hents he)⟩

theorem FreshInv.step (hI : FreshInv h) (hg : h.GuardHolds e) : FreshInv (h.step e) := by
  have hjobs : BrowseInv (h.server.step e) := hI.jobs.step e
  constructor
  · exact hjobs
  · intro i w hw
    show ∃ start, SizeHistory.observe h.clock (h.spans i) ((h.server.step e).writing i) = some ⟨w, start, none⟩
    have hw : (h.server.step e).writing i = some w := hw
    rcases BrowseServer.writing_step hw with hold | ⟨_, _, _, _, -, hnew, -⟩
    · obtain ⟨start, hspan⟩ := hI.spanned i w hold
      rw [hspan, hw]
      exact ⟨start, rfl⟩
    have hnone : h.spans i = none := by
      cases hspan : h.spans i with
      | none => rfl
      | some span => cases hnew.symm.trans (hI.spans i span hspan).1
    rw [hnone, hw]
    exact ⟨h.clock, rfl⟩
  · intro i span hspan
    rcases bf_spans hI hspan with ⟨hold, hopen⟩ | ⟨span, hold, -, -, -, rfl⟩ | ⟨-, w, hw, rfl⟩
    · obtain ⟨hjob, hst, hstop, -⟩ := hI.spans i span hold
      exact ⟨BrowseServer.hasJob_step hjob e, Nat.lt_succ_of_lt hst, fun t ht => Nat.lt_succ_of_lt (hstop t ht), hopen⟩
    · obtain ⟨hjob, hst, -⟩ := hI.spans i span hold
      refine ⟨BrowseServer.hasJob_step hjob e, Nat.lt_succ_of_lt hst, ?_, by rintro ⟨⟩⟩
      rintro t ⟨⟩
      exact Nat.lt_succ_self _
    · obtain ⟨job, hjob, hid, -⟩ := hjobs.row i w hw
      exact ⟨hasJob_iff.2 (List.mem_map.2 ⟨job, hjob, hid⟩), Nat.lt_succ_self _, by rintro t ⟨⟩, fun _ => hw⟩
  · intro i b hb
    show (h.server.step e).hasJob i = true
    have hb : (h.began i).orElse (fun _ => ((h.server.step e).measuring i).map fun _ => h.clock) = some b := hb
    cases hold : h.began i with
    | some b' => exact BrowseServer.hasJob_step (hI.began i b' hold) e
    | none =>
      rw [hold] at hb
      obtain ⟨m, hm, -⟩ := Option.map_eq_some_iff.1 hb
      exact hasJob_iff.2 (hjobs.sizing i m hm).2
  · exact bf_sizes hI hg

theorem FreshInv.servesLatest (hI : FreshInv h) (e : BrowseEvent) : h.ServesLatest e := by
  cases e with
  | read ref pathPrefix now =>
    intro size hsize
    obtain ⟨entry, he, rfl⟩ := SizeCache.getCached_some hsize
    obtain ⟨m, hba⟩ := hI.sizes.cached _ entry he
    exact ⟨m, hba.measured, hba.size, fun i span hspan hto =>
      (hba.past i span hspan hto).imp_left And.left⟩
  | start | uploadFailed | progress | finish | size | sizeEnd | restart => exact trivial

theorem FreshInv.servesFresh (hI : FreshInv h) (hq : h.ReadsAreQuiet e) : h.ServesFresh e := by
  cases e with
  | read ref pathPrefix now =>
    intro size hsize
    obtain ⟨m, hm, hsame, hsp⟩ := hI.servesLatest (.read ref pathPrefix now) size hsize
    refine ⟨m, hm, hsame, fun i span hspan hto => ?_⟩
    rcases hsp i span hspan hto with hopen | hnd
    · exact absurd hto (hq m hm i span.write ((hI.spans i span hspan).2.2.2 hopen))
    · exact hnd
  | start | uploadFailed | progress | finish | size | sizeEnd | restart => exact trivial

/-- In a run whose steps meet the guard, a size that is served was measured since the last write that touches its place,
save writes that still run; and when none runs at any read, every size that is served is fresh. -/
theorem prefix_sizes_fresh (now : Int) (es : List BrowseEvent)
    (hguard : Always SizeHistory.step SizeHistory.GuardHolds (newSizeHistory now) es) :
    Always SizeHistory.step SizeHistory.ServesLatest (newSizeHistory now) es ∧
      (Always SizeHistory.step SizeHistory.ReadsAreQuiet (newSizeHistory now) es →
        Always SizeHistory.step SizeHistory.ServesFresh (newSizeHistory now) es) := by
  constructor
  · exact hguard.of_invariant (freshInv_new now) (fun h e hI hg => hI.step hg) fun h e hI _ => hI.servesLatest e
  intro hq
  exact (hguard.and hq).of_invariant (freshInv_new now) (fun h e hI hg => hI.step hg.1)
    fun h e hI hg => hI.servesFresh hg.2

def exampleFolders : S3Folders := fun id =>
  if id = "f" then .ok ⟨"s3.example.com", "bucket"⟩ else .error ("folder " ++ id ++ " not found")

def measuredAfterUpload : List BrowseEvent := [
  .size "1" exampleFolders ⟨.s3, some "f", ""⟩ "a" .error 1,
  .sizeEnd "1" (.measured ⟨1, 5⟩) 2,
  .start "2" exampleFolders (.upload ⟨.s3, some "f", "a"⟩ "x" 4 3) 3,
  .finish "2" none 4,
  .size "3" exampleFolders ⟨.s3, some "f", ""⟩ "a" .error 5,
  .sizeEnd "3" (.measured ⟨2, 8⟩) 6,
  .read ⟨.s3, some "f", ""⟩ "a" 7]

private theorem bf_put_erase {ρ : Type} {k : String} {row r : ρ} :
    ((Table.put (fun _ => none) k row).erase k) i ≠ some r := by
  intro h
  obtain ⟨hi, hput⟩ := Table.of_erase h
  rcases Table.of_put hput with ⟨heq, -⟩ | ⟨-, hnone⟩
  · exact hi heq
  · cases hnone

/-- A size is measured, an upload into its place drops it, and the size served afterwards has been measured anew. -/
theorem prefix_sizes_fresh_measured :
    Always SizeHistory.step SizeHistory.ServesFresh (newSizeHistory 0) measuredAfterUpload ∧
    ((run SizeHistory.step (newSizeHistory 0) (measuredAfterUpload.take 6)).server.sizes.getCachedPrefixSize
      ⟨.s3, some "f", ""⟩ "a" 7).2 = some ⟨⟨2, 8⟩, 6⟩ := by
  have hg : Always SizeHistory.step SizeHistory.GuardHolds (newSizeHistory 0) measuredAfterUpload := by
    refine ⟨?_, ?_, ?_, trivial, ?_, ?_, trivial, trivial⟩
    · intro store hst i w hw
      cases hw
    · intro seed b hseed hb i span hspan
      cases hspan
    · -- the upload touches the cached size, and sees it
      rintro stores hsto
      refine ⟨fun i m hm => (bf_put_erase hm).elim, fun key entry m he hm _ => ?_⟩
      rcases Table.of_put hm with ⟨-, rfl⟩ | ⟨-, hnone⟩
      · exact ⟨_, .head _, rfl, rfl, by decide +kernel⟩
      · cases hnone
    · intro store hst i w hw
      exact (bf_put_erase hw).elim
    · intro seed b hseed hb i span hspan _ _ t ht
      have hjob : i = "2" := by
        by_contra hi
        have hput : ∀ {t : Table String BrowseWrite} {w : BrowseWrite}, t i = none → t.put "2" w i = none :=
          fun hnone => (Table.put_of_ne hi).trans hnone
        have hgone : ∀ {w : BrowseWrite}, ((Table.put (fun _ => none) "2" w).erase "2") i = none :=
          (Table.erase_of_ne hi).trans (hput rfl)
        have hsp : SizeHistory.observe 4 (SizeHistory.observe 3 (SizeHistory.observe 2 none
            (Table.put (fun _ => none) "2" _ i)) ((Table.put (fun _ => none) "2" _).erase "2" i))
            ((Table.put (fun _ => none) "2" _).erase "2" i) = some span := hspan
        rw [hgone, hput rfl] at hsp
        cases hsp
      subst hjob
      cases hspan
      cases hb
      cases ht
      decide
  refine ⟨(prefix_sizes_fresh 0 measuredAfterUpload hg).2
    ⟨trivial, trivial, trivial, trivial, trivial, trivial, fun m hm i w hw => (bf_put_erase hw).elim, trivial⟩, rfl⟩

def measuredDuringUpload : List BrowseEvent := [
  .start "1" exampleFolders (.upload ⟨.s3, some "f", "a"⟩ "x" 4 3) 1,
  .size "2" exampleFolders ⟨.s3, some "f", ""⟩ "a" .error 2,
  .finish "1" none 3,
  .sizeEnd "2" (.measured ⟨0, 0⟩) 4,
  .read ⟨.s3, some "f", ""⟩ "a" 5]

theorem prefix_size_stale :
    ¬ Always SizeHistory.step SizeHistory.ServesLatest (newSizeHistory 0) measuredDuringUpload ∧
    ¬ Always SizeHistory.step SizeHistory.ServesFresh (newSizeHistory 0) measuredDuringUpload := by
  have hst : ¬ SizeHistory.ServesLatest (run SizeHistory.step (newSizeHistory 0) (measuredDuringUpload.take 4))
      (.read ⟨.s3, some "f", ""⟩ "a" 5) := by
    intro hserv
    obtain ⟨m, hm, -, hsp⟩ := hserv ⟨⟨0, 0⟩, 4⟩ rfl
    cases (rfl : _ = some _).symm.trans hm
    have hto : BrowseWrite.Touches
        ⟨.upload ⟨.s3, some "f", "a"⟩ "x" 4 3, .bucket ⟨"s3.example.com", "bucket"⟩,
          .bucket ⟨"s3.example.com", "bucket"⟩⟩
        (measuredPlace (.bucket ⟨"s3.example.com", "bucket"⟩) ⟨.s3, some "f", ""⟩ "a") := by decide +kernel
    rcases hsp "1" ⟨_, 0, some 2⟩ rfl hto with hopen | ⟨t, ht, hlt⟩
    · cases hopen
    · cases ht
      exact absurd hlt (by decide)
  constructor
  · rintro ⟨-, -, -, -, hread, -⟩
    exact hst hread
  rintro ⟨-, -, -, -, hread, -⟩
  refine hst fun size hsize => ?_
  obtain ⟨m, hm, hsame, hsp⟩ := hread size hsize
  exact ⟨m, hm, hsame, fun i span hspan hto => .inr (hsp i span hspan hto)⟩

end LamaSync
