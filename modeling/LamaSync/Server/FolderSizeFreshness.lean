import LamaSync.Server.FolderRefreshes

/-!
# Freshness of folder sizes

`SizeWatch` adds to the state the time of the latest invalidation of each folder, whatever the server has recorded of it.
A size is current when its measurement did not begin before that time.

A measurement that ends stores a size that is not current as valid in two ways.  One that the invalidation overtook finds
no record of it, because a later measurement of the same folder has cleared it.  And one that fails after the invalidation
keeps the size that was known before.
-/

namespace LamaSync

open Trace
open Table (of_put of_erase put_self put_of_ne)

/-- The server, and when each folder was last invalidated. -/
structure SizeWatch where
  stats : FolderStats
  latest : Table String Nat

def newSizeWatch (now : Nat) : SizeWatch where
  stats := newFolderStats now
  latest := fun _ => none

def MeasuredFolderSize.Current (v : MeasuredFolderSize) (latest : Table String Nat) : Prop :=
  ∀ measuredAt, v.measuredAt = some measuredAt → ∀ l, latest v.folderId = some l → l ≤ measuredAt

def FolderStats.Recorded (s : FolderStats) (folderId : String) : Prop :=
  (s.invalidatedFolders folderId).isSome ∨ (s.sizeInvalidations folderId).isSome

namespace SizeWatch

def step (h : SizeWatch) (e : FolderStatsEvent) : SizeWatch where
  stats := h.stats.step e
  latest :=
    match e with
    | .invalidate folderId => h.latest.put folderId h.stats.now
    | _ => h.latest

structure StoresFresh (h : SizeWatch) : Prop where
  cached : ∀ folderId entry, h.stats.folderCache folderId = some entry → entry.invalidated = false →
    entry.value.Current h.latest
  persisted : ∀ folderId entry, h.stats.persistedFolderSize folderId = some entry → entry.invalidated = false →
    entry.value.Current h.latest

def ServesFresh (h : SizeWatch) (e : FolderStatsEvent) : Prop :=
  ∀ size, h.stats.answers e = some size → size.stale = false → size.toMeasuredFolderSize.Current h.latest

/-- A measurement that succeeds and was overtaken by an invalidation finds it recorded; and one that fails, with a known size
from before an invalidation, was overtaken by that invalidation and finds it recorded. -/
def EndsRight (h : SizeWatch) (m : FolderMeasurement) : FolderMeasure → Prop
  | .size _ _ => ∀ l, h.latest m.folder.id = some l → m.startedAt < l → h.stats.Recorded m.folder.id
  | .error _ => ∀ previous, m.previous = some previous → previous.value.bytes.isSome →
      ∀ measuredAt, previous.value.measuredAt = some measuredAt → ∀ l, h.latest m.folder.id = some l →
        measuredAt < l → h.stats.Recorded m.folder.id ∧ m.startedAt ≤ l
  | .thrown => True

def GuardHolds (h : SizeWatch) : FolderStatsEvent → Prop
  | .finish i outcome => ∀ folder m, h.stats.tasks i = some ⟨folder, .measuring m⟩ → h.EndsRight m outcome
  | .answer i outcome => ∀ m, h.stats.requests i = some m → h.EndsRight m outcome
  | _ => True

end SizeWatch

private theorem fz_newest {rows : List FolderSizeRow} {best : Option FolderSizeRow} {row : FolderSizeRow}
    (h : rows.foldl newerRow best = some row) :
    (row ∈ rows ∨ best = some row) ∧ (∀ r ∈ rows, r.measuredAt ≤ row.measuredAt) ∧
      ∀ b, best = some b → b.measuredAt ≤ row.measuredAt := by
  induction rows generalizing best with
  | nil => exact ⟨.inr h, fun _ hr => (nomatch hr), fun b hb => by cases hb.symm.trans h; exact Nat.le_refl _⟩
  | cons r rows ih =>
    obtain ⟨hmem, hrows, hbest⟩ := ih h
    have hstep : ∃ b, newerRow best r = some b ∧ r.measuredAt ≤ b.measuredAt ∧ (b = r ∨ best = some b) ∧
        ∀ b', best = some b' → b'.measuredAt ≤ b.measuredAt := by
      unfold newerRow
      split
      · exact ⟨r, rfl, Nat.le_refl _, .inl rfl, fun _ hb => (nomatch hb)⟩
      rename_i b
      split
      · exact ⟨r, rfl, Nat.le_refl _, .inl rfl, by rintro _ ⟨⟩; assumption⟩
      · exact ⟨b, rfl, by omega, .inr rfl, by rintro _ ⟨⟩; exact Nat.le_refl _⟩
    obtain ⟨b, hb, hrb, hfrom, hbef⟩ := hstep
    have hbrow := hbest b hb
    refine ⟨?_, ?_, fun b' hb' => (hbef b' hb').trans hbrow⟩
    · rcases hmem with hmem | hmem
      · exact .inl (.tail _ hmem)
      · cases hmem.symm.trans hb
        exact hfrom.imp_left fun heq => List.mem_cons.2 (.inl heq)
    intro r' hr'
    rcases List.mem_cons.1 hr' with rfl | hla
    · exact hrb.trans hbrow
    · exact hrows r' hla

variable {folderId : String}

theorem newestRow_spec {rows : List FolderSizeRow} {row : FolderSizeRow} (h : newestRow rows folderId = some row) :
    row ∈ rows ∧ row.refId = folderId ∧ ∀ r ∈ rows, r.refId = folderId → r.measuredAt ≤ row.measuredAt := by
  obtain ⟨hmem, hrows, -⟩ := fz_newest h
  have hrow := List.mem_filter.1 (hmem.resolve_right (fun h => nomatch h))
  exact ⟨hrow.1, by simpa using hrow.2, fun r hr hid => hrows r (List.mem_filter.2 ⟨hr, by simpa using hid⟩)⟩

def FolderStats.Measures (s : FolderStats) (m : FolderMeasurement) : Prop :=
  (∃ i folder, s.tasks i = some ⟨folder, .measuring m⟩) ∨ ∃ i, s.requests i = some m

structure MeasuredFolderSize.IsOf (v : MeasuredFolderSize) (folderId : String) (now : Nat) : Prop where
  folderId : v.folderId = folderId
  measured : ∀ measuredAt, v.measuredAt = some measuredAt → measuredAt ≤ now

variable {now : Nat}

theorem MeasuredFolderSize.IsOf.mono {v : MeasuredFolderSize} {now' : Nat}
    (h : v.IsOf folderId now) (hle : now ≤ now') : v.IsOf folderId now' :=
  ⟨h.folderId, fun measuredAt hm => (h.measured measuredAt hm).trans hle⟩

structure FolderMeasurement.Started (m : FolderMeasurement) (now : Nat) : Prop where
  pos : 0 < m.startedAt
  started : m.startedAt ≤ now
  previous : ∀ previous, m.previous = some previous → previous.value.IsOf m.folder.id m.startedAt

structure SizeInv (s : FolderStats) (latest : Table String Nat) : Prop where
  clock : 0 < s.now
  cached : ∀ folderId entry, s.folderCache folderId = some entry → entry.value.IsOf folderId s.now
  valid : ∀ folderId entry, s.folderCache folderId = some entry → entry.invalidated = false → entry.value.Current latest
  marked : ∀ folderId t, s.invalidatedFolders folderId = some t → latest folderId = some t
  watermarked : ∀ folderId t, s.sizeInvalidations folderId = some t → latest folderId = some t
  rows : ∀ row ∈ s.sizeHistory, row.measuredAt ≤ s.now
  durable : ∀ folderId l, latest folderId = some l → s.sizeInvalidations folderId = some l ∨
    ∃ row ∈ s.sizeHistory, row.refId = folderId ∧ l ≤ row.measuredAt
  measures : ∀ m, s.Measures m → m.Started s.now

variable {s s' : FolderStats} {latest : Table String Nat} {h : SizeWatch}

theorem sizeInv_new (hnow : 0 < now) : SizeInv (newFolderStats now) fun _ => none where
  clock := hnow
  cached := fun _ _ h => nomatch h
  valid := fun _ _ h => nomatch h
  marked := fun _ _ h => nomatch h
  watermarked := fun _ _ h => nomatch h
  rows := fun _ h => nomatch h
  durable := fun _ _ h => nomatch h
  measures := by
    rintro m (⟨_, _, h⟩ | ⟨_, h⟩)
    · exact nomatch h
    · exact nomatch h

/-- The slots are no part of the invariant, nor are the tasks that do not measure. -/
theorem SizeInv.frame (hI : SizeInv s latest) (hnow : s'.now = s.now) (hca : s'.folderCache = s.folderCache)
    (hma : s'.invalidatedFolders = s.invalidatedFolders) (hwa : s'.sizeInvalidations = s.sizeInvalidations)
    (hrows : s'.sizeHistory = s.sizeHistory) (hme : ∀ m, s'.Measures m → m.Started s.now) :
    SizeInv s' latest where
  clock := hnow ▸ hI.clock
  cached := by simpa only [hnow, hca] using hI.cached
  valid := by simpa only [hca] using hI.valid
  marked := by simpa only [hma] using hI.marked
  watermarked := by simpa only [hwa] using hI.watermarked
  rows := by simpa only [hnow, hrows] using hI.rows
  durable := by simpa only [hwa, hrows] using hI.durable
  measures := by simpa only [hnow] using hme

variable {entry : CachedFolderSize}

theorem SizeInv.persisted (hI : SizeInv s latest) (he : s.persistedFolderSize folderId = some entry) :
    entry.value.IsOf folderId s.now ∧ (entry.invalidated = false → entry.value.Current latest) := by
  unfold FolderStats.persistedFolderSize at he
  obtain ⟨row, hrow, rfl⟩ := Option.map_eq_some_iff.1 he
  obtain ⟨hmem, -, hnew⟩ := newestRow_spec hrow
  refine ⟨⟨rfl, fun measuredAt hm => ?_⟩, fun hv measuredAt hm l hl => ?_⟩
  · cases hm
    exact hI.rows row hmem
  cases hm
  rcases hI.durable folderId l hl with hmark | ⟨r, hr, hid, hle⟩
  · simp only [hmark, Option.any_some, decide_eq_false_iff_not, Nat.not_le] at hv
    exact Nat.le_of_lt hv
  · exact hle.trans (hnew r hr hid)

theorem SizeInv.known (hI : SizeInv s latest) (he : s.knownEntry folderId = some entry) :
    entry.value.IsOf folderId s.now ∧ (entry.invalidated = false → entry.value.Current latest) := by
  unfold FolderStats.knownEntry at he
  cases hca : s.folderCache folderId with
  | none => exact hI.persisted (by simpa [hca] using he)
  | some cached =>
    obtain rfl : cached = entry := by simpa [hca] using he
    exact ⟨hI.cached folderId cached hca, hI.valid folderId cached hca⟩

theorem SizeInv.storesFresh (hI : SizeInv h.stats h.latest) : h.StoresFresh where
  cached := hI.valid
  persisted := fun _ _ he => (hI.persisted he).2

theorem SizeInv.start (hI : SizeInv s latest) (folder : Folder) : (s.startMeasurement folder).Started s.now where
  pos := hI.clock
  started := Nat.le_refl _
  previous := fun _ hprev => (hI.known hprev).1

theorem SizeInv.store (hI : SizeInv s latest)
    (hof : entry.value.IsOf folderId s.now) (hv : entry.invalidated = false → entry.value.Current latest) :
    SizeInv { s with folderCache := s.folderCache.put folderId entry } latest where
  clock := hI.clock
  cached := by
    intro f e he
    rcases of_put he with ⟨rfl, rfl⟩ | ⟨-, hold⟩
    · exact hof
    · exact hI.cached f e hold
  valid := by
    intro f e he
    rcases of_put he with ⟨rfl, rfl⟩ | ⟨-, hold⟩
    · exact hv
    · exact hI.valid f e hold
  marked := hI.marked
  watermarked := hI.watermarked
  rows := hI.rows
  durable := hI.durable
  measures := hI.measures

private theorem fz_recorded (hI : SizeInv s latest) (hrec : s.Recorded folderId) {l : Nat}
    (hl : latest folderId = some l) : s.latestInvalidation folderId = l := by
  have hmark : ∀ t, s.invalidatedFolders folderId = some t → t = l := fun t ht =>
    Table.unique (hI.marked folderId t ht) hl
  have hwa : ∀ t, s.sizeInvalidations folderId = some t → t = l := fun t ht =>
    Table.unique (hI.watermarked folderId t ht) hl
  unfold FolderStats.latestInvalidation
  cases hm : s.invalidatedFolders folderId <;> cases hw : s.sizeInvalidations folderId
  · simp [FolderStats.Recorded, hm, hw] at hrec
  · simp [hwa _ hw]
  · simp [hmark _ hm]
  · simp [hmark _ hm, hwa _ hw]

private theorem fz_unrecorded (hrec : ¬ s.Recorded folderId) : s.latestInvalidation folderId = 0 := by
  simp only [FolderStats.Recorded, not_or, Bool.not_eq_true, Option.isSome_eq_false_iff, Option.isNone_iff_eq_none]
    at hrec
  simp [FolderStats.latestInvalidation, hrec.1, hrec.2]

variable {m : FolderMeasurement}

private theorem fz_failed_value (hm : m.Started now) (message : String) :
    ((m.value (.error message)).IsOf m.folder.id now) ∧
    ∀ measuredAt, (m.value (.error message)).measuredAt = some measuredAt ↔
      ∃ previous, m.previous = some previous ∧ previous.value.bytes.isSome ∧
        previous.value.measuredAt = some measuredAt := by
  cases hprev : m.previous with
  | none =>
    have hv : m.value (.error message) = ⟨m.folder.id, none, none, none⟩ := by
      simp [FolderMeasurement.value, hprev]
    rw [hv]
    exact ⟨⟨rfl, fun _ h => (nomatch h)⟩, by simp⟩
  | some previous =>
    cases hb : previous.value.bytes.isSome with
    | false =>
      have hv : m.value (.error message) = ⟨m.folder.id, none, none, none⟩ := by
        simp [FolderMeasurement.value, hprev, Option.filter, hb]
      rw [hv]
      exact ⟨⟨rfl, fun _ h => (nomatch h)⟩, by simp [hb]⟩
    | true =>
      have hv : m.value (.error message) = previous.value := by
        simp [FolderMeasurement.value, hprev, Option.filter, hb]
      rw [hv]
      exact ⟨(hm.previous previous hprev).mono hm.started, by simp [hb]⟩

variable {outcome : FolderMeasure}

private theorem fz_value (hm : m.Started now)
    (hth : outcome ≠ .thrown) : (m.value outcome).IsOf m.folder.id now := by
  cases outcome with
  | size bytes objectCount => exact ⟨rfl, fun measuredAt h => by cases h; exact hm.started⟩
  | error message => exact (fz_failed_value hm message).1
  | thrown => exact absurd rfl hth

private theorem fz_measured_iff (hI : SizeInv h.stats h.latest) (hm : m.Started h.stats.now)
    (hth : outcome ≠ .thrown) :
    ((h.stats.measuredEntry m outcome).invalidated = false →
      (h.stats.measuredEntry m outcome).value.Current h.latest) ↔ h.EndsRight m outcome := by
  have hva : (h.stats.measuredEntry m outcome).invalidated = false ↔
      h.stats.latestInvalidation m.folder.id < m.startedAt := by
    simp [FolderStats.measuredEntry]
  have hid : (h.stats.measuredEntry m outcome).value.folderId = m.folder.id := (fz_value hm hth).folderId
  rw [hva]
  unfold MeasuredFolderSize.Current
  rw [hid]
  cases outcome with
  | thrown => exact absurd rfl hth
  | size bytes objectCount =>
    constructor
    · intro hcur l hl hlt
      by_contra hrec
      have hle := hcur (by rw [fz_unrecorded hrec]; exact hm.pos) m.startedAt rfl l hl
      omega
    rintro hr hlt measuredAt ⟨⟩ l hl
    by_contra hover
    have hla := fz_recorded hI (hr l hl (Nat.lt_of_not_le hover)) hl
    omega
  | error message =>
    obtain ⟨-, hv⟩ := fz_failed_value hm message
    constructor
    · intro hcur previous hprev hb measuredAt hmeas l hl hlt
      have hstor := (hv measuredAt).2 ⟨previous, hprev, hb, hmeas⟩
      have hrec : h.stats.Recorded m.folder.id := by
        by_contra hrec
        have hle := hcur (by rw [fz_unrecorded hrec]; exact hm.pos) measuredAt hstor l hl
        omega
      refine ⟨hrec, ?_⟩
      by_contra hbef
      have hle := hcur (by rw [fz_recorded hI hrec hl]; omega) measuredAt hstor l hl
      omega
    · intro hr hlt measuredAt hstor l hl
      by_contra hover
      obtain ⟨previous, hprev, hb, hmeas⟩ := (hv measuredAt).1 hstor
      obtain ⟨hrec, hle⟩ := hr previous hprev hb measuredAt hmeas l hl (Nat.lt_of_not_le hover)
      rw [fz_recorded hI hrec hl] at hlt
      omega

theorem SizeInv.end (hI : SizeInv h.stats h.latest) (hm : m.Started h.stats.now) (hr : h.EndsRight m outcome) :
    SizeInv (h.stats.endMeasurement m outcome) h.latest := by
  by_cases hth : outcome = .thrown
  · subst hth
    exact hI
  have hstor : SizeInv { h.stats with
      folderCache := h.stats.folderCache.put m.folder.id (h.stats.measuredEntry m outcome) } h.latest :=
    hI.store (fz_value hm hth) ((fz_measured_iff hI hm hth).2 hr)
  have hma : ∀ folderId t, (if m.startedAt ≤ h.stats.latestInvalidation m.folder.id then h.stats.invalidatedFolders
      else h.stats.invalidatedFolders.erase m.folder.id) folderId = some t → h.latest folderId = some t := by
    intro folderId t ht
    split at ht
    · exact hI.marked folderId t ht
    · exact hI.marked folderId t (of_erase ht).2
  cases outcome with
  | thrown => exact absurd rfl hth
  | error message => exact { hstor with marked := by simpa [FolderStats.endMeasurement] using hma }
  | size bytes objectCount =>
    refine { hstor with
      marked := by simpa [FolderStats.endMeasurement] using hma
      watermarked := fun folderId t ht => ?_
      rows := fun row hrow => ?_
      durable := fun folderId l hl => ?_ }
    · simp only [FolderStats.endMeasurement, decide_eq_true_eq] at ht
      split at ht
      · exact hI.watermarked folderId t ht
      · exact hI.watermarked folderId t (of_erase ht).2
    · rcases List.mem_append.1 hrow with hold | hnew
      · exact hI.rows row hold
      · rw [List.mem_singleton] at hnew
        exact hnew ▸ hm.started
    simp only [FolderStats.endMeasurement, decide_eq_true_eq]
    rcases hI.durable folderId l hl with hmark | ⟨row, hrow, hrest⟩
    · split
      · exact .inl hmark
      · rename_i hbef
        by_cases hf : folderId = m.folder.id
        · subst hf
          have hla := fz_recorded hI (.inr (Option.isSome_iff_exists.2 ⟨l, hmark⟩)) hl
          exact .inr ⟨_, List.mem_append_right _ (.head _), rfl, by simp only; omega⟩
        · exact .inl (Table.erase_of_ne hf ▸ hmark)
    · exact .inr ⟨row, List.mem_append_left _ hrow, hrest⟩

theorem SizeInv.begin (hI : SizeInv s latest) (folder : Folder) : SizeInv (s.beginFolderRefresh folder) latest := by
  unfold FolderStats.beginFolderRefresh
  split
  · exact hI
  split
  · exact hI
  refine hI.frame rfl rfl rfl rfl rfl ?_
  rintro m (⟨i, f, hi⟩ | hreq)
  · rcases of_put hi with ⟨-, htask⟩ | ⟨-, hold⟩
    · have hph := congrArg RefreshTask.phase htask
      simp only at hph
      split at hph <;> cases hph
    · exact hI.measures m (.inl ⟨i, f, hold⟩)
  · exact hI.measures m (.inr hreq)

private theorem fz_served (hI : SizeInv s latest) {folder : Folder} {known : CachedFolderSize}
    (hkn : s.knownEntry folder.id = some known) :
    SizeInv (s.serveKnown folder known).1 latest ∧
      ((s.serveKnown folder known).2.stale = false →
        (s.serveKnown folder known).2.toMeasuredFolderSize.Current latest) := by
  obtain ⟨hof, hcur⟩ := hI.known hkn
  constructor
  · have hstor : SizeInv { s with
        folderCache := s.folderCache.put folder.id { known with
          checkedAt := s.now
          invalidated := known.invalidated || (s.invalidatedFolders folder.id).isSome } } latest :=
      hI.store hof fun hv => hcur (Bool.or_eq_false_iff.1 hv).1
    unfold FolderStats.serveKnown
    simp only
    split
    · exact hstor.begin folder
    · exact hstor
  · intro hfr
    simp only [FolderStats.serveKnown, FolderStats.folderFreshness, Bool.or_eq_false_iff] at hfr ⊢
    exact hcur hfr.1.1

theorem SizeInv.read (hI : SizeInv s latest) (folder : Folder) (options : ReadFolderSizeOptions) :
    SizeInv (s.readFolderSize folder options).1 latest ∧
      ∀ size, (s.readFolderSize folder options).2 = some size → size.stale = false →
        size.toMeasuredFolderSize.Current latest := by
  unfold FolderStats.readFolderSize
  split
  · refine ⟨hI, ?_⟩
    rintro size ⟨⟩ - measuredAt hm
    cases hm
  split
  · rename_i cached hwarm
    refine ⟨hI, ?_⟩
    rintro size ⟨⟩ hfr
    have hcach : s.folderCache folder.id = some cached := by
      split at hwarm
      · cases hwarm
      · exact (Option.filter_eq_some_iff.1 hwarm).1
    simp only [FolderStats.folderFreshness, Bool.or_eq_false_iff] at hfr
    exact hI.valid _ _ hcach hfr.1
  · rename_i known _ hkn
    have he : s.knownEntry folder.id = some known := by
      split at hkn
      · cases hkn
      · exact hkn
    have hse := fz_served hI he
    exact ⟨hse.1, by rintro size ⟨⟩; exact hse.2⟩
  · split
    · refine ⟨hI.frame rfl rfl rfl rfl rfl ?_, fun _ hnone => by cases hnone⟩
      rintro m (htask | ⟨i, hi⟩)
      · exact hI.measures m (.inl htask)
      rcases of_put hi with ⟨-, rfl⟩ | ⟨-, hold⟩
      · exact hI.start folder
      · exact hI.measures m (.inr ⟨i, hold⟩)
    · refine ⟨hI.begin folder, ?_⟩
      rintro size ⟨⟩ - measuredAt hm
      cases hm

theorem SizeInv.invalidate (hI : SizeInv s latest) (folderId : String) :
    SizeInv (s.invalidateFolderSize folderId) (latest.put folderId s.now) := by
  -- an entry after the invalidation: that of the folder is no longer valid, the others are as they were
  have hen : ∀ f e, (s.invalidateFolderSize folderId).folderCache f = some e →
      ∃ e', s.folderCache f = some e' ∧ e.value = e'.value ∧ (e.invalidated = false → f ≠ folderId ∧ e = e') := by
    intro f e he
    cases hcach : s.folderCache folderId with
    | some cached =>
      simp only [FolderStats.invalidateFolderSize, hcach] at he
      rcases of_put he with ⟨rfl, rfl⟩ | ⟨hne, hold⟩
      · exact ⟨cached, hcach, rfl, fun hv => by cases hv⟩
      · exact ⟨e, hold, rfl, fun _ => ⟨hne, rfl⟩⟩
    | none =>
      simp only [FolderStats.invalidateFolderSize, hcach] at he
      refine ⟨e, he, rfl, fun _ => ⟨?_, rfl⟩⟩
      rintro rfl
      cases hcach.symm.trans he
  have hrec : ∀ {records : Table String Nat}, (∀ f t, records f = some t → latest f = some t) →
      ∀ f t, (records.put folderId s.now) f = some t → (latest.put folderId s.now) f = some t := by
    intro records hre f t ht
    rcases of_put ht with ⟨rfl, rfl⟩ | ⟨hne, hold⟩
    · exact put_self
    · exact (put_of_ne hne).trans (hre f t hold)
  exact
    { clock := hI.clock
      cached := fun f e he => by
        obtain ⟨e', he', hva, -⟩ := hen f e he
        exact hva ▸ hI.cached f e' he'
      valid := fun f e he hv measuredAt hm l hl => by
        obtain ⟨e', he', -, ho⟩ := hen f e he
        obtain ⟨hne, rfl⟩ := ho hv
        have hid := (hI.cached f e he').folderId
        rw [hid, put_of_ne hne] at hl
        exact hI.valid f e he' hv measuredAt hm l (hid ▸ hl)
      marked := hrec hI.marked
      watermarked := hrec hI.watermarked
      rows := hI.rows
      durable := fun f l hl => by
        rcases of_put hl with ⟨rfl, rfl⟩ | ⟨hne, hold⟩
        · exact .inl put_self
        · exact (hI.durable f l hold).imp_left (put_of_ne hne).trans
      measures := hI.measures }

theorem SizeInv.tick (hI : SizeInv s latest) (ms : Nat) : SizeInv { s with now := s.now + ms } latest where
  clock := Nat.lt_of_lt_of_le hI.clock (Nat.le_add_right ..)
  cached := fun f e he => (hI.cached f e he).mono (Nat.le_add_right ..)
  valid := hI.valid
  marked := hI.marked
  watermarked := hI.watermarked
  rows := fun row hrow => (hI.rows row hrow).trans (Nat.le_add_right ..)
  durable := hI.durable
  measures := fun m hm =>
    { hI.measures m hm with started := (hI.measures m hm).started.trans (Nat.le_add_right ..) }

theorem SizeInv.restart (hI : SizeInv s latest) : SizeInv s.restart latest where
  clock := hI.clock
  cached := fun _ _ he => nomatch he
  valid := fun _ _ he => nomatch he
  marked := fun _ _ ht => nomatch ht
  watermarked := hI.watermarked
  rows := hI.rows
  durable := hI.durable
  measures := by
    rintro m (⟨_, _, hi⟩ | ⟨_, hi⟩)
    · exact nomatch hi
    · exact nomatch hi

private theorem fz_grant {tasks : Table Nat RefreshTask} {handed : Option (String × Nat)} {i : Nat} {folder : Folder}
    (hi : FolderStats.grant tasks handed i = some ⟨folder, .measuring m⟩) :
    tasks i = some ⟨folder, .measuring m⟩ := by
  cases handed with
  | none => exact hi
  | some w =>
    cases hw : tasks w.2 with
    | none => simpa only [FolderStats.grant, hw] using hi
    | some task =>
      simp only [FolderStats.grant, hw] at hi
      rcases of_put hi with ⟨-, htask⟩ | ⟨-, hold⟩
      · cases htask
      · exact hold

theorem SizeInv.release (hI : SizeInv s latest) (i : Nat) (folder : Folder) :
    SizeInv (s.releaseRefresh i folder) latest := by
  refine hI.frame rfl rfl rfl rfl rfl ?_
  rintro m (⟨j, f, hj⟩ | hreq)
  · exact hI.measures m (.inl ⟨j, f, fz_grant (of_erase hj).2⟩)
  · exact hI.measures m (.inr hreq)

private theorem fz_end (hI : SizeInv h.stats h.latest) (hm : h.stats.Measures m) {after : FolderStats}
    (haf : SizeInv (h.stats.endMeasurement m outcome) h.latest → SizeInv after h.latest)
    (hca : after.folderCache = (h.stats.endMeasurement m outcome).folderCache) :
    (h.EndsRight m outcome ↔ SizeWatch.StoresFresh ⟨after, h.latest⟩) ∧
      (h.EndsRight m outcome → SizeInv after h.latest) := by
  have hst := hI.measures m hm
  refine ⟨⟨fun hr => SizeInv.storesFresh (h := ⟨after, h.latest⟩) (haf (hI.end hst hr)), ?_⟩,
    fun hr => haf (hI.end hst hr)⟩
  intro hsto
  by_cases hth : outcome = .thrown
  · subst hth
    trivial
  refine (fz_measured_iff hI hst hth).1 (hsto.cached m.folder.id _ ?_)
  rw [hca]
  cases outcome with
  | thrown => exact absurd rfl hth
  | size bytes objectCount | error message => exact put_self

private theorem fz_step (hI : SizeInv h.stats h.latest) (e : FolderStatsEvent) :
    (h.GuardHolds e ↔ (h.step e).StoresFresh ∧ h.ServesFresh e) ∧
      (h.GuardHolds e → SizeInv (h.step e).stats (h.step e).latest) := by
  -- a step that keeps the invariant and serves only what is current meets both sides
  have hq : h.GuardHolds e → SizeInv (h.step e).stats (h.step e).latest → h.ServesFresh e →
      (h.GuardHolds e ↔ (h.step e).StoresFresh ∧ h.ServesFresh e) ∧
        (h.GuardHolds e → SizeInv (h.step e).stats (h.step e).latest) :=
    fun hgu hnext hserv => ⟨iff_of_true hgu ⟨hnext.storesFresh, hserv⟩, fun _ => hnext⟩
  have hsil : h.stats.answers e = none → h.ServesFresh e := by
    intro hnone size hsize
    cases hnone.symm.trans hsize
  cases e with
  | tick ms => exact hq trivial (hI.tick ms) (hsil rfl)
  | read folder options => exact hq trivial (hI.read folder options).1 (hI.read folder options).2
  | refresh folder => exact hq trivial (hI.begin folder) (hsil rfl)
  | invalidate folderId => exact hq trivial (hI.invalidate folderId) (hsil rfl)
  | restart => exact hq trivial hI.restart (hsil rfl)
  | start i =>
    refine hq trivial ?_ (hsil rfl)
    show SizeInv (h.stats.step (.start i)) h.latest
    simp only [FolderStats.step]
    split
    · rename_i folder _
      refine hI.frame rfl rfl rfl rfl rfl ?_
      rintro m (⟨j, f, hj⟩ | hreq)
      · rcases of_put hj with ⟨-, htask⟩ | ⟨-, hold⟩
        · cases htask
          exact hI.start folder
        · exact hI.measures m (.inl ⟨j, f, hold⟩)
      · exact hI.measures m (.inr hreq)
    · exact hI
  | release i =>
    refine hq trivial ?_ (hsil rfl)
    show SizeInv (h.stats.step (.release i)) h.latest
    simp only [FolderStats.step]
    split
    · exact hI.release i _
    · exact hI
  | finish i outcome =>
    have hserv : h.ServesFresh (.finish i outcome) := hsil rfl
    cases htask : h.stats.tasks i with
    | none =>
      refine hq (fun _ _ hi => by cases htask.symm.trans hi) ?_ hserv
      simpa only [SizeWatch.step, FolderStats.step, htask] using hI
    | some task =>
      obtain ⟨folder, phase⟩ := task
      by_cases hph : ∃ m, phase = .measuring m
      · obtain ⟨m, rfl⟩ := hph
        have hnext : h.step (.finish i outcome) = ⟨{ h.stats.endMeasurement m outcome with
            tasks := h.stats.tasks.put i ⟨folder, .measured⟩ }, h.latest⟩ := by
          simp only [SizeWatch.step, FolderStats.step, htask]
        have hgu : h.GuardHolds (.finish i outcome) ↔ h.EndsRight m outcome :=
          ⟨fun hg => hg folder m htask, fun hr _ _ hi => by cases htask.symm.trans hi; exact hr⟩
        have haf : SizeInv (h.stats.endMeasurement m outcome) h.latest →
            SizeInv { h.stats.endMeasurement m outcome with tasks := h.stats.tasks.put i ⟨folder, .measured⟩ }
              h.latest := by
          intro hnd
          refine hnd.frame rfl rfl rfl rfl rfl ?_
          rintro m' (⟨j, f, hj⟩ | hreq)
          · rcases of_put hj with ⟨-, htask'⟩ | ⟨-, hold⟩
            · cases htask'
            · exact hnd.measures m' (.inl ⟨j, f, by rw [FolderStats.endMeasurement_tasks]; exact hold⟩)
          · exact hnd.measures m' (.inr hreq)
        obtain ⟨hiff, hkeep⟩ := fz_end hI (.inl ⟨i, folder, htask⟩) haf rfl
        rw [hgu, hnext]
        exact ⟨hiff.trans (and_iff_left hserv).symm, hkeep⟩
      · refine hq (fun _ m hi => ?_) ?_ hserv
        · cases htask.symm.trans hi
          exact absurd ⟨m, rfl⟩ hph
        · have hsame : h.stats.step (.finish i outcome) = h.stats := by
            cases phase with
            | measuring m => exact absurd ⟨m, rfl⟩ hph
            | waiting | granted | measured => simp only [FolderStats.step, htask]
          show SizeInv (h.stats.step (.finish i outcome)) h.latest
          rwa [hsame]
  | answer i outcome =>
    cases hreq : h.stats.requests i with
    | none =>
      refine hq (fun _ hi => by cases hreq.symm.trans hi) ?_ (hsil ?_)
      · simpa only [SizeWatch.step, FolderStats.step, hreq] using hI
      · cases outcome <;> simp [FolderStats.answers, hreq]
    | some m =>
      have hnext : h.step (.answer i outcome) = ⟨{ h.stats.endMeasurement m outcome with
          requests := h.stats.requests.erase i }, h.latest⟩ := by
        simp only [SizeWatch.step, FolderStats.step, hreq]
      have hgu : h.GuardHolds (.answer i outcome) ↔ h.EndsRight m outcome :=
        ⟨fun hg => hg m hreq, fun hr _ hi => by cases hreq.symm.trans hi; exact hr⟩
      have hserv : h.EndsRight m outcome → h.ServesFresh (.answer i outcome) := by
        intro hr size hsize hfr
        cases outcome with
        | thrown => simp [FolderStats.answers, hreq] at hsize
        | size | error =>
          simp only [FolderStats.answers, hreq, Option.some.injEq] at hsize
          subst hsize
          simp only [FolderStats.folderFreshness, Bool.or_eq_false_iff] at hfr
          exact (fz_measured_iff hI (hI.measures m (.inr ⟨i, hreq⟩)) (by simp)).2 hr hfr.1
      have haf : SizeInv (h.stats.endMeasurement m outcome) h.latest →
          SizeInv { h.stats.endMeasurement m outcome with requests := h.stats.requests.erase i } h.latest := by
        intro hnd
        refine hnd.frame rfl rfl rfl rfl rfl ?_
        rintro m' (htask | ⟨j, hj⟩)
        · exact hnd.measures m' (.inl htask)
        refine hnd.measures m' (.inr ⟨j, ?_⟩)
        rw [FolderStats.endMeasurement_requests]
        exact (of_erase hj).2
      obtain ⟨hiff, hkeep⟩ := fz_end hI (.inr ⟨i, hreq⟩) haf rfl
      rw [hgu, hnext]
      exact ⟨⟨fun hr => ⟨hiff.1 hr, hserv hr⟩, fun hboth => hiff.2 hboth.1⟩, hkeep⟩

/-- Exactly in the runs whose measurements end right, what is stored or served as fresh was measured since the latest
invalidation; and in every run the refreshes keep their bounds, and none waits for nothing. -/
theorem folder_sizes_fresh {now : Nat} (hnow : 0 < now) (es : List FolderStatsEvent) :
    (Always SizeWatch.step SizeWatch.GuardHolds (newSizeWatch now) es ↔
      Always SizeWatch.step (fun h e => (h.step e).StoresFresh ∧ h.ServesFresh e) (newSizeWatch now) es) ∧
    Always SizeWatch.step (fun h e => (h.step e).stats.Bounded) (newSizeWatch now) es := by
  constructor
  · exact always_congr (I := fun h : SizeWatch => SizeInv h.stats h.latest) (sizeInv_new hnow)
      (fun _ e hI => (fz_step hI e).1) fun _ e hI => (fz_step hI e).2
  refine always_true.of_invariant (I := fun h : SizeWatch => ∃ held, h.stats.RefreshInv held)
    ⟨[], FolderStats.refreshInv_new now⟩ (fun h e hI _ => ?_) fun h e hI _ => ?_
  · exact hI.elim fun _ hheld => hheld.step e
  · exact (hI.elim fun _ hheld => hheld.step e).elim fun _ hheld => hheld.bounded

def photosFolder : Folder where
  id := "photos"
  name := "Photos"
  type := .sync
  backend := some .s3
  backendId := some "minio"

/-- A folder is measured, is changed, and cannot be measured again. -/
def failedRefresh : List FolderStatsEvent :=
  [.refresh photosFolder, .start 0, .finish 0 (.size 10 (some 1)), .release 0, .tick 1, .invalidate "photos", .tick 1,
    .refresh photosFolder, .start 1, .finish 1 (.error "connection refused"), .release 1]

theorem folder_sizes_fresh_measured :
    0 < 5 ∧ Always SizeWatch.step (fun h e => (h.step e).StoresFresh ∧ h.ServesFresh e) (newSizeWatch 5)
      (failedRefresh.take 7) :=
  ⟨by decide, (folder_sizes_fresh (by decide) _).1.1
    ⟨trivial, trivial, fun _ _ _ _ hl => (nomatch hl), trivial, trivial, trivial, trivial, trivial⟩⟩

/-- The size from before the change is served as fresh. -/
theorem failed_refresh_served_fresh :
    ¬ Always SizeWatch.step (fun h e => (h.step e).StoresFresh ∧ h.ServesFresh e) (newSizeWatch 1)
      (failedRefresh ++ [.read photosFolder ⟨false, true⟩]) := by
  intro h
  have hserv := (Always.at h).2
  have hsize : ((run SizeWatch.step (newSizeWatch 1) failedRefresh).stats.answers
      (.read photosFolder ⟨false, true⟩)) =
        some ⟨⟨"photos", some 10, some 1, some 1⟩, some "connection refused", false, false⟩ := by decide
  have hcur := hserv _ hsize rfl 1 rfl 2 (by decide)
  exact absurd hcur (by decide)

end LamaSync
