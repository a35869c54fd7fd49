import LamaSync.Companion.MediaDiscovery

/-!
# Sequences of scans

A device has a volume for every collection and name, and a scan comes to some of them.  The invariant says what the cursor of a
volume tells of its rows: the boundary of a completed walk of the history is one below which every row of the sources it was
for has a record.  A scan relies on a boundary that may have been captured from an empty library, from selected photos, for
other sources or in the other mode; one that does not misses nothing (`discovery_misses_nothing`).
-/

namespace LamaSync

open Trace MediaVolume

abbrev MediaKey := MediaCollection × String

abbrev MediaDevice := MediaKey → MediaVolume

/-- `walks` says for every volume how the scan of it goes, when the scan comes to it. -/
inductive DiscoveryEvent where
  | insert (key : MediaKey) (row : MediaRow)
  | delete (key : MediaKey) (mediaId : Nat)
  | scan (request : ScanRequest) (walks : MediaKey → Option WalkInput)

def MediaVolume.deleteRow (v : MediaVolume) (mediaId : Nat) : MediaVolume :=
  { v with rows := v.rows.filter fun row => row.mediaId ≠ mediaId }

def MediaDevice.step (classify : MediaRow → Classification) (d : MediaDevice) : DiscoveryEvent → MediaDevice
  | .insert key row => Function.update d key ((d key).insertRow row)
  | .delete key mediaId => Function.update d key ((d key).deleteRow mediaId)
  | .scan request walks => fun key => ((d key).scan classify key.1 request (walks key)).1

def AutoProtectSettings.Within (settings earlier : AutoProtectSettings) : Prop :=
  (settings.cameraPhotosEnabled → earlier.cameraPhotosEnabled) ∧ (settings.cameraVideosEnabled → earlier.cameraVideosEnabled) ∧
    (settings.screenshotsEnabled → earlier.screenshotsEnabled)

namespace MediaVolume

variable (classify : MediaRow → Classification) (collection : MediaCollection) (request : ScanRequest) (v : MediaVolume)

def Discovered (input : Option WalkInput) : Prop :=
  (v.scan classify collection request input).2 = true → request.scopes collection = .full →
    ∀ row ∈ v.rows, (rowSource classify collection request.settings row).isSome →
      (request.settings.scopeMode = .newOnly → ∃ since, (v.begun request).newOnlySince = some since ∧
        ∀ key, since = some key → key < row.key) →
      ((v.scan classify collection request input).1.records row.mediaId).isSome

/-- The completed walk of the history was over all sources that are enabled now. -/
def WalkedAll : Prop := ∃ earlier, v.walked = some earlier ∧ request.settings.Within earlier

def newOnlyBoundary (walk : WalkInput) : Option PageKey :=
  (v.cursor.bind MediaCursorState.watermark).or
    (newestSeen v.rows fun row => decide (request.scopes collection = .full) || walk.seen row)

def Guarded (input : Option WalkInput) : Prop :=
  ∀ walk, input = some walk → collectionNeeded collection request.settings = true → request.scopes collection ≠ .notGranted →
    (0 < request.pageSize ∧ request.pageSize ≤ 1000) ∧ match request.settings.scopeMode with
      | .newOnly =>
        (v.cursor.any (·.fullScanCompleted) = true → v.cursor.bind MediaCursorState.watermark ≠ none) ∧
          (v.newOnlySince = none ∨ (∀ boundary, v.newOnlyBoundary collection request walk = some boundary →
              ∃ since, v.newOnlySince = some (some since) ∧ boundary ≤ since) ∨
            v.cursor.any (·.fullScanCompleted) = true ∧ v.WalkedAll request)
      | .existingHistory =>
        if v.cursor.any (·.fullScanCompleted) then v.WalkedAll request else request.scopes collection = .full

end MediaVolume

def DiscoveryEvent.Guarded (d : MediaDevice) : DiscoveryEvent → Prop
  | .scan request walks => ∀ key, (d key).Guarded key.1 request (walks key)
  | _ => True

def DiscoveryEvent.Discovers (classify : MediaRow → Classification) (d : MediaDevice) : DiscoveryEvent → Prop
  | .scan request walks => ∀ key, (d key).Discovered classify key.1 request (walks key)
  | _ => True

section Sound

variable {classify : MediaRow → Classification} {collection : MediaCollection} {request : ScanRequest} {v v' : MediaVolume}
variable {cursor : MediaCursorState} {settings earlier : AutoProtectSettings} {row : MediaRow}

theorem rowSource_within (h : settings.Within earlier)
    (hrow : (rowSource classify collection settings row).isSome) : (rowSource classify collection earlier row).isSome := by
  obtain ⟨hph, hvi, hscr⟩ := h
  unfold rowSource sourceOf at hrow ⊢
  split at hrow
  · rename_i hsc
    rw [if_pos hsc]
    split at hrow
    · rw [if_pos (hscr ‹_›)]
      rfl
    · cases hrow
  · rename_i hsc
    rw [if_neg hsc]
    split at hrow
    · rename_i hca
      rw [if_pos hca]
      cases collection with
      | images =>
        dsimp only at hrow ⊢
        split at hrow
        · rw [if_pos (hph ‹_›)]
          rfl
        · cases hrow
      | videos =>
        dsimp only at hrow ⊢
        split at hrow
        · rw [if_pos (hvi ‹_›)]
          rfl
        · cases hrow
    · cases hrow

/-- The boundary is that of an empty volume, or no newer than the newest row there has been. -/
def MediaVolume.Reached (v : MediaVolume) (boundary : PageKey) : Prop :=
  boundary = toLex (0, 0) ∨ ∃ key, v.newest = some key ∧ boundary ≤ key

structure CursorSound (classify : MediaRow → Classification) (collection : MediaCollection) (v : MediaVolume)
    (cursor : MediaCursorState) : Prop where
  reached : ∀ boundary, cursor.watermark = some boundary → v.Reached boundary
  history : cursor.fullScanCompleted = true → ∃ earlier, v.walked = some earlier ∧ ∀ row ∈ v.rows, ∀ boundary,
    cursor.watermark = some boundary → row.key ≤ boundary → (rowSource classify collection earlier row).isSome →
    (v.records row.mediaId).isSome

structure VolumeSound (classify : MediaRow → Classification) (collection : MediaCollection) (v : MediaVolume) : Prop where
  sorted : v.Sorted
  cursor : ∀ cursor, v.cursor = some cursor → CursorSound classify collection v cursor

theorem key_pos (h : 0 < row.mediaId) : toLex (0, 0) < row.key := by
  unfold MediaRow.key
  rw [Prod.Lex.toLex_lt_toLex]
  rcases Nat.eq_zero_or_pos row.dateAddedSeconds with hzero | hpos
  · exact .inr ⟨hzero.symm, h⟩
  · exact .inl hpos

theorem CursorSound.grows (h : CursorSound classify collection v cursor) (hgw : Grows v v') :
    CursorSound classify collection v' cursor := by
  refine ⟨?_, ?_⟩
  · intro boundary hbd
    rcases h.reached boundary hbd with hzero | ⟨key, hkey, hle⟩
    · exact .inl hzero
    · obtain ⟨key', hkey', hle'⟩ := hgw.newest key hkey
      exact .inr ⟨key', hkey', le_trans hle hle'⟩
  intro hcomp
  obtain ⟨earlier, hwa, hrec⟩ := h.history hcomp
  refine ⟨earlier, hgw.walked.trans hwa, ?_⟩
  intro row hrow boundary hbd hle hsrc
  rcases hgw.arrived row hrow with hrow' | hbey
  · exact hgw.records _ (hrec row hrow' boundary hbd hle hsrc)
  rcases h.reached boundary hbd with rfl | ⟨key, hkey, hlek⟩
  · exact absurd hle (not_le.2 (key_pos (hgw.sorted.mediaId row hrow)))
  · exact absurd (le_trans hle hlek) (not_le.2 (hbey key hkey))

theorem newestSeen_mem {rows : List MediaRow} {visible : MediaRow → Bool} {key : PageKey}
    (h : newestSeen rows visible = some key) : ∃ row ∈ rows, row.key = key := by
  obtain ⟨row, hrow, hkey⟩ := Option.map_eq_some_iff.1 h
  exact ⟨row, (List.mem_filter.1 (List.mem_of_mem_head? hrow)).1, hkey⟩

theorem reached_of_mem (hv : v.Sorted) (h : row ∈ v.rows) : v.Reached row.key :=
  .inr (hv.newest row h)

variable {pageSize : Nat}

theorem durable_sound {sourceOf : MediaRow → Option AutoSource} {full : Bool} {given : MediaCursorState}
    {seen : MediaRow → Bool} (hv : v.Sorted) (h : CursorSound classify collection v cursor)
    (hcomp : cursor.watermark = none → cursor.fullScanCompleted = false) (key : Option PageKey) :
    CursorSound classify collection v ((newOnlyPlan settings sourceOf full pageSize given cursor v seen).pageCursor key) := by
  unfold newOnlyPlan
  cases hmark : cursor.watermark with
  | some boundary =>
    exact ⟨fun b hb => h.reached b (hmark.trans hb), fun hfull =>
      (h.history hfull).imp fun earlier hearl => ⟨hearl.1, fun row hrow b hb => hearl.2 row hrow b (hmark.trans hb)⟩⟩
  | none =>
    refine ⟨fun boundary hbd => ?_, fun hfull => ?_⟩
    · obtain ⟨row, hrow, rfl⟩ := newestSeen_mem hbd
      exact reached_of_mem hv hrow
    · rw [hcomp hmark] at hfull
      cases hfull

theorem materialized_sound (hv : v.Sorted) (h : CursorSound classify collection v cursor) :
    CursorSound classify collection v { cursor with watermark := some (cursor.watermark.getD (toLex (0, 0))) } := by
  cases hmark : cursor.watermark with
  | some boundary =>
    exact ⟨fun b hb => h.reached b (hmark.trans hb), fun hfull =>
      (h.history hfull).imp fun earlier hearl => ⟨hearl.1, fun row hrow b hb => hearl.2 row hrow b (hmark.trans hb)⟩⟩
  | none =>
    refine ⟨fun boundary hbd => .inl (Option.some.inj hbd).symm, fun hfull => ?_⟩
    obtain ⟨earlier, hwa, -⟩ := h.history hfull
    refine ⟨earlier, hwa, fun row hrow boundary hbd hle => ?_⟩
    rw [← Option.some.inj hbd] at hle
    exact absurd hle (not_le.2 (key_pos (hv.mediaId row hrow)))

def CursorKept (classify : MediaRow → Classification) (collection : MediaCollection) (v : MediaVolume) : Prop :=
  ∀ cursor, v.cursor = some cursor → CursorSound classify collection v cursor

/-- The walk leaves the cursor sound, whether or not the process dies before the last commit. -/
def EndSound (classify : MediaRow → Classification) (collection : MediaCollection)
    (settle : MediaVolume → Bool → MediaVolume) : WalkEnd → Prop
  | .died v => CursorKept classify collection v
  | .ended v cursor completed => CursorKept classify collection (settle v completed) ∧
    CursorSound classify collection (settle v completed) cursor

variable {input : WalkInput}

theorem newOnly_end {sourceOf : MediaRow → Option AutoSource} {full : Bool} {given : MediaCursorState}
    (hsize : 0 < pageSize) (hv : v.Sorted) (hbase : CursorSound classify collection v cursor)
    (hcomp : cursor.watermark = none → cursor.fullScanCompleted = false) (hbef : CursorKept classify collection v) :
    EndSound classify collection (fun v' _ => v') (scanNewOnly settings sourceOf full pageSize given cursor v input) := by
  unfold scanNewOnly
  dsimp only
  generalize hplan : newOnlyPlan settings sourceOf full pageSize given cursor v input.seen = plan
  have hpa : ∀ key, plan.pageCursor key = plan.pageCursor none := by
    intro key
    rw [← hplan]
    rfl
  have hplanSize : 0 < plan.pageSize := by
    rw [← hplan]
    exact hsize
  have hgw := grows_walkPages plan input.fates none (plan.pageCursor none) hv
  have hdu : CursorSound classify collection (walkPages plan input.fates none (plan.pageCursor none) v).volume
      (plan.pageCursor none) := by
    refine CursorSound.grows ?_ hgw
    rw [← hplan]
    exact durable_sound hv hbase hcomp none
  -- the cursor that the walk itself leaves
  have hleft : CursorKept classify collection (walkPages plan input.fates none (plan.pageCursor none) v).volume := by
    intro left hcur
    rcases walkPages_left plan input.fates none (plan.pageCursor none) v with
      hsame | ⟨row, -, hpage⟩ | ⟨hpage, -⟩
    · exact (hbef left (hsame.symm.trans hcur)).grows hgw
    · rw [hpage, hpa] at hcur
      rw [← Option.some.inj hcur]
      exact hdu
    rw [hpage] at hcur
    rw [← Option.some.inj hcur]
    exact hdu
  cases hend : walkPages plan input.fates none (plan.pageCursor none) v with
  | died v' =>
    rw [hend] at hleft
    exact hleft
  | ended v' last completed =>
    have hlast : last = plan.pageCursor none := by
      rcases walkPages_ended hplanSize hend with ⟨-, hlast, -⟩ | ⟨-, hlast | ⟨row, -, hlast⟩⟩
      · exact hlast
      · exact hlast
      · exact hlast.trans (hpa _)
    rw [hend] at hleft hdu
    exact ⟨hleft, hlast ▸ hdu⟩

theorem MediaVolume.Reached.grows {boundary : PageKey} (h : v.Reached boundary) (hgw : Grows v v') : v'.Reached boundary := by
  rcases h with hzero | ⟨key, hkey, hle⟩
  · exact .inl hzero
  · obtain ⟨key', hkey', hle'⟩ := hgw.newest key hkey
    exact .inr ⟨key', hkey', le_trans hle hle'⟩

theorem mem_of_le_reached {boundary : PageKey} (h : v.Reached boundary) (hgw : Grows v v')
    (hrow : row ∈ v'.rows) (hle : row.key ≤ boundary) : row ∈ v.rows := by
  rcases hgw.arrived row hrow with hrow' | hbey
  · exact hrow'
  rcases h with rfl | ⟨key, hkey, hlek⟩
  · exact absurd hle (not_le.2 (key_pos (hgw.sorted.mediaId row hrow)))
  · exact absurd (le_trans hle hlek) (not_le.2 (hbey key hkey))

def settleHistory (settings : AutoProtectSettings) (v : MediaVolume) (completed : Bool) : MediaVolume :=
  if completed then { v with walked := some settings } else v

theorem history_end (hsize : 0 < pageSize ∧ pageSize ≤ 1000)
    (hv : v.Sorted) (hbase : CursorSound classify collection v cursor) (hbef : CursorKept classify collection v) :
    EndSound classify collection (settleHistory settings)
      (walkPages (historyPlan settings (rowSource classify collection settings) true pageSize cursor v input.seen) input.fates none
        cursor v) := by
  generalize hplan : historyPlan settings (rowSource classify collection settings) true pageSize cursor v input.seen = plan
  have hplanSize : 0 < plan.pageSize ∧ plan.pageSize ≤ 1000 := by
    rw [← hplan]
    exact hsize
  have hgw := grows_walkPages plan input.fates none cursor hv
  have hpage : ∀ {v' : MediaVolume} {row : MediaRow}, v'.Sorted → row ∈ v'.rows →
      CursorSound classify collection v' (plan.pageCursor (some row.key)) := by
    intro v' row hv' hrow
    rw [← hplan]
    exact ⟨fun boundary hbd => Option.some.inj hbd ▸ reached_of_mem hv' hrow, fun h => (by cases h)⟩
  have hleft := walkPages_left plan input.fates none cursor v
  cases hend : walkPages plan input.fates none cursor v with
  | died v' =>
    rw [hend] at hgw hleft
    intro left hcur
    rcases hleft with hsame | ⟨row, hrow, hpageCursor⟩ | ⟨-, v'', hdone⟩
    · exact (hbef left (hsame.symm.trans hcur)).grows hgw
    · rw [← Option.mem_unique hpageCursor hcur]
      exact hpage hgw.sorted hrow
    · cases hdone
  | ended v' last completed =>
    rw [hend] at hgw hleft
    rcases walkPages_ended hplanSize.1 hend with ⟨rfl, rfl, hcur⟩ | ⟨rfl, hlast⟩
    · -- every row there was when the walk began is recorded, and the boundary was captured before
      have hmark : ∀ boundary, (plan.pageCursor none).watermark = some boundary → v.Reached boundary := by
        intro boundary hb
        rw [← hplan] at hb
        rcases Option.or_eq_some_iff.1 hb with hhigh | ⟨-, hold⟩
        · obtain ⟨row, hrow, rfl⟩ := newestSeen_mem hhigh
          exact reached_of_mem hv hrow
        · exact hbase.reached boundary hold
      have hsd : CursorSound classify collection (settleHistory settings v' true) (plan.pageCursor none) := by
        have hr : ∀ boundary, (plan.pageCursor none).watermark = some boundary → v'.Reached boundary :=
          fun boundary hb => (hmark boundary hb).grows hgw
        refine ⟨hr, fun _ => ⟨settings, rfl, ?_⟩⟩
        intro row hrow boundary hb hle hsrc
        have hmem := mem_of_le_reached (hmark boundary hb) hgw hrow hle
        refine walkPages_covers plan (by rw [← hplan]; rfl) hplanSize hv ?_ hend hmem (fun key h => (by cases h))
          (by rw [← hplan]; rfl) (by rw [← hplan]; exact hsrc)
        intro id hid
        rw [← hplan] at hid
        exact hid
      refine ⟨fun left hthis => ?_, hsd⟩
      rw [← Option.mem_unique hcur hthis]
      exact hsd
    · refine ⟨fun left hcur => ?_, ?_⟩
      · rcases hleft with hsame | ⟨row, hrow, hpageCursor⟩ | ⟨-, v'', hdone⟩
        · exact (hbef left (hsame.symm.trans hcur)).grows hgw
        · rw [← Option.mem_unique hpageCursor hcur]
          exact hpage hgw.sorted hrow
        · cases hdone
      · rcases hlast with rfl | ⟨row, hrow, rfl⟩
        · exact hbase.grows hgw
        · exact hpage hgw.sorted hrow

theorem begun_eq (request : ScanRequest) (v : MediaVolume) : ∃ since, v.begun request = { v with newOnlySince := since } ∧
    (since = v.newOnlySince ∨ request.settings.scopeMode = .newOnly ∧ v.newOnlySince = none ∧ since = some v.newest) := by
  unfold begun
  split
  · rename_i hmode
    exact ⟨some v.newest, rfl, .inr ⟨hmode.1, hmode.2, rfl⟩⟩
  · exact ⟨v.newOnlySince, rfl, .inl rfl⟩

theorem records_reconcile {scope : MediaPermissionScope} {completed : Bool} {found : Nat → Option KnownRowMeta}
    {known : Table Nat MediaRecord} {id : Nat} (hid : (v.records id).isSome) :
    ((v.reconcile scope completed found known).records id).isSome := by
  unfold reconcile
  dsimp only
  split
  · exact hid
  split
  · exact hid
  · rfl

theorem grows_reconcile (hv : v.Sorted) (scope : MediaPermissionScope) (completed : Bool) (found : Nat → Option KnownRowMeta)
    (known : Table Nat MediaRecord) : Grows v (v.reconcile scope completed found known) where
  sorted := ⟨hv.rows, hv.newest, hv.mediaId⟩
  rows := fun _ h => h
  arrived := fun _ h => .inl h
  newest := fun key h => ⟨key, h, le_refl key⟩
  records := fun _ hid => records_reconcile hid
  since := rfl
  walked := rfl

def scanCursor (request : ScanRequest) (v : MediaVolume) : MediaCursorState :=
  v.cursor.getD { scopeMode := request.settings.scopeMode }

theorem scanCursor_sound (request : ScanRequest) (hv : VolumeSound classify collection v) :
    CursorSound classify collection v (scanCursor request v) := by
  unfold scanCursor
  cases hcur : v.cursor with
  | some cursor => exact hv.cursor cursor hcur
  | none => exact ⟨fun boundary h => (by cases h), fun h => (by cases h)⟩

theorem walk_newOnly (h : request.settings.scopeMode = .newOnly) :
    v.walk classify collection request input = scanNewOnly request.settings (rowSource classify collection request.settings)
      (decide (request.scopes collection = .full)) request.pageSize (scanCursor request v) (scanCursor request v) v input := by
  unfold MediaVolume.walk
  simp only [h]
  rw [scanCursor, h]

theorem walk_history (h : request.settings.scopeMode = .existingHistory) :
    v.walk classify collection request input = scanExistingHistory request.settings
      (rowSource classify collection request.settings) (decide (request.scopes collection = .full)) request.pageSize
      (scanCursor request v) v input := by
  unfold MediaVolume.walk
  simp only [h]
  rw [scanCursor, h]

def settleScan (request : ScanRequest) (before v : MediaVolume) (completed : Bool) : MediaVolume :=
  if completed ∧ request.settings.scopeMode = .existingHistory ∧ !(before.cursor.any (·.fullScanCompleted)) then
    { v with walked := some request.settings }
  else v

theorem walk_end (since : Option (Option PageKey)) (hv : VolumeSound classify collection v)
    (hg : v.Guarded collection request (some input)) (hne : collectionNeeded collection request.settings = true)
    (hgr : request.scopes collection ≠ .notGranted) : EndSound classify collection (settleScan request v)
      ({ v with newOnlySince := since }.walk classify collection request input) := by
  have hbase := scanCursor_sound request hv
  obtain ⟨hsize, hmode⟩ := hg input rfl hne hgr
  have hsort : { v with newOnlySince := since }.Sorted := ⟨hv.sorted.rows, hv.sorted.newest, hv.sorted.mediaId⟩
  have hsd : ∀ cursor, CursorSound classify collection v cursor →
      CursorSound classify collection { v with newOnlySince := since } cursor := fun cursor h => ⟨h.reached, h.history⟩
  have hkept : CursorKept classify collection { v with newOnlySince := since } := fun c hc => hsd c (hv.cursor c hc)
  have hcur : ∀ before, v.cursor = some before → scanCursor request v = before := by
    intro before hbef
    unfold scanCursor
    rw [hbef]
    rfl
  cases hsc : request.settings.scopeMode with
  | newOnly =>
    rw [walk_newOnly hsc]
    simp only [hsc] at hmode
    have hse : settleScan request v = fun v' _ => v' := by
      funext v' completed
      unfold settleScan
      rw [if_neg (fun h => by rw [hsc] at h; cases h.2.1)]
    rw [hse]
    refine newOnly_end hsize.1 hsort (hsd _ hbase) (fun hnone => ?_) hkept
    change (scanCursor request v).watermark = none at hnone
    change (scanCursor request v).fullScanCompleted = false
    cases hbef : v.cursor with
    | none =>
      unfold scanCursor
      rw [hbef]
      rfl
    | some before =>
      rw [hcur before hbef] at hnone ⊢
      refine Bool.eq_false_iff.2 fun hcomp => hmode.1 (by rw [hbef]; exact hcomp) ?_
      rw [hbef]
      exact hnone
  | existingHistory =>
    rw [walk_history hsc]
    simp only [hsc] at hmode
    show EndSound _ _ _ (scanExistingHistory request.settings _ _ _ (scanCursor request v) _ input)
    unfold scanExistingHistory
    cases hany : v.cursor.any (·.fullScanCompleted) with
    | true =>
      obtain ⟨before, hbef, hcomp⟩ := (Option.any_eq_true _ _).1 hany
      rw [if_pos (by rw [hcur before hbef]; exact hcomp)]
      have hse : settleScan request v = fun v' _ => v' := by
        funext v' completed
        unfold settleScan
        rw [if_neg (fun h => by rw [hany] at h; cases h.2.2)]
      rw [hse]
      exact newOnly_end hsize.1 hsort (hsd _ (materialized_sound hv.sorted hbase)) (fun h => (by cases h)) hkept
    | false =>
      have hcomp : (scanCursor request v).fullScanCompleted = false := by
        cases hbef : v.cursor with
        | none =>
          unfold scanCursor
          rw [hbef]
          rfl
        | some before =>
          rw [hcur before hbef]
          rw [hbef] at hany
          exact hany
      rw [if_neg (by rw [hcomp]; exact Bool.false_ne_true)]
      rw [if_neg (by rw [hany]; exact Bool.false_ne_true)] at hmode
      have hse : settleScan request v = settleHistory request.settings := by
        funext v' completed
        unfold settleScan settleHistory
        rw [hsc, hany]
        cases completed with
        | true | false => rfl
      rw [hse, hmode]
      exact history_end hsize hsort (hsd _ hbase) hkept

theorem grows_walk (classify : MediaRow → Classification) (collection : MediaCollection) (request : ScanRequest)
    (input : WalkInput) (hv : v.Sorted) : Grows v (v.walk classify collection request input).volume := by
  cases hsc : request.settings.scopeMode with
  | newOnly =>
    rw [walk_newOnly hsc]
    exact grows_walkPages _ _ _ _ hv
  | existingHistory =>
    rw [walk_history hsc]
    unfold scanExistingHistory
    split
    · exact grows_walkPages _ _ _ _ hv
    · exact grows_walkPages _ _ _ _ hv

theorem begun_sound (hv : VolumeSound classify collection v) : VolumeSound classify collection (v.begun request) := by
  obtain ⟨since, hbe, -⟩ := begun_eq request v
  rw [hbe]
  exact ⟨⟨hv.sorted.rows, hv.sorted.newest, hv.sorted.mediaId⟩, fun cursor hcur =>
    ⟨(hv.cursor cursor hcur).reached, (hv.cursor cursor hcur).history⟩⟩

theorem scan_sound {input : Option WalkInput} (hv : VolumeSound classify collection v) (hg : v.Guarded collection request input) :
    VolumeSound classify collection (v.scan classify collection request input).1 := by
  unfold MediaVolume.scan
  cases input with
  | none => exact begun_sound hv
  | some input =>
    dsimp only
    split
    · exact begun_sound hv
    rename_i hr
    simp only [Bool.or_eq_true, Bool.not_eq_true', decide_eq_true_eq, not_or, Bool.not_eq_false] at hr
    obtain ⟨since, hbe, -⟩ := begun_eq request v
    rw [hbe]
    have hend := walk_end since hv hg hr.1 hr.2
    have hgw := grows_walk classify collection request input
      (v := { v with newOnlySince := since }) ⟨hv.sorted.rows, hv.sorted.newest, hv.sorted.mediaId⟩
    cases hwalk : { v with newOnlySince := since }.walk classify collection request input with
    | died v' =>
      rw [hwalk] at hend hgw
      exact ⟨hgw.sorted, hend⟩
    | ended v' cursor completed =>
      rw [hwalk] at hend hgw
      have hsett : (settleScan request v v' completed).Sorted := by
        unfold settleScan
        split
        · exact ⟨hgw.sorted.rows, hgw.sorted.newest, hgw.sorted.mediaId⟩
        · exact hgw.sorted
      dsimp only
      split
      · exact ⟨hsett, hend.1⟩
      have hrc := grows_reconcile hsett (request.scopes collection) completed input.found v.records
      refine ⟨⟨hrc.sorted.rows, hrc.sorted.newest, hrc.sorted.mediaId⟩, fun cursor' hcur' => ?_⟩
      rw [← Option.some.inj hcur']
      exact ⟨(hend.2.grows hrc).reached, (hend.2.grows hrc).history⟩

theorem scan_walked {input : Option WalkInput} (h : (v.scan classify collection request input).2 = true) :
    ∃ walk v' cursor, input = some walk ∧ collectionNeeded collection request.settings = true ∧
      (v.begun request).walk classify collection request walk = .ended v' cursor true ∧
      ∀ id, (v'.records id).isSome → ((v.scan classify collection request input).1.records id).isSome := by
  unfold MediaVolume.scan at h ⊢
  cases input with
  | none => cases h
  | some walk =>
    dsimp only at h ⊢
    split at h
    · cases h
    rename_i hr
    rw [if_neg hr]
    cases hwalk : (v.begun request).walk classify collection request walk with
    | died v' =>
      rw [hwalk] at h
      cases h
    | ended v' cursor completed =>
      rw [hwalk] at h
      dsimp only at h ⊢
      split at h
      · cases h
      rename_i hdies
      obtain rfl : completed = true := h
      refine ⟨walk, v', cursor, rfl, ?_, hwalk, fun id hid => ?_⟩
      · simp only [Bool.or_eq_true, Bool.not_eq_true', decide_eq_true_eq, not_or, Bool.not_eq_false] at hr
        exact hr.1
      rw [if_neg hdies]
      refine records_reconcile ?_
      split
      · exact hid
      · exact hid

theorem scan_discovers {input : Option WalkInput} (hv : VolumeSound classify collection v)
    (hg : v.Guarded collection request input) : v.Discovered classify collection request input := by
  intro hcomp hfull row hrow hsrc hins
  obtain ⟨walk, v', cursor, rfl, hne, hwalk, hkp⟩ := scan_walked hcomp
  apply hkp
  obtain ⟨since, hbe, hsi⟩ := begun_eq request v
  rw [hbe] at hwalk hins
  have hsort : { v with newOnlySince := since }.Sorted := ⟨hv.sorted.rows, hv.sorted.newest, hv.sorted.mediaId⟩
  have hgw := grows_walk classify collection request walk hsort
  rw [hwalk] at hgw
  obtain ⟨hsize, hmode⟩ := hg walk rfl hne (by rw [hfull]; simp)
  -- a row up to the boundary of a completed walk over the same sources has a record already
  have hhist : ∀ before boundary, v.cursor = some before → before.watermark = some boundary →
      before.fullScanCompleted = true → v.WalkedAll request → row.key ≤ boundary → (v'.records row.mediaId).isSome := by
    intro before boundary hbef hb hfullScan ⟨earlier, hwa, hwi⟩ hle
    obtain ⟨earlier', hwa', hrec⟩ := (hv.cursor before hbef).history hfullScan
    obtain rfl := Option.mem_unique hwa hwa'
    exact hgw.records _ (hrec row hrow boundary hb hle (rowSource_within hwi hsrc))
  have hco : ∀ {base : MediaCursorState}, scanNewOnly request.settings (rowSource classify collection request.settings)
      (decide (request.scopes collection = .full)) request.pageSize (scanCursor request v) base { v with newOnlySince := since }
        walk = .ended v' cursor true → (∀ boundary, base.watermark.or (newestSeen v.rows fun row =>
          decide (request.scopes collection = .full) || walk.seen row) = some boundary → boundary < row.key) →
      (v'.records row.mediaId).isSome := by
    intro base hend hbey
    refine walkPages_covers _ (by simp [newOnlyPlan, hfull]) hsize hsort (fun id hid => hid) hend hrow
      (fun key h => (by cases h)) ?_ hsrc
    show (base.watermark.or _).all _ = true
    rw [Option.all_eq_true]
    exact fun boundary hb => decide_eq_true (hbey boundary hb)
  cases hsc : request.settings.scopeMode with
  | newOnly =>
    rw [walk_newOnly hsc] at hwalk
    change scanNewOnly _ _ _ _ (scanCursor request v) (scanCursor request v) _ walk = _ at hwalk
    simp only [hsc] at hmode
    obtain ⟨first, hfi, hla⟩ := hins hsc
    obtain rfl : since = some first := hfi
    -- the row was inserted after the first scan in this mode began, so this is not the first one
    have hnotFirst : v.newOnlySince = some first := by
      rcases hsi with hsame | ⟨-, -, hnow⟩
      · exact hsame.symm
      · obtain ⟨key, hkey, hle⟩ := hv.sorted.newest row hrow
        exact absurd hle (not_le.2 (hla key ((Option.some.inj hnow).trans hkey)))
    have hbase : (scanCursor request v).watermark = v.cursor.bind MediaCursorState.watermark := by
      unfold scanCursor
      cases v.cursor with
      | none | some before => rfl
    rcases hmode.2 with hnone | hbd | ⟨hany, hall⟩
    · rw [hnone] at hnotFirst
      cases hnotFirst
    · refine hco hwalk fun boundary hb => ?_
      rw [hbase] at hb
      obtain ⟨key, hkey, hle⟩ := hbd boundary hb
      exact lt_of_le_of_lt hle (hla key (Option.mem_unique hnotFirst hkey))
    obtain ⟨before, hbef, hfullScan⟩ := (Option.any_eq_true _ _).1 hany
    cases hb : before.watermark with
    | none =>
      refine absurd ?_ (hmode.1 hany)
      rw [hbef]
      exact hb
    | some boundary =>
      by_cases hbey : boundary < row.key
      · refine hco hwalk fun b hthis => ?_
        rw [hbase, hbef, Option.bind_some, hb, Option.some_or] at hthis
        exact Option.some.inj hthis ▸ hbey
      · exact hhist before boundary hbef hb hfullScan hall (not_lt.1 hbey)
  | existingHistory =>
    rw [walk_history hsc] at hwalk
    change scanExistingHistory _ _ _ _ (scanCursor request v) _ walk = _ at hwalk
    simp only [hsc] at hmode
    unfold scanExistingHistory at hwalk
    split at hwalk
    · rename_i hfullScan
      by_cases hbey : (scanCursor request v).watermark.getD (toLex (0, 0)) < row.key
      · refine hco hwalk fun b hthis => ?_
        rw [Option.some_or] at hthis
        exact Option.some.inj hthis ▸ hbey
      cases hcur : v.cursor with
      | none =>
        unfold scanCursor at hfullScan
        simp only [hcur, Option.getD_none] at hfullScan
        cases hfullScan
      | some before =>
        have hbase : scanCursor request v = before := by
          unfold scanCursor
          rw [hcur]
          rfl
        rw [hbase] at hbey hfullScan
        rw [if_pos (by rw [hcur]; exact hfullScan)] at hmode
        cases hb : before.watermark with
        | some boundary =>
          rw [hb] at hbey
          exact hhist before boundary hcur hb hfullScan hmode (not_lt.1 hbey)
        | none =>
          rw [hb] at hbey
          exact absurd (key_pos (hv.sorted.mediaId row hrow)) hbey
    · exact walkPages_covers _ (by simp [historyPlan, hfull]) hsize hsort (fun id hid => hid) hwalk hrow
        (fun key h => (by cases h)) rfl hsrc

end Sound

section Runs

variable {classify : MediaRow → Classification} {collection : MediaCollection} {v : MediaVolume}

theorem insert_sound (hv : VolumeSound classify collection v) (row : MediaRow) :
    VolumeSound classify collection (v.insertRow row) := by
  have hgw := grows_insertRow hv.sorted row
  have hcur : (v.insertRow row).cursor = v.cursor := by
    unfold insertRow
    split <;> rfl
  exact ⟨hgw.sorted, fun cursor h => (hv.cursor cursor (hcur ▸ h)).grows hgw⟩

theorem delete_sound (hv : VolumeSound classify collection v) (mediaId : Nat) :
    VolumeSound classify collection (v.deleteRow mediaId) := by
  have hrow : ∀ row ∈ (v.deleteRow mediaId).rows, row ∈ v.rows := fun row h => (List.mem_filter.1 h).1
  refine ⟨⟨hv.sorted.rows.filter _, fun row h => hv.sorted.newest row (hrow row h),
    fun row h => hv.sorted.mediaId row (hrow row h)⟩, fun cursor hcur => ⟨(hv.cursor cursor hcur).reached, fun hfull => ?_⟩⟩
  obtain ⟨earlier, hwa, hrec⟩ := (hv.cursor cursor hcur).history hfull
  exact ⟨earlier, hwa, fun row h => hrec row (hrow row h)⟩

def DeviceSound (classify : MediaRow → Classification) (d : MediaDevice) : Prop := ∀ key, VolumeSound classify key.1 (d key)

theorem step_sound {d : MediaDevice} (hd : DeviceSound classify d) (event : DiscoveryEvent) (hg : event.Guarded d) :
    DeviceSound classify (d.step classify event) := by
  intro key
  cases event with
  | insert at' row =>
    show VolumeSound classify key.1 (Function.update d at' ((d at').insertRow row) key)
    by_cases hkey : key = at'
    · subst hkey
      rw [Function.update_self]
      exact insert_sound (hd key) row
    · rw [Function.update_of_ne hkey]
      exact hd key
  | delete at' mediaId =>
    show VolumeSound classify key.1 (Function.update d at' ((d at').deleteRow mediaId) key)
    by_cases hkey : key = at'
    · subst hkey
      rw [Function.update_self]
      exact delete_sound (hd key) mediaId
    · rw [Function.update_of_ne hkey]
      exact hd key
  | scan request walks => exact scan_sound (hd key) (hg key)

/-- In every run whose scans are guarded, a scan that completes has discovered what it should have. -/
theorem discovery_misses_nothing (events : List DiscoveryEvent)
    (h : Always (MediaDevice.step classify) (fun d event => event.Guarded d) (fun _ => {}) events) :
    Always (MediaDevice.step classify) (fun d event => event.Discovers classify d) (fun _ => {}) events := by
  have hem : DeviceSound classify fun _ => {} := fun key =>
    ⟨⟨List.Pairwise.nil, fun row h => absurd h List.not_mem_nil, fun row h => absurd h List.not_mem_nil⟩,
      fun cursor h => (by cases h)⟩
  refine h.of_invariant hem (fun d event hd hg => step_sound hd event hg) fun d event hd hg => ?_
  cases event with
  | insert key row | delete key mediaId => trivial
  | scan request walks => exact fun key => scan_discovers (hd key) (hg key)

end Runs

def externalImages : MediaKey := (.images, "external_primary")

def classifyPictures (row : MediaRow) : Classification where
  isCamera := row.relativePath = some "DCIM/Camera/"
  isScreenshot := row.relativePath = some "Pictures/Screenshots/"

def picture (mediaId : Nat) (folder : String) : MediaRow where
  mediaId := mediaId
  uri := "content://media/external_primary/images/media/" ++ toString mediaId
  displayName := "IMG.jpg"
  sizeBytes := some 3
  mimeType := some "image/jpeg"
  relativePath := some folder
  dataPath := none
  dateAddedSeconds := 100 + mediaId
  dateModifiedSeconds := some 100

def scanImages (settings : AutoProtectSettings) (scope : MediaPermissionScope) (seen : MediaRow → Bool) : DiscoveryEvent :=
  .scan { settings, scopes := fun _ => scope, pageSize := 200 } fun key =>
    if key = externalImages then some { seen, fates := [.page [] seen] } else none

def newPhotos : AutoProtectSettings := { cameraPhotosEnabled := true }

def allPhotos : AutoProtectSettings := { cameraPhotosEnabled := true, scopeMode := .existingHistory }

def historyRun : List DiscoveryEvent :=
  [.insert externalImages (picture 1 "DCIM/Camera/"), scanImages allPhotos .full fun _ => true,
    .insert externalImages (picture 2 "DCIM/Camera/"), scanImages allPhotos .full fun _ => true]

theorem discovery_misses_nothing_history :
    ((run (MediaDevice.step classifyPictures) (fun _ => {}) historyRun externalImages).records 2).isSome ∧
      Always (MediaDevice.step classifyPictures) (fun d event => event.Discovers classifyPictures d) (fun _ => {}) historyRun := by
  have hwalk : ((run (MediaDevice.step classifyPictures) (fun _ => {}) historyRun externalImages).records 2).isSome = true ∧
      (run (MediaDevice.step classifyPictures) (fun _ => {}) (historyRun.take 3) externalImages).walked.any
        (·.cameraPhotosEnabled) = true := by
    decide +kernel
  refine ⟨hwalk.1, discovery_misses_nothing _ ⟨trivial, ?_, trivial, ?_, trivial⟩⟩
  · -- the first walk has full permission
    intro key walk hwalk _ _
    refine ⟨by decide, ?_⟩
    show if _ then _ else _
    split
    · rename_i hany
      by_cases hkey : key = externalImages
      · subst hkey
        exact absurd hany (by decide +kernel)
      · exact absurd hwalk (by simp [hkey])
    · rfl
  · -- the second has the sources of the first
    intro key walk hin _ _
    refine ⟨by decide, ?_⟩
    show if _ then _ else _
    split
    · by_cases hkey : key = externalImages
      · subst hkey
        obtain ⟨earlier, hearl, hph⟩ := (Option.any_eq_true _ _).1 hwalk.2
        exact ⟨earlier, hearl, fun _ => hph, fun h => (by cases h), fun h => (by cases h)⟩
      · exact absurd hin (by simp [hkey])
    · rfl

def misses (settings : AutoProtectSettings) (row : MediaRow) (d : MediaDevice) : Bool :=
  let request : ScanRequest := { settings, scopes := fun _ => .full, pageSize := 200 }
  let scanned := (d externalImages).scan classifyPictures .images request (some { fates := [.page [] fun _ => true] })
  scanned.2 && (d externalImages).rows.contains row && (rowSource classifyPictures .images settings row).isSome &&
    (settings.scopeMode ≠ .newOnly || ((d externalImages).begun request).newOnlySince == some none) &&
    (scanned.1.records row.mediaId).isNone

theorem not_discovered {events : List DiscoveryEvent} {settings : AutoProtectSettings} {row : MediaRow}
    (h : misses settings row (run (MediaDevice.step classifyPictures) (fun _ => {}) events) = true) :
    ¬ Always (MediaDevice.step classifyPictures) (fun d event => event.Discovers classifyPictures d) (fun _ => {})
      (events ++ [scanImages settings .full fun _ => true]) := by
  intro hal
  simp only [misses, Bool.and_eq_true, Bool.or_eq_true, List.contains_iff_mem, decide_eq_true_eq, beq_iff_eq] at h
  obtain ⟨⟨⟨⟨hcomp, hrow⟩, hsrc⟩, hsi⟩, hnone⟩ := h
  have hf := hal.at externalImages hcomp rfl row hrow hsrc fun hmode =>
    ⟨none, hsi.resolve_left (fun hne => hne hmode), fun key h => (by cases h)⟩
  rw [Option.isNone_iff_eq_none] at hnone
  exact absurd (hnone ▸ hf : (none : Option MediaRecord).isSome = true) Bool.false_ne_true

/-- Three runs whose last scan completes over full permission and leaves a row without a record: the first scan in new-only mode
was of an empty volume; the history was walked over selected photos; the screenshots were enabled after it had been walked. -/
theorem discovery_misses_rows :
    ¬ Always (MediaDevice.step classifyPictures) (fun d event => event.Discovers classifyPictures d) (fun _ => {})
        ([scanImages newPhotos .full fun _ => true, .insert externalImages (picture 1 "DCIM/Camera/")] ++
          [scanImages newPhotos .full fun _ => true]) ∧
      ¬ Always (MediaDevice.step classifyPictures) (fun d event => event.Discovers classifyPictures d) (fun _ => {})
        ([.insert externalImages (picture 1 "DCIM/Camera/"), .insert externalImages (picture 2 "DCIM/Camera/"),
            scanImages allPhotos .partialAccess fun row => row.mediaId = 2] ++ [scanImages allPhotos .full fun _ => true]) ∧
      ¬ Always (MediaDevice.step classifyPictures) (fun d event => event.Discovers classifyPictures d) (fun _ => {})
        ([.insert externalImages (picture 1 "Pictures/Screenshots/"), scanImages allPhotos .full fun _ => true] ++
          [scanImages { allPhotos with screenshotsEnabled := true } .full fun _ => true]) := by
  have hmi : misses newPhotos (picture 1 "DCIM/Camera/") (run (MediaDevice.step classifyPictures) (fun _ => {})
        [scanImages newPhotos .full fun _ => true, .insert externalImages (picture 1 "DCIM/Camera/")]) = true ∧
      misses allPhotos (picture 1 "DCIM/Camera/") (run (MediaDevice.step classifyPictures) (fun _ => {})
        [.insert externalImages (picture 1 "DCIM/Camera/"), .insert externalImages (picture 2 "DCIM/Camera/"),
          scanImages allPhotos .partialAccess fun row => row.mediaId = 2]) = true ∧
      misses { allPhotos with screenshotsEnabled := true } (picture 1 "Pictures/Screenshots/")
        (run (MediaDevice.step classifyPictures) (fun _ => {})
          [.insert externalImages (picture 1 "Pictures/Screenshots/"), scanImages allPhotos .full fun _ => true]) = true := by
    decide +kernel
  exact ⟨not_discovered hmi.1, not_discovered hmi.2.1, not_discovered hmi.2.2⟩

end LamaSync
