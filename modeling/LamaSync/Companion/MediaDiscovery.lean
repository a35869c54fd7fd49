import LamaSync.Lib.Table
import LamaSync.Lib.Trace
import Mathlib.Data.Prod.Lex
import Mathlib.Order.Lattice

/-!
# Media discovery

A scan walks the rows of a volume newest first, one page at a time, and commits the records and the cursor of every page.  In
new-only mode the rows beyond a boundary are taken; in history mode all of them, until one walk has completed, and the rows
beyond the boundary of that walk from then on.  Both modes keep their boundary in the same fields of one cursor, which says
nothing of the permission, the sources and the mode it was captured under.  A walk over all that is visible that completes has
recorded every row it takes (`walkPages_covers`).
-/

namespace LamaSync

inductive MediaCollection where
  | images
  | videos
deriving DecidableEq

inductive AutoSource where
  | cameraPhotos
  | cameraVideos
  | screenshots
deriving DecidableEq

inductive ScopeMode where
  | newOnly
  | existingHistory
deriving DecidableEq

inductive MediaPermissionScope where
  | notGranted
  | partialAccess
  | full
deriving DecidableEq

inductive MediaRecordStatus where
  | discovered
  | staged
  | isProtected
  | locallyDeleted
  | unreadable
  | failed
deriving DecidableEq

/-- The order of the library: by the date, and then by the id. -/
abbrev PageKey := Lex (Nat × Nat)

structure MediaRow where
  mediaId : Nat
  uri : String
  displayName : String
  sizeBytes : Option Nat
  mimeType : Option String
  relativePath : Option String
  dataPath : Option String
  dateAddedSeconds : Nat
  dateModifiedSeconds : Option Nat
deriving DecidableEq

def MediaRow.key (row : MediaRow) : PageKey := toLex (row.dateAddedSeconds, row.mediaId)

structure MediaRecord where
  mediaId : Nat
  source : AutoSource
  uri : String
  displayName : String
  sizeBytes : Option Nat
  mimeType : Option String
  dateModifiedSeconds : Option Nat
  sha256 : Option String := none
  status : MediaRecordStatus := .discovered
  queueItemId : Option String := none
  receiptPath : Option String := none
  previousProtectedPaths : List String := []
  error : Option String := none
deriving DecidableEq

structure AutoProtectSettings where
  cameraPhotosEnabled : Bool := false
  cameraVideosEnabled : Bool := false
  screenshotsEnabled : Bool := false
  scopeMode : ScopeMode := .newOnly

/-- The watermark is the boundary, or how far a walk of the history got. -/
structure MediaCursorState where
  scopeMode : ScopeMode
  watermark : Option PageKey := none
  fullScanCompleted : Bool := false

structure Classification where
  isCamera : Bool
  isScreenshot : Bool

def sourceOf (classification : Classification) (collection : MediaCollection) (settings : AutoProtectSettings) :
    Option AutoSource :=
  if classification.isScreenshot then (if settings.screenshotsEnabled then some .screenshots else none)
  else if classification.isCamera then
    match collection with
    | .images => if settings.cameraPhotosEnabled then some .cameraPhotos else none
    | .videos => if settings.cameraVideosEnabled then some .cameraVideos else none
  else none

def collectionNeeded (collection : MediaCollection) (settings : AutoProtectSettings) : Bool := match collection with
  | .images => settings.cameraPhotosEnabled || settings.screenshotsEnabled
  | .videos => settings.cameraVideosEnabled || settings.screenshotsEnabled

def revisionOf (record : MediaRecord) (newSize newModified : Option Nat) : MediaRecord :=
  { record with
    sizeBytes := newSize
    dateModifiedSeconds := newModified
    sha256 := none
    status := .discovered
    queueItemId := none
    receiptPath := none
    previousProtectedPaths := (record.receiptPath.toList ++ record.previousProtectedPaths).take 20
    error := none }

/-- Both are known, and they differ. -/
def changed (old new : Option Nat) : Bool := old.isSome && new.isSome && old != new

def whenRecord (source : AutoSource) (existing : Option MediaRecord) (row : MediaRow) : Option MediaRecord :=
  let base : MediaRecord := {
    mediaId := row.mediaId, source, uri := row.uri, displayName := row.displayName, sizeBytes := row.sizeBytes
    mimeType := row.mimeType, dateModifiedSeconds := row.dateModifiedSeconds }
  match existing with
  | none => some base
  | some existing =>
    if existing.status = .locallyDeleted then some base
    else if existing.uri ≠ base.uri ∨ existing.displayName ≠ base.displayName then
      some { base with status := .unreadable, error := some "This media moved or was renamed. Re-check its current location." }
    else if changed existing.sizeBytes row.sizeBytes || changed existing.dateModifiedSeconds row.dateModifiedSeconds then
      some (revisionOf existing row.sizeBytes row.dateModifiedSeconds)
    else none

structure KnownRowMeta where
  sizeBytes : Option Nat
  dateModifiedSeconds : Option Nat

/-- What becomes of a known record whose row is not there. -/
def absentRecord (record : MediaRecord) (scope : MediaPermissionScope) (completed : Bool) : Option MediaRecord := match scope with
  | .notGranted => none
  | .full =>
    if record.status = .isProtected ∧ completed then
      some { record with status := .locallyDeleted, queueItemId := none, error := none }
    else if record.status = .staged then none
    else if completed then
      some { record with
        status := .unreadable
        error := some
          "This media disappeared before it was protected. Restore it or it stays unprotected; already protected copies are untouched." }
    else none
  | .partialAccess =>
    if record.status = .isProtected ∨ record.status = .staged then none
    else some { record with
      status := .unreadable
      error := some "This media is no longer accessible under selected-photos access. Grant full access." }

def reconcileRecord (record : MediaRecord) (found : Option KnownRowMeta) (scope : MediaPermissionScope) (completed : Bool) :
    Option MediaRecord :=
  if record.status = .locallyDeleted then none
  else match found with
    | some found =>
      if changed record.sizeBytes found.sizeBytes || changed record.dateModifiedSeconds found.dateModifiedSeconds then
        some (revisionOf record found.sizeBytes found.dateModifiedSeconds)
      else none
    | none => absentRecord record scope completed

structure MediaVolume where
  rows : List MediaRow := []
  newest : Option PageKey := none
  cursor : Option MediaCursorState := none
  records : Table Nat MediaRecord := fun _ => none
  newOnlySince : Option (Option PageKey) := none
  walked : Option AutoProtectSettings := none

def queryNewestFirst (rows : List MediaRow) (afterKey : Option PageKey) (limit : Nat) : List MediaRow :=
  (rows.filter fun row => afterKey.all fun key => row.key < key).take (min (max limit 1) 1000)

/-- What happens at a page: rows are inserted before its query, which sees some of them, or it fails, or the process dies. -/
inductive PageFate where
  | page (arrivals : List MediaRow) (seen : MediaRow → Bool)
  | failed
  | died

/-- The circumstances of a scan of the volume; `seen` is what the query of the newest key sees, and `found` the answers about
the known rows; `dies` when the process ends after the pages. -/
structure WalkInput where
  seen : MediaRow → Bool := fun _ => true
  fates : List PageFate
  dies : Bool := false
  found : Nat → Option KnownRowMeta := fun _ => none

namespace MediaVolume

variable (v : MediaVolume)

def insertRow (row : MediaRow) : MediaVolume :=
  if v.newest.all (fun key => key < row.key) ∧ 0 < row.mediaId then { v with rows := row :: v.rows, newest := some row.key }
  else v

def insertRows (rows : List MediaRow) : MediaVolume := rows.foldl insertRow v

def putRecords (records : List MediaRecord) : MediaVolume :=
  { v with records := records.foldl (fun table record => table.put record.mediaId record) v.records }

def commitScanPage (cursor : MediaCursorState) (records : List MediaRecord) : MediaVolume :=
  { v.putRecords records with cursor := some cursor }

end MediaVolume

inductive WalkEnd where
  | died (v : MediaVolume)
  | ended (v : MediaVolume) (cursor : MediaCursorState) (completed : Bool)

structure WalkPlan where
  full : Bool
  pageSize : Nat
  takes : MediaRow → Bool
  sourceOf : MediaRow → Option AutoSource
  known : Table Nat MediaRecord
  given : MediaCursorState
  pageCursor : Option PageKey → MediaCursorState

def WalkPlan.pageRecords (plan : WalkPlan) (rows : List MediaRow) : List MediaRecord :=
  rows.filterMap fun row => if plan.takes row then do
    let source ← plan.sourceOf row
    whenRecord source (plan.known row.mediaId) row
  else none

def walkPages (plan : WalkPlan) : List PageFate → Option PageKey → MediaCursorState → MediaVolume → WalkEnd
  | [], _, _, v => .died v
  | .died :: _, _, _, v => .died v
  | .failed :: _, _, last, v => .ended v last false
  | .page arrivals seen :: fates, afterKey, _, v =>
    let v := v.insertRows arrivals
    let rows := queryNewestFirst (v.rows.filter fun row => plan.full || seen row) afterKey plan.pageSize
    if rows.length < plan.pageSize then
      let cursor := plan.pageCursor none
      .ended (v.commitScanPage cursor (plan.pageRecords rows)) cursor true
    else match rows.getLast? with
      | none => .ended v plan.given false
      | some row =>
        let cursor := plan.pageCursor (some row.key)
        walkPages plan fates (some row.key) cursor (v.commitScanPage cursor (plan.pageRecords rows))

def newestSeen (rows : List MediaRow) (visible : MediaRow → Bool) : Option PageKey := (rows.filter visible).head?.map MediaRow.key

def newOnlyPlan (settings : AutoProtectSettings) (sourceOf : MediaRow → Option AutoSource) (full : Bool) (pageSize : Nat)
    (given cursor : MediaCursorState) (v : MediaVolume) (seen : MediaRow → Bool) : WalkPlan :=
  let boundary := cursor.watermark.or (newestSeen v.rows fun row => full || seen row)
  { full, pageSize, sourceOf, given, known := v.records
    takes := fun row => boundary.all fun key => key < row.key
    pageCursor := fun _ => { cursor with scopeMode := settings.scopeMode, watermark := boundary } }

def historyPlan (settings : AutoProtectSettings) (sourceOf : MediaRow → Option AutoSource) (full : Bool) (pageSize : Nat)
    (cursor : MediaCursorState) (v : MediaVolume) (seen : MediaRow → Bool) : WalkPlan :=
  let highAtStart := newestSeen v.rows fun row => full || seen row
  { full, pageSize, sourceOf, given := cursor, known := v.records
    takes := fun _ => true
    pageCursor := fun afterKey => match afterKey with
      | none =>
        { scopeMode := settings.scopeMode, watermark := highAtStart.or cursor.watermark, fullScanCompleted := true }
      | some key => { scopeMode := settings.scopeMode, watermark := some key, fullScanCompleted := false } }

def scanNewOnly (settings : AutoProtectSettings) (sourceOf : MediaRow → Option AutoSource) (full : Bool) (pageSize : Nat)
    (given cursor : MediaCursorState) (v : MediaVolume) (input : WalkInput) : WalkEnd :=
  let plan := newOnlyPlan settings sourceOf full pageSize given cursor v input.seen
  walkPages plan input.fates none (plan.pageCursor none) v

def scanExistingHistory (settings : AutoProtectSettings) (sourceOf : MediaRow → Option AutoSource) (full : Bool)
    (pageSize : Nat) (cursor : MediaCursorState) (v : MediaVolume) (input : WalkInput) : WalkEnd :=
  if cursor.fullScanCompleted then
    scanNewOnly settings sourceOf full pageSize cursor
      { cursor with watermark := some (cursor.watermark.getD (toLex (0, 0))) } v input
  else walkPages (historyPlan settings sourceOf full pageSize cursor v input.seen) input.fates none cursor v

structure ScanRequest where
  settings : AutoProtectSettings
  scopes : MediaCollection → MediaPermissionScope
  pageSize : Nat

namespace MediaVolume

variable (classify : MediaRow → Classification) (collection : MediaCollection) (request : ScanRequest) (v : MediaVolume)

def rowSource (settings : AutoProtectSettings) (row : MediaRow) : Option AutoSource :=
  sourceOf (classify row) collection settings

def walk (input : WalkInput) : WalkEnd :=
  let settings := request.settings
  let cursor := v.cursor.getD { scopeMode := settings.scopeMode }
  let full := decide (request.scopes collection = .full)
  match settings.scopeMode with
  | .newOnly => scanNewOnly settings (rowSource classify collection settings) full request.pageSize cursor cursor v input
  | .existingHistory => scanExistingHistory settings (rowSource classify collection settings) full request.pageSize cursor v input

def reconcile (scope : MediaPermissionScope) (completed : Bool) (found : Nat → Option KnownRowMeta)
    (known : Table Nat MediaRecord) : MediaVolume :=
  { v with records := fun id => match (known id).bind fun record => reconcileRecord record (found id) scope completed with
    | none => v.records id
    | some record =>
      if record.status = .locallyDeleted ∧ (v.records id).any (fun current => current.status ≠ .isProtected) then v.records id
      else some record }

def begun : MediaVolume :=
  if request.settings.scopeMode = .newOnly ∧ v.newOnlySince = none then { v with newOnlySince := some v.newest } else v

def scan (input : Option WalkInput) : MediaVolume × Bool :=
  match input with
  | none => (v.begun request, false)
  | some input =>
    if !collectionNeeded collection request.settings || request.scopes collection = .notGranted then (v.begun request, false)
    else match (v.begun request).walk classify collection request input with
      | .died v' => (v', false)
      | .ended v' cursor completed =>
        let v' := if completed ∧ request.settings.scopeMode = .existingHistory ∧ !(v.cursor.any (·.fullScanCompleted)) then
          { v' with walked := some request.settings }
        else v'
        if input.dies then (v', false)
        else ({ v'.reconcile (request.scopes collection) completed input.found v.records with cursor := some cursor }, completed)

end MediaVolume

namespace MediaVolume

structure Sorted (v : MediaVolume) : Prop where
  rows : v.rows.Pairwise fun a b => b.key < a.key
  newest : ∀ row ∈ v.rows, ∃ key, v.newest = some key ∧ row.key ≤ key
  mediaId : ∀ row ∈ v.rows, 0 < row.mediaId

structure Grows (v v' : MediaVolume) : Prop where
  sorted : v'.Sorted
  rows : ∀ row ∈ v.rows, row ∈ v'.rows
  arrived : ∀ row ∈ v'.rows, row ∈ v.rows ∨ ∀ key, v.newest = some key → key < row.key
  newest : ∀ key, v.newest = some key → ∃ key', v'.newest = some key' ∧ key ≤ key'
  records : ∀ id, (v.records id).isSome → (v'.records id).isSome
  since : v'.newOnlySince = v.newOnlySince
  walked : v'.walked = v.walked

variable {v v' v'' : MediaVolume}

theorem Grows.refl (hv : v.Sorted) : Grows v v where
  sorted := hv
  rows := fun _ h => h
  arrived := fun _ h => .inl h
  newest := fun key h => ⟨key, h, le_refl key⟩
  records := fun _ h => h
  since := rfl
  walked := rfl

theorem Grows.trans (h : Grows v v') (h' : Grows v' v'') : Grows v v'' where
  sorted := h'.sorted
  rows := fun row hrow => h'.rows row (h.rows row hrow)
  arrived := by
    intro row hrow
    rcases h'.arrived row hrow with hrow | hbey
    · exact h.arrived row hrow
    refine .inr fun key hkey => ?_
    obtain ⟨key', hkey', hle⟩ := h.newest key hkey
    exact lt_of_le_of_lt hle (hbey key' hkey')
  newest := by
    intro key hkey
    obtain ⟨key', hkey', hle⟩ := h.newest key hkey
    obtain ⟨key'', hkey'', hle'⟩ := h'.newest key' hkey'
    exact ⟨key'', hkey'', le_trans hle hle'⟩
  records := fun id hid => h'.records id (h.records id hid)
  since := h'.since.trans h.since
  walked := h'.walked.trans h.walked

theorem grows_insertRow (hv : v.Sorted) (row : MediaRow) : Grows v (v.insertRow row) := by
  unfold insertRow
  split
  · rename_i hrow
    have hbey : ∀ key, v.newest = some key → key < row.key := by
      intro key hkey
      simpa [hkey] using hrow.1
    have hle : ∀ old ∈ v.rows, old.key < row.key := by
      intro old hold
      obtain ⟨key, hkey, hlek⟩ := hv.newest old hold
      exact lt_of_le_of_lt hlek (hbey key hkey)
    refine ⟨⟨List.pairwise_cons.2 ⟨hle, hv.rows⟩, ?_, ?_⟩, fun old hold => List.mem_cons_of_mem row hold, ?_, ?_,
      fun _ h => h, rfl, rfl⟩
    · intro old hold
      rcases List.mem_cons.1 hold with rfl | hold
      · exact ⟨_, rfl, le_refl _⟩
      · exact ⟨_, rfl, le_of_lt (hle old hold)⟩
    · intro old hold
      rcases List.mem_cons.1 hold with rfl | hold
      · exact hrow.2
      · exact hv.mediaId old hold
    · intro old hold
      rcases List.mem_cons.1 hold with rfl | hold
      · exact .inr hbey
      · exact .inl hold
    · exact fun key hkey => ⟨row.key, rfl, le_of_lt (hbey key hkey)⟩
  · exact Grows.refl hv

theorem grows_insertRows (hv : v.Sorted) (rows : List MediaRow) : Grows v (v.insertRows rows) := by
  unfold insertRows
  induction rows generalizing v with
  | nil => exact Grows.refl hv
  | cons row rows ih =>
    have hrow := grows_insertRow hv row
    exact hrow.trans (ih hrow.sorted)

theorem records_putRecords (records : List MediaRecord) (id : Nat) :
    ((v.records id).isSome ∨ ∃ record ∈ records, record.mediaId = id) → ((v.putRecords records).records id).isSome := by
  show _ → (records.foldl (fun table record => Table.put table record.mediaId record) v.records id).isSome
  generalize v.records = table
  induction records generalizing table with
  | nil =>
    rintro (h | ⟨record, hrec, -⟩)
    · exact h
    · exact absurd hrec List.not_mem_nil
  | cons record records ih =>
    intro h
    refine ih (Table.put table record.mediaId record) ?_
    rw [Table.put_apply]
    rcases h with h | ⟨other, ho, hid⟩
    · left
      split
      · rfl
      · exact h
    rcases List.mem_cons.1 ho with rfl | ho
    · left
      rw [if_pos hid.symm]
      rfl
    · exact .inr ⟨other, ho, hid⟩

theorem grows_commit (hv : v.Sorted) (cursor : MediaCursorState) (records : List MediaRecord) :
    Grows v (v.commitScanPage cursor records) where
  sorted := ⟨hv.rows, hv.newest, hv.mediaId⟩
  rows := fun _ h => h
  arrived := fun _ h => .inl h
  newest := fun key h => ⟨key, h, le_refl key⟩
  records := fun id h => records_putRecords records id (.inl h)
  since := rfl
  walked := rfl

end MediaVolume

open MediaVolume

theorem mem_page_or_lt (limit : Nat) {rows : List MediaRow} {row : MediaRow}
    (hsort : rows.Pairwise fun a b => b.key < a.key) (hrow : row ∈ rows) :
    row ∈ rows.take limit ∨
      limit ≤ (rows.take limit).length ∧ ∀ last, (rows.take limit).getLast? = some last → row.key < last.key := by
  by_cases hmem : row ∈ rows.take limit
  · exact .inl hmem
  have hdrop : row ∈ rows.drop limit := by
    rw [← List.take_append_drop limit rows] at hrow
    exact (List.mem_append.1 hrow).resolve_left hmem
  have hlen : limit < rows.length := by
    by_contra hle
    rw [List.drop_eq_nil_of_le (not_lt.1 hle)] at hdrop
    exact absurd hdrop List.not_mem_nil
  refine .inr ⟨by rw [List.length_take]; omega, fun last hlast => ?_⟩
  rw [← List.take_append_drop limit rows, List.pairwise_append] at hsort
  exact hsort.2.2 last (List.mem_of_getLast? hlast) row hdrop

theorem page_last_mem {rows : List MediaRow} {afterKey : Option PageKey} {limit : Nat} {last : MediaRow}
    (h : (queryNewestFirst rows afterKey limit).getLast? = some last) : last ∈ rows :=
  (List.mem_filter.1 (List.mem_of_mem_take (List.mem_of_getLast? h))).1

theorem page_recorded {plan : WalkPlan} {rows : List MediaRow} {row : MediaRow} (hrow : row ∈ rows)
    (hta : plan.takes row = true) (hsrc : (plan.sourceOf row).isSome) :
    (plan.known row.mediaId).isSome ∨ ∃ record ∈ plan.pageRecords rows, record.mediaId = row.mediaId := by
  cases hkn : plan.known row.mediaId with
  | some existing => exact .inl rfl
  | none =>
    obtain ⟨source, hsrc⟩ := Option.isSome_iff_exists.1 hsrc
    have hbase : ∃ record, whenRecord source none row = some record ∧ record.mediaId = row.mediaId := ⟨_, rfl, rfl⟩
    obtain ⟨record, hrec, hid⟩ := hbase
    refine .inr ⟨record, List.mem_filterMap.2 ⟨row, hrow, ?_⟩, hid⟩
    simp only [hta, if_true, hsrc, Option.bind_eq_bind, Option.bind_some, hkn, hrec]

def WalkEnd.volume : WalkEnd → MediaVolume
  | .died v => v
  | .ended v _ _ => v

theorem grows_walkPages (plan : WalkPlan) (fates : List PageFate) (afterKey : Option PageKey) (last : MediaCursorState)
    {v : MediaVolume} (hv : v.Sorted) : Grows v (walkPages plan fates afterKey last v).volume := by
  induction fates generalizing afterKey last v with
  | nil => exact Grows.refl hv
  | cons fate fates ih =>
    cases fate with
    | died | failed => exact Grows.refl hv
    | page arrivals seen =>
      have harr := grows_insertRows hv arrivals
      unfold walkPages
      dsimp only
      split
      · exact harr.trans (grows_commit harr.sorted _ _)
      split
      · exact harr
      · refine harr.trans ((grows_commit harr.sorted _ _).trans (ih _ _ ?_))
        exact (grows_commit harr.sorted _ _).sorted

theorem walkPages_covers (plan : WalkPlan) (hfull : plan.full = true) (hsize : 0 < plan.pageSize ∧ plan.pageSize ≤ 1000)
    {fates : List PageFate} {afterKey : Option PageKey} {last cursor : MediaCursorState} {v v' : MediaVolume} (hv : v.Sorted)
    (hkn : ∀ id, (plan.known id).isSome → (v.records id).isSome)
    (h : walkPages plan fates afterKey last v = .ended v' cursor true) {row : MediaRow} (hrow : row ∈ v.rows)
    (haf : ∀ key, afterKey = some key → row.key < key) (hta : plan.takes row = true)
    (hsrc : (plan.sourceOf row).isSome) : (v'.records row.mediaId).isSome := by
  induction fates generalizing afterKey last v with
  | nil => cases h
  | cons fate fates ih =>
    cases fate with
    | died | failed => cases h
    | page arrivals seen =>
      have harr := grows_insertRows hv arrivals
      have hli : min (max plan.pageSize 1) 1000 = plan.pageSize := by omega
      have hall : (v.insertRows arrivals).rows.filter (fun row => plan.full || seen row) = (v.insertRows arrivals).rows :=
        List.filter_eq_self.2 fun _ _ => by rw [hfull, Bool.true_or]
      unfold walkPages at h
      simp only [hall, queryNewestFirst, hli] at h
      -- the rows of the page, of those beyond the last page
      have hfilt : row ∈ (v.insertRows arrivals).rows.filter fun row => afterKey.all fun key => row.key < key := by
        refine List.mem_filter.2 ⟨harr.rows row hrow, ?_⟩
        cases afterKey with
        | none => rfl
        | some key => simpa using haf key rfl
      have hsort := harr.sorted.rows.filter fun row => afterKey.all fun key => row.key < key
      generalize (v.insertRows arrivals).rows.filter (fun row => afterKey.all fun key => row.key < key) = rows at h hfilt hsort
      have hco : row ∈ rows.take plan.pageSize → ∀ cursor, (((v.insertRows arrivals).commitScanPage cursor
          (plan.pageRecords (rows.take plan.pageSize))).records row.mediaId).isSome := by
        intro hmem cursor
        refine records_putRecords _ _ ((page_recorded hmem hta hsrc).imp (fun hrec => ?_) fun hrec => hrec)
        exact harr.records _ (hkn _ hrec)
      split at h
      · rename_i hsh
        simp only [WalkEnd.ended.injEq, and_true] at h
        rcases mem_page_or_lt plan.pageSize hsort hfilt with hmem | ⟨hlen, -⟩
        · rw [← h.1]
          exact hco hmem _
        · exact absurd hsh (not_lt.2 hlen)
      · split at h
        · cases h
        · rename_i lastRow hlast
          have hgr := harr.trans (grows_commit harr.sorted (plan.pageCursor (some lastRow.key))
            (plan.pageRecords (rows.take plan.pageSize)))
          rcases mem_page_or_lt plan.pageSize hsort hfilt with hmem | ⟨-, hbey⟩
          · have hrest := grows_walkPages plan fates (some lastRow.key) (plan.pageCursor (some lastRow.key)) hgr.sorted
            rw [h] at hrest
            exact hrest.records _ (hco hmem _)
          refine ih hgr.sorted (fun id hid => hgr.records id (hkn id hid)) h (hgr.rows row hrow) ?_
          intro key hkey
          rw [← Option.some.inj hkey]
          exact hbey lastRow hlast

theorem rows_insertRows {v : MediaVolume} {row : MediaRow} (arrivals : List MediaRow) (h : row ∈ v.rows) :
    row ∈ (v.insertRows arrivals).rows := by
  unfold insertRows
  induction arrivals generalizing v with
  | nil => exact h
  | cons arrival arrivals ih =>
    refine ih (v := v.insertRow arrival) ?_
    unfold insertRow
    split
    · exact .tail _ h
    · exact h

theorem rows_walkPages (plan : WalkPlan) (fates : List PageFate) (afterKey : Option PageKey) (last : MediaCursorState)
    {v : MediaVolume} {row : MediaRow} (h : row ∈ v.rows) : row ∈ (walkPages plan fates afterKey last v).volume.rows := by
  induction fates generalizing afterKey last v with
  | nil => exact h
  | cons fate fates ih =>
    cases fate with
    | died | failed => exact h
    | page arrivals seen =>
      have hrow := rows_insertRows arrivals h
      unfold walkPages
      dsimp only
      split
      · exact hrow
      split
      · exact hrow
      · exact ih _ _ hrow

theorem walkPages_left (plan : WalkPlan) (fates : List PageFate) (afterKey : Option PageKey) (last : MediaCursorState)
    (v : MediaVolume) :
    (walkPages plan fates afterKey last v).volume.cursor = v.cursor ∨
      (∃ row ∈ (walkPages plan fates afterKey last v).volume.rows,
        (walkPages plan fates afterKey last v).volume.cursor = some (plan.pageCursor (some row.key))) ∨
      (walkPages plan fates afterKey last v).volume.cursor = some (plan.pageCursor none) ∧
        ∃ v', walkPages plan fates afterKey last v = .ended v' (plan.pageCursor none) true := by
  induction fates generalizing afterKey last v with
  | nil => exact .inl rfl
  | cons fate fates ih =>
    cases fate with
    | died | failed => exact .inl rfl
    | page arrivals seen =>
      have hcur : (v.insertRows arrivals).cursor = v.cursor := by
        unfold insertRows
        induction arrivals generalizing v with
        | nil => rfl
        | cons row rows ihrows =>
          refine (ihrows (v := v.insertRow row)).trans ?_
          unfold insertRow
          split <;> rfl
      unfold walkPages
      dsimp only
      split
      · exact .inr (.inr ⟨rfl, _, rfl⟩)
      split
      · exact .inl hcur
      · rename_i row hrow
        have hmem : row ∈ (v.insertRows arrivals).rows := (List.mem_filter.1 (page_last_mem hrow)).1
        rcases ih (some row.key) (plan.pageCursor (some row.key)) ((v.insertRows arrivals).commitScanPage
            (plan.pageCursor (some row.key)) (plan.pageRecords (queryNewestFirst ((v.insertRows arrivals).rows.filter fun row =>
              plan.full || seen row) afterKey plan.pageSize))) with hsame | hpage | hdone
        · refine .inr (.inl ⟨row, ?_, hsame⟩)
          exact rows_walkPages plan fates _ _ hmem
        · exact .inr (.inl hpage)
        · exact .inr (.inr hdone)

theorem walkPages_ended {plan : WalkPlan} (hsize : 0 < plan.pageSize) {fates : List PageFate} {afterKey : Option PageKey}
    {last cursor : MediaCursorState} {v v' : MediaVolume} {completed : Bool}
    (h : walkPages plan fates afterKey last v = .ended v' cursor completed) :
    (completed = true ∧ cursor = plan.pageCursor none ∧ v'.cursor = some cursor) ∨
      completed = false ∧ (cursor = last ∨ ∃ row ∈ v'.rows, cursor = plan.pageCursor (some row.key)) := by
  induction fates generalizing afterKey last v with
  | nil => cases h
  | cons fate fates ih =>
    cases fate with
    | died => cases h
    | failed =>
      cases h
      exact .inr ⟨rfl, .inl rfl⟩
    | page arrivals seen =>
      unfold walkPages at h
      dsimp only at h
      split at h
      · cases h
        exact .inl ⟨rfl, rfl, rfl⟩
      rename_i hlen
      split at h
      · rename_i hnone
        rw [List.getLast?_eq_none_iff.1 hnone] at hlen
        exact absurd hsize hlen
      rename_i row hrow
      have hmem : row ∈ (v.insertRows arrivals).rows := (List.mem_filter.1 (page_last_mem hrow)).1
      rcases ih h with hdone | ⟨hcomp, hlast | hpage⟩
      · exact .inl hdone
      · refine .inr ⟨hcomp, .inr ⟨row, ?_, hlast⟩⟩
        have hrest := rows_walkPages plan fates (some row.key) (plan.pageCursor (some row.key))
          (v := (v.insertRows arrivals).commitScanPage (plan.pageCursor (some row.key)) (plan.pageRecords (queryNewestFirst
            ((v.insertRows arrivals).rows.filter fun row => plan.full || seen row) afterKey plan.pageSize))) hmem
        rw [h] at hrest
        exact hrest
      · exact .inr ⟨hcomp, .inr hpage⟩

end LamaSync
