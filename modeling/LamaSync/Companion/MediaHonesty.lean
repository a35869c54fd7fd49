import LamaSync.Companion.MediaProtection

/-!
# The honest registry

A record that is protected has an upload that was completed with a receipt, of bytes staged for the revision the scans found
last, and a record that is staged has an upload that is done or can be transferred.  That is an invariant of the steps that
write no record over one they have not read, and that take no upload away from a staged record.
-/

namespace LamaSync

open Trace UploadQueueStore

/-! ### Honesty -/

def transferable (queue : List UploadQueueItem) (registration : Option Registration) (record : MediaRecord) : Bool :=
  (record.queueItemId.bind (find queue)).any fun item =>
    item.status = .done || (!item.status.isTerminal && bindingMatches item registration)

def StagedAgain (queue : List UploadQueueItem) (key : String) (record : MediaRecord) : Prop :=
  ∀ (context : PassContext) (staged : StagedBytes) (now : Int), context.destination.isSome →
    ((protectRecord queue context key record (.ok staged) now).1.any fun update => update.status = .staged) = true

def Uploaded (history : List UploadQueueItem) (stagedFor : List (String × MediaRevision)) (record : MediaRecord) : Prop :=
  ∃ item ∈ history, item.status = .done ∧ item.receipt.isSome ∧ record.queueItemId = some item.id ∧
    record.sha256 = item.sha256 ∧ (item.id, record.revision) ∈ stagedFor

namespace MediaRegistry

structure Honest (s : MediaRegistry) : Prop where
  uploaded : ∀ key record, s.records key = some record → record.status = .isProtected →
    s.detected key = some record.revision ∧ Uploaded s.history s.stagedFor record
  staged : ∀ key record, s.records key = some record → record.status = .staged →
    transferable s.queue s.registration record = true ∨ StagedAgain s.queue key record

end MediaRegistry

namespace RegistryEvent

variable (s : MediaRegistry)

def Outdated (key : String) (record : MediaRecord) : RegistryEvent → Prop
  | scanPage index _ | scanEnd index _ => ∃ scan, s.scans[index]? = some scan ∧ scan.snapshot key ≠ some record
  | passEnd index => ∃ pass, s.passes[index]? = some pass ∧ pass.snapshot key ≠ some record
  | _ => False

structure Keeps (event : RegistryEvent) : Prop where
  deleted : ∀ key record, (s.step event).records key = some record → record.status = .locallyDeleted →
    ∃ before, s.records key = some before ∧ (before.status = .locallyDeleted ∨ before.status = .isProtected)
  kept : ∀ key record, s.records key = some record → record.status = .isProtected → event.Outdated s key record →
    (s.step event).records key = some record

def Guarded : RegistryEvent → Prop
  | scanPage index rows => ∀ scan ∈ s.scans[index]?, ∀ entry ∈ MediaRegistry.pageRecords scan.snapshot rows,
      s.records entry.1 = (scan.new entry.1).or (scan.snapshot entry.1)
  | scanEnd index _ => ∀ scan ∈ s.scans[index]?, ∀ key record, (scan.new key).or (scan.snapshot key) = some record →
      s.records key = some record
  | passRecord index outcome _ => ∀ pass ∈ s.passes[index]?, ∀ key ∈ pass.todo.head?, ∀ staged ∈ outcome.toOption,
      ∀ existing ∈ find s.queue (AutoQueueKeys.queueItemId key staged.sha256),
        existing.sha256 = some staged.sha256 ∧ (existing.status = .done → existing.receipt.isSome)
  | passAdd index => ∀ pass ∈ s.passes[index]?, ∀ item ∈ pass.adding, ∀ key record, s.records key = some record →
      record.status = .staged → record.queueItemId = some item.id → bindingMatches item s.registration = true
  | passEnd index => ∀ pass ∈ s.passes[index]?, ∀ entry ∈ pass.updates, s.records entry.1 = pass.snapshot entry.1 ∧
      (entry.2.status = .staged → transferable s.queue s.registration entry.2 = true)
  | queueWrite load write _ => ∀ copy ∈ s.history[load]?, ∀ key record, s.records key = some record → record.status = .staged →
      record.queueItemId = some copy.id →
        (∃ item, find s.queue copy.id = some item ∧ item.status = .done) ∨
          write.completes = true ∨ write ≠ .cancelled ∧ bindingMatches copy s.registration = true
  | reconcileWrite index => ∀ job ∈ s.reconciles[index]?, ∀ record ∈ job.read, ∀ identity ∈ job.item.mediaIdentity,
      s.records identity = some record
  | remove itemId => ∀ key record, s.records key = some record → record.status = .staged → record.queueItemId ≠ some itemId
  | pair registration => ∀ key record, s.records key = some record → record.status = .staged →
      ∀ item ∈ record.queueItemId.bind (find s.queue), item.status = .done ∨ bindingMatches item registration = true
  | _ => True

end RegistryEvent

/-! ### Sound records -/

section Sound

variable {s : MediaRegistry} {history history' : List UploadQueueItem}
variable {stagedFor stagedFor' : List (String × MediaRevision)} {record update : MediaRecord}

structure RecordSound (history : List UploadQueueItem) (stagedFor : List (String × MediaRevision)) (record : MediaRecord) :
    Prop where
  staged : ∀ id, record.queueItemId = some id → (id, record.revision) ∈ stagedFor
  uploaded : record.status = .isProtected → ∃ item ∈ history, item.status = .done ∧ item.receipt.isSome ∧
    record.queueItemId = some item.id ∧ record.sha256 = item.sha256

/-- A record that a scan has made anew. -/
structure Fresh (record : MediaRecord) : Prop where
  unlinked : record.queueItemId = none
  status : record.status = .discovered ∨ record.status = .unreadable

theorem RecordSound.mono (h : RecordSound history stagedFor record) (hhist : history ⊆ history')
    (hstg : stagedFor ⊆ stagedFor') : RecordSound history' stagedFor' record where
  staged id hid := hstg (h.staged id hid)
  uploaded hst := by
    obtain ⟨item, hitem, hrest⟩ := h.uploaded hst
    exact ⟨item, hhist hitem, hrest⟩

theorem RecordSound.uploads (h : RecordSound history stagedFor record) (hst : record.status = .isProtected) :
    Uploaded history stagedFor record := by
  obtain ⟨item, hitem, hdone, hrcpt, hid, hsha⟩ := h.uploaded hst
  exact ⟨item, hitem, hdone, hrcpt, hid, hsha, h.staged _ hid⟩

theorem Fresh.ne (h : Fresh record) :
    record.status ≠ .isProtected ∧ record.status ≠ .staged ∧ record.status ≠ .locallyDeleted := by
  rcases h.status with hst | hst <;> simp [hst]

theorem Fresh.sound (h : Fresh record) : RecordSound history stagedFor record where
  staged id hid := by
    rw [h.unlinked] at hid
    cases hid
  uploaded hst := absurd hst h.ne.1

theorem fresh_revisionOf (size modified : Option Nat) : Fresh (revisionOf record size modified) := ⟨rfl, .inl rfl⟩

theorem fresh_whenRecord {source : AutoSource} {existing : Option MediaRecord} {row : MediaRow}
    (h : whenRecord source existing row = some update) : Fresh update := by
  unfold whenRecord at h
  dsimp only at h
  split at h
  · cases h
    exact ⟨rfl, .inl rfl⟩
  split at h
  · cases h
    exact ⟨rfl, .inl rfl⟩
  · split at h
    · cases h
      exact ⟨rfl, .inr rfl⟩
    · split at h
      · cases h
        exact fresh_revisionOf _ _
      · cases h

theorem reconcileRecord_sound {found : Option KnownRowMeta} {scope : MediaPermissionScope} {completed : Bool}
    (h : reconcileRecord record found scope completed = some update) (hrec : RecordSound history stagedFor record) :
    RecordSound history stagedFor update ∧ (update.status = .discovered ∨ update.status = .unreadable ∨
      update.status = .locallyDeleted ∧ record.status = .isProtected) := by
  have hun : ∀ error, RecordSound history stagedFor { record with status := .unreadable, error := error } :=
    fun error => ⟨hrec.staged, fun hst => by cases hst⟩
  unfold reconcileRecord absentRecord at h
  split at h
  · cases h
  split at h
  · split at h
    · cases h
      exact ⟨(fresh_revisionOf _ _).sound, .inl rfl⟩
    · cases h
  · split at h
    · cases h
    · split at h
      · rename_i hst
        cases h
        exact ⟨⟨fun id hid => (by cases hid), fun hst => (by cases hst)⟩, .inr (.inr ⟨rfl, hst.1⟩)⟩
      · split at h
        · cases h
        · split at h
          · cases h
            exact ⟨hun _, .inr (.inl rfl)⟩
          · cases h
    · split at h
      · cases h
      · cases h
        exact ⟨hun _, .inr (.inl rfl)⟩

variable {queue : List UploadQueueItem} {context : PassContext} {key : String}

theorem enqueueStaged_sound {destination : MobileUploadDestination} {staged : StagedBytes} {now : Int}
    (hqu : queue ⊆ history) (hst : record.status ≠ .isProtected)
    (hdel : record.status ≠ .locallyDeleted)
    (hg : ∀ existing ∈ find queue (AutoQueueKeys.queueItemId key staged.sha256),
      existing.sha256 = some staged.sha256 ∧ (existing.status = .done → existing.receipt.isSome)) :
    RecordSound history ((AutoQueueKeys.queueItemId key staged.sha256, record.revision) :: stagedFor)
        (enqueueStaged queue context destination key record staged now).1 ∧
      (enqueueStaged queue context destination key record staged now).1.status ≠ .locallyDeleted ∧
      (enqueueStaged queue context destination key record staged now).1.revision = record.revision := by
  have hlink : ∀ id, some (AutoQueueKeys.queueItemId key staged.sha256) = some id →
      (id, record.revision) ∈ (AutoQueueKeys.queueItemId key staged.sha256, record.revision) :: stagedFor := by
    intro id hid
    rw [← Option.some.inj hid]
    exact .head _
  unfold enqueueStaged
  dsimp only
  cases hfind : find queue (AutoQueueKeys.queueItemId key staged.sha256) with
  | none => exact ⟨⟨hlink, fun h => (by cases h)⟩, (by simp), rfl⟩
  | some existing =>
    obtain ⟨hsha, hrcpt⟩ := hg existing hfind
    dsimp only
    cases hex : existing.status with
    | done =>
      obtain ⟨hmem, hid⟩ := mem_of_find hfind
      have hli := congrArg some hid.symm
      exact ⟨⟨hlink, fun _ => ⟨existing, hqu hmem, hex, hrcpt hex, hli, hsha.symm⟩⟩, (by simp), rfl⟩
    | cancelled | pending | uploading | waiting | blocked | failed => exact ⟨⟨hlink, fun h => absurd h hst⟩, hdel, rfl⟩

theorem protectRecord_sound {outcome : StageOutcome}
    {now : Int} (hrec : RecordSound history stagedFor record) (hqu : queue ⊆ history)
    (hg : ∀ staged ∈ outcome.toOption, ∀ existing ∈ find queue (AutoQueueKeys.queueItemId key staged.sha256),
      existing.sha256 = some staged.sha256 ∧ (existing.status = .done → existing.receipt.isSome))
    (h : (protectRecord queue context key record outcome now).1 = some update) :
    RecordSound history ((MediaRegistry.stagedBytes context record outcome).toList.map (fun staged =>
        (AutoQueueKeys.queueItemId key staged.sha256, record.revision)) ++ stagedFor) update ∧
      update.status ≠ .locallyDeleted ∧ update.revision = record.revision := by
  unfold protectRecord at h
  unfold MediaRegistry.stagedBytes
  cases hst : record.status with
  | isProtected | locallyDeleted => simp [hst] at h
  | staged =>
    simp only [hst] at h
    split at h
    · rename_i item hitem
      obtain ⟨id, hid, hfind⟩ := Option.bind_eq_some_iff.1 hitem
      split at h
      · rename_i receipt hrcpt
        split at h
        · rename_i hdone
          rw [← Option.some.inj h]
          refine ⟨⟨hrec.staged, fun _ => ⟨item, hqu (mem_of_find hfind).1, hdone, ?_, ?_, rfl⟩⟩, (by simp), rfl⟩
          · rw [hrcpt]
            rfl
          · exact hid.trans (congrArg some (mem_of_find hfind).2.symm)
        · cases h
      · cases h
    · cases h
  | discovered | unreadable | failed =>
    have hnot : record.status ≠ .isProtected ∧ record.status ≠ .locallyDeleted := by simp [hst]
    cases hdest : context.destination with
    | none => simp [hst, hdest] at h
    | some destination =>
      cases outcome with
      | ok staged =>
        simp only [hst, hdest] at h
        rw [← Option.some.inj h]
        exact enqueueStaged_sound hqu hnot.1 hnot.2 (hg staged rfl)
      | error text =>
        simp only [hst, hdest] at h
        rw [← Option.some.inj h]
        exact ⟨⟨hrec.staged, fun hst => (by cases hst)⟩, (by simp), rfl⟩

theorem protectRecord_adds {outcome : StageOutcome}
    {now : Int} {item : UploadQueueItem} (h : (protectRecord queue context key record outcome now).2 = some item) :
    item.status = .pending := by
  have hsg : ∀ destination staged, (enqueueStaged queue context destination key record staged now).2 = some item →
      item.status = .pending := by
    intro destination staged hitem
    unfold enqueueStaged at hitem
    dsimp only at hitem
    split at hitem
    · split at hitem <;> cases hitem
    rw [← Option.some.inj hitem]
    rfl
  unfold protectRecord at h
  split at h
  · split at h
    · split at h
      · split at h <;> cases h
      · cases h
    · cases h
  · cases h
  · cases h
  split at h
  · cases h
  · split at h
    · exact hsg _ _ h
    · cases h

theorem putAll_cases (table : Table String MediaRecord) (revisions : Table String MediaRevision)
    (updates : List (String × MediaRecord)) (key : String) :
    MediaRegistry.putAll table updates key = table key ∧ MediaRegistry.detectAll revisions updates key = revisions key ∨
      ∃ record, (key, record) ∈ updates ∧ MediaRegistry.putAll table updates key = some record ∧
        MediaRegistry.detectAll revisions updates key = some record.revision := by
  unfold MediaRegistry.putAll MediaRegistry.detectAll
  induction updates generalizing table revisions with
  | nil => exact .inl ⟨rfl, rfl⟩
  | cons entry updates ih =>
    simp only [List.foldl_cons]
    rcases ih (table.put entry.1 entry.2) (revisions.put entry.1 entry.2.revision) with
      ⟨hrec, hrev⟩ | ⟨record, hmem, hrest⟩
    · rw [hrec, hrev, Table.put_apply, Table.put_apply]
      by_cases hkey : key = entry.1
      · subst hkey
        exact .inr ⟨entry.2, .head _, if_pos rfl, if_pos rfl⟩
      · exact .inl ⟨if_neg hkey, if_neg hkey⟩
    · exact .inr ⟨record, .tail _ hmem, hrest⟩

theorem fresh_pageRecords {snapshot : Table String MediaRecord} {rows : List (String × AutoSource × MediaRow)}
    {entry : String × MediaRecord} (h : entry ∈ MediaRegistry.pageRecords snapshot rows) : Fresh entry.2 := by
  obtain ⟨row, -, hrow⟩ := List.mem_filterMap.1 h
  obtain ⟨record, hrec, rfl⟩ := Option.map_eq_some_iff.1 hrow
  exact fresh_whenRecord hrec

theorem merged_cases {scan : MediaScan} {answers : ScanAnswers}
    (hsnap : ∀ record, scan.snapshot key = some record → RecordSound history stagedFor record)
    (h : MediaRegistry.merged scan answers key = some record) : (scan.new key).or (scan.snapshot key) = some record ∨
      MediaRegistry.scanned scan answers key = some record ∧ RecordSound history stagedFor record ∧
        (record.status = .discovered ∨ record.status = .unreadable ∨ record.status = .locallyDeleted ∧
          scan.new key = none ∧ ∃ before, scan.snapshot key = some before ∧ before.status = .isProtected) := by
  unfold MediaRegistry.merged at h
  cases hscan : MediaRegistry.scanned scan answers key with
  | none =>
    rw [hscan, Option.none_or] at h
    left
    unfold MediaRegistry.scanned at hscan
    split at hscan
    · split at hscan <;> cases hscan
    · rw [hscan, Option.none_or]
      exact h
  | some found =>
    rw [hscan, Option.some_or] at h
    cases h
    unfold MediaRegistry.scanned at hscan
    split at hscan
    · rename_i reconciled hrc
      obtain ⟨before, hbef, hrc⟩ := Option.bind_eq_some_iff.1 hrc
      split at hrc
      · have hsd := reconcileRecord_sound hrc (hsnap before hbef)
        split at hscan
        · rename_i hdel
          cases hfr : scan.new key with
          | some fresh =>
            rw [hfr, Option.getD_some] at hscan
            exact .inl (by rw [Option.some_or]; exact hscan)
          | none =>
            rw [hfr, Option.getD_none] at hscan
            cases hscan
            refine .inr ⟨rfl, hsd.1, .inr (.inr ⟨hdel, rfl, before, hbef, ?_⟩)⟩
            rcases hsd.2 with hst | hst | hst
            · rw [hdel] at hst; cases hst
            · rw [hdel] at hst; cases hst
            · exact hst.2
        · rename_i hdel
          cases hscan
          refine .inr ⟨rfl, hsd.1, ?_⟩
          rcases hsd.2 with hst | hst | hst
          · exact .inl hst
          · exact .inr (.inl hst)
          · exact absurd hst.1 hdel
      · cases hrc
    · rw [hscan, Option.some_or]
      exact .inl rfl

end Sound

/-! ### Sound registries -/

section Transfer

variable {queue : List UploadQueueItem} {registration : Option Registration} {record : MediaRecord} {copy : UploadQueueItem}

theorem transferable_iff : transferable queue registration record = true ↔
    ∃ id item, record.queueItemId = some id ∧ find queue id = some item ∧
      (item.status = .done ∨ item.status.isTerminal = false ∧ bindingMatches item registration = true) := by
  unfold transferable
  cases hid : record.queueItemId with
  | none => simp
  | some id => cases hfind : find queue id <;> simp [hfind]

theorem ItemWrite.apply_binding (now : Int) (write : ItemWrite) :
    bindingMatches (write.apply now copy) registration = bindingMatches copy registration := by
  cases write <;> rfl

theorem ItemWrite.apply_completes (now : Int) {write : ItemWrite} (h : write.completes = true) :
    (write.apply now copy).status = .done := by
  cases write <;> first | rfl | cases h

theorem ItemWrite.apply_status (now : Int) {write : ItemWrite} (h : write ≠ .cancelled) :
    (write.apply now copy).status = .done ∨ (write.apply now copy).status.isTerminal = false := by
  cases write with
  | cancelled => exact absurd rfl h
  | completed | finalizedLate => exact .inl rfl
  | blocked | failed | created | progressed | renamed | retried => exact .inr rfl

theorem find_add (queue : List UploadQueueItem) (item : UploadQueueItem) (id : String) :
    find (add queue item) id = if item.id = id then some item else find queue id := by
  unfold find add
  by_cases hid : item.id = id <;> simp [hid]

theorem find_store_update (queue : List UploadQueueItem) (item : UploadQueueItem) (id : String) :
    find (UploadQueueStore.update queue item) id = find queue id ∨
      id = item.id ∧ find (UploadQueueStore.update queue item) id = some item ∧
        (find queue id).any (fun found => refuses found item) = false := by
  unfold UploadQueueStore.update
  split
  · exact .inl rfl
  rename_i href
  have hmap : find (queue.map fun it => if it.id = item.id then item else it) id =
      (find queue id).map fun it => if it.id = item.id then item else it := by
    unfold find
    rw [List.find?_map]
    congr 2
    funext it
    by_cases hit : it.id = item.id <;> simp [hit]
  rw [hmap]
  cases hfind : find queue id with
  | none => exact .inl rfl
  | some found =>
    have hf := (mem_of_find hfind).2
    rw [Option.map_some]
    by_cases hid : found.id = item.id
    · refine .inr ⟨hf.symm.trans hid, by rw [if_pos hid], ?_⟩
      rw [← hfind, ← hf, hid]
      exact Bool.eq_false_iff.2 href
    · exact .inl (by rw [if_neg hid])

theorem find_remove {itemId id : String} (h : id ≠ itemId) : find (UploadQueueStore.remove queue itemId) id = find queue id := by
  unfold find UploadQueueStore.remove
  rw [List.find?_filter]
  congr 1
  funext it
  by_cases hit : it.id = id
  · subst hit
    simp [h]
  · simp [hit]

end Transfer

structure ScanSound (history : List UploadQueueItem) (stagedFor : List (String × MediaRevision)) (scan : MediaScan) : Prop where
  snapshot : ∀ key record, scan.snapshot key = some record → RecordSound history stagedFor record
  new : ∀ key record, scan.new key = some record → Fresh record

structure PassSound (history : List UploadQueueItem) (stagedFor : List (String × MediaRevision)) (pass : ProtectPass) : Prop where
  snapshot : ∀ key record, pass.snapshot key = some record → RecordSound history stagedFor record
  updates : ∀ entry ∈ pass.updates, RecordSound history stagedFor entry.2 ∧ entry.2.status ≠ .locallyDeleted ∧
    ∃ before, pass.snapshot entry.1 = some before ∧ entry.2.revision = before.revision
  adding : ∀ item ∈ pass.adding, item.status = .pending

structure JobSound (history : List UploadQueueItem) (stagedFor : List (String × MediaRevision)) (job : ReconcileJob) : Prop where
  item : job.item ∈ history
  done : job.item.status = .done
  read : ∀ record ∈ job.read, RecordSound history stagedFor record

/-- What holds of the store, of what the scans and passes have loaded and made, and of the uploads to be linked. -/
structure RegistrySound (s : MediaRegistry) : Prop where
  records : ∀ key record, s.records key = some record → RecordSound s.history s.stagedFor record ∧
    s.detected key = some record.revision ∧ (record.status = .staged → transferable s.queue s.registration record = true)
  queue : s.queue ⊆ s.history
  scans : ∀ scan ∈ s.scans, ScanSound s.history s.stagedFor scan
  passes : ∀ pass ∈ s.passes, PassSound s.history s.stagedFor pass
  reconciles : ∀ job ∈ s.reconciles, JobSound s.history s.stagedFor job

section Mono

variable {history history' : List UploadQueueItem} {stagedFor stagedFor' : List (String × MediaRevision)}

theorem ScanSound.mono {scan : MediaScan} (h : ScanSound history stagedFor scan) (hhist : history ⊆ history')
    (hstg : stagedFor ⊆ stagedFor') : ScanSound history' stagedFor' scan where
  snapshot key record hrec := (h.snapshot key record hrec).mono hhist hstg
  new := h.new

theorem PassSound.mono {pass : ProtectPass} (h : PassSound history stagedFor pass) (hhist : history ⊆ history')
    (hstg : stagedFor ⊆ stagedFor') : PassSound history' stagedFor' pass where
  snapshot key record hrec := (h.snapshot key record hrec).mono hhist hstg
  updates entry he := ⟨(h.updates entry he).1.mono hhist hstg, (h.updates entry he).2⟩
  adding := h.adding

theorem JobSound.mono {job : ReconcileJob} (h : JobSound history stagedFor job) (hhist : history ⊆ history')
    (hstg : stagedFor ⊆ stagedFor') : JobSound history' stagedFor' job where
  item := hhist h.item
  done := h.done
  read record hrec := (h.read record hrec).mono hhist hstg

end Mono

section Steps

variable {s : MediaRegistry}

theorem registrySound_new : RegistrySound {} := by
  refine ⟨fun key record h => (by cases h), List.nil_subset _, fun scan h => absurd h List.not_mem_nil,
    fun pass h => absurd h List.not_mem_nil, fun job h => absurd h List.not_mem_nil⟩

theorem RegistrySound.scanStart (hi : RegistrySound s) :
    RegistrySound { s with scans := s.scans ++ [{ snapshot := s.records }] } :=
  { hi with
    scans := by
      refine List.forall_mem_append.2 ⟨hi.scans, List.forall_mem_singleton.2 ?_⟩
      exact ⟨fun key record h => (hi.records key record h).1, fun key record h => (by cases h)⟩ }

theorem RegistrySound.passStart (hi : RegistrySound s) (context : PassContext) (todo : List String) :
    RegistrySound { s with passes := s.passes ++ [{ context, snapshot := s.records, todo }] } :=
  { hi with
    passes := by
      refine List.forall_mem_append.2 ⟨hi.passes, List.forall_mem_singleton.2 ?_⟩
      exact ⟨fun key record h => (hi.records key record h).1, fun entry h => absurd h List.not_mem_nil,
        fun item h => (by cases h)⟩ }

theorem RegistrySound.scanPage (hi : RegistrySound s) (index : Nat) (rows : List (String × AutoSource × MediaRow)) :
    RegistrySound (s.scanPage index rows) := by
  unfold MediaRegistry.scanPage
  cases hscan : s.scans[index]? with
  | none => exact hi
  | some scan =>
    refine { hi with records := ?_, scans := ?_ }
    · intro key record hrec
      rcases putAll_cases s.records s.detected (MediaRegistry.pageRecords scan.snapshot rows) key with
        ⟨hsame, hrev⟩ | ⟨new, hmem, hput, hrev⟩
      · dsimp only at hrec ⊢
        rw [hsame] at hrec
        rw [hrev]
        exact hi.records key record hrec
      dsimp only at hrec ⊢
      rw [hput] at hrec
      cases hrec
      have hfr := fresh_pageRecords hmem
      exact ⟨hfr.sound, hrev, fun hst => absurd hst hfr.ne.2.1⟩
    · intro other ho
      rcases List.mem_or_eq_of_mem_set ho with ho | rfl
      · exact hi.scans other ho
      have hlo := hi.scans scan (List.mem_of_getElem? hscan)
      refine ⟨hlo.snapshot, fun key record hnew => ?_⟩
      dsimp only at hnew
      rcases putAll_cases scan.new s.detected (MediaRegistry.pageRecords scan.snapshot rows) key with
        ⟨hsame, -⟩ | ⟨new, hmem, hput, -⟩
      · rw [hsame] at hnew
        exact hlo.new key record hnew
      rw [hput] at hnew
      cases hnew
      exact fresh_pageRecords hmem

variable {index : Nat}

theorem RegistrySound.scanEnd (hi : RegistrySound s) {answers : ScanAnswers}
    (hg : (RegistryEvent.scanEnd index answers).Guarded s) : RegistrySound (s.scanEnd index answers) := by
  unfold MediaRegistry.scanEnd
  cases hscan : s.scans[index]? with
  | none => exact hi
  | some scan =>
    have hold := hg scan hscan
    have hlo := hi.scans scan (List.mem_of_getElem? hscan)
    refine { hi with records := ?_, scans := fun other ho => hi.scans other (List.mem_of_mem_eraseIdx ho) }
    intro key record hrec
    dsimp only at hrec ⊢
    cases hme : MediaRegistry.merged scan answers key with
    | none =>
      rw [hme, Option.none_or] at hrec
      have hsc : MediaRegistry.scanned scan answers key = none := (Option.or_eq_none_iff.1 hme).1
      rw [hsc, Option.map_none, Option.none_or]
      exact hi.records key record hrec
    | some written =>
      rw [hme, Option.some_or] at hrec
      obtain rfl := Option.some.inj hrec
      rcases merged_cases (hlo.snapshot key) hme with hsame | ⟨hsc, hsd, hst⟩
      · have hstor := hi.records key written (hold key written hsame)
        refine ⟨hstor.1, ?_, hstor.2.2⟩
        cases hsc : MediaRegistry.scanned scan answers key with
        | none => exact hstor.2.1
        | some found =>
          unfold MediaRegistry.merged at hme
          rw [hsc, Option.some_or] at hme
          rw [Option.some.inj hme]
          rfl
      · refine ⟨hsd, by rw [hsc]; rfl, fun hstg => ?_⟩
        rcases hst with hst | hst | ⟨hst, -⟩ <;> simp [hstg] at hst

theorem RegistrySound.passRecord (hi : RegistrySound s) {outcome : StageOutcome} {now : Int}
    (hg : (RegistryEvent.passRecord index outcome now).Guarded s) :
    RegistrySound (s.passRecord index outcome now) := by
  unfold MediaRegistry.passRecord
  cases hpass : s.passes[index]? with
  | none => exact hi
  | some pass =>
    have hlo := hi.passes pass (List.mem_of_getElem? hpass)
    dsimp only
    split
    · rename_i key todo hidle htodo
      split
      · refine { hi with passes := fun other ho => ?_ }
        rcases List.mem_or_eq_of_mem_set ho with ho | rfl
        · exact hi.passes other ho
        · exact ⟨hlo.snapshot, hlo.updates, hlo.adding⟩
      rename_i record hrec
      have hmade : ∀ update, (protectRecord s.queue pass.context key record outcome now).1 = some update →
          RecordSound s.history ((MediaRegistry.stagedBytes pass.context record outcome).toList.map (fun staged =>
            (AutoQueueKeys.queueItemId key staged.sha256, record.revision)) ++ s.stagedFor) update ∧
          update.status ≠ .locallyDeleted ∧ update.revision = record.revision :=
        fun _ => protectRecord_sound (hlo.snapshot key record hrec) hi.queue
          fun staged hstg existing hex => hg pass hpass key (by rw [htodo]; rfl) staged hstg existing hex
      have hadds : ∀ item, (protectRecord s.queue pass.context key record outcome now).2 = some item →
          item.status = .pending := fun _ => protectRecord_adds
      have hhist : s.history ⊆ s.history := List.Subset.refl _
      have hstagedFor := List.subset_append_right ((MediaRegistry.stagedBytes pass.context record outcome).toList.map
        fun staged => (AutoQueueKeys.queueItemId key staged.sha256, record.revision)) s.stagedFor
      refine ⟨?_, hi.queue, ?_, ?_, ?_⟩
      · intro key record hrec
        obtain ⟨hsd, hrest⟩ := hi.records key record hrec
        exact ⟨hsd.mono hhist hstagedFor, hrest⟩
      · exact fun scan hscan => (hi.scans scan hscan).mono hhist hstagedFor
      · intro other ho
        rcases List.mem_or_eq_of_mem_set ho with ho | rfl
        · exact (hi.passes other ho).mono hhist hstagedFor
        have hkept := hlo.mono hhist hstagedFor
        refine ⟨hkept.snapshot, fun entry he => ?_, hadds⟩
        rcases List.mem_append.1 he with he | he
        · exact hkept.updates entry he
        obtain ⟨made, hup, rfl⟩ := Option.map_eq_some_iff.1 (Option.mem_toList.1 he)
        obtain ⟨hsd, hst, hrev⟩ := hmade made hup
        exact ⟨hsd, hst, record, hrec, hrev⟩
      · exact fun job hjob => (hi.reconciles job hjob).mono hhist hstagedFor
    · exact hi

theorem RegistrySound.passAdd (hi : RegistrySound s) (hg : (RegistryEvent.passAdd index).Guarded s) :
    RegistrySound (s.passAdd index) := by
  unfold MediaRegistry.passAdd
  cases hpass : s.passes[index]? with
  | none => exact hi
  | some pass =>
    have hlo := hi.passes pass (List.mem_of_getElem? hpass)
    cases had : pass.adding with
    | none => simpa only [had] using hi
    | some item =>
      simp only [had]
      have hhist : s.history ⊆ item :: s.history := List.subset_cons_self _ _
      refine ⟨?_, List.cons_subset_cons item hi.queue, ?_, ?_, ?_⟩
      · intro key record hrec
        obtain ⟨hsd, hdet, hstg⟩ := hi.records key record hrec
        refine ⟨hsd.mono hhist (List.Subset.refl _), hdet, fun hst => ?_⟩
        obtain ⟨id, found, hid, hfind, hf⟩ := transferable_iff.1 (hstg hst)
        by_cases hsame : item.id = id
        · have hbind := hg pass hpass item had key record hrec hst (hsame ▸ hid)
          refine transferable_iff.2 ⟨id, item, hid, by rw [find_add, if_pos hsame], .inr ⟨?_, hbind⟩⟩
          rw [hlo.adding item had]
          rfl
        · exact transferable_iff.2 ⟨id, found, hid, by rw [find_add, if_neg hsame, hfind], hf⟩
      · exact fun scan hscan => (hi.scans scan hscan).mono hhist (List.Subset.refl _)
      · intro other ho
        rcases List.mem_or_eq_of_mem_set ho with ho | rfl
        · exact (hi.passes other ho).mono hhist (List.Subset.refl _)
        have hkept := hlo.mono hhist (List.Subset.refl _)
        exact ⟨hkept.snapshot, hkept.updates, fun item h => (by cases h)⟩
      · exact fun job hjob => (hi.reconciles job hjob).mono hhist (List.Subset.refl _)

theorem RegistrySound.passEnd (hi : RegistrySound s) (hg : (RegistryEvent.passEnd index).Guarded s) :
    RegistrySound (s.passEnd index) := by
  unfold MediaRegistry.passEnd
  cases hpass : s.passes[index]? with
  | none => exact hi
  | some pass =>
    dsimp only
    split
    · refine { hi with records := ?_, passes := fun other ho => hi.passes other (List.mem_of_mem_eraseIdx ho) }
      intro key record hrec
      dsimp only at hrec
      rcases putAll_cases s.records s.detected pass.updates key with ⟨hsame, -⟩ | ⟨update, hmem, hput, -⟩
      · rw [hsame] at hrec
        exact hi.records key record hrec
      rw [hput] at hrec
      cases hrec
      obtain ⟨hsd, -, before, hbef, hrev⟩ := (hi.passes pass (List.mem_of_getElem? hpass)).updates _ hmem
      obtain ⟨hstor, htr⟩ := hg pass hpass _ hmem
      refine ⟨hsd, ?_, htr⟩
      rw [hrev]
      exact (hi.records key before (hstor.trans hbef)).2.1
    · exact hi

theorem RegistrySound.queueWrite (hi : RegistrySound s) {load : Nat} {write : ItemWrite} {now : Int}
    (hg : (RegistryEvent.queueWrite load write now).Guarded s) : RegistrySound (s.queueWrite load write now) := by
  unfold MediaRegistry.queueWrite
  cases hcopy : s.history[load]? with
  | none => exact hi
  | some copy =>
    have hhist : s.history ⊆ write.apply now copy :: s.history := List.subset_cons_self _ _
    refine ⟨?_, ?_, ?_, ?_, ?_⟩
    · intro key record hrec
      obtain ⟨hsd, hdet, hstg⟩ := hi.records key record hrec
      refine ⟨hsd.mono hhist (List.Subset.refl _), hdet, fun hst => ?_⟩
      obtain ⟨id, item, hid, hfind, hitem⟩ := transferable_iff.1 (hstg hst)
      rcases find_store_update s.queue (write.apply now copy) id with hsame | ⟨hcopyId, hwr, hre⟩
      · exact transferable_iff.2 ⟨id, item, hid, hsame.trans hfind, hitem⟩
      rw [ItemWrite.apply_id] at hcopyId
      refine transferable_iff.2 ⟨id, write.apply now copy, hid, hwr, ?_⟩
      rw [ItemWrite.apply_binding]
      rcases hg copy hcopy key record hrec hst (hid.trans (congrArg some hcopyId)) with
        ⟨durable, hdu, hdone⟩ | hcomp | ⟨hcan, hbind⟩
      · rw [hcopyId, hdu, Option.any_some] at hre
        left
        by_contra hnot
        simp [refuses, hdone, hnot] at hre
      · exact .inl (ItemWrite.apply_completes now hcomp)
      · exact (ItemWrite.apply_status now hcan).imp_right fun hterm => ⟨hterm, hbind⟩
    · intro it hit
      rcases mem_store_update hit with ⟨hit, -⟩ | ⟨rfl, -⟩
      · exact .tail _ (hi.queue hit)
      · exact .head _
    · exact fun scan hscan => (hi.scans scan hscan).mono hhist (List.Subset.refl _)
    · exact fun pass hpass => (hi.passes pass hpass).mono hhist (List.Subset.refl _)
    · have hjobs : ∀ job ∈ s.reconciles, JobSound (write.apply now copy :: s.history) s.stagedFor job :=
        fun job hjob => (hi.reconciles job hjob).mono hhist (List.Subset.refl _)
      intro job hjob
      dsimp only at hjob
      split at hjob
      · rename_i hdone
        rcases List.mem_append.1 hjob with hjob | hjob
        · exact hjobs job hjob
        · rw [List.mem_singleton.1 hjob]
          exact ⟨.head _, hdone, fun record h => (by cases h)⟩
      · exact hjobs job hjob

theorem RegistrySound.reconcileRead (hi : RegistrySound s) (index : Nat) : RegistrySound (s.reconcileRead index) := by
  unfold MediaRegistry.reconcileRead
  cases hjob : s.reconciles[index]? with
  | none => exact hi
  | some job =>
    obtain ⟨hitem, hdone, -⟩ := hi.reconciles job (List.mem_of_getElem? hjob)
    dsimp only
    split
    · rename_i receipt record hrcpt hrec
      obtain ⟨identity, -, hstor⟩ := Option.bind_eq_some_iff.1 hrec
      refine { hi with reconciles := fun other ho => ?_ }
      rcases List.mem_or_eq_of_mem_set ho with ho | rfl
      · exact hi.reconciles other ho
      refine ⟨hitem, hdone, fun read hread => ?_⟩
      rw [← Option.some.inj hread]
      exact (hi.records identity record hstor).1
    · exact { hi with reconciles := fun other ho => hi.reconciles other (List.mem_of_mem_eraseIdx ho) }

variable {record : MediaRecord}

theorem reconciled_cases {history : List UploadQueueItem} {stagedFor : List (String × MediaRevision)} {item : UploadQueueItem}
    {receipt : UploadReceipt} (hrec : RecordSound history stagedFor record) (hitem : item ∈ history)
    (hdone : item.status = .done) (hrcpt : item.receipt = some receipt) :
    RecordSound history stagedFor (MediaRegistry.reconciled item receipt record) ∧
      (MediaRegistry.reconciled item receipt record).revision = record.revision ∧
      ((MediaRegistry.reconciled item receipt record).status = .isProtected ∨
        (MediaRegistry.reconciled item receipt record).status = record.status ∧
          (MediaRegistry.reconciled item receipt record).queueItemId = record.queueItemId) := by
  unfold MediaRegistry.reconciled
  split
  · exact ⟨hrec, rfl, .inr ⟨rfl, rfl⟩⟩
  split
  · exact ⟨⟨hrec.staged, hrec.uploaded⟩, rfl, .inr ⟨rfl, rfl⟩⟩
  · rename_i hid
    have hlink := not_not.1 hid
    refine ⟨⟨fun id h => hrec.staged id (hlink.trans h), fun _ => ⟨item, hitem, hdone, ?_, rfl, rfl⟩⟩, rfl, .inl rfl⟩
    rw [hrcpt]
    rfl

/-- The record of a finished upload, when the store has it as it was read. -/
theorem RegistrySound.reconcileWrite (hi : RegistrySound s)
    (hg : (RegistryEvent.reconcileWrite index).Guarded s) : RegistrySound (s.reconcileWrite index) := by
  unfold MediaRegistry.reconcileWrite
  cases hjob : s.reconciles[index]? with
  | none => exact hi
  | some job =>
    obtain ⟨hitem, hdone, hread⟩ := hi.reconciles job (List.mem_of_getElem? hjob)
    dsimp only
    split
    · rename_i receipt identity record hrcpt hide hrec
      have hstor := hg job hjob record hrec identity hide
      obtain ⟨hsd, hrev, hst⟩ := reconciled_cases (hread record hrec) hitem hdone hrcpt
      refine { hi with
        records := ?_, reconciles := fun other ho => hi.reconciles other (List.mem_of_mem_eraseIdx ho) }
      intro key found hf
      rcases Table.of_put hf with ⟨rfl, rfl⟩ | ⟨-, hf⟩
      · obtain ⟨-, hdet, hstg⟩ := hi.records _ record hstor
        refine ⟨hsd, hdet.trans (congrArg some hrev.symm), fun hst' => ?_⟩
        rcases hst with hst | ⟨hst, hid⟩
        · rw [hst] at hst'
          cases hst'
        have htr := hstg (hst.symm.trans hst')
        unfold transferable at htr ⊢
        rw [hid]
        exact htr
      · exact hi.records key found hf
    · exact hi

theorem RegistrySound.remove (hi : RegistrySound s) {itemId : String} (hg : (RegistryEvent.remove itemId).Guarded s) :
    RegistrySound { s with queue := UploadQueueStore.remove s.queue itemId } := by
  refine { hi with records := ?_, queue := fun it hit => hi.queue (List.mem_filter.1 hit).1 }
  intro key record hrec
  obtain ⟨hsd, hdet, hstg⟩ := hi.records key record hrec
  refine ⟨hsd, hdet, fun hst => ?_⟩
  obtain ⟨id, item, hid, hfind, hitem⟩ := transferable_iff.1 (hstg hst)
  have hne : id ≠ itemId := by
    rintro rfl
    exact hg key record hrec hst hid
  exact transferable_iff.2 ⟨id, item, hid, (find_remove hne).trans hfind, hitem⟩

theorem RegistrySound.pair (hi : RegistrySound s) {registration : Option Registration}
    (hg : (RegistryEvent.pair registration).Guarded s) : RegistrySound { s with registration := registration } := by
  refine { hi with records := ?_ }
  intro key record hrec
  obtain ⟨hsd, hdet, hstg⟩ := hi.records key record hrec
  refine ⟨hsd, hdet, fun hst => ?_⟩
  obtain ⟨id, item, hid, hfind, hitem⟩ := transferable_iff.1 (hstg hst)
  refine transferable_iff.2 ⟨id, item, hid, hfind, ?_⟩
  rcases hg key record hrec hst item (Option.bind_eq_some_iff.2 ⟨id, hid, hfind⟩) with hdone | hbind
  · exact .inl hdone
  · exact hitem.imp_right fun h => ⟨h.1, hbind⟩

theorem RegistrySound.step (hi : RegistrySound s) {event : RegistryEvent} (hg : event.Guarded s) :
    RegistrySound (s.step event) := by
  cases event with
  | scanStart => exact hi.scanStart
  | scanPage index rows => exact hi.scanPage index rows
  | scanEnd index answers => exact hi.scanEnd hg
  | passStart context todo => exact hi.passStart context todo
  | passRecord index outcome now => exact hi.passRecord hg
  | passAdd index => exact hi.passAdd hg
  | passEnd index => exact hi.passEnd hg
  | queueWrite load write now => exact hi.queueWrite hg
  | reconcileRead index => exact hi.reconcileRead index
  | reconcileWrite index => exact hi.reconcileWrite hg
  | remove itemId => exact hi.remove hg
  | pair registration => exact hi.pair hg
  | restart =>
    exact { hi with
      scans := fun scan h => absurd h List.not_mem_nil
      passes := fun pass h => absurd h List.not_mem_nil
      reconciles := fun job h => absurd h List.not_mem_nil }

theorem RegistrySound.honest (hi : RegistrySound s) : s.Honest where
  uploaded key record hrec hst := by
    obtain ⟨hsd, hdet, -⟩ := hi.records key record hrec
    exact ⟨hdet, hsd.uploads hst⟩
  staged key record hrec hst := .inl ((hi.records key record hrec).2.2 hst)

variable {key : String}

theorem loaded_of_protected {scan : MediaScan}
    (hnew : ∀ record, scan.new key = some record → Fresh record) (h : (scan.new key).or (scan.snapshot key) = some record)
    (hst : record.status = .isProtected) : scan.snapshot key = some record := by
  cases hkey : scan.new key with
  | none =>
    rw [hkey, Option.none_or] at h
    exact h
  | some fresh =>
    rw [hkey, Option.some_or] at h
    cases h
    exact absurd hst (hnew _ hkey).ne.1

theorem read_of_merged {scan : MediaScan} {answers : ScanAnswers}
    (h : MediaRegistry.merged scan answers key = some record) :
    ∃ before, (scan.new key).or (scan.snapshot key) = some before := by
  rw [← Option.isSome_iff_exists]
  by_contra hnone
  obtain ⟨hnew, hsnap⟩ := Option.or_eq_none_iff.1 (Option.not_isSome_iff_eq_none.1 hnone)
  simp [MediaRegistry.merged, MediaRegistry.scanned, hnew, hsnap] at h

theorem RegistrySound.deleted (hi : RegistrySound s) {event : RegistryEvent} (hg : event.Guarded s)
    (hrec : (s.step event).records key = some record) (hst : record.status = .locallyDeleted) :
    ∃ before, s.records key = some before ∧ (before.status = .locallyDeleted ∨ before.status = .isProtected) := by
  have hsame : s.records key = some record → ∃ before, s.records key = some before ∧
      (before.status = .locallyDeleted ∨ before.status = .isProtected) := fun h => ⟨record, h, .inl hst⟩
  cases event with
  | scanStart | passStart | remove | pair | restart => exact hsame hrec
  | scanPage index rows =>
    simp only [MediaRegistry.step, MediaRegistry.scanPage] at hrec
    split at hrec
    · exact hsame hrec
    rename_i scan hscan
    rcases putAll_cases s.records s.detected (MediaRegistry.pageRecords scan.snapshot rows) key with
      ⟨hput, -⟩ | ⟨new, hmem, hput, -⟩
    · exact hsame (hput.symm.trans hrec)
    · obtain rfl := Option.mem_unique hput hrec
      exact absurd hst (fresh_pageRecords hmem).ne.2.2
  | scanEnd index answers =>
    simp only [MediaRegistry.step, MediaRegistry.scanEnd] at hrec
    split at hrec
    · exact hsame hrec
    rename_i scan hscan
    have hold := hg scan hscan key
    cases hme : MediaRegistry.merged scan answers key with
    | none =>
      dsimp only at hrec
      rw [hme, Option.none_or] at hrec
      exact hsame hrec
    | some written =>
      dsimp only at hrec
      rw [hme, Option.some_or] at hrec
      obtain rfl := Option.some.inj hrec
      rcases merged_cases ((hi.scans scan (List.mem_of_getElem? hscan)).snapshot key) hme with
        hread | ⟨-, -, hrc | hrc | ⟨-, hnew, before, hbef, hprot⟩⟩
      · exact hsame (hold written hread)
      · simp [hst] at hrc
      · simp [hst] at hrc
      · exact ⟨before, hold before (by rw [hnew, Option.none_or, hbef]), .inr hprot⟩
  | passRecord index outcome now =>
    simp only [MediaRegistry.step, MediaRegistry.passRecord] at hrec
    split at hrec
    · exact hsame hrec
    split at hrec
    · split at hrec <;> exact hsame hrec
    · exact hsame hrec
  | passAdd index =>
    simp only [MediaRegistry.step, MediaRegistry.passAdd] at hrec
    split at hrec
    · exact hsame hrec
    · split at hrec <;> exact hsame hrec
  | passEnd index =>
    simp only [MediaRegistry.step, MediaRegistry.passEnd] at hrec
    split at hrec
    · exact hsame hrec
    rename_i pass hpass
    split at hrec
    · rcases putAll_cases s.records s.detected pass.updates key with ⟨hput, -⟩ | ⟨update, hmem, hput, -⟩
      · exact hsame (hput.symm.trans hrec)
      · obtain rfl := Option.mem_unique hput hrec
        exact absurd hst ((hi.passes pass (List.mem_of_getElem? hpass)).updates _ hmem).2.1
    · exact hsame hrec
  | queueWrite load write now =>
    simp only [MediaRegistry.step, MediaRegistry.queueWrite] at hrec
    split at hrec <;> exact hsame hrec
  | reconcileRead index =>
    simp only [MediaRegistry.step, MediaRegistry.reconcileRead] at hrec
    split at hrec
    · exact hsame hrec
    · split at hrec <;> exact hsame hrec
  | reconcileWrite index =>
    simp only [MediaRegistry.step, MediaRegistry.reconcileWrite] at hrec
    split at hrec
    · exact hsame hrec
    rename_i job hjob
    split at hrec
    · rename_i receipt identity read hrcpt hid hread
      obtain ⟨hitem, hdone, hsd⟩ := hi.reconciles job (List.mem_of_getElem? hjob)
      rcases Table.of_put hrec with ⟨rfl, rfl⟩ | ⟨-, hrec⟩
      · obtain ⟨-, -, hrc⟩ := reconciled_cases (hsd read hread) hitem hdone hrcpt
        refine ⟨read, hg job hjob read hread _ hid, ?_⟩
        rcases hrc with hprot | ⟨hsame, -⟩
        · simp [hst] at hprot
        · exact .inl (hsame.symm.trans hst)
      · exact hsame hrec
    · exact hsame hrec

theorem RegistrySound.kept (hi : RegistrySound s) {event : RegistryEvent} (hg : event.Guarded s)
    (hrec : s.records key = some record) (hst : record.status = .isProtected)
    (hou : event.Outdated s key record) : (s.step event).records key = some record := by
  cases event with
  | scanPage index rows =>
    obtain ⟨scan, hscan, hnot⟩ := hou
    simp only [MediaRegistry.step, MediaRegistry.scanPage, hscan]
    rcases putAll_cases s.records s.detected (MediaRegistry.pageRecords scan.snapshot rows) key with
      ⟨hput, -⟩ | ⟨new, hmem, -⟩
    · exact hput.trans hrec
    · have hread := (hg scan hscan _ hmem).symm.trans hrec
      exact absurd (loaded_of_protected ((hi.scans scan (List.mem_of_getElem? hscan)).new key) hread hst) hnot
  | scanEnd index answers =>
    obtain ⟨scan, hscan, hnot⟩ := hou
    simp only [MediaRegistry.step, MediaRegistry.scanEnd, hscan]
    cases hme : MediaRegistry.merged scan answers key with
    | none => exact hrec
    | some written =>
      obtain ⟨before, hread⟩ := read_of_merged hme
      obtain rfl := Table.unique hrec (hg scan hscan key before hread)
      exact absurd (loaded_of_protected ((hi.scans scan (List.mem_of_getElem? hscan)).new key) hread hst) hnot
  | passEnd index =>
    obtain ⟨pass, hpass, hnot⟩ := hou
    simp only [MediaRegistry.step, MediaRegistry.passEnd, hpass]
    split
    · rcases putAll_cases s.records s.detected pass.updates key with ⟨hput, -⟩ | ⟨update, hmem, -⟩
      · exact hput.trans hrec
      · exact absurd ((hg pass hpass _ hmem).1.symm.trans hrec) hnot
    · exact hrec
  | scanStart | passStart | passRecord | passAdd | queueWrite | reconcileRead | reconcileWrite | remove | pair | restart =>
    cases hou

/-- In every run whose commits find the records as they were read, and in which no upload is taken away from a staged record,
the registry is honest throughout. -/
theorem registry_stays_honest {events : List RegistryEvent}
    (h : Always MediaRegistry.step (fun s event => event.Guarded s) {} events) :
    (run MediaRegistry.step {} events).Honest ∧
      Always MediaRegistry.step (fun s event => s.Honest ∧ event.Keeps s) {} events := by
  have hstep : ∀ s event, RegistrySound s → event.Guarded s → RegistrySound (s.step event) :=
    fun s event hi hg => hi.step hg
  refine ⟨(h.invariant registrySound_new hstep).honest, h.of_invariant registrySound_new hstep fun s event hi hg => ?_⟩
  exact ⟨hi.honest, ⟨fun key record => hi.deleted hg, fun key record => hi.kept hg⟩⟩

end Steps

/-! ### One picture -/

def pictureKey : String := "images:1@external_primary"

def cameraRow : MediaRow where
  mediaId := 1
  uri := "content://media/external_primary/images/media/1"
  displayName := "IMG.jpg"
  sizeBytes := some 3
  mimeType := some "image/jpeg"
  relativePath := some "DCIM/Camera/"
  dataPath := none
  dateAddedSeconds := 101
  dateModifiedSeconds := some 100

def cameraContext : PassContext where
  origin := "https://lama.example"
  hostId := "phone"
  destination := some { id := "camera", relPath := "Camera" }

def cameraBytes : StagedBytes where
  fileName := "staged-1"
  sizeBytes := 3
  sha256 := "ba7816bf8f01cfea414140de5dae2223b00361a396177a9cb410ff61f20015ad"

def cameraReceipt : UploadReceipt where
  uploadId := "upload-1"
  fileName := "IMG.jpg"
  finalRelPath := "Camera/IMG.jpg"
  browsePath := "/Camera/IMG.jpg"
  browseFolderId := none
  sizeBytes := 3
  sha256 := cameraBytes.sha256
  finalizedAtEpochMillis := 2000

/-- The row of the picture is there, as it was. -/
def cameraAnswers : ScanAnswers where
  reached := fun _ => true
  scope := fun _ => .full
  completed := fun _ => true
  found := fun _ => some { sizeBytes := some 3, dateModifiedSeconds := some 100 }

def stagedRun : List RegistryEvent :=
  [.pair (some { origin := "https://lama.example", hostId := "phone" }), .scanStart,
    .scanPage 0 [(pictureKey, .cameraPhotos, cameraRow)], .scanEnd 0 cameraAnswers, .passStart cameraContext [pictureKey],
    .passRecord 0 (.ok cameraBytes) 1000, .passAdd 0, .passEnd 0]

def linkedRun : List RegistryEvent := [.queueWrite 0 (.completed cameraReceipt) 2000, .reconcileRead 0, .reconcileWrite 0]

def rescannedRun : List RegistryEvent := stagedRun ++ .scanStart :: linkedRun

def abandonedRun : List RegistryEvent :=
  stagedRun ++ [.queueWrite 0 .cancelled 2000, .remove (AutoQueueKeys.queueItemId pictureKey cameraBytes.sha256)]

theorem registry_stays_honest_linked :
    ((run MediaRegistry.step {} (stagedRun ++ linkedRun)).records pictureKey).any (fun record =>
        record.status = .isProtected) = true ∧
      (run MediaRegistry.step {} (stagedRun ++ linkedRun)).Honest ∧
      Always MediaRegistry.step (fun s event => s.Honest ∧ event.Keeps s) {} (stagedRun ++ linkedRun) := by
  refine ⟨by decide +kernel, registry_stays_honest ?_⟩
  have hf : Always MediaRegistry.step (fun s event => event.Guarded s) {} (stagedRun.take 6) := by
    refine ⟨fun key record h => (by cases h), trivial, ?_, ?_, trivial, ?_, trivial⟩
    · show ∀ scan ∈ _, ∀ entry ∈ MediaRegistry.pageRecords _ _, _ = _
      decide +kernel
    · intro scan hscan key record hread
      obtain rfl := Option.some.inj (Option.mem_def.1 hscan)
      exact Option.or_none.symm.trans hread
    · intro pass hpass key hkey staged hstg existing hex
      cases hex
  change Always _ _ _ (stagedRun.take 6 ++ (stagedRun.drop 6 ++ linkedRun))
  refine always_append.2 ⟨hf, ?_, ?_, ?_, trivial, ?_, trivial⟩
  · -- the queue is still empty, so no record of the store is staged
    have hi := hf.invariant registrySound_new fun s event hi hg => hi.step hg
    intro pass _ item _ key record hrec hst _
    obtain ⟨id, found, -, hfind, -⟩ := transferable_iff.1 ((hi.records key record hrec).2.2 hst)
    cases hfind
  · show ∀ pass ∈ _, ∀ entry ∈ _, _ ∧ _
    decide +kernel
  · intro copy hcopy key record _ _ _
    exact .inr (.inl rfl)
  · show ∀ job ∈ _, ∀ record ∈ _, ∀ identity ∈ _, _ = _
    decide +kernel

theorem not_stagedAgain {queue : List UploadQueueItem} {key : String} {record : MediaRecord} (h : record.status = .staged) :
    ¬ StagedAgain queue key record := by
  intro hag
  have hstg := hag cameraContext cameraBytes 0 rfl
  unfold protectRecord at hstg
  simp only [h] at hstg
  split at hstg
  · split at hstg
    · split at hstg <;> simp at hstg
    · simp at hstg
  · simp at hstg

/-- A scan that has loaded the record as staged overwrites it after its upload was linked, and a staged record whose upload was
cancelled and removed is stuck. -/
theorem scan_overwrites_protected :
    ¬ (RegistryEvent.scanEnd 0 cameraAnswers).Keeps (run MediaRegistry.step {} rescannedRun) ∧
      ¬ (run MediaRegistry.step {} abandonedRun).Honest := by
  have hruns :
      ((run MediaRegistry.step {} rescannedRun).records pictureKey).any (fun record => record.status = .isProtected) = true ∧
      ((run MediaRegistry.step {} rescannedRun).scans[0]?.any fun scan =>
        decide (scan.snapshot pictureKey ≠ (run MediaRegistry.step {} rescannedRun).records pictureKey)) = true ∧
      (((run MediaRegistry.step {} rescannedRun).step (.scanEnd 0 cameraAnswers)).records pictureKey).any (fun record =>
        record.status = .isProtected) = false ∧
      ((run MediaRegistry.step {} abandonedRun).records pictureKey).any (fun record => record.status = .staged &&
        !transferable (run MediaRegistry.step {} abandonedRun).queue (run MediaRegistry.step {} abandonedRun).registration
          record) = true := by
    decide +kernel
  obtain ⟨hprot, hsc, hwr, hstu⟩ := hruns
  constructor
  · intro hkp
    obtain ⟨record, hrec, hst⟩ := (Option.any_eq_true _ _).1 hprot
    obtain ⟨scan, hscan, hlo⟩ := (Option.any_eq_true _ _).1 hsc
    rw [hrec] at hlo
    rw [hkp.kept pictureKey record hrec (of_decide_eq_true hst) ⟨scan, hscan, of_decide_eq_true hlo⟩,
      Option.any_some, hst] at hwr
    cases hwr
  · intro hho
    obtain ⟨record, hrec, hrest⟩ := (Option.any_eq_true _ _).1 hstu
    rw [Bool.and_eq_true, Bool.not_eq_true', decide_eq_true_eq] at hrest
    rcases hho.staged pictureKey record hrec hrest.1 with htr | hag
    · rw [hrest.2] at htr
      cases htr
    · exact not_stagedAgain hrest.1 hag

end LamaSync
