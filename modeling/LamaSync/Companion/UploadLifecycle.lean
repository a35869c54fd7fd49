import LamaSync.Companion.UploadQueue
import LamaSync.Lib.Trace

/-!
# The life of a queue item

The transfer worker, the user and the synchronisation of cancellations each load an item, go to the server and write a
whole item back.  A completed item stays completed, and a cancelled one changes by the server's word alone.  The server's
id of an upload is lost, though, with every write of a copy that was loaded before the id was recorded, and an upload
whose id is lost is cancelled on the server by nobody (`upload_items_settle`).
-/

namespace LamaSync

open Rows Trace UploadQueueStore

inductive ServerUploadStatus where
  | receiving | cancelled | finalized
  deriving DecidableEq

structure ServerUpload where
  id : String
  itemId : String
  status : ServerUploadStatus
  deriving DecidableEq

structure HeldCopy where
  item : UploadQueueItem
  owed : List String

structure QueueSystem where
  items : List UploadQueueItem
  held : Nat → Option HeldCopy
  uploads : List ServerUpload
  owed : List (String × String)

def QueueSystem.new : QueueSystem := ⟨[], fun _ => none, [], []⟩

/-- What can happen.  A number names the job that acts. -/
inductive QueueEvent where
  /-- A manual item is added, with the id that `UUID.randomUUID()` returned. -/
  | intake (item : UploadQueueItem)
  | looksFor (job : Nat) (item : UploadQueueItem)
  | adds (job : Nat)
  | loads (job : Nat) (itemId : String)
  /-- The process dies. -/
  | restart
  | blocks (job : Nat) (error : String) (now : Int)
  | fails (job : Nat) (error : String) (now : Int)
  | creates (job : Nat) (uploadId : String)
  /-- The progress callback, with the answer to the creation and to a chunk. -/
  | records (job : Nat) (uploadId : String) (bytesReceived : Nat) (now : Int)
  | progresses (job : Nat) (uploadId serverStatus : String) (bytesReceived : Nat) (now : Int)
  | renames (job : Nat) (displayName idempotencyKey : String) (attempts : Nat) (now : Int)
  | finalizes (uploadId : String)
  | completes (job : Nat) (uploadId : String) (receipt : UploadReceipt) (now : Int)
  | cancels (job : Nat) (now : Int)
  | cancelsRemotely (job : Nat)
  /-- `api.cancel`, of `syncServerCancellations`. -/
  | sync (job : Nat) (registration : Option Registration)
  /-- The answer to `api.cancel` says that the upload is finalized. -/
  | reconciles (job : Nat) (receipt : Option UploadReceipt) (bytesReceived : Nat) (now : Int)
  | retries (job : Nat) (now : Int)
  | removes (job : Nat)

def QueueEvent.write : QueueEvent → Option (Nat × ItemWrite × Int)
  | blocks job error now => some (job, .blocked error, now)
  | fails job error now => some (job, .failed error, now)
  | records job uploadId bytes now => some (job, .created uploadId bytes, now)
  | progresses job uploadId status bytes now => some (job, .progressed uploadId status bytes, now)
  | renames job name key attempts now => some (job, .renamed name key attempts, now)
  | completes job _ receipt now => some (job, .completed receipt, now)
  | cancels job now => some (job, .cancelled, now)
  | reconciles job receipt bytes now => some (job, .finalizedLate receipt bytes, now)
  | retries job now => some (job, .retried, now)
  | _ => none

namespace QueueSystem

variable (s : QueueSystem)

def isFinalized (uploadId : String) : Bool := s.uploads.any fun up => up.id == uploadId && up.status = .finalized

def isFinalizedFor (itemId uploadId : String) : Bool :=
  s.uploads.any fun up => up.id == uploadId && up.itemId == itemId && up.status = .finalized

def confirmed (item : UploadQueueItem) : QueueEvent → Bool
  | .completes _ uploadId _ _ => s.isFinalizedFor item.id uploadId
  | .reconciles .. => item.serverUploadId.any s.isFinalized
  | _ => true

def written (e : QueueEvent) : Option UploadQueueItem :=
  e.write.bind fun (job, write, now) => ((s.held job).filter fun c =>
    write.permitted s.items c.item && s.confirmed c.item e).map fun c => write.apply now c.item

def answered : QueueEvent → Option String
  | .completes _ uploadId _ _ => some uploadId
  | .reconciles job _ _ _ => (s.held job).bind fun c => c.item.serverUploadId
  | _ => none

def openUploads (itemId : String) : List String :=
  (s.uploads.filter fun up => up.itemId == itemId && up.status = .receiving).map ServerUpload.id

def cancelUpload (uploadId : Option String) : List ServerUpload :=
  Rows.update s.uploads (fun up => uploadId == some up.id && up.status = .receiving) fun up =>
    { up with status := .cancelled }

def syncs (registration : Option Registration) (item : UploadQueueItem) : Bool :=
  item.status = .cancelled && item.serverUploadId.isSome && bindingMatches item registration

def stepItems (e : QueueEvent) : List UploadQueueItem :=
  match s.written e with
  | some item => UploadQueueStore.update s.items item
  | none =>
    match e with
    | .intake item => add s.items item
    | .adds job => match s.held job with
      | some c => add s.items c.item
      | none => s.items
    | .removes job => match s.held job with
      | some c =>
        if c.item.status = .pending ∨ c.item.status = .uploading ∨ c.item.status = .waiting then s.items
        else remove s.items c.item.id
      | none => s.items
    | _ => s.items

def stepHeld : QueueEvent → Nat → Option HeldCopy
  | .looksFor job item =>
    if (find s.items item.id).isSome then s.held else Function.update s.held job (some ⟨item, []⟩)
  | .adds job => Function.update s.held job none
  | .loads job itemId => Function.update s.held job ((find s.items itemId).map fun item =>
      ⟨item, (s.owed.filter fun o => o.1 == itemId).map Prod.snd⟩)
  | .restart => fun _ => none
  | .renames job name key attempts now => Function.update s.held job ((s.held job).map fun c =>
      { c with item := c.item.renamed now name key attempts })
  | _ => s.held

def stepUploads : QueueEvent → List ServerUpload
  | .creates job uploadId => match s.held job with
    | some c =>
      if s.uploads.any fun up => up.id == uploadId then s.uploads
      else s.uploads ++ [⟨uploadId, c.item.id, .receiving⟩]
    | none => s.uploads
  | .finalizes uploadId =>
    Rows.update s.uploads (fun up => up.id == uploadId && up.status = .receiving) fun up => { up with status := .finalized }
  | .cancelsRemotely job => s.cancelUpload ((s.held job).bind fun c => c.item.serverUploadId)
  | .sync job registration =>
    s.cancelUpload (((s.held job).filter fun c => syncs registration c.item).bind fun c => c.item.serverUploadId)
  | _ => s.uploads

def stepOwed : QueueEvent → List (String × String)
  | .cancels job _ => match s.held job with
    | some c =>
      if c.item.status ≠ .done ∧ (find s.items c.item.id).any fun old => !old.status.isTerminal then
        s.owed ++ (s.openUploads c.item.id).map fun u => (c.item.id, u)
      else s.owed
    | none => s.owed
  | .removes job => match s.held job with
    | some c =>
      if c.item.status = .pending ∨ c.item.status = .uploading ∨ c.item.status = .waiting then s.owed
      else s.owed.filter fun o => o.1 ≠ c.item.id
    | none => s.owed
  | _ => s.owed

def step (e : QueueEvent) : QueueSystem where
  items := s.stepItems e
  held := s.stepHeld e
  uploads := s.stepUploads e
  owed := s.stepOwed e

end QueueSystem

def UploadSettled (uploads : List ServerUpload) (uploadId : String) : Prop :=
  ∀ up ∈ uploads, up.id = uploadId → up.status ≠ .receiving

structure LifecycleHolds (s : QueueSystem) (e : QueueEvent) : Prop where
  unique : ((s.step e).items.map UploadQueueItem.id).Nodup
  done : ∀ it ∈ s.items, it.status = .done → ∀ it' ∈ (s.step e).items, it'.id = it.id → it'.status = .done
  cancelled : ∀ it ∈ s.items, it.status = .cancelled → ∀ it' ∈ (s.step e).items, it'.id = it.id →
    it'.status = .cancelled ∨ it'.status = .done ∧ ∃ up ∈ s.uploads, s.answered e = some up.id ∧ up.status = .finalized
  kept : ∀ it ∈ s.items, ∀ u, it.serverUploadId = some u → ∀ it' ∈ (s.step e).items, it'.id = it.id →
    it'.serverUploadId = some u
  settled : ∀ job registration c, e = .sync job registration → s.held job = some c → c.item.status = .cancelled →
    bindingMatches c.item registration = true → ∀ u ∈ c.owed, UploadSettled (s.step e).uploads u

def QueueSystem.addedId (s : QueueSystem) : QueueEvent → Option String
  | .intake item => some item.id
  | .adds job => (s.held job).map fun c => c.item.id
  | _ => none

def QueueSystem.cancelledCopy (s : QueueSystem) : QueueEvent → Option HeldCopy
  | .cancels job _ => s.held job
  | _ => none

structure KeepsUploadIds (s : QueueSystem) (e : QueueEvent) : Prop where
  added : ∀ itemId ∈ s.addedId e, find s.items itemId = none
  writes : ∀ item ∈ s.written e, ∀ old ∈ find s.items item.id, refuses old item = false →
    old.serverUploadId = none ∨ item.serverUploadId = old.serverUploadId
  cancels : ∀ c ∈ s.cancelledCopy e, ∀ old ∈ find s.items c.item.id, old.status.isTerminal = false →
    ∀ u ∈ s.openUploads c.item.id, old.serverUploadId = some u

instance (s : QueueSystem) (e : QueueEvent) : Decidable (KeepsUploadIds s e) :=
  decidable_of_iff
    ((∀ itemId ∈ s.addedId e, find s.items itemId = none) ∧
      (∀ item ∈ s.written e, ∀ old ∈ find s.items item.id, refuses old item = false →
        old.serverUploadId = none ∨ item.serverUploadId = old.serverUploadId) ∧
      ∀ c ∈ s.cancelledCopy e, ∀ old ∈ find s.items c.item.id, old.status.isTerminal = false →
        ∀ u ∈ s.openUploads c.item.id, old.serverUploadId = some u)
    ⟨fun h => ⟨h.1, h.2.1, h.2.2⟩, fun h => ⟨h.added, h.writes, h.cancels⟩⟩

structure LifecycleInv (s : QueueSystem) : Prop where
  ids : (s.items.map UploadQueueItem.id).Nodup
  present : ∀ o ∈ s.owed, ∃ it ∈ s.items, it.id = o.1
  exist : ∀ o ∈ s.owed, ∃ up ∈ s.uploads, up.id = o.2
  terminal : ∀ o ∈ s.owed, ∀ it ∈ s.items, it.id = o.1 → it.status.isTerminal = true
  recorded : ∀ o ∈ s.owed, ∀ it ∈ s.items, it.id = o.1 → it.status = .cancelled →
    it.serverUploadId = some o.2 ∨ UploadSettled s.uploads o.2
  held : ∀ job c, s.held job = some c → ∀ u ∈ c.owed, (∃ up ∈ s.uploads, up.id = u) ∧
    (c.item.status = .cancelled → c.item.serverUploadId = some u ∨ UploadSettled s.uploads u)

section Steps

variable {s : QueueSystem} {e : QueueEvent}

private theorem ul_uploads : (∀ up ∈ s.uploads, ∃ up' ∈ s.stepUploads e, up'.id = up.id) ∧
    ∀ u, (∃ up ∈ s.uploads, up.id = u) → UploadSettled s.uploads u → UploadSettled (s.stepUploads e) u := by
  have hsame : (∀ up ∈ s.uploads, ∃ up' ∈ s.uploads, up'.id = up.id) ∧
      ∀ u, (∃ up ∈ s.uploads, up.id = u) → UploadSettled s.uploads u → UploadSettled s.uploads u :=
    ⟨fun up hup => ⟨up, hup, rfl⟩, fun _ _ h => h⟩
  have hupd : ∀ (guard : ServerUpload → Bool) (status : ServerUploadStatus), status ≠ .receiving →
      (∀ up ∈ s.uploads, ∃ up' ∈ Rows.update s.uploads guard fun up => { up with status := status }, up'.id = up.id) ∧
      ∀ u, (∃ up ∈ s.uploads, up.id = u) → UploadSettled s.uploads u →
        UploadSettled (Rows.update s.uploads guard fun up => { up with status := status }) u := by
    intro guard status hst
    refine ⟨fun up hup => ⟨_, mem_update_of_mem hup, by split <;> rfl⟩, fun u _ hsett up' hup' hid => ?_⟩
    obtain ⟨up, hup, rfl⟩ := mem_update.1 hup'
    by_cases hg : guard up = true
    · simpa [hg] using hst
    · rw [if_neg hg] at hid ⊢
      exact hsett up hup hid
  cases e with
  | creates job uploadId =>
    simp only [QueueSystem.stepUploads]
    split
    · split
      · exact hsame
      · rename_i hnew
        refine ⟨fun up hup => ⟨up, List.mem_append_left _ hup, rfl⟩, fun u hex hsett up hup hid => ?_⟩
        rcases List.mem_append.1 hup with hup | hup
        · exact hsett up hup hid
        obtain rfl := List.mem_singleton.1 hup
        obtain ⟨old, hold, hido⟩ := hex
        exact absurd (List.any_eq_true.2 ⟨old, hold, by simpa using hido.trans hid.symm⟩) hnew
    · exact hsame
  | finalizes uploadId => exact hupd _ .finalized (by decide)
  | cancelsRemotely job | sync job registration => exact hupd _ .cancelled (by decide)
  | _ => exact hsame

private theorem ul_cancelled (u : String) : UploadSettled (s.cancelUpload (some u)) u := by
  intro up' hup' hid
  obtain ⟨up, hup, rfl⟩ := mem_update.1 hup'
  by_cases hopen : up.status = .receiving
  · by_cases hname : u = up.id
    · simp [hname, hopen]
    · rw [if_neg (by simp [hname])] at hid
      exact absurd hid.symm hname
  · rw [if_neg (by simp [hopen])]
    exact hopen

variable {it it' item old : UploadQueueItem} {o : String × String}

private theorem ul_items (h : it ∈ s.stepItems e) :
    (it ∈ s.items ∧ ∀ item, s.written e = some item → it.id = item.id →
      (find s.items item.id).any (fun existing => refuses existing item) = true) ∨
    (s.written e = some it ∧ (find s.items it.id).any (fun existing => refuses existing it) = false ∧
      ∃ old ∈ s.items, old.id = it.id) ∨
    (e = .intake it ∨ ∃ job c, e = .adds job ∧ s.held job = some c ∧ it = c.item) := by
  unfold QueueSystem.stepItems at h
  cases hwr : s.written e with
  | some item =>
    rw [hwr] at h
    rcases mem_store_update h with ⟨hmem, href⟩ | ⟨rfl, hok, hold⟩
    · refine .inl ⟨hmem, ?_⟩
      rintro _ ⟨⟩ hid
      exact href hid
    · exact .inr (.inl ⟨rfl, hok, hold⟩)
  | none =>
    rw [hwr] at h
    have hsy : it ∈ s.items → (it ∈ s.items ∧ ∀ item, (none : Option UploadQueueItem) = some item → it.id = item.id →
      (find s.items item.id).any (fun existing => refuses existing item) = true) := fun hmem => ⟨hmem, fun _ hno => nomatch hno⟩
    cases e with
    | intake item =>
      rcases List.mem_cons.1 h with rfl | hmem
      · exact .inr (.inr (.inl rfl))
      · exact .inl (hsy hmem)
    | adds job =>
      cases hheld : s.held job with
      | none =>
        simp only [hheld] at h
        exact .inl (hsy h)
      | some c =>
        simp only [hheld] at h
        rcases List.mem_cons.1 h with rfl | hmem
        · exact .inr (.inr (.inr ⟨job, c, rfl, hheld, rfl⟩))
        · exact .inl (hsy hmem)
    | removes job =>
      cases hheld : s.held job with
      | none =>
        simp only [hheld] at h
        exact .inl (hsy h)
      | some c =>
        simp only [hheld] at h
        split at h
        · exact .inl (hsy h)
        · exact .inl (hsy (List.mem_filter.1 h).1)
    | _ => exact .inl (hsy h)

private theorem ul_next (hids : (s.items.map UploadQueueItem.id).Nodup) (hgood : KeepsUploadIds s e)
    (hit : it ∈ s.items) (hit' : it' ∈ s.stepItems e) (hid : it'.id = it.id) :
    it' = it ∨ s.written e = some it' ∧ refuses it it' = false := by
  have hfind : find s.items it'.id = some it := hid ▸ find_of_mem hids hit
  rcases ul_items hit' with ⟨hmem, -⟩ | ⟨hwr, hok, -⟩ | rfl | ⟨job, c, rfl, hheld, rfl⟩
  · exact .inl (eq_of_key hids hmem hit hid)
  · rw [hfind] at hok
    exact .inr ⟨hwr, hok⟩
  · cases hfind.symm.trans (hgood.added _ rfl)
  · cases hfind.symm.trans (hgood.added _ (Option.mem_def.2 (by simp [QueueSystem.addedId, hheld])))

private theorem ul_ids (hids : (s.items.map UploadQueueItem.id).Nodup) (hgood : KeepsUploadIds s e) :
    ((s.stepItems e).map UploadQueueItem.id).Nodup := by
  have hadd : ∀ item, find s.items item.id = none → ((add s.items item).map UploadQueueItem.id).Nodup := by
    intro item hnone
    refine List.nodup_cons.2 ⟨fun hmem => ?_, hids⟩
    obtain ⟨old, hold, heq⟩ := List.mem_map.1 hmem
    exact find_none hnone old hold heq
  unfold QueueSystem.stepItems
  split
  · rw [store_update_ids]
    exact hids
  split
  · exact hadd _ (hgood.added _ rfl)
  · split
    · rename_i c hheld
      exact hadd _ (hgood.added _ (Option.mem_def.2 (by simp [QueueSystem.addedId, hheld])))
    · exact hids
  · split
    · split
      · exact hids
      · exact hids.sublist (List.filter_sublist.map _)
    · exact hids
  · exact hids

private theorem ul_done (h : s.written e = some item) (hdone : item.status = .done) :
    ∃ up ∈ s.uploads, s.answered e = some up.id ∧ up.status = .finalized := by
  obtain ⟨⟨job, write, now⟩, hw, h⟩ := Option.bind_eq_some_iff.1 h
  obtain ⟨c, hc, rfl⟩ := Option.map_eq_some_iff.1 h
  obtain ⟨hheld, hsent⟩ := Option.filter_eq_some_iff.1 hc
  have hconf : s.confirmed c.item e = true := (Bool.and_eq_true _ _ ▸ hsent).2
  cases e with
  | completes job uploadId receipt now =>
    obtain ⟨up, hup, hboth⟩ := List.any_eq_true.1 hconf
    simp only [Bool.and_eq_true, decide_eq_true_eq, beq_iff_eq] at hboth
    exact ⟨up, hup, congrArg some hboth.1.1.symm, hboth.2⟩
  | reconciles job receipt bytes now =>
    cases hw
    obtain ⟨u, hu, hfin⟩ := (Option.any_eq_true _ _).1 hconf
    obtain ⟨up, hup, hboth⟩ := List.any_eq_true.1 hfin
    simp only [Bool.and_eq_true, decide_eq_true_eq, beq_iff_eq] at hboth
    exact ⟨up, hup, by rw [QueueSystem.answered, hheld, Option.bind_some, hu, hboth.1], hboth.2⟩
  | _ => cases hw <;> cases hdone

private theorem ul_refuses_done (h : refuses old item = false) (hold : old.status = .done) :
    item.status = .done := by
  simpa [refuses, hold] using h

private theorem ul_refuses_cancelled (h : refuses old item = false)
    (hold : old.status = .cancelled) : item.status = .cancelled ∨ item.status = .done := by
  simpa [refuses, hold, or_iff_not_imp_left] using h

private theorem ul_owed (h : o ∈ s.stepOwed e) :
    (o ∈ s.owed ∧ ∀ job c, e = .removes job → s.held job = some c →
      ¬(c.item.status = .pending ∨ c.item.status = .uploading ∨ c.item.status = .waiting) → o.1 ≠ c.item.id) ∨
    ∃ job now c old, e = .cancels job now ∧ s.held job = some c ∧ c.item.status ≠ .done ∧
      find s.items c.item.id = some old ∧ old.status.isTerminal = false ∧ o.1 = c.item.id ∧
      o.2 ∈ s.openUploads c.item.id := by
  cases e with
  | cancels job now =>
    simp only [QueueSystem.stepOwed] at h
    split at h
    · rename_i c hheld
      split at h
      · rename_i htk
        rcases List.mem_append.1 h with h | h
        · exact .inl ⟨h, fun _ _ hno => nomatch hno⟩
        obtain ⟨u, hu, rfl⟩ := List.mem_map.1 h
        obtain ⟨old, hold, hopen⟩ := (Option.any_eq_true _ _).1 htk.2
        exact .inr ⟨job, now, c, old, rfl, hheld, htk.1, hold, by simpa using hopen, rfl, hu⟩
      · exact .inl ⟨h, fun _ _ hno => nomatch hno⟩
    · exact .inl ⟨h, fun _ _ hno => nomatch hno⟩
  | removes job =>
    simp only [QueueSystem.stepOwed] at h
    split at h
    · rename_i c hheld
      split at h
      · rename_i hact
        refine .inl ⟨h, ?_⟩
        rintro _ c' ⟨⟩ hheld' hnot
        obtain rfl := Option.mem_unique hheld hheld'
        exact absurd hact hnot
      · obtain ⟨hmem, hne⟩ := List.mem_filter.1 h
        refine .inl ⟨hmem, ?_⟩
        rintro _ c' ⟨⟩ hheld' -
        obtain rfl := Option.mem_unique hheld hheld'
        simpa using hne
    · rename_i hnone
      refine .inl ⟨h, ?_⟩
      rintro _ c' ⟨⟩ hheld' -
      cases hnone.symm.trans hheld'
  | _ => exact .inl ⟨h, fun _ _ hno => nomatch hno⟩

private theorem ul_stays (hit : it ∈ s.items)
    (hkept : ∀ job c, e = .removes job → s.held job = some c →
      ¬(c.item.status = .pending ∨ c.item.status = .uploading ∨ c.item.status = .waiting) → it.id ≠ c.item.id) :
    ∃ it' ∈ s.stepItems e, it'.id = it.id := by
  have hup : ∀ item, ∃ it' ∈ UploadQueueStore.update s.items item, it'.id = it.id := by
    intro item
    have hmem : it.id ∈ (UploadQueueStore.update s.items item).map UploadQueueItem.id := by
      rw [store_update_ids]
      exact List.mem_map_of_mem hit
    exact List.mem_map.1 hmem
  unfold QueueSystem.stepItems
  split
  · exact hup _
  split
  · exact ⟨it, .tail _ hit, rfl⟩
  · split
    · exact ⟨it, .tail _ hit, rfl⟩
    · exact ⟨it, hit, rfl⟩
  · split
    · rename_i c hheld
      split
      · exact ⟨it, hit, rfl⟩
      · rename_i hnot
        exact ⟨it, List.mem_filter.2 ⟨hit, by simpa using hkept _ c rfl hheld hnot⟩, rfl⟩
    · exact ⟨it, hit, rfl⟩
  · exact ⟨it, hit, rfl⟩

private theorem ul_cancels {job : Nat} {now : Int} {c : HeldCopy} (hheld : s.held job = some c)
    (hnot : c.item.status ≠ .done) : s.written (.cancels job now) = some (c.item.cancelled now) := by
  simp [QueueSystem.written, QueueEvent.write, ItemWrite.permitted, QueueSystem.confirmed, ItemWrite.apply, hheld, hnot]

private theorem ul_cancelled_item {job : Nat} {now : Int} {c : HeldCopy}
    (hheld : s.held job = some c) (hnot : c.item.status ≠ .done) (hold : find s.items c.item.id = some old)
    (hopen : old.status.isTerminal = false) (hit' : it' ∈ s.stepItems (.cancels job now)) (hid : it'.id = c.item.id) :
    it' = c.item.cancelled now ∧ refuses old it' = false := by
  have hwr : s.written (.cancels job now) = some (c.item.cancelled now) := ul_cancels hheld hnot
  have hok : ∀ item, refuses old item = false := by
    intro item
    simp only [UploadStatus.isTerminal, Bool.or_eq_false_iff, decide_eq_false_iff_not] at hopen
    simp [refuses, hopen.1, hopen.2]
  refine ⟨?_, hok _⟩
  rcases ul_items hit' with ⟨-, href⟩ | ⟨hsame, -⟩ | hno | ⟨_, _, hno, -⟩
  · have hyes := href _ hwr hid
    simp only [UploadQueueItem.cancelled, hold, Option.any_some] at hyes
    exact absurd hyes (by simp [hok])
  · exact (Option.mem_unique hwr hsame).symm
  · cases hno
  · cases hno

private theorem ul_owed_item (hinv : LifecycleInv s) (hgood : KeepsUploadIds s e) (ho : o ∈ s.owed)
    (hit' : it' ∈ s.stepItems e) (hid : it'.id = o.1) :
    it'.status.isTerminal = true ∧
      (it'.status = .cancelled → it'.serverUploadId = some o.2 ∨ UploadSettled s.uploads o.2) := by
  obtain ⟨it, hit, hitid⟩ := hinv.present o ho
  have hterm := hinv.terminal o ho it hit hitid
  have hrec := hinv.recorded o ho it hit hitid
  rcases ul_next hinv.ids hgood hit hit' (hid.trans hitid.symm) with rfl | ⟨hwr, hok⟩
  · exact ⟨hterm, hrec⟩
  have hc : it.status = .cancelled ∨ it.status = .done := by simpa [UploadStatus.isTerminal] using hterm
  rcases hc with hcan | hdone
  · refine ⟨?_, fun _ => (hrec hcan).imp_left fun hsome => ?_⟩
    · rcases ul_refuses_cancelled hok hcan with h | h <;> simp [UploadStatus.isTerminal, h]
    · have hfind : find s.items it'.id = some it := (hid.trans hitid.symm) ▸ find_of_mem hinv.ids hit
      rcases hgood.writes it' hwr it hfind hok with hnone | hsame
      · cases hnone.symm.trans hsome
      · exact hsame.trans hsome
  · have hdone' := ul_refuses_done hok hdone
    exact ⟨by simp [UploadStatus.isTerminal, hdone'], fun hcan => by simp [hdone'] at hcan⟩

theorem LifecycleInv.step (hinv : LifecycleInv s) (hgood : KeepsUploadIds s e) : LifecycleInv (s.step e) := by
  obtain ⟨hups, hsett⟩ := @ul_uploads s e
  refine ⟨ul_ids hinv.ids hgood, fun o ho => ?_, fun o ho => ?_, fun o ho it' hit' hid => ?_,
    fun o ho it' hit' hid hcan => ?_, fun job c hheld => ?_⟩
  · rcases ul_owed ho with ⟨ho, hkept⟩ | ⟨job, now, c, old, rfl, hheld, -, hold, -, hid, -⟩
    · obtain ⟨it, hit, hitid⟩ := hinv.present o ho
      obtain ⟨it', hit', hid⟩ := ul_stays hit fun job c he hheld => hitid ▸ hkept job c he hheld
      exact ⟨it', hit', hid.trans hitid⟩
    · obtain ⟨hmem, hido⟩ := mem_of_find hold
      obtain ⟨it', hit', hid'⟩ := ul_stays hmem fun job' _ (hno : QueueEvent.cancels job now = .removes job') => nomatch hno
      exact ⟨it', hit', hid'.trans (hido.trans hid.symm)⟩
  · rcases ul_owed ho with ⟨ho, -⟩ | ⟨job, now, c, old, rfl, -, -, -, -, -, hopen⟩
    · obtain ⟨up, hup, hid⟩ := hinv.exist o ho
      obtain ⟨up', hup', hid'⟩ := hups up hup
      exact ⟨up', hup', hid'.trans hid⟩
    · obtain ⟨up, hup, hid⟩ := List.mem_map.1 hopen
      exact ⟨up, (List.mem_filter.1 hup).1, hid⟩
  · rcases ul_owed ho with ⟨ho, -⟩ | ⟨job, now, c, old, rfl, hheld, hnot, hold, hopen, hidc, -⟩
    · exact (ul_owed_item hinv hgood ho hit' hid).1
    · rw [(ul_cancelled_item hheld hnot hold hopen hit' (hid.trans hidc)).1]
      rfl
  · rcases ul_owed ho with ⟨ho, -⟩ | ⟨job, now, c, old, rfl, hheld, hnot, hold, hopen, hidc, hu⟩
    · exact ((ul_owed_item hinv hgood ho hit' hid).2 hcan).imp_right (hsett _ (hinv.exist o ho))
    · obtain ⟨rfl, hok⟩ := ul_cancelled_item hheld hnot hold hopen hit' (hid.trans hidc)
      have hrec := hgood.cancels c hheld old hold hopen _ hu
      rcases hgood.writes _ (ul_cancels hheld hnot) old hold hok with hnone | hsame
      · cases hnone.symm.trans hrec
      · exact .inl (hsame.trans hrec)
  · -- the copy is one of before, perhaps under the next name, or was loaded or made just now
    have hold : ∀ job c, s.held job = some c → ∀ u ∈ c.owed, (∃ up ∈ s.stepUploads e, up.id = u) ∧
        (c.item.status = .cancelled → c.item.serverUploadId = some u ∨ UploadSettled (s.stepUploads e) u) := by
      intro job c hheld u hu
      obtain ⟨hex, hrec⟩ := hinv.held job c hheld u hu
      obtain ⟨up, hup, hid⟩ := hex
      obtain ⟨up', hup', hid'⟩ := hups up hup
      exact ⟨⟨up', hup', hid'.trans hid⟩, fun hcan => (hrec hcan).imp_right (hsett u ⟨up, hup, hid⟩)⟩
    change s.stepHeld e job = some c at hheld
    cases e with
    | looksFor j item =>
      simp only [QueueSystem.stepHeld] at hheld
      split at hheld
      · exact hold job c hheld
      rw [Function.update_apply] at hheld
      split at hheld
      · cases hheld
        exact fun u hu => nomatch hu
      · exact hold job c hheld
    | adds j =>
      simp only [QueueSystem.stepHeld, Function.update_apply] at hheld
      split at hheld
      · cases hheld
      · exact hold job c hheld
    | loads j itemId =>
      simp only [QueueSystem.stepHeld, Function.update_apply] at hheld
      split at hheld
      · obtain ⟨item, hfind, rfl⟩ := Option.map_eq_some_iff.1 hheld
        obtain ⟨hmem, hid⟩ := mem_of_find hfind
        intro u hu
        obtain ⟨o, ho, rfl⟩ := List.mem_map.1 hu
        obtain ⟨ho, hito⟩ := List.mem_filter.1 ho
        have hsame : item.id = o.1 := hid.trans (beq_iff_eq.1 hito).symm
        exact ⟨hinv.exist o ho, hinv.recorded o ho item hmem hsame⟩
      · exact hold job c hheld
    | restart => cases hheld
    | renames j name key attempts now =>
      simp only [QueueSystem.stepHeld, Function.update_apply] at hheld
      split at hheld
      · obtain ⟨c', hc', rfl⟩ := Option.map_eq_some_iff.1 hheld
        exact fun u hu => ⟨(hold j c' hc' u hu).1, fun hno => nomatch hno⟩
      · exact hold job c hheld
    | _ => exact hold job c hheld

theorem lifecycleInv_new : LifecycleInv .new where
  ids := List.nodup_nil
  present _ ho := nomatch ho
  exist _ ho := nomatch ho
  terminal _ ho := nomatch ho
  recorded _ ho := nomatch ho
  held _ _ hno := nomatch hno

theorem LifecycleInv.holds (hinv : LifecycleInv s) (hgood : KeepsUploadIds s e) : LifecycleHolds s e := by
  refine ⟨ul_ids hinv.ids hgood, fun it hit hdone it' hit' hid => ?_, fun it hit hcan it' hit' hid => ?_,
    fun it hit u hu it' hit' hid => ?_, ?_⟩
  · rcases ul_next hinv.ids hgood hit hit' hid with rfl | ⟨-, hok⟩
    · exact hdone
    · exact ul_refuses_done hok hdone
  · rcases ul_next hinv.ids hgood hit hit' hid with rfl | ⟨hwr, hok⟩
    · exact .inl hcan
    · rcases ul_refuses_cancelled hok hcan with h | h
      · exact .inl h
      · exact .inr ⟨h, ul_done hwr h⟩
  · rcases ul_next hinv.ids hgood hit hit' hid with rfl | ⟨hwr, hok⟩
    · exact hu
    · have hfind : find s.items it'.id = some it := hid ▸ find_of_mem hinv.ids hit
      rcases hgood.writes it' hwr it hfind hok with hnone | hsame
      · cases hnone.symm.trans hu
      · exact hsame.trans hu
  · rintro job registration c rfl hheld hcan hbind u hu
    obtain ⟨hex, hrec⟩ := hinv.held job c hheld u hu
    rcases hrec hcan with hsome | hdone
    · have hr : s.stepUploads (.sync job registration) = s.cancelUpload (some u) := by
        have hsy : QueueSystem.syncs registration c.item = true := by
          simp [QueueSystem.syncs, hcan, hbind, hsome]
        simp only [QueueSystem.stepUploads, hheld, Option.filter_some, hsy, if_true, Option.bind_some, hsome]
      change UploadSettled (s.stepUploads (.sync job registration)) u
      rw [hr]
      exact ul_cancelled u
    · exact (@ul_uploads s (.sync job registration)).2 u hex hdone

/-- In every run that keeps the ids, the ids of the items stay unique, what is done stays done, a cancelled item changes
by the server's word alone, no recorded upload id is lost, and a synchronisation settles what the cancellation left. -/
theorem upload_items_settle (events : List QueueEvent) (h : Always QueueSystem.step KeepsUploadIds .new events) :
    Always QueueSystem.step LifecycleHolds .new events :=
  h.of_invariant lifecycleInv_new (fun _ _ hinv hgood => hinv.step hgood) fun _ _ hinv hgood => hinv.holds hgood

end Steps

def photoItem : UploadQueueItem where
  id := "photo"
  origin := "https://lamasync.example"
  hostId := "phone"
  sourceUri := "content://media/1"
  displayName := "photo.jpg"
  mimeType := some "image/jpeg"
  sizeBytes := some 3
  destinationId := "inbox"
  destinationRelPath := "Mobile/phone/Inbox"
  idempotencyKey := "up-photo"
  sha256 := some "digest"
  mediaIdentity := none
  sourceLabel := none
  autoNameAttempt := 0
  stagedFileName := some "stage-0-photo.jpg"
  staged := true
  serverUploadId := none
  uploadedBytes := 0
  serverStatus := none
  status := .pending
  error := none
  serverBytesReceived := none
  receipt := none
  createdAtEpochMillis := 0
  updatedAtEpochMillis := 0

/-- The worker starts the upload, the user cancels it, and the next worker run tells the server. -/
def cancelledEvents : List QueueEvent := [
  .intake photoItem, .loads 1 "photo", .creates 1 "u1", .records 1 "u1" 0 1, .loads 2 "photo", .cancels 2 2, .loads 3 "photo",
  .sync 3 (some ⟨"https://lamasync.example", "phone"⟩)]

theorem upload_items_settle_cancelled : Always QueueSystem.step LifecycleHolds .new cancelledEvents := by
  refine upload_items_settle cancelledEvents ?_
  simp only [cancelledEvents, always_cons, always_nil]
  decide +kernel

/-- The worker starts the upload and loses the network, the user cancels, and the next worker run goes by. -/
def lostIdEvents : List QueueEvent := [
  .intake photoItem, .loads 1 "photo", .creates 1 "u1", .records 1 "u1" 0 1,
  .fails 1 "Network interrupted mid-transfer. Retry when connected." 2, .loads 2 "photo", .cancels 2 3, .loads 3 "photo",
  .sync 3 (some ⟨"https://lamasync.example", "phone"⟩)]

theorem lost_upload_is_not_cancelled : ¬Always QueueSystem.step LifecycleHolds .new lostIdEvents ∧
    (run QueueSystem.step .new lostIdEvents).items.map UploadQueueItem.status = [.cancelled] ∧
    (run QueueSystem.step .new lostIdEvents).uploads = [⟨"u1", "photo", .receiving⟩] := by
  have hev : (photoItem.created 1 "u1" 0 ∈ (run QueueSystem.step .new (lostIdEvents.take 4)).items ∧
      photoItem.failed 2 "Network interrupted mid-transfer. Retry when connected." ∈
        (run QueueSystem.step .new (lostIdEvents.take 5)).items) ∧
      (run QueueSystem.step .new lostIdEvents).items.map UploadQueueItem.status = [.cancelled] ∧
      (run QueueSystem.step .new lostIdEvents).uploads = [⟨"u1", "photo", .receiving⟩] := by
    decide +kernel
  obtain ⟨⟨hcre, hfail⟩, hends⟩ := hev
  refine ⟨fun h => ?_, hends⟩
  have hsp : Always QueueSystem.step LifecycleHolds .new (lostIdEvents.take 4 ++
      .fails 1 "Network interrupted mid-transfer. Retry when connected." 2 :: lostIdEvents.drop 5) := h
  cases hsp.at.kept _ hcre "u1" rfl _ hfail rfl

end LamaSync
