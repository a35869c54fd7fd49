import LamaSync.Lib.Rows

/-!
# The upload queue of the companion app

The queue is a list of whole items, and every change of it is a whole-item write under one lock: `update` puts an item in
the place of the one with its id, unless that would bring back a cancelled or completed one.  A job that writes made its
item out of a copy it loaded earlier, so what others wrote since is lost with the write.
-/

namespace LamaSync

open Rows

/-- The client's mirror of an upload. -/
inductive UploadStatus where
  | pending | uploading | waiting | blocked | failed | cancelled | done
  deriving DecidableEq

def UploadStatus.isTerminal (status : UploadStatus) : Bool := status = .cancelled || status = .done

structure UploadReceipt where
  uploadId : String
  fileName : String
  finalRelPath : String
  browsePath : String
  browseFolderId : Option String
  sizeBytes : Nat
  sha256 : String
  finalizedAtEpochMillis : Int
  deriving DecidableEq

structure UploadQueueItem where
  id : String
  origin : String
  hostId : String
  sourceUri : String
  displayName : String
  mimeType : Option String
  sizeBytes : Option Nat
  destinationId : String
  destinationRelPath : String
  idempotencyKey : String
  sha256 : Option String
  mediaIdentity : Option String
  sourceLabel : Option String
  autoNameAttempt : Nat
  stagedFileName : Option String
  staged : Bool
  serverUploadId : Option String
  uploadedBytes : Nat
  serverStatus : Option String
  status : UploadStatus
  error : Option String
  serverBytesReceived : Option Nat
  receipt : Option UploadReceipt
  createdAtEpochMillis : Int
  updatedAtEpochMillis : Int
  deriving DecidableEq

/-- The current registration of the device. -/
structure Registration where
  origin : String
  hostId : String
  deriving DecidableEq

def bindingMatches (item : UploadQueueItem) : Option Registration → Bool
  | some registration => registration.origin == item.origin && registration.hostId == item.hostId
  | none => false

namespace UploadQueueItem

variable (item : UploadQueueItem) (now : Int)

def blocked (error : String) : UploadQueueItem :=
  { item with
    status := .blocked
    error := some error
    updatedAtEpochMillis := now }

def failed (error : String) : UploadQueueItem :=
  { item with
    status := .failed
    error := some error
    updatedAtEpochMillis := now }

def created (uploadId : String) (bytesReceived : Nat) : UploadQueueItem :=
  { item with
    serverUploadId := some uploadId
    serverBytesReceived := some bytesReceived
    status := .uploading
    updatedAtEpochMillis := now }

def progressed (uploadId serverStatus : String) (bytesReceived : Nat) : UploadQueueItem :=
  { item with
    serverUploadId := some uploadId
    uploadedBytes := bytesReceived
    serverBytesReceived := some bytesReceived
    serverStatus := some serverStatus
    status := .uploading
    updatedAtEpochMillis := now }

/-- The copy for the next name of a series, after a collision. -/
def renamed (displayName idempotencyKey : String) (attempts : Nat) : UploadQueueItem :=
  { item with
    displayName := displayName
    idempotencyKey := idempotencyKey
    autoNameAttempt := attempts
    status := .uploading
    error := none
    updatedAtEpochMillis := now }

def completed (receipt : UploadReceipt) : UploadQueueItem :=
  { item with
    status := .done
    serverStatus := some "finalized"
    receipt := some receipt
    uploadedBytes := receipt.sizeBytes
    serverBytesReceived := some receipt.sizeBytes
    error := none
    updatedAtEpochMillis := now }

def finalizedLate (receipt : Option UploadReceipt) (bytesReceived : Nat) : UploadQueueItem :=
  { item with
    status := .done
    serverStatus := some "finalized"
    receipt := receipt
    uploadedBytes := bytesReceived
    serverBytesReceived := some bytesReceived
    error := none
    updatedAtEpochMillis := now }

def cancelled : UploadQueueItem :=
  { item with
    status := .cancelled
    error := none
    updatedAtEpochMillis := now }

/-- The user's retry. -/
def retried : UploadQueueItem :=
  { item with
    status := .pending
    error := none
    updatedAtEpochMillis := now }

end UploadQueueItem

namespace UploadQueueStore

variable (items : List UploadQueueItem)

def find (id : String) : Option UploadQueueItem := items.find? fun item => item.id == id

def refuses (existing item : UploadQueueItem) : Bool :=
  (existing.status = .cancelled && !(item.status = .cancelled || item.status = .done)) ||
    (existing.status = .done && !item.status = .done)

def update (item : UploadQueueItem) : List UploadQueueItem :=
  if (find items item.id).any fun existing => refuses existing item then items
  else items.map fun it => if it.id = item.id then item else it

def add (item : UploadQueueItem) : List UploadQueueItem := item :: items

def remove (itemId : String) : List UploadQueueItem := items.filter fun it => it.id ≠ itemId

end UploadQueueStore

open UploadQueueStore

/-- What a writer makes of its copy of an item. -/
inductive ItemWrite where
  | blocked (error : String)
  | failed (error : String)
  | created (uploadId : String) (bytesReceived : Nat)
  | progressed (uploadId serverStatus : String) (bytesReceived : Nat)
  | renamed (displayName idempotencyKey : String) (attempts : Nat)
  | completed (receipt : UploadReceipt)
  | finalizedLate (receipt : Option UploadReceipt) (bytesReceived : Nat)
  | cancelled
  | retried

namespace ItemWrite

def apply (now : Int) (item : UploadQueueItem) : ItemWrite → UploadQueueItem
  | blocked error => item.blocked now error
  | failed error => item.failed now error
  | created uploadId bytes => item.created now uploadId bytes
  | progressed uploadId status bytes => item.progressed now uploadId status bytes
  | renamed name key attempts => item.renamed now name key attempts
  | completed receipt => item.completed now receipt
  | finalizedLate receipt bytes => item.finalizedLate now receipt bytes
  | cancelled => item.cancelled now
  | retried => item.retried now

/-- What the progress callback and the user's actions look at before they write. -/
def permitted (items : List UploadQueueItem) (item : UploadQueueItem) : ItemWrite → Bool
  | created .. | progressed .. => !(find items item.id).any fun existing => existing.status.isTerminal
  | cancelled | retried => !(item.status = .done)
  | _ => true

@[simp] theorem apply_id (now : Int) (item : UploadQueueItem) (write : ItemWrite) : (write.apply now item).id = item.id := by
  cases write <;> rfl

end ItemWrite

section Store

variable {items : List UploadQueueItem} {item it : UploadQueueItem}

theorem mem_store_update (h : it ∈ UploadQueueStore.update items item) :
    it ∈ items ∧ (it.id = item.id → (find items item.id).any (fun existing => refuses existing item) = true) ∨
      it = item ∧ (find items item.id).any (fun existing => refuses existing item) = false ∧
        ∃ old ∈ items, old.id = item.id := by
  unfold UploadQueueStore.update at h
  split at h
  · rename_i href
    exact .inl ⟨h, fun _ => href⟩
  rename_i href
  obtain ⟨old, hold, heq⟩ := List.mem_map.1 h
  by_cases hid : old.id = item.id
  · rw [if_pos hid] at heq
    exact .inr ⟨heq.symm, Bool.eq_false_iff.2 href, old, hold, hid⟩
  rw [if_neg hid] at heq
  subst heq
  exact .inl ⟨hold, fun h => absurd h hid⟩

theorem store_update_ids : (UploadQueueStore.update items item).map UploadQueueItem.id = items.map UploadQueueItem.id := by
  unfold UploadQueueStore.update
  split
  · rfl
  rw [List.map_map]
  refine List.map_congr_left fun it _ => ?_
  by_cases hid : it.id = item.id
  · simp [hid]
  · simp [hid]

theorem find_of_mem (hids : (items.map UploadQueueItem.id).Nodup) (hit : it ∈ items) : find items it.id = some it :=
  find_unique hids hit

theorem mem_of_find {id : String} (h : find items id = some it) : it ∈ items ∧ it.id = id := find_some h

end Store

end LamaSync
