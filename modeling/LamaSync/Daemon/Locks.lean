import LamaSync.Lib.Trace
import LamaSync.Server.Locks
import Mathlib.Data.List.Nodup

/-!
# The locks of one daemon

`acquireLock` asks the server for the row of a destination.  The server grants the row of a host to the same host again,
so a map of the daemon's own locks, `activeLocks`, stands in front: a call whose key is in the map is refused at once.
The map is read before the request and written after it, its keys are those of the callers while the row is chosen by the
server, and `releaseLock` takes out whatever entry it finds under its key.

The calls of the daemon and the requests at the server are separate events, and so are the requests of everybody else
and the changes of the server's configuration.  `one_handle_per_row` says which runs keep one handle per row.
-/

namespace LamaSync

open Trace

structure LockHandle where
  folderId : String
  destinationKey : String
  lockId : Nat
  ttl : Int
  acquiredAt : Int
  row : String
  deriving DecidableEq

structure AcquireCall where
  id : Nat
  folderId : String
  key : String
  answer : Option LockAnswer

structure ReleaseCall where
  id : Nat
  folderId : String
  handle : Option LockHandle
  destinationKey : Option String

inductive LockAcquireResult where
  | acquired (handle : LockHandle)
  | contended (lockedBy : String) (remainingSec : Int) (destinationKey : String)
  | unreachable (destinationKey : String)
  deriving DecidableEq

structure LockSystem where
  server : LockServer
  activeLocks : Table String LockHandle
  acquires : List AcquireCall
  releases : List ReleaseCall
  handles : List LockHandle
  nextCall : Nat

inductive LockEvent where
  | acquire (folderId : String) (destinationKey : Option String)
  | serveAcquire (call : Nat) (principal : Option AuthPrincipal)
  | acquireEnds (call : Nat) (lost : Bool)
  | release (folderId : String) (handle : Option LockHandle) (destinationKey : Option String)
  | serveRelease (call : Nat) (principal : Option AuthPrincipal)
  | releaseEnds (call : Nat)
  | heartbeat (folderId : String) (handle : Option LockHandle) (destinationKey : Option String)
      (principal : Option AuthPrincipal)
  /-- The server handles the request of somebody else. -/
  | request (principal : Option AuthPrincipal) (request : LockRequest)
  | reap
  | configure (config : LockConfig)
  | elapse (ms : Nat)

def localKey (folderId : String) (destinationKey : Option String) : String :=
  destinationKey.getD (defaultLockKey folderId)

namespace ReleaseCall

variable (call : ReleaseCall)

def requestKey : Option String := (call.handle.map LockHandle.destinationKey).or call.destinationKey

def entryKey : String := localKey call.folderId call.requestKey

end ReleaseCall

namespace LockSystem

section Step

variable (hostId : String) (s : LockSystem)

def acquire (folderId : String) (destinationKey : Option String) : LockSystem :=
  let key := localKey folderId destinationKey
  if (s.activeLocks key).isSome then s
  else { s with
    acquires := s.acquires ++ [⟨s.nextCall, folderId, key, none⟩]
    nextCall := s.nextCall + 1 }

def setAnswer (call : Nat) (answer : LockAnswer) : List AcquireCall :=
  s.acquires.map fun c => if c.id = call then { c with answer := some answer } else c

def serveAcquire (call : Nat) (principal : Option AuthPrincipal) : LockSystem :=
  match s.acquires.find? fun c => c.id == call && c.answer.isNone with
  | none => s
  | some c =>
    let served := s.server.serve principal (.acquire c.folderId hostId (some c.key))
    { s with server := served.1, acquires := s.setAnswer call served.2 }

def acquireResult (c : AcquireCall) (lost : Bool) : LockAcquireResult :=
  match if lost then none else c.answer with
  | some (.acquired lockId ttl row) => .acquired ⟨c.folderId, c.key, lockId, ttl, s.server.now, row⟩
  | some (.folderLocked lockedBy _ _ remainingSec destinationKey) =>
    .contended lockedBy remainingSec ((presentText (some destinationKey)).getD c.key)
  | some (.refused status _) => if status = 409 then .contended "unknown" 0 c.key else .unreachable c.key
  | some (.renewed _) | some .released => .contended "unknown" 0 c.key
  | none => .unreachable c.key

def removeAcquire (call : Nat) : LockSystem := { s with acquires := s.acquires.filter fun c => c.id ≠ call }

def acquireEnds (call : Nat) (lost : Bool) : LockSystem :=
  match s.acquires.find? fun c => c.id == call with
  | none => s
  | some c =>
    match s.acquireResult c lost with
    | .acquired handle => { s.removeAcquire call with
        activeLocks := s.activeLocks.put c.key handle
        handles := s.handles ++ [handle] }
    | .contended .. | .unreachable _ => s.removeAcquire call

def release (folderId : String) (handle : Option LockHandle) (destinationKey : Option String) : LockSystem :=
  { s with
    releases := s.releases ++ [⟨s.nextCall, folderId, handle, destinationKey⟩]
    nextCall := s.nextCall + 1 }

def serveRelease (call : Nat) (principal : Option AuthPrincipal) : LockSystem :=
  match s.releases.find? fun c => c.id == call with
  | none => s
  | some c =>
    let request := LockRequest.release c.folderId hostId (c.handle.map LockHandle.lockId) c.requestKey
    { s with server := (s.server.serve principal request).1 }

def releasedLockId (c : ReleaseCall) : Option Nat :=
  (c.handle.map LockHandle.lockId).or ((s.activeLocks c.entryKey).map LockHandle.lockId)

def releaseEnds (call : Nat) : LockSystem :=
  match s.releases.find? fun c => c.id == call with
  | none => s
  | some c => { s with
      releases := s.releases.filter fun c => c.id ≠ call
      activeLocks := s.activeLocks.erase c.entryKey
      handles := s.handles.filter fun h => some h.lockId ≠ s.releasedLockId c }

def heartbeat (folderId : String) (handle : Option LockHandle) (destinationKey : Option String)
    (principal : Option AuthPrincipal) : LockSystem :=
  let request := LockRequest.heartbeat folderId hostId (handle.map LockHandle.lockId)
    ((handle.map LockHandle.destinationKey).or destinationKey)
  { s with server := (s.server.serve principal request).1 }

def step : LockEvent → LockSystem
  | .acquire folderId destinationKey => s.acquire folderId destinationKey
  | .serveAcquire call principal => s.serveAcquire hostId call principal
  | .acquireEnds call lost => s.acquireEnds call lost
  | .release folderId handle destinationKey => s.release folderId handle destinationKey
  | .serveRelease call principal => s.serveRelease hostId call principal
  | .releaseEnds call => s.releaseEnds call
  | .heartbeat folderId handle destinationKey principal => s.heartbeat hostId folderId handle destinationKey principal
  | .request principal request => { s with server := (s.server.serve principal request).1 }
  | .reap => { s with server := s.server.reapExpiredFolderLocks }
  | .configure config => { s with server := { s.server with config := config } }
  | .elapse ms => { s with server := { s.server with now := s.server.now + ms } }

end Step

end LockSystem

def newLockSystem (server : LockServer) : LockSystem where
  server := server
  activeLocks := fun _ => none
  acquires := []
  releases := []
  handles := []
  nextCall := 0

/-- At most one unreleased handle refers to a row. -/
def OneHandlePerRow (s : LockSystem) : Prop := (s.handles.map LockHandle.row).Nodup

def AcquireCall.row (c : AcquireCall) : Option String :=
  match c.answer with
  | some (.acquired _ _ row) => some row
  | _ => none

def LockSystem.rowsUnderOtherKeys (s : LockSystem) (key : String) : List String :=
  (s.handles.filter fun h => h.destinationKey ≠ key).map LockHandle.row ++
    (s.acquires.filter fun c => c.key ≠ key).filterMap AcquireCall.row

def LockSystem.GuardHolds (hostId : String) (s : LockSystem) : LockEvent → Prop
  | .acquire folderId destinationKey =>
    s.activeLocks (localKey folderId destinationKey) = none →
      localKey folderId destinationKey ∉ s.acquires.map AcquireCall.key
  | .serveAcquire call principal => ∀ c ∈ s.acquires, c.id = call → c.answer = none →
      ∀ row ∈ s.server.grantedRow principal c.folderId hostId (some c.key), row ∉ s.rowsUnderOtherKeys c.key
  | .releaseEnds call => ∀ c ∈ s.releases, c.id = call → ∀ h ∈ c.handle,
      ∀ entry ∈ s.activeLocks h.destinationKey, entry.lockId = h.lockId
  | .acquireEnds .. | .release .. | .serveRelease .. | .heartbeat .. | .request .. | .reap | .configure _
  | .elapse _ => True

instance (hostId : String) (s : LockSystem) : ∀ e, Decidable (s.GuardHolds hostId e)
  | .acquire .. => inferInstanceAs (Decidable (_ → _))
  | .serveAcquire .. | .releaseEnds _ => inferInstanceAs (Decidable (∀ c ∈ _, _))
  | .acquireEnds .. | .release .. | .serveRelease .. | .heartbeat .. | .request .. | .reap | .configure _ | .elapse _ =>
    isTrue trivial

instance (s : LockSystem) : Decidable (OneHandlePerRow s) := inferInstanceAs (Decidable (List.Nodup _))

structure LockInv (s : LockSystem) : Prop where
  ids : (s.acquires.map AcquireCall.id).Nodup
  fresh : ∀ c ∈ s.acquires, c.id < s.nextCall
  keys : (s.handles.map LockHandle.destinationKey ++ s.acquires.map AcquireCall.key).Nodup
  rows : (s.handles.map LockHandle.row ++ s.acquires.filterMap AcquireCall.row).Nodup
  entries : ∀ h ∈ s.handles, s.activeLocks h.destinationKey = some h

theorem lockInv_new (server : LockServer) : LockInv (newLockSystem server) where
  ids := List.nodup_nil
  fresh := by simp [newLockSystem]
  keys := List.nodup_nil
  rows := List.nodup_nil
  entries := by simp [newLockSystem]

section Steps

variable {hostId : String} {s : LockSystem}

theorem LockInv.of_server (h : LockInv s) (server : LockServer) : LockInv { s with server := server } :=
  ⟨h.ids, h.fresh, h.keys, h.rows, h.entries⟩

variable {calls : List AcquireCall} {c : AcquireCall}

private theorem lk_split (hids : (calls.map AcquireCall.id).Nodup)
    (hc : c ∈ calls) : ∃ before after, calls = before ++ c :: after ∧ ∀ other ∈ before ++ after, other.id ≠ c.id := by
  obtain ⟨before, after, rfl⟩ := List.append_of_mem hc
  refine ⟨before, after, rfl, ?_⟩
  rw [List.map_append, List.map_cons, List.nodup_middle, List.nodup_cons] at hids
  intro other ho heq
  apply hids.1
  rw [← List.map_append, ← heq]
  exact List.mem_map_of_mem ho

variable {call : Nat}

private theorem lk_map_others {f : AcquireCall → AcquireCall}
    (ho : ∀ other ∈ calls, other.id ≠ call) : calls.map (fun c => if c.id = call then f c else c) = calls := by
  conv => rhs; rw [← List.map_id calls]
  exact List.map_congr_left fun c hc => if_neg (ho c hc)

private theorem lk_filter_others
    (ho : ∀ other ∈ calls, other.id ≠ call) : calls.filter (fun c => c.id ≠ call) = calls :=
  List.filter_eq_self.2 fun c hc => by simpa using ho c hc

theorem LockInv.acquire (h : LockInv s) {folderId : String} {destinationKey : Option String}
    (hg : s.activeLocks (localKey folderId destinationKey) = none →
      localKey folderId destinationKey ∉ s.acquires.map AcquireCall.key) :
    LockInv (s.acquire folderId destinationKey) := by
  unfold LockSystem.acquire
  dsimp only
  split
  · exact h
  rename_i hpa
  have hnone : s.activeLocks (localKey folderId destinationKey) = none := by simpa using hpa
  constructor
  · show ((s.acquires ++ [_]).map AcquireCall.id).Nodup
    rw [List.map_append, List.nodup_append]
    refine ⟨h.ids, by simp, ?_⟩
    rintro id hid id' hid' rfl
    obtain ⟨c, hc, hcid⟩ := List.mem_map.1 hid
    have hlt := h.fresh c hc
    rw [List.map_singleton, List.mem_singleton] at hid'
    dsimp only at hid'
    omega
  · intro c hc
    show c.id < s.nextCall + 1
    rcases List.mem_append.1 hc with hold | hnew
    · have hlt := h.fresh c hold
      omega
    · rw [List.mem_singleton.1 hnew]
      exact Nat.lt_succ_self _
  · show (s.handles.map LockHandle.destinationKey ++ (s.acquires ++ [_]).map AcquireCall.key).Nodup
    rw [List.map_append, ← List.append_assoc, List.nodup_append]
    refine ⟨h.keys, by simp, ?_⟩
    rintro key hkey key' hkey' rfl
    rw [List.map_singleton, List.mem_singleton] at hkey'
    dsimp only at hkey'
    subst hkey'
    -- a handle of the key would have an entry, and a call of the key is excluded
    rcases List.mem_append.1 hkey with hha | hcall
    · obtain ⟨handle, hmem, heq⟩ := List.mem_map.1 hha
      have he := h.entries handle hmem
      rw [heq, hnone] at he
      cases he
    · exact hg hnone hcall
  · show (s.handles.map LockHandle.row ++ (s.acquires ++ [_]).filterMap AcquireCall.row).Nodup
    have hnew : [AcquireCall.mk s.nextCall folderId (localKey folderId destinationKey) none].filterMap
        AcquireCall.row = [] := rfl
    rw [List.filterMap_append, hnew, List.append_nil]
    exact h.rows
  · exact h.entries

theorem LockInv.setAnswer (h : LockInv s) {answer : LockAnswer} (hc : c ∈ s.acquires)
    (hnone : c.answer = none)
    (hrow : ∀ row ∈ AcquireCall.row { c with answer := some answer }, row ∉ s.rowsUnderOtherKeys c.key) :
    LockInv { s with acquires := s.setAnswer c.id answer } := by
  obtain ⟨before, after, hsp, ho⟩ := lk_split h.ids hc
  have hans : s.setAnswer c.id answer = before ++ { c with answer := some answer } :: after := by
    unfold LockSystem.setAnswer
    rw [hsp, List.map_append, List.map_cons, if_pos rfl,
      lk_map_others fun other hmem => ho other (List.mem_append_left _ hmem),
      lk_map_others fun other hmem => ho other (List.mem_append_right _ hmem)]
  have hkeys := h.keys
  have hrows := h.rows
  rw [hsp] at hkeys hrows
  constructor
  · show (List.map AcquireCall.id (s.setAnswer c.id answer)).Nodup
    rw [hans]
    simpa [hsp] using h.ids
  · intro c' hc'
    have hmem : c' ∈ s.setAnswer c.id answer := hc'
    obtain ⟨old, hold, heq⟩ := List.mem_map.1 hmem
    have hlt := h.fresh old hold
    rw [← heq]
    split
    · exact hlt
    · exact hlt
  · show (s.handles.map LockHandle.destinationKey ++ (s.setAnswer c.id answer).map AcquireCall.key).Nodup
    rw [hans]
    simpa using hkeys
  · show (s.handles.map LockHandle.row ++ (s.setAnswer c.id answer).filterMap AcquireCall.row).Nodup
    have hold : AcquireCall.row c = none := by simp [AcquireCall.row, hnone]
    rw [List.filterMap_append, List.filterMap_cons_none hold] at hrows
    rw [hans, List.filterMap_append]
    cases hgr : AcquireCall.row { c with answer := some answer } with
    | none => rwa [List.filterMap_cons_none hgr]
    | some row =>
      rw [List.filterMap_cons_some hgr]
      have hfr := hrow row hgr
      -- every other row of the daemon is under another key
      have hnew : row ∉ s.handles.map LockHandle.row ++ (before.filterMap AcquireCall.row ++
          after.filterMap AcquireCall.row) := by
        intro hmem
        apply hfr
        rw [List.map_append, List.map_cons, List.nodup_append] at hkeys
        obtain ⟨-, hca, hap⟩ := hkeys
        rw [List.nodup_middle, List.nodup_cons] at hca
        unfold LockSystem.rowsUnderOtherKeys
        rcases List.mem_append.1 hmem with hha | hcall
        · obtain ⟨handle, hheld, rfl⟩ := List.mem_map.1 hha
          refine List.mem_append_left _ (List.mem_map_of_mem (List.mem_filter.2 ⟨hheld, ?_⟩))
          have hne := hap _ (List.mem_map_of_mem hheld) c.key (by simp)
          simpa using hne
        rw [← List.filterMap_append] at hcall
        obtain ⟨other, hmem, hsame⟩ := List.mem_filterMap.1 hcall
        refine List.mem_append_right _ (List.mem_filterMap.2 ⟨other, List.mem_filter.2 ⟨?_, ?_⟩, hsame⟩)
        · rw [hsp]
          rcases List.mem_append.1 hmem with hbef | haf
          · exact List.mem_append_left _ hbef
          · exact List.mem_append_right _ (.tail _ haf)
        have hne : other.key ≠ c.key := by
          rintro heq
          apply hca.1
          rw [← List.map_append, ← heq]
          exact List.mem_map_of_mem hmem
        simpa using hne
      have hperm : (s.handles.map LockHandle.row ++ (before.filterMap AcquireCall.row ++
          row :: after.filterMap AcquireCall.row)).Perm (row :: (s.handles.map LockHandle.row ++
          (before.filterMap AcquireCall.row ++ after.filterMap AcquireCall.row))) := by
        rw [← List.append_assoc, ← List.append_assoc]
        exact List.perm_middle
      rw [hperm.nodup_iff, List.nodup_cons]
      exact ⟨hnew, hrows⟩
  · exact h.entries

theorem LockInv.serveAcquire (h : LockInv s) {principal : Option AuthPrincipal}
    (hg : ∀ c ∈ s.acquires, c.id = call → c.answer = none →
      ∀ row ∈ s.server.grantedRow principal c.folderId hostId (some c.key), row ∉ s.rowsUnderOtherKeys c.key) :
    LockInv (s.serveAcquire hostId call principal) := by
  unfold LockSystem.serveAcquire
  cases hfind : s.acquires.find? fun c => c.id == call && c.answer.isNone with
  | none => exact h
  | some c =>
    have hc := List.mem_of_find?_eq_some hfind
    have hwait := List.find?_some hfind
    obtain ⟨hid, hnone⟩ : c.id = call ∧ c.answer = none := by simpa using hwait
    subst hid
    dsimp only
    generalize hse : s.server.serve principal (.acquire c.folderId hostId (some c.key)) = served
    refine (h.setAnswer hc hnone ?_).of_server served.1
    intro row hrow
    apply hg c hc rfl hnone row
    cases hans : served.2 with
    | acquired lockId ttl key =>
      rw [hans] at hrow
      have hkey : key = row := Option.some.inj hrow
      subst hkey
      exact LockServer.serve_acquire (by rw [hse]; exact hans)
    | renewed | released | folderLocked | refused => rw [hans] at hrow; cases hrow

theorem LockInv.removeAcquire (h : LockInv s) (call : Nat) : LockInv (s.removeAcquire call) := by
  have hsub : (s.removeAcquire call).acquires.Sublist s.acquires := List.filter_sublist
  constructor
  · exact h.ids.sublist (hsub.map _)
  · exact fun c hc => h.fresh c (hsub.subset hc)
  · exact h.keys.sublist ((List.Sublist.refl _).append (hsub.map _))
  · exact h.rows.sublist ((List.Sublist.refl _).append (hsub.filterMap _))
  · exact h.entries

theorem LockInv.becomesHandle (h : LockInv s) {handle : LockHandle} (hc : c ∈ s.acquires)
    (hkey : handle.destinationKey = c.key) (hrow : c.row = some handle.row) :
    LockInv { s.removeAcquire c.id with
      activeLocks := s.activeLocks.put c.key handle
      handles := s.handles ++ [handle] } := by
  obtain ⟨before, after, hsp, ho⟩ := lk_split h.ids hc
  have hrem : (s.removeAcquire c.id).acquires = before ++ after := by
    show s.acquires.filter _ = before ++ after
    rw [hsp, List.filter_append, List.filter_cons_of_neg (by simp),
      lk_filter_others fun other hmem => ho other (List.mem_append_left _ hmem),
      lk_filter_others fun other hmem => ho other (List.mem_append_right _ hmem)]
  have hkeys := h.keys
  have hrows := h.rows
  rw [hsp, List.map_append, List.map_cons] at hkeys
  rw [hsp, List.filterMap_append, List.filterMap_cons_some hrow] at hrows
  have hrest := h.removeAcquire c.id
  constructor
  · exact hrest.ids
  · exact hrest.fresh
  · show ((s.handles ++ [handle]).map LockHandle.destinationKey ++
      (s.removeAcquire c.id).acquires.map AcquireCall.key).Nodup
    rw [hrem, List.map_append, List.map_append, List.map_singleton, hkey, List.append_assoc]
    refine (List.Perm.nodup_iff ?_).1 hkeys
    exact List.Perm.append_left _ List.perm_middle
  · show ((s.handles ++ [handle]).map LockHandle.row ++
      (s.removeAcquire c.id).acquires.filterMap AcquireCall.row).Nodup
    rw [hrem, List.map_append, List.filterMap_append, List.map_singleton, List.append_assoc]
    refine (List.Perm.nodup_iff ?_).1 hrows
    exact List.Perm.append_left _ List.perm_middle
  intro held hheld
  show s.activeLocks.put c.key handle held.destinationKey = some held
  rcases List.mem_append.1 hheld with hold | hnew
  · have hne : held.destinationKey ≠ c.key := by
      rw [List.nodup_append] at hkeys
      exact hkeys.2.2 _ (List.mem_map_of_mem hold) c.key (by simp)
    rw [Table.put_of_ne hne]
    exact h.entries held hold
  · rw [List.mem_singleton.1 hnew, hkey]
    exact Table.put_self

theorem LockInv.acquireEnds (h : LockInv s) (call : Nat) (lost : Bool) : LockInv (s.acquireEnds call lost) := by
  unfold LockSystem.acquireEnds
  cases hfind : s.acquires.find? fun c => c.id == call with
  | none => exact h
  | some c =>
    have hc := List.mem_of_find?_eq_some hfind
    have hid : c.id = call := by simpa using List.find?_some hfind
    subst hid
    dsimp only
    cases hres : s.acquireResult c lost with
    | contended | unreachable => exact h.removeAcquire c.id
    | acquired handle =>
      unfold LockSystem.acquireResult at hres
      cases hans : if lost then none else c.answer with
      | none => rw [hans] at hres; cases hres
      | some answer =>
        rw [hans] at hres
        have hkept : c.answer = some answer := by
          cases lost with
          | true => cases hans
          | false => exact hans
        cases answer with
        | acquired lockId ttl row =>
          cases hres
          exact h.becomesHandle hc rfl (by simp [AcquireCall.row, hkept])
        | refused status error =>
          dsimp only at hres
          split at hres <;> cases hres
        | folderLocked | renewed | released => cases hres

theorem LockInv.releaseEnds (h : LockInv s) (hg : ∀ c ∈ s.releases, c.id = call → ∀ handle ∈ c.handle,
      ∀ entry ∈ s.activeLocks handle.destinationKey, entry.lockId = handle.lockId) : LockInv (s.releaseEnds call) := by
  unfold LockSystem.releaseEnds
  cases hfind : s.releases.find? fun c => c.id == call with
  | none => exact h
  | some c =>
    have hc := List.mem_of_find?_eq_some hfind
    have hid : c.id = call := by simpa using List.find?_some hfind
    have hsub : (s.handles.filter fun held => some held.lockId ≠ s.releasedLockId c).Sublist s.handles :=
      List.filter_sublist
    constructor
    · exact h.ids
    · exact h.fresh
    · exact h.keys.sublist ((hsub.map _).append (List.Sublist.refl _))
    · exact h.rows.sublist ((hsub.map _).append (List.Sublist.refl _))
    intro held hheld
    obtain ⟨hold, ho⟩ := List.mem_filter.1 hheld
    have he := h.entries held hold
    have hne : held.destinationKey ≠ c.entryKey := by
      intro heq
      rw [heq] at he
      have hrel : s.releasedLockId c = some held.lockId := by
        unfold LockSystem.releasedLockId
        cases hha : c.handle with
        | none => simp [he]
        | some handle =>
          have hkey : c.entryKey = handle.destinationKey := by
            simp [ReleaseCall.entryKey, ReleaseCall.requestKey, localKey, hha]
          have hsame := hg c hc hid handle hha held (hkey ▸ he)
          simp [hsame]
      rw [hrel] at ho
      simp at ho
    show s.activeLocks.erase c.entryKey held.destinationKey = some held
    rw [Table.erase_of_ne hne]
    exact he

theorem LockInv.step (h : LockInv s) {e : LockEvent} (hg : s.GuardHolds hostId e) : LockInv (s.step hostId e) := by
  cases e with
  | acquire folderId destinationKey => exact h.acquire hg
  | serveAcquire call principal => exact h.serveAcquire hg
  | acquireEnds call lost => exact h.acquireEnds call lost
  | release folderId handle destinationKey =>
    exact ⟨h.ids, fun c hc => Nat.lt_succ_of_lt (h.fresh c hc), h.keys, h.rows, h.entries⟩
  | releaseEnds call => exact h.releaseEnds hg
  | serveRelease call principal =>
    show LockInv (s.serveRelease hostId call principal)
    unfold LockSystem.serveRelease
    split
    · exact h
    · exact h.of_server _
  | heartbeat | request | reap | configure | elapse => exact h.of_server _

end Steps

/-- **One holder per destination.** In every state of a run of the daemon and the server whose steps all meet the
condition, at most one unreleased handle of the daemon refers to a row of the server. -/
theorem one_handle_per_row (hostId : String) (server : LockServer) (es : List LockEvent)
    (hguard : Always (LockSystem.step hostId) (fun s e => s.GuardHolds hostId e) (newLockSystem server) es)
    (before after : List LockEvent) (hes : es = before ++ after) :
    OneHandlePerRow (run (LockSystem.step hostId) (newLockSystem server) before) := by
  rw [hes, always_append] at hguard
  have hinv := hguard.1.invariant (lockInv_new server) fun s e hinv hstep => hinv.step hstep
  exact hinv.rows.of_append_left

section Rows

variable {hostId holder key : String} {s : LockSystem}

/-- The event leaves the row of a key to its holder: no release that takes it away is served, and its time does not run
out. -/
def LockSystem.KeepsRow (hostId : String) (s : LockSystem) (key : String) : LockEvent → Prop
  | .serveRelease call principal => ∀ c, s.releases.find? (fun c => c.id == call) = some c →
      ¬s.server.Releases principal key (.release c.folderId hostId (c.handle.map LockHandle.lockId) c.requestKey)
  | .request principal request => ¬s.server.Releases principal key request
  | .elapse ms => ∀ row lockedAt, s.server.rows key = some row → row.lockedAt = some lockedAt →
      s.server.now + ms - lockedAt < row.lockTtl.getD defaultLockTtl * 1000
  | .acquire .. | .serveAcquire .. | .acquireEnds .. | .release .. | .releaseEnds _ | .heartbeat .. | .reap
  | .configure _ => True

theorem LockSystem.acquire_server (s : LockSystem) (folderId : String) (destinationKey : Option String) :
    (s.acquire folderId destinationKey).server = s.server := by
  unfold LockSystem.acquire
  dsimp only
  split <;> rfl

theorem LockSystem.acquireEnds_server (s : LockSystem) (call : Nat) (lost : Bool) : (s.acquireEnds call lost).server = s.server := by
  unfold LockSystem.acquireEnds
  split
  · rfl
  · split <;> rfl

theorem LockSystem.releaseEnds_server (s : LockSystem) (call : Nat) : (s.releaseEnds call).server = s.server := by
  unfold LockSystem.releaseEnds
  split <;> rfl

theorem LockServer.HeldBy.lockStep_iff (h : s.server.HeldBy holder key) (e : LockEvent) :
    s.KeepsRow hostId key e ↔ (s.step hostId e).server.HeldBy holder key := by
  cases e with
  | acquire folderId destinationKey =>
    refine iff_of_true trivial ?_
    show (s.acquire folderId destinationKey).server.HeldBy holder key
    rwa [LockSystem.acquire_server]
  | serveAcquire call principal =>
    refine iff_of_true trivial ?_
    show (s.serveAcquire hostId call principal).server.HeldBy holder key
    unfold LockSystem.serveAcquire
    split
    · exact h
    · exact (h.serve_iff principal _).2 id
  | acquireEnds call lost =>
    refine iff_of_true trivial ?_
    show (s.acquireEnds call lost).server.HeldBy holder key
    rwa [LockSystem.acquireEnds_server]
  | release folderId handle destinationKey => exact iff_of_true trivial h
  | serveRelease call principal =>
    show _ ↔ (s.serveRelease hostId call principal).server.HeldBy holder key
    unfold LockSystem.KeepsRow LockSystem.serveRelease
    cases hfind : s.releases.find? fun c => c.id == call with
    | none =>
      refine iff_of_true ?_ h
      intro c hc
      cases hfind.symm.trans hc
    | some c =>
      dsimp only
      rw [h.serve_iff]
      constructor
      · intro hkept
        exact hkept c hfind
      intro hkept c' hc'
      cases hfind.symm.trans hc'
      exact hkept
  | releaseEnds call =>
    refine iff_of_true trivial ?_
    show (s.releaseEnds call).server.HeldBy holder key
    rwa [LockSystem.releaseEnds_server]
  | heartbeat folderId handle destinationKey principal => exact iff_of_true trivial ((h.serve_iff principal _).2 id)
  | request principal request => exact (h.serve_iff principal request).symm
  | reap => exact iff_of_true trivial h.reap
  | configure config => exact iff_of_true trivial (h.congr rfl rfl)
  | elapse ms => exact (h.elapse_iff ms).symm

end Rows

def exampleLockServer : LockServer where
  rows := fun _ => none
  config := {
    folders := fun id =>
      if id = "f" ∨ id = "g" then
        some { id := id, name := "docs", type := .sync, backend := some .s3, backendId := some "b" }
      else none
    assignments := fun key => if key = ("f", "h") ∨ key = ("g", "h") then some ⟨"h", none, none, none⟩ else none
    backends := fun _ => none }
  now := 0
  nextLockId := 0

def exampleLockKey : String := "s3:b:path:docs"

def exampleAcquire (call : Nat) (folderId : String) (destinationKey : Option String) : List LockEvent :=
  [.acquire folderId destinationKey, .serveAcquire call (some (.device "k" "h")), .acquireEnds call false]

def exampleLockedRuns : List LockEvent :=
  let handle : LockHandle := ⟨"f", exampleLockKey, 0, 1200, 0, exampleLockKey⟩
  exampleAcquire 0 "f" (some exampleLockKey) ++
    [.elapse 30000, .heartbeat "f" (some handle) none (some (.device "k" "h")), .release "f" (some handle) none,
      .serveRelease 1 (some (.device "k" "h")), .releaseEnds 1] ++
    exampleAcquire 2 "g" (some exampleLockKey)

theorem one_handle_per_row_example :
    OneHandlePerRow (run (LockSystem.step "h") (newLockSystem exampleLockServer) exampleLockedRuns) :=
  one_handle_per_row "h" exampleLockServer exampleLockedRuns (by decide +kernel) exampleLockedRuns []
    (List.append_nil exampleLockedRuns).symm

/-- The two folders of the destination are run at the same time. -/
def exampleConcurrentRuns : List LockEvent :=
  [.acquire "f" (some exampleLockKey), .acquire "g" (some exampleLockKey),
    .serveAcquire 0 (some (.device "k" "h")), .serveAcquire 1 (some (.device "k" "h")),
    .acquireEnds 0 false, .acquireEnds 1 false]

def exampleSwitchAndRun : List LockEvent :=
  exampleAcquire 0 "f" none ++ exampleAcquire 1 "f" (some exampleLockKey)

/-- Both times two handles refer to the row of the destination. -/
theorem two_handles_share_row :
    let run := run (LockSystem.step "h") (newLockSystem exampleLockServer)
    (¬OneHandlePerRow (run exampleConcurrentRuns) ∧
      (run exampleConcurrentRuns).handles.map (fun h => (h.folderId, h.row)) =
        [("f", exampleLockKey), ("g", exampleLockKey)]) ∧
    ¬OneHandlePerRow (run exampleSwitchAndRun) ∧
      (run exampleSwitchAndRun).handles.map (fun h => (h.destinationKey, h.row)) =
        [("folder:f", exampleLockKey), (exampleLockKey, exampleLockKey)] := by
  decide +kernel

/-- A row stays its holder's, and closed to every other host, throughout a run exactly when each step leaves it to the
holder. -/
theorem held_row_kept_iff (hostId holder key : String) (s : LockSystem) (hheld : s.server.HeldBy holder key)
    (es : List LockEvent) :
    Always (LockSystem.step hostId) (fun s e => s.KeepsRow hostId key e) s es ↔ ∀ before after, es = before ++ after →
      (run (LockSystem.step hostId) s before).server.HeldBy holder key ∧ ∀ other, holder ≠ other →
        ((run (LockSystem.step hostId) s before).server.acquireConflict key other).isSome := by
  refine (always_iff_invariant (I := fun s => s.server.HeldBy holder key) hheld fun _ e h => h.lockStep_iff e).trans ?_
  refine ⟨fun h before after heq => ?_, fun h before after heq => (h before after heq).1⟩
  exact ⟨h before after heq, fun _ => (h before after heq).acquireConflict⟩

theorem held_row_kept_reaped :
    ((run (LockSystem.step "h") (newLockSystem exampleLockServer) (exampleAcquire 0 "f" none ++ [.reap])).server.acquireConflict
      exampleLockKey "other").isSome := by
  have hheld : (run (LockSystem.step "h") (newLockSystem exampleLockServer)
      (exampleAcquire 0 "f" none)).server.HeldBy "h" exampleLockKey := ⟨_, 0, rfl, by decide, rfl, by decide, by decide⟩
  rw [run_append]
  exact (((held_row_kept_iff "h" "h" _ _ hheld [.reap]).1 ⟨trivial, trivial⟩) [.reap] [] rfl).2 "other" (by decide)

end LamaSync
