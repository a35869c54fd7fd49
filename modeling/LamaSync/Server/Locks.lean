import LamaSync.Core.Folders
import LamaSync.Lib.Table
import LamaSync.Server.Principal

/-!
# The destination locks of the server

`folder_locks` has one row per destination.  The handlers of acquire, heartbeat and release are synchronous, so each is
one step on the table.

The row that an acquire writes is the one of the key that the server derives from its own folder, assignment and backend
rows; the key of the request counts only where there is no assignment.  Heartbeat and release take the key of the request
as it is.  The same host acquires a row that it holds again, with a new lock id.
-/

namespace LamaSync

structure LockRow where
  folderId : Option String
  lockedBy : Option String
  lockedAt : Option Int
  lockTtl : Option Int
  lockId : Option Nat
  deriving DecidableEq

structure ResticBackendRow where
  resticRepository : Option String
  resticPassword : Option String
  deriving DecidableEq

structure LockConfig where
  folders : Table String Folder
  assignments : Table (String × String) AssignmentIdentity
  backends : Table String ResticBackendRow

structure LockServer where
  rows : Table String LockRow
  config : LockConfig
  now : Int
  nextLockId : Nat

def defaultLockTtl : Int := 1200

def defaultLockKey (folderId : String) : String := "folder:" ++ folderId

def folderBackend (folder : Folder) : Folder := { folder with backend := some (folder.backend.getD .sftp) }

def asksBackend (folder : Folder) (assignment : AssignmentIdentity) : Bool :=
  (presentText assignment.resticRepository).isNone && folder.backend == some .restic &&
    (presentText folder.backendId).isSome

def assignmentKey (folder : Folder) (assignment : AssignmentIdentity) : Except String String :=
  -- the query names the password's column of the assignments, and the table of the backends has none of that name
  if asksBackend folder assignment then .error "no such column: restic_password"
  else canonicalDestinationKey (folderBackend folder) assignment

def fallbackKey (folderId : String) (requestedKey : Option String) : String :=
  (presentTrimmed requestedKey).getD (defaultLockKey folderId)

def canonicalKeyForAcquire (config : LockConfig) (folderId hostId : String) (requestedKey : Option String) :
    Except String String :=
  match config.folders folderId, config.assignments (folderId, hostId) with
  | some folder, some assignment => assignmentKey folder assignment
  | _, _ => .ok (fallbackKey folderId requestedKey)

def requestKey (config : LockConfig) (folderId hostId : String) (destinationKey : Option String) :
    Except String String :=
  match destinationKey.filter fun key => trimText key ≠ "" with
  | some key => .ok key
  | none => canonicalKeyForAcquire config folderId hostId none

inductive LockAnswer where
  | acquired (lockId : Nat) (ttl : Int) (destinationKey : String)
  | renewed (renewedAt : Int)
  | released
  | folderLocked (lockedBy : String) (lockedAt lockTtl remainingSec : Int) (destinationKey : String)
  | refused (status : Nat) (error : String)
  deriving DecidableEq

inductive LockRequest where
  | acquire (folderId hostId : String) (destinationKey : Option String)
  | heartbeat (folderId hostId : String) (lockId : Option Nat) (destinationKey : Option String)
  | release (folderId hostId : String) (lockId : Option Nat) (destinationKey : Option String)
  deriving DecidableEq

def LockRequest.hostId : LockRequest → String
  | .acquire _ hostId _ | .heartbeat _ hostId _ _ | .release _ hostId _ _ => hostId

namespace LockServer

variable (s : LockServer)

def ceilSeconds (ms : Int) : Int := -(-ms / 1000)

def acquireConflict (key hostId : String) : Option LockAnswer :=
  match s.rows key with
  | none => none
  | some row =>
    let lockTtl := row.lockTtl.getD defaultLockTtl
    match presentText row.lockedBy, row.lockedAt with
    | some lockedBy, some lockedAt =>
      if lockedBy ≠ hostId ∧ s.now - lockedAt < lockTtl * 1000 then
        some (.folderLocked lockedBy lockedAt lockTtl (ceilSeconds (lockedAt + lockTtl * 1000 - s.now)) key)
      else none
    | _, _ => none

def grant (key folderId hostId : String) : LockServer :=
  { s with
    rows := s.rows.put key ⟨some folderId, some hostId, some s.now, some defaultLockTtl, some s.nextLockId⟩
    nextLockId := s.nextLockId + 1 }

def acquire (folderId hostId : String) (destinationKey : Option String) : LockServer × LockAnswer :=
  match canonicalKeyForAcquire s.config folderId hostId destinationKey with
  | .error error => (s, .refused 500 error)
  | .ok key =>
    match s.acquireConflict key hostId with
    | some conflict => (s, conflict)
    | none => (s.grant key folderId hostId, .acquired s.nextLockId defaultLockTtl key)

def ownerProblem (row : LockRow) (hostId : String) : Option LockAnswer :=
  if row.lockedBy ≠ some hostId then some (.refused 409 "lock_held_by_other") else none

def lockIdProblem (row : LockRow) (lockId : Option Nat) : Option LockAnswer :=
  if lockId.isSome ∧ lockId ≠ row.lockId then some (.refused 409 "lock_id_mismatch") else none

def isExpired (row : LockRow) : Bool :=
  decide (row.lockTtl.getD defaultLockTtl * 1000 ≤ s.now - row.lockedAt.getD 0)

def heartbeat (folderId hostId : String) (lockId : Option Nat) (destinationKey : Option String) :
    LockServer × LockAnswer :=
  match requestKey s.config folderId hostId destinationKey with
  | .error error => (s, .refused 500 error)
  | .ok key =>
    match s.rows key with
    | none => (s, .refused 404 "no_active_lock")
    | some row =>
      if row.lockedBy = none then (s, .refused 404 "no_active_lock")
      else match ownerProblem row hostId with
        | some problem => (s, problem)
        | none =>
          if s.isExpired row then (s, .refused 404 "lock_expired")
          else match lockIdProblem row lockId with
            | some problem => (s, problem)
            | none => ({ s with rows := s.rows.put key { row with lockedAt := some s.now } }, .renewed s.now)

def release (folderId hostId : String) (lockId : Option Nat) (destinationKey : Option String) :
    LockServer × LockAnswer :=
  match requestKey s.config folderId hostId destinationKey with
  | .error error => (s, .refused 500 error)
  | .ok key =>
    match s.rows key with
    | none => (s, .refused 404 "no_active_lock")
    | some row =>
      match (ownerProblem row hostId).or (lockIdProblem row lockId) with
      | some problem => (s, problem)
      | none => ({ s with rows := s.rows.erase key }, .released)

def serve (principal : Option AuthPrincipal) (request : LockRequest) : LockServer × LockAnswer :=
  if !deviceMayAccessHost principal (some request.hostId) then (s, .refused 403 "Forbidden")
  else match request with
    | .acquire folderId hostId destinationKey => s.acquire folderId hostId destinationKey
    | .heartbeat folderId hostId lockId destinationKey => s.heartbeat folderId hostId lockId destinationKey
    | .release folderId hostId lockId destinationKey => s.release folderId hostId lockId destinationKey

def reapExpiredFolderLocks : LockServer :=
  { s with rows := fun key => (s.rows key).filter fun row =>
      !(row.lockedAt.any fun lockedAt => row.lockTtl.any fun lockTtl => decide (lockedAt + lockTtl * 1000 ≤ s.now)) }

def grantedRow (principal : Option AuthPrincipal) (folderId hostId : String) (destinationKey : Option String) :
    Option String :=
  if !deviceMayAccessHost principal (some hostId) then none
  else (canonicalKeyForAcquire s.config folderId hostId destinationKey).toOption.filter fun key =>
    (s.acquireConflict key hostId).isNone

variable {s}

theorem acquireConflict_ne {key hostId : String} {conflict : LockAnswer}
    (h : s.acquireConflict key hostId = some conflict) (lockId : Nat) (ttl : Int) (row : String) :
    conflict ≠ .acquired lockId ttl row := by
  rintro rfl
  unfold acquireConflict at h
  split at h
  · cases h
  dsimp only at h
  split at h
  · split at h <;> cases h
  · cases h

theorem serve_acquire {principal : Option AuthPrincipal} {folderId hostId : String} {destinationKey : Option String}
    {lockId : Nat} {ttl : Int} {row : String}
    (h : (s.serve principal (.acquire folderId hostId destinationKey)).2 = .acquired lockId ttl row) :
    s.grantedRow principal folderId hostId destinationKey = some row := by
  unfold serve at h
  unfold grantedRow
  rw [show (LockRequest.acquire folderId hostId destinationKey).hostId = hostId from rfl] at h
  split at h
  · cases h
  rename_i hok
  rw [if_neg hok]
  dsimp only [acquire] at h
  cases hkey : canonicalKeyForAcquire s.config folderId hostId destinationKey with
  | error error => rw [hkey] at h; cases h
  | ok key =>
    rw [hkey] at h
    dsimp only at h
    cases hconf : s.acquireConflict key hostId with
    | some conflict =>
      rw [hconf] at h
      exact absurd h (acquireConflict_ne hconf lockId ttl row)
    | none =>
      rw [hconf] at h
      cases h
      simp [Except.toOption, hconf]

def HeldBy (s : LockServer) (hostId key : String) : Prop :=
  ∃ row lockedAt, s.rows key = some row ∧ presentText row.lockedBy = some hostId ∧ row.lockedAt = some lockedAt ∧
    0 < row.lockTtl.getD defaultLockTtl ∧ s.now - lockedAt < row.lockTtl.getD defaultLockTtl * 1000

def Releases (s : LockServer) (principal : Option AuthPrincipal) (key : String) : LockRequest → Prop
  | .release folderId hostId lockId destinationKey => deviceMayAccessHost principal (some hostId) = true ∧
      requestKey s.config folderId hostId destinationKey = .ok key ∧
      ∃ row, s.rows key = some row ∧ ownerProblem row hostId = none ∧ lockIdProblem row lockId = none
  | .acquire .. | .heartbeat .. => False

variable {hostId key : String}

theorem HeldBy.congr (h : s.HeldBy hostId key) {s' : LockServer} (hrow : s'.rows key = s.rows key)
    (hnow : s'.now = s.now) : s'.HeldBy hostId key := by
  unfold HeldBy
  rw [hrow, hnow]
  exact h

theorem lockedBy_of_present {row : LockRow} (h : presentText row.lockedBy = some hostId) :
    row.lockedBy = some hostId ∧ hostId ≠ "" := by
  unfold presentText at h
  obtain ⟨hname, hpres⟩ := Option.filter_eq_some_iff.1 h
  exact ⟨hname, by simpa using hpres⟩

variable {other : String}

theorem HeldBy.unique (h : s.HeldBy hostId key) (h' : s.HeldBy other key) : hostId = other := by
  obtain ⟨row, -, hrow, hpres, -⟩ := h
  obtain ⟨row', -, hrow', hpres', -⟩ := h'
  obtain rfl := Table.unique hrow hrow'
  exact Option.mem_unique hpres hpres'

theorem HeldBy.acquireConflict (h : s.HeldBy hostId key) (hne : hostId ≠ other) :
    (s.acquireConflict key other).isSome := by
  obtain ⟨row, lockedAt, hrow, hpres, hlo, -, hlive⟩ := h
  unfold LockServer.acquireConflict
  rw [hrow]
  dsimp only
  rw [hpres, hlo]
  dsimp only
  rw [if_pos ⟨hne, hlive⟩]
  rfl

theorem HeldBy.acquire (h : s.HeldBy hostId key) (folderId other : String) (destinationKey : Option String) :
    (s.acquire folderId other destinationKey).1.HeldBy hostId key := by
  unfold LockServer.acquire
  cases hkey : canonicalKeyForAcquire s.config folderId other destinationKey with
  | error error => exact h
  | ok granted =>
    dsimp only
    cases hconf : s.acquireConflict granted other with
    | some conflict => exact h
    | none =>
      by_cases hsame : key = granted
      · subst hsame
        -- only the holder itself is granted its row again
        have ho : hostId = other := by
          by_contra hne
          have href := h.acquireConflict hne
          rw [hconf] at href
          cases href
        subst ho
        obtain ⟨row, lockedAt, -, hpres, -⟩ := h
        obtain ⟨-, hname⟩ := lockedBy_of_present hpres
        have hrun : s.now - s.now < defaultLockTtl * 1000 := by
          unfold defaultLockTtl
          omega
        exact ⟨_, s.now, Table.put_self, by simp [presentText, hname], rfl, by simp [defaultLockTtl], hrun⟩
      · exact h.congr (Table.put_of_ne hsame) rfl

theorem HeldBy.heartbeat (h : s.HeldBy hostId key) (folderId other : String) (lockId : Option Nat)
    (destinationKey : Option String) : (s.heartbeat folderId other lockId destinationKey).1.HeldBy hostId key := by
  unfold LockServer.heartbeat
  cases hkey : requestKey s.config folderId other destinationKey with
  | error error => exact h
  | ok renewed =>
    dsimp only
    cases hrow : s.rows renewed with
    | none => exact h
    | some row =>
      dsimp only
      split
      · exact h
      split
      · exact h
      split
      · exact h
      split
      · exact h
      by_cases hsame : key = renewed
      · subst hsame
        obtain ⟨held, lockedAt, hheld, hpres, hlo, hpo, hlive⟩ := h
        obtain rfl := Table.unique hrow hheld
        refine ⟨_, s.now, Table.put_self, hpres, rfl, hpo, ?_⟩
        show s.now - s.now < row.lockTtl.getD defaultLockTtl * 1000
        omega
      · exact h.congr (Table.put_of_ne hsame) rfl

theorem HeldBy.release (h : s.HeldBy hostId key) {principal : Option AuthPrincipal} {folderId : String}
    {lockId : Option Nat} {destinationKey : Option String} (hok : deviceMayAccessHost principal (some other) = true) :
    (s.release folderId other lockId destinationKey).1.HeldBy hostId key ↔
      ¬s.Releases principal key (.release folderId other lockId destinationKey) := by
  unfold LockServer.release
  cases hkey : requestKey s.config folderId other destinationKey with
  | error error => simp [h, Releases, hkey]
  | ok released =>
    dsimp only
    cases hrow : s.rows released with
    | none =>
      refine iff_of_true h ?_
      rintro ⟨-, hsame, row, hheld, -⟩
      cases hkey.symm.trans hsame
      cases hrow.symm.trans hheld
    | some row =>
      dsimp only
      cases hprob : (ownerProblem row other).or (lockIdProblem row lockId) with
      | some problem =>
        refine iff_of_true h ?_
        rintro ⟨-, hsame, row', hheld, hw, hid⟩
        cases hkey.symm.trans hsame
        obtain rfl := Table.unique hrow hheld
        rw [hw, hid] at hprob
        cases hprob
      | none =>
        obtain ⟨hw, hid⟩ := Option.or_eq_none_iff.1 hprob
        by_cases hsame : key = released
        · subst hsame
          refine iff_of_false ?_ (not_not_intro ⟨hok, hkey, row, hrow, hw, hid⟩)
          rintro ⟨row', -, hheld, -⟩
          cases Table.erase_self.symm.trans hheld
        refine iff_of_true (h.congr (Table.erase_of_ne hsame) rfl) ?_
        rintro ⟨-, hkey', -⟩
        cases hkey.symm.trans hkey'
        exact hsame rfl

theorem HeldBy.serve_iff (h : s.HeldBy hostId key) (principal : Option AuthPrincipal) (request : LockRequest) :
    (s.serve principal request).1.HeldBy hostId key ↔ ¬s.Releases principal key request := by
  unfold LockServer.serve
  cases hok : deviceMayAccessHost principal (some request.hostId) with
  | false =>
    refine iff_of_true h ?_
    cases request with
    | acquire folderId other destinationKey | heartbeat folderId other lockId destinationKey => exact id
    | release folderId other lockId destinationKey =>
      rintro ⟨hmay, -⟩
      cases hok.symm.trans hmay
  | true =>
    cases request with
    | acquire folderId other destinationKey => exact iff_of_true (h.acquire folderId other destinationKey) id
    | heartbeat folderId other lockId destinationKey =>
      exact iff_of_true (h.heartbeat folderId other lockId destinationKey) id
    | release folderId other lockId destinationKey => exact h.release hok

theorem HeldBy.reap (h : s.HeldBy hostId key) : s.reapExpiredFolderLocks.HeldBy hostId key := by
  obtain ⟨row, lockedAt, hrow, hpres, hlo, hpo, hlive⟩ := h
  refine ⟨row, lockedAt, ?_, hpres, hlo, hpo, hlive⟩
  show (s.rows key).filter _ = some row
  rw [hrow, Option.filter_some, if_pos]
  rw [hlo]
  cases httl : row.lockTtl with
  | none => rfl
  | some lockTtl =>
    rw [httl, Option.getD_some] at hlive
    have hrun : ¬lockedAt + lockTtl * 1000 ≤ s.now := by omega
    simp [hrun]

theorem HeldBy.elapse_iff (h : s.HeldBy hostId key) (ms : Nat) :
    ({ s with now := s.now + ms } : LockServer).HeldBy hostId key ↔
      ∀ row lockedAt, s.rows key = some row → row.lockedAt = some lockedAt →
        s.now + ms - lockedAt < row.lockTtl.getD defaultLockTtl * 1000 := by
  obtain ⟨row, lockedAt, hrow, hpres, hlo, hpo, -⟩ := h
  constructor
  · rintro ⟨row', lockedAt', hrow', -, hlo', -, hlive⟩ other at' ho hat
    obtain rfl := Table.unique hrow' ho
    obtain rfl : lockedAt' = at' := Option.mem_unique hlo' hat
    exact hlive
  · intro hlive
    exact ⟨row, lockedAt, hrow, hpres, hlo, hpo, hlive row lockedAt hrow hlo⟩

end LockServer

end LamaSync
