import LamaSync.Daemon.Locks

/-!
# The runs of several hosts on one destination

A run takes the lock of its destination, sends a heartbeat for it every thirty seconds and is aborted when the server says
that the lock is lost.  A heartbeat that is not answered says nothing, and the run goes on.  The server gives the row of a
destination to another host once its time is over.

The hosts share the server, and each has its own daemon.  The rows are held by the runs exactly when every step of a run of
the system leaves them to their hosts (`runs_hold_rows_iff`), and then one host at a time writes to a destination
(`single_writer`).
-/

namespace LamaSync

open Trace

inductive LockedRun where
  /-- An attempt of `acquireLockWithRetry` is in flight; every attempt is a call here. -/
  | locking
  /-- `executeAssignment` is awaited, with whether its signal is aborted. -/
  | running (lock : LockHandle) (aborted : Bool)
  | ended
  deriving DecidableEq

abbrev LockedRunId := String × Nat

structure LockHeartbeat where
  run : LockedRunId
  answer : LockAnswer

structure WriterSystem where
  server : LockServer
  /-- The locks of each host.  They are all about the server above. -/
  daemons : String → LockSystem
  runs : Table LockedRunId LockedRun
  heartbeats : Table Nat LockHeartbeat
  nextHeartbeat : Nat

inductive WriterEvent where
  | lock (hostId : String) (e : LockEvent)
  | call (hostId folderId destinationKey : String)
  | heartbeat (run : LockedRunId) (principal : Option AuthPrincipal)
  | heartbeatEnds (heartbeat : Nat) (lost : Bool)
  | cancel (run : LockedRunId)
  /-- `executeAssignment` is over, and `releaseLock` is called. -/
  | runEnds (run : LockedRunId)

inductive LockHeartbeatResult where
  | ok | lost | unknown
  deriving DecidableEq

def heartbeatLock : Option LockAnswer → LockHeartbeatResult
  | some (.renewed _) | some .released => .ok
  | some (.folderLocked ..) => .lost
  | some (.refused status _) => if status = 404 ∨ status = 409 then .lost else .unknown
  | some (.acquired ..) | none => .unknown

def LockedRun.writes : LockedRun → Option LockHandle
  | .running lock false => some lock
  | .running _ true | .locking | .ended => none

def LockedRun.abort : LockedRun → LockedRun
  | .running lock _ => .running lock true
  | run => run

def LockAcquireResult.run : LockAcquireResult → LockedRun
  | .acquired handle => .running handle false
  | .contended .. | .unreachable _ => .ended

namespace WriterSystem

variable (s : WriterSystem)

def locks (hostId : String) : LockSystem := { s.daemons hostId with server := s.server }

def setLocks (hostId : String) (locks : LockSystem) : WriterSystem :=
  { s with server := locks.server, daemons := Function.update s.daemons hostId locks }

def setRun (id : LockedRunId) (run : LockedRun) : WriterSystem := { s with runs := s.runs.put id run }

def lockReturns (hostId : String) (call : Nat) (lost : Bool) : Table LockedRunId LockedRun :=
  match s.runs (hostId, call), (s.locks hostId).acquires.find? fun c => c.id == call with
  | some .locking, some c => s.runs.put (hostId, call) ((s.locks hostId).acquireResult c lost).run
  | _, _ => s.runs

def lockStep (hostId : String) (e : LockEvent) : WriterSystem :=
  { s.setLocks hostId ((s.locks hostId).step hostId e) with
    runs :=
      match e with
      | .acquireEnds call lost => s.lockReturns hostId call lost
      | _ => s.runs }

def call (hostId folderId destinationKey : String) : WriterSystem :=
  if ((s.locks hostId).activeLocks destinationKey).isSome then s
  else (s.setLocks hostId ((s.locks hostId).acquire folderId (some destinationKey))).setRun
    (hostId, (s.locks hostId).nextCall) .locking

def heartbeat (id : LockedRunId) (principal : Option AuthPrincipal) : WriterSystem :=
  match s.runs id with
  | some (.running lock _) =>
    let served := s.server.serve principal
      (.heartbeat lock.folderId id.1 (some lock.lockId) (some lock.destinationKey))
    { s with
      server := served.1
      heartbeats := s.heartbeats.put s.nextHeartbeat ⟨id, served.2⟩
      nextHeartbeat := s.nextHeartbeat + 1 }
  | some .locking | some .ended | none => s

def cancel (id : LockedRunId) : WriterSystem :=
  match s.runs id with
  | some run => s.setRun id run.abort
  | none => s

def heartbeatEnds (heartbeat : Nat) (lost : Bool) : WriterSystem :=
  match s.heartbeats heartbeat with
  | none => s
  | some answered =>
    let received := { s with heartbeats := s.heartbeats.erase heartbeat }
    if heartbeatLock (if lost then none else some answered.answer) = .lost then received.cancel answered.run else received

def runEnds (id : LockedRunId) : WriterSystem :=
  match s.runs id with
  | some (.running lock _) =>
    (s.setLocks id.1 ((s.locks id.1).release lock.folderId (some lock) none)).setRun id .ended
  | some .locking | some .ended | none => s

def step : WriterEvent → WriterSystem
  | .lock hostId e => s.lockStep hostId e
  | .call hostId folderId destinationKey => s.call hostId folderId destinationKey
  | .heartbeat run principal => s.heartbeat run principal
  | .heartbeatEnds heartbeat lost => s.heartbeatEnds heartbeat lost
  | .cancel run => s.cancel run
  | .runEnds run => s.runEnds run

end WriterSystem

def newWriterSystem (server : LockServer) : WriterSystem where
  server := server
  daemons := fun _ => newLockSystem server
  runs := fun _ => none
  heartbeats := fun _ => none
  nextHeartbeat := 0

namespace WriterSystem

variable (s : WriterSystem)

def Writes (id : LockedRunId) (lock : LockHandle) : Prop := ∃ run, s.runs id = some run ∧ run.writes = some lock

/-- The runs that write to a destination are of one host. -/
def SingleWriter : Prop :=
  ∀ id id' lock lock', s.Writes id lock → s.Writes id' lock' → lock.row = lock'.row → id.1 = id'.1

def RunsHoldRows : Prop := ∀ id lock, s.Writes id lock → s.server.HeldBy id.1 lock.row

def GuardHolds : WriterEvent → Prop
  | .lock hostId e =>
    (∀ id lock, s.Writes id lock → (s.locks hostId).KeepsRow hostId lock.row e) ∧
    ∀ call lost, e = .acquireEnds call lost → s.runs (hostId, call) = some .locking →
      ∀ c lock, (s.locks hostId).acquires.find? (fun c => c.id == call) = some c →
        (s.locks hostId).acquireResult c lost = .acquired lock → s.server.HeldBy hostId lock.row
  | .call .. | .heartbeat .. | .heartbeatEnds .. | .cancel _ | .runEnds _ => True

variable {s}

theorem RunsHoldRows.singleWriter (h : s.RunsHoldRows) : s.SingleWriter := by
  intro id id' lock lock' hwr hwr' hrow
  have hheld := h id lock hwr
  have hheld' := h id' lock' hwr'
  rw [← hrow] at hheld'
  exact hheld.unique hheld'

theorem RunsHoldRows.congr (h : s.RunsHoldRows) {s' : WriterSystem} (hruns : s'.runs = s.runs)
    (hrow : ∀ hostId key, s.server.HeldBy hostId key → s'.server.HeldBy hostId key) : s'.RunsHoldRows := by
  intro id lock hwr
  unfold Writes at hwr
  rw [hruns] at hwr
  exact hrow id.1 lock.row (h id lock hwr)

theorem RunsHoldRows.put_iff (h : s.RunsHoldRows) (s' : WriterSystem) (id : LockedRunId) {run : LockedRun}
    (hse : s'.server = s.server) (hruns : s'.runs = s.runs.put id run) :
    s'.RunsHoldRows ↔ ∀ lock, run.writes = some lock → s.server.HeldBy id.1 lock.row := by
  unfold RunsHoldRows Writes
  rw [hse, hruns]
  constructor
  · intro hh lock hwr
    exact hh id lock ⟨run, Table.put_self, hwr⟩
  rintro hheld other lock ⟨run', hrun', hwr⟩
  by_cases ho : other = id
  · subst ho
    obtain rfl := Option.some.inj (Table.put_self.symm.trans hrun')
    exact hheld lock hwr
  · rw [Table.put_of_ne ho] at hrun'
    exact h other lock ⟨run', hrun', hwr⟩

theorem RunsHoldRows.lockReturns (h : s.RunsHoldRows) (hostId : String) (call : Nat) (lost : Bool) :
    s.GuardHolds (.lock hostId (.acquireEnds call lost)) ↔ (s.lockStep hostId (.acquireEnds call lost)).RunsHoldRows := by
  have hse : (s.lockStep hostId (.acquireEnds call lost)).server = s.server :=
    (s.locks hostId).acquireEnds_server call lost
  have hruns : (s.lockStep hostId (.acquireEnds call lost)).runs = s.lockReturns hostId call lost := rfl
  have hg : s.GuardHolds (.lock hostId (.acquireEnds call lost)) ↔ (s.runs (hostId, call) = some .locking →
      ∀ c lock, (s.locks hostId).acquires.find? (fun c => c.id == call) = some c →
        (s.locks hostId).acquireResult c lost = .acquired lock → s.server.HeldBy hostId lock.row) := by
    constructor
    · intro hg
      exact hg.2 call lost rfl
    intro htold
    refine ⟨fun _ _ _ => trivial, ?_⟩
    intro call' lost' hsame
    cases hsame
    exact htold
  have hsame (hkept : s.lockReturns hostId call lost = s.runs) :
      (s.lockStep hostId (.acquireEnds call lost)).RunsHoldRows := by
    refine h.congr (hruns.trans hkept) ?_
    intro host key hheld
    rwa [hse]
  rw [hg]
  by_cases hlo : s.runs (hostId, call) = some .locking
  · cases hfind : (s.locks hostId).acquires.find? fun c => c.id == call with
    | none =>
      have hkept : s.lockReturns hostId call lost = s.runs := by
        unfold WriterSystem.lockReturns
        rw [hlo, hfind]
      refine iff_of_true ?_ (hsame hkept)
      intro _ c lock hf
      cases hf
    | some c =>
      have hput : s.lockReturns hostId call lost =
          s.runs.put (hostId, call) ((s.locks hostId).acquireResult c lost).run := by
        unfold WriterSystem.lockReturns
        rw [hlo, hfind]
      rw [h.put_iff _ (hostId, call) hse (hruns.trans hput)]
      constructor
      · intro htold lock hwr
        cases hres : (s.locks hostId).acquireResult c lost with
        | acquired handle =>
          rw [hres] at hwr
          obtain rfl : handle = lock := Option.some.inj hwr
          exact htold hlo c handle rfl hres
        | contended | unreachable =>
          rw [hres] at hwr
          cases hwr
      · intro hheld _ c' lock hf hres
        cases hf
        apply hheld lock
        rw [hres]
        rfl
  · have hkept : s.lockReturns hostId call lost = s.runs := by
      unfold WriterSystem.lockReturns
      split
      · rename_i hrun _
        exact absurd hrun hlo
      · rfl
    exact iff_of_true (fun hrun => absurd hrun hlo) (hsame hkept)

theorem RunsHoldRows.lockStep (h : s.RunsHoldRows) (hostId : String) (e : LockEvent)
    (ho : ∀ call lost, e ≠ .acquireEnds call lost) :
    s.GuardHolds (.lock hostId e) ↔ (s.lockStep hostId e).RunsHoldRows := by
  have hruns : (s.lockStep hostId e).runs = s.runs := by
    unfold WriterSystem.lockStep
    split
    · rename_i call lost
      exact absurd rfl (ho call lost)
    · rfl
  have hrow {holder key : String} (hheld : s.server.HeldBy holder key) :
      (s.locks hostId).KeepsRow hostId key e ↔ (s.lockStep hostId e).server.HeldBy holder key :=
    LockServer.HeldBy.lockStep_iff (s := s.locks hostId) hheld e
  constructor
  · rintro ⟨hkept, -⟩ id lock hwr
    unfold Writes at hwr
    rw [hruns] at hwr
    exact (hrow (h id lock hwr)).1 (hkept id lock hwr)
  intro hh
  refine ⟨?_, ?_⟩
  · intro id lock hwr
    apply (hrow (h id lock hwr)).2
    apply hh id lock
    unfold Writes
    rwa [hruns]
  · intro call lost hsame
    exact absurd hsame (ho call lost)

theorem RunsHoldRows.call (h : s.RunsHoldRows) (hostId folderId destinationKey : String) :
    (s.call hostId folderId destinationKey).RunsHoldRows := by
  unfold WriterSystem.call
  split
  · exact h
  refine (h.put_iff _ (hostId, (s.locks hostId).nextCall) ?_ rfl).2 ?_
  · exact (s.locks hostId).acquire_server folderId (some destinationKey)
  · intro lock hwr
    cases hwr

theorem RunsHoldRows.heartbeat (h : s.RunsHoldRows) (id : LockedRunId) (principal : Option AuthPrincipal) :
    (s.heartbeat id principal).RunsHoldRows := by
  unfold WriterSystem.heartbeat
  split
  · exact h.congr rfl fun hostId key hheld => (hheld.serve_iff principal _).2 fun hre => hre
  all_goals exact h

theorem RunsHoldRows.cancel (h : s.RunsHoldRows) (id : LockedRunId) : (s.cancel id).RunsHoldRows := by
  unfold WriterSystem.cancel
  cases hrun : s.runs id with
  | none => exact h
  | some run =>
    refine (h.put_iff (s.setRun id run.abort) id rfl rfl).2 ?_
    intro lock hwr
    cases run <;> cases hwr

theorem RunsHoldRows.heartbeatEnds (h : s.RunsHoldRows) (heartbeat : Nat) (lost : Bool) :
    (s.heartbeatEnds heartbeat lost).RunsHoldRows := by
  unfold WriterSystem.heartbeatEnds
  cases s.heartbeats heartbeat with
  | none => exact h
  | some answered =>
    have hover : RunsHoldRows { s with heartbeats := s.heartbeats.erase heartbeat } := h.congr rfl fun _ _ => id
    dsimp only
    by_cases hlost : heartbeatLock (if lost then none else some answered.answer) = .lost
    · rw [if_pos hlost]
      exact hover.cancel answered.run
    · rw [if_neg hlost]
      exact hover

theorem RunsHoldRows.runEnds (h : s.RunsHoldRows) (id : LockedRunId) : (s.runEnds id).RunsHoldRows := by
  unfold WriterSystem.runEnds
  split
  · rename_i lock _ _
    refine (h.put_iff ((s.setLocks id.1 ((s.locks id.1).release lock.folderId (some lock) none)).setRun id .ended) id
      rfl rfl).2 ?_
    intro lock hwr
    cases hwr
  all_goals exact h

theorem RunsHoldRows.step (h : s.RunsHoldRows) (e : WriterEvent) : s.GuardHolds e ↔ (s.step e).RunsHoldRows := by
  cases e with
  | lock hostId e =>
    by_cases hends : ∃ call lost, e = .acquireEnds call lost
    · obtain ⟨call, lost, rfl⟩ := hends
      exact h.lockReturns hostId call lost
    · exact h.lockStep hostId e fun call lost hsame => hends ⟨call, lost, hsame⟩
  | call hostId folderId destinationKey => exact iff_of_true trivial (h.call hostId folderId destinationKey)
  | heartbeat run principal => exact iff_of_true trivial (h.heartbeat run principal)
  | heartbeatEnds heartbeat lost => exact iff_of_true trivial (h.heartbeatEnds heartbeat lost)
  | cancel run => exact iff_of_true trivial (h.cancel run)
  | runEnds run => exact iff_of_true trivial (h.runEnds run)

end WriterSystem

theorem runs_hold_rows_iff (server : LockServer) (es : List WriterEvent) :
    (∀ before after, es = before ++ after → (run WriterSystem.step (newWriterSystem server) before).RunsHoldRows) ↔
      Always WriterSystem.step (fun s e => s.GuardHolds e) (newWriterSystem server) es := by
  have hnew : (newWriterSystem server).RunsHoldRows := by
    rintro id lock ⟨run, hrun, -⟩
    cases hrun
  exact (always_iff_invariant hnew fun s e h => h.step e).symm

/-- **One host writes to a destination.** In every state of a run of the system whose steps all meet the condition, the
runs that write under a row are of one host. -/
theorem single_writer (server : LockServer) (es : List WriterEvent)
    (hguard : Always WriterSystem.step (fun s e => s.GuardHolds e) (newWriterSystem server) es)
    (before after : List WriterEvent) (hes : es = before ++ after) :
    (run WriterSystem.step (newWriterSystem server) before).SingleWriter :=
  ((runs_hold_rows_iff server es).2 hguard before after hes).singleWriter

/-- A folder on two hosts. -/
def exampleSharedServer : LockServer :=
  { exampleLockServer with config := { exampleLockServer.config with
      assignments := fun key =>
        if key = ("f", "h") then some ⟨"h", none, none, none⟩
        else if key = ("f", "k") then some ⟨"k", none, none, none⟩
        else none } }

def exampleLocks (hostId : String) : List WriterEvent :=
  [.call hostId "f" exampleLockKey, .lock hostId (.serveAcquire 0 (some (.device "d" hostId))),
    .lock hostId (.acquireEnds 0 false)]

def exampleSecondRefused : List WriterEvent :=
  exampleLocks "h" ++ [.heartbeat ("h", 0) (some (.device "d" "h")), .heartbeatEnds 0 false] ++ exampleLocks "k"

theorem single_writer_refused :
    (run WriterSystem.step (newWriterSystem exampleSharedServer) exampleSecondRefused).SingleWriter := by
  refine single_writer exampleSharedServer exampleSecondRefused ?_ exampleSecondRefused [] (List.append_nil _).symm
  refine ⟨trivial, ⟨fun _ _ _ => trivial, ?_⟩, ⟨fun _ _ _ => trivial, ?_⟩, trivial, trivial, trivial,
    ⟨fun _ _ _ => trivial, ?_⟩, ⟨fun _ _ _ => trivial, ?_⟩, trivial⟩
  · intro call lost hsame
    cases hsame
  · -- the first host is told of the row that was written for it
    intro call lost hsame _ c lock hfind hres
    cases hsame
    let s := run WriterSystem.step (newWriterSystem exampleSharedServer) ((exampleLocks "h").take 2)
    have htold : ((s.locks "h").acquires.find? fun c => c.id == 0).map ((s.locks "h").acquireResult · false) =
        some (.acquired ⟨"f", exampleLockKey, 0, 1200, 0, exampleLockKey⟩) := by decide +kernel
    have hans := Option.some.inj (htold.symm.trans (congrArg (Option.map ((s.locks "h").acquireResult · false)) hfind))
    cases hans.trans hres
    have hrow : s.server.rows exampleLockKey = some ⟨some "f", some "h", some 0, some 1200, some 0⟩ := by decide +kernel
    exact ⟨_, 0, hrow, by decide, rfl, by decide, by decide +kernel⟩
  · intro call lost hsame
    cases hsame
  · -- the second one is not
    intro call lost hsame _ c lock hfind hres
    cases hsame
    let s := run WriterSystem.step (newWriterSystem exampleSharedServer) (exampleSecondRefused.take 7)
    have htold : ((s.locks "k").acquires.find? fun c => c.id == 0).map ((s.locks "k").acquireResult · false) =
        some (.contended "h" 1200 exampleLockKey) := by decide +kernel
    have hans := Option.some.inj (htold.symm.trans (congrArg (Option.map ((s.locks "k").acquireResult · false)) hfind))
    cases hans.trans hres

/-- No heartbeat of the first host reaches the server, and the second one is granted the row when its time is over. -/
def exampleLapsed : List WriterEvent :=
  exampleLocks "h" ++ [.lock "h" (.elapse 1200000)] ++ exampleLocks "k"

/-- Both hosts write. -/
theorem two_hosts_write :
    let s := run WriterSystem.step (newWriterSystem exampleSharedServer) exampleLapsed
    ((s.runs ("h", 0)).bind LockedRun.writes).map LockHandle.row = some exampleLockKey ∧
      ((s.runs ("k", 0)).bind LockedRun.writes).map LockHandle.row = some exampleLockKey ∧ ¬s.SingleWriter := by
  intro s
  have hfi : ((s.runs ("h", 0)).bind LockedRun.writes).map LockHandle.row = some exampleLockKey := by decide +kernel
  have hse : ((s.runs ("k", 0)).bind LockedRun.writes).map LockHandle.row = some exampleLockKey := by decide +kernel
  refine ⟨hfi, hse, ?_⟩
  intro hsi
  obtain ⟨lock, hwr, hrow⟩ := Option.map_eq_some_iff.1 hfi
  obtain ⟨lock', hwr', hrow'⟩ := Option.map_eq_some_iff.1 hse
  have hho := hsi ("h", 0) ("k", 0) lock lock' (Option.bind_eq_some_iff.1 hwr)
    (Option.bind_eq_some_iff.1 hwr') (hrow.trans hrow'.symm)
  exact absurd hho (by decide)

end LamaSync
