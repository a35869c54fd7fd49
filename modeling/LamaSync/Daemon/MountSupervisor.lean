import LamaSync.Lib.Table
import LamaSync.Lib.Trace

/-!
# The supervisor of the mounts

`startMount` spawns an rclone process and awaits its mount, an exit watcher marks the mount dead and schedules a restart,
and `stopMount` takes the entry of the folder out.  Between the pieces anything else of the folder can happen, and every
piece finds the entry by the folder's id, whoever made it.

A folder here is its entry, the processes that were spawned for it, the restart timers and the calls that await the
force-unmount of a stale mount.  The pieces of different folders do not touch each other.  `mounts_safe` says in which runs
the supervisor keeps what it promises.
-/

namespace LamaSync

open Trace
open Table (put_of_ne put_self erase_self erase_of_ne)

inductive MountStatus where
  | starting | mounted | unmounting | dead
  deriving DecidableEq

/-- The entry of a folder in `mounts` and `internals`, which are written together. -/
structure TrackedMount where
  /-- The process that was spawned for it.  A mount that was found alive has none. -/
  proc : Option Nat
  status : MountStatus
  restartCount : Nat
  restartTimer : Option Nat
  stoppedByUs : Bool
  /-- The process whose exit marked it dead. -/
  deadBy : Option Nat
  deriving DecidableEq

inductive MountProcPhase where
  | awaited | failing | watched | reported | done
  deriving DecidableEq

structure MountProc where
  restart : Bool
  alive : Bool
  killed : Bool
  phase : MountProcPhase
  afterStop : Bool
  deriving DecidableEq

structure FolderMount where
  entry : Option TrackedMount
  procs : Table Nat MountProc
  /-- The calls of `startMount` that await the force-unmount, with whether `attemptRestart` made them. -/
  unmounting : Table Nat Bool
  timers : Table Nat Nat
  stopping : Nat
  next : Nat
  /-- The last call that was made is `stopMount`. -/
  stopped : Bool
  /-- The delays of the restart attempts since an unexpected exit, until the mount is up or somebody starts or stops it. -/
  attempts : Option (List Nat)

/-- What comes of the part of `startMount` from `mkdirSync` to `writePidFile`. -/
inductive MountLaunch where
  | throws
  | spawned (pidFile : Bool)
  deriving DecidableEq

inductive MountPoint where
  | free (launch : MountLaunch)
  /-- A mount whose process is dead. -/
  | stale
  /-- The mount of a process from before. -/
  | live
  deriving DecidableEq

inductive MountEvent where
  | start (point : MountPoint)
  | unmounted (call : Nat) (launch : MountLaunch)
  /-- `waitForMount` says that the mount of a process is there. -/
  | ready (proc : Nat)
  | notReady (proc : Nat)
  | drained (proc : Nat)
  | exits (proc : Nat)
  | watcher (proc : Nat)
  | watcherDrained (proc : Nat)
  | timer (timer : Nat) (point : MountPoint)
  | stop
  | stopEnds

def restartDelays : List Nat := [60000, 300000, 900000]

namespace FolderMount

variable (s : FolderMount)

def setStatus (status : MountStatus) : FolderMount := { s with entry := s.entry.map fun m => { m with status := status } }

def markDead (proc : Nat) : FolderMount :=
  { s with entry := s.entry.map fun m => { m with status := .dead, deadBy := some proc } }

def scheduleRestart : FolderMount :=
  match s.entry with
  | none => s
  | some m =>
    match restartDelays[m.restartCount]? with
    | none => s.setStatus .dead
    | some delay => { s with
        entry := some { m with restartCount := m.restartCount + 1, restartTimer := some s.next }
        timers := s.timers.put s.next delay
        next := s.next + 1 }

def spawn (restart pidFile : Bool) : FolderMount :=
  let phase := if pidFile then MountProcPhase.awaited else .done
  { s with
    entry := some ⟨some s.next, .starting, 0, none, false, none⟩
    procs := s.procs.put s.next ⟨restart, true, false, phase, s.stopped⟩
    next := s.next + 1 }

def launch (restart : Bool) : MountLaunch → FolderMount
  | .throws => if restart then s.scheduleRestart else s
  | .spawned pidFile =>
    if restart && !pidFile then (s.spawn restart pidFile).scheduleRestart else s.spawn restart pidFile

def startMount (restart : Bool) (point : MountPoint) : FolderMount :=
  if s.entry.any fun m => m.status != .dead then s
  else
    let tried := { s with attempts := if restart then s.attempts else none }
    match point with
    | .free launch => tried.launch restart launch
    | .stale => { tried with unmounting := s.unmounting.put s.next restart, next := s.next + 1 }
    | .live => { tried with entry := some ⟨none, .mounted, 0, none, false, none⟩, attempts := none }

def unmounted (call : Nat) (launch : MountLaunch) : FolderMount :=
  match s.unmounting call with
  | none => s
  | some restart => { s with unmounting := s.unmounting.erase call }.launch restart launch

def inPhase (proc : Nat) (phase : MountProcPhase) (f : MountProc → FolderMount) : FolderMount :=
  match s.procs proc with
  | none => s
  | some p => if p.phase = phase then f p else s

def setPhase (proc : Nat) (p : MountProc) (phase : MountProcPhase) : FolderMount :=
  { s with procs := s.procs.put proc { p with phase := phase } }

def ready (proc : Nat) : FolderMount :=
  s.inPhase proc .awaited fun p => { (s.setStatus .mounted).setPhase proc p .watched with attempts := none }

def notReady (proc : Nat) : FolderMount :=
  s.inPhase proc .awaited fun p => (s.markDead proc).setPhase proc { p with killed := true } .failing

def drained (proc : Nat) : FolderMount :=
  s.inPhase proc .failing fun p =>
    let cleaned := { s.setPhase proc p .done with entry := none }
    if p.restart then cleaned.scheduleRestart else cleaned

def exits (proc : Nat) : FolderMount :=
  match s.procs proc with
  | none => s
  | some p => { s with procs := s.procs.put proc { p with alive := false } }

def watcher (proc : Nat) : FolderMount :=
  s.inPhase proc .watched fun p =>
    if p.alive then s
    else s.setPhase proc p (if s.entry.all fun m => m.stoppedByUs then .done else .reported)

def watcherDrained (proc : Nat) : FolderMount :=
  s.inPhase proc .reported fun p =>
    let attempts := if s.entry.all fun m => m.stoppedByUs then s.attempts else some []
    { (s.markDead proc).setPhase proc p .done with attempts := attempts }.scheduleRestart

def timer (timer : Nat) (point : MountPoint) : FolderMount :=
  match s.timers timer with
  | none => s
  | some delay =>
    let fired := { s with timers := s.timers.erase timer }
    if s.entry.isNone then fired
    else { fired with attempts := s.attempts.map (· ++ [delay]) }.startMount true point

def stop : FolderMount :=
  let called := { s with stopped := true, attempts := none }
  match s.entry with
  | none => called
  | some m => { called with
      entry := some { m with status := .unmounting, restartTimer := none, stoppedByUs := true }
      timers := m.restartTimer.elim s.timers s.timers.erase
      procs := m.proc.elim s.procs fun proc =>
        (s.procs proc).elim s.procs fun p => s.procs.put proc { p with killed := p.killed || p.alive }
      stopping := s.stopping + 1 }

def stopEnds : FolderMount :=
  if s.stopping = 0 then s else { s with entry := none, stopping := s.stopping - 1 }

def step : MountEvent → FolderMount
  | .start point => { s with stopped := false }.startMount false point
  | .unmounted call launch => s.unmounted call launch
  | .ready proc => s.ready proc
  | .notReady proc => s.notReady proc
  | .drained proc => s.drained proc
  | .exits proc => s.exits proc
  | .watcher proc => s.watcher proc
  | .watcherDrained proc => s.watcherDrained proc
  | .timer timer point => s.timer timer point
  | .stop => s.stop
  | .stopEnds => s.stopEnds

end FolderMount

def newFolderMount : FolderMount where
  entry := none
  procs := fun _ => none
  unmounting := fun _ => none
  timers := fun _ => none
  stopping := 0
  next := 0
  stopped := false
  attempts := none

abbrev MountSupervisor := String → FolderMount

def newMountSupervisor : MountSupervisor := fun _ => newFolderMount

def mountStep (s : MountSupervisor) (e : String × MountEvent) : MountSupervisor :=
  Function.update s e.1 ((s e.1).step e.2)

/-! ### What the supervisor promises -/

def MountProc.running (p : MountProc) : Bool := p.alive && !p.killed

def MountProcPhase.isStarting : MountProcPhase → Bool
  | .awaited | .failing => true
  | .watched | .reported | .done => false

namespace FolderMount

variable (s : FolderMount)

def timerPending (m : TrackedMount) : Bool := m.restartTimer.any fun timer => (s.timers timer).isSome

def Restarting : Prop :=
  (∃ m, s.entry = some m ∧ s.timerPending m = true) ∨ (∃ call, s.unmounting call = some true) ∨
    ∃ proc p, s.procs proc = some p ∧ p.restart = true ∧ p.phase.isStarting = true

structure Safe : Prop where
  oneProcess : ∀ proc other p q, s.procs proc = some p → s.procs other = some q → p.running = true → q.running = true →
    proc = other
  noneAfterStop : ∀ proc p, s.procs proc = some p → p.afterStop = false
  ownExit : ∀ m proc, s.entry = some m → m.deadBy = some proc → m.proc = some proc
  threeAttempts : ∀ delays, s.attempts = some delays →
    delays <+: restartDelays ∧ (¬s.Restarting → delays = restartDelays)

def OwnEntry (proc : Nat) : Prop := ∀ m, s.entry = some m → m.proc = some proc

def GuardHolds : MountEvent → Prop
  | .unmounted call launch => ∀ restart, s.unmounting call = some restart → (restart = true ∨ launch ≠ .throws) →
      s.stopped = false ∧ (∀ m, s.entry = some m → m.status = .dead ∧ s.timerPending m = false) ∧
      (∀ other, other ≠ call → s.unmounting other = none) ∧
      (∀ proc p, s.procs proc = some p → p.phase.isStarting = false) ∧
      (restart = true → launch ≠ .spawned false)
  | .ready proc | .notReady proc => ∀ p, s.procs proc = some p → p.phase = .awaited → s.OwnEntry proc
  | .drained proc => ∀ p, s.procs proc = some p → p.phase = .failing → s.OwnEntry proc ∧
      (p.restart = true → ∀ delays, s.attempts = some delays → delays = restartDelays)
  | .watcherDrained proc => ∀ p, s.procs proc = some p → p.phase = .reported → s.OwnEntry proc
  | .timer timer point => ∀ delay m, s.timers timer = some delay → s.entry = some m →
      m.restartTimer = some timer ∧ m.stoppedByUs = false ∧ point ≠ .free (.spawned false)
  | .stopEnds => s.stopping ≠ 0 → ∀ m, s.entry = some m → m.stoppedByUs = true
  | .start _ | .exits _ | .watcher _ | .stop => True

end FolderMount

def MountProcPhase.isLive : MountProcPhase → Bool
  | .awaited | .watched | .reported => true
  | .failing | .done => false

namespace FolderMount

variable (s : FolderMount)

def NoTimer : Prop := ∀ m, s.entry = some m → s.timerPending m = false

def WaitsForTimer (n : Nat) : Prop :=
  ∃ m proc p timer delay, s.entry = some m ∧ m.status = .dead ∧ m.restartCount = n + 1 ∧ m.proc = some proc ∧
    s.procs proc = some p ∧ p.phase = .done ∧ m.restartTimer = some timer ∧ s.timers timer = some delay ∧
    restartDelays[n]? = some delay

def AwaitsUnmount (n : Nat) : Prop :=
  ∃ m proc p call, s.entry = some m ∧ m.status = .dead ∧ m.restartCount = n ∧ m.proc = some proc ∧
    s.procs proc = some p ∧ p.phase = .done ∧ s.unmounting call = some true

def Attempting : Prop := ∃ proc p, s.procs proc = some p ∧ p.restart = true ∧ p.phase.isStarting = true

def GivenUp (n : Nat) : Prop :=
  n = 3 ∧ ∀ m, s.entry = some m → m.status = .dead → 3 ≤ m.restartCount ∨
    ∃ proc p, m.proc = some proc ∧ s.procs proc = some p ∧ p.phase.isStarting = true

/-- Where the restarts behind an unexpected exit stand, after `n` of them. -/
def AttemptsInv : Prop :=
  ∀ delays, s.attempts = some delays → (∀ m, s.entry = some m → m.stoppedByUs = false) ∧
    ∃ n, n ≤ 3 ∧ delays = restartDelays.take n ∧
      (s.WaitsForTimer n ∨ s.NoTimer ∧ (s.AwaitsUnmount n ∨ s.Attempting ∨ s.GivenUp n))

structure EntryInv : Prop where
  fresh : ∀ i, s.next ≤ i → s.procs i = none ∧ s.timers i = none
  running : ∀ proc p, s.procs proc = some p → p.running = true →
    ∃ m, s.entry = some m ∧ m.proc = some proc ∧ m.status ≠ .dead ∧ m.stoppedByUs = false
  noneAfterStop : ∀ proc p, s.procs proc = some p → p.afterStop = false
  ownExit : ∀ m proc, s.entry = some m → m.deadBy = some proc → m.proc = some proc
  stoppedEntry : s.stopped = true → ∀ m, s.entry = some m → m.stoppedByUs = true
  phases : ∀ proc p, s.procs proc = some p →
    (p.phase = .failing → p.killed = true) ∧ (p.phase = .reported → p.alive = false)
  live : ∀ m proc p, s.entry = some m → m.proc = some proc → s.procs proc = some p → p.phase.isLive = true →
    m.status ≠ .dead
  count : ∀ m, s.entry = some m → m.status ≠ .dead → m.stoppedByUs = false → m.restartCount = 0

/-- What the condition on the steps keeps. -/
structure Inv : Prop where
  entry : s.EntryInv
  attempts : s.AttemptsInv

variable {s}

theorem AttemptsInv.of_none (h : s.attempts = none) : s.AttemptsInv := by
  intro delays hdel
  rw [h] at hdel
  cases hdel

/-- The invariant implies the promises. -/
theorem Inv.safe (h : s.Inv) : s.Safe := by
  refine ⟨?_, h.entry.noneAfterStop, h.entry.ownExit, ?_⟩
  · intro proc other p q hp hq hpr hqr
    obtain ⟨m, hm, hproc, -⟩ := h.entry.running proc p hp hpr
    obtain ⟨m', hm', ho, -⟩ := h.entry.running other q hq hqr
    obtain rfl : m = m' := Option.mem_unique hm hm'
    exact Option.mem_unique hproc ho
  intro delays hdel
  obtain ⟨-, n, hn, rfl, hsg⟩ := h.attempts delays hdel
  refine ⟨List.take_prefix n restartDelays, ?_⟩
  intro hnone
  rcases hsg with ⟨m, proc, p, timer, delay, hm, -, -, -, -, -, htm, hpend, -⟩ |
    ⟨-, ⟨m, proc, p, call, -, -, -, -, -, -, hcall⟩ | ⟨proc, p, hp, hre, hst⟩ | ⟨rfl, -⟩⟩
  · exact absurd (.inl ⟨m, hm, by simp [timerPending, htm, hpend]⟩) hnone
  · exact absurd (.inr (.inl ⟨call, hcall⟩)) hnone
  · exact absurd (.inr (.inr ⟨proc, p, hp, hre, hst⟩)) hnone
  · rfl

/-! ### Scheduling and launching -/

theorem of_inPhase {P : FolderMount → Prop} {proc : Nat} {phase : MountProcPhase} {f : MountProc → FolderMount} (h : P s)
    (hf : ∀ p, s.procs proc = some p → p.phase = phase → P (f p)) : P (s.inPhase proc phase f) := by
  unfold inPhase
  cases hp : s.procs proc with
  | none => exact h
  | some p =>
    dsimp only
    split
    · rename_i hph
      exact hf p hp hph
    · exact h

theorem scheduleRestart_last (hdead : ∀ m, s.entry = some m → m.status = .dead)
    (hlast : ∀ m, s.entry = some m → restartDelays[m.restartCount]? = none) : s.scheduleRestart = s := by
  unfold FolderMount.scheduleRestart setStatus
  split
  · rfl
  rename_i m he
  rw [hlast m he]
  obtain ⟨proc, status, count, timer, stopped, deadBy⟩ := m
  obtain rfl : status = .dead := hdead _ he
  rw [he, Option.map_some, ← he]

theorem EntryInv.scheduleRestart (h : s.EntryInv) (hdead : ∀ m, s.entry = some m → m.status = .dead) :
    s.scheduleRestart.EntryInv := by
  cases he : s.entry with
  | none =>
    unfold FolderMount.scheduleRestart
    rw [he]
    exact h
  | some m =>
    have hmd := hdead m he
    cases hde : restartDelays[m.restartCount]? with
    | none =>
      rw [scheduleRestart_last hdead fun m' hm' => Option.mem_unique he hm' ▸ hde]
      exact h
    | some delay =>
      unfold FolderMount.scheduleRestart
      rw [he]
      dsimp only
      rw [hde]
      constructor
      · intro i hi
        have hold := h.fresh i (by dsimp only at hi; omega)
        refine ⟨hold.1, ?_⟩
        show s.timers.put s.next delay i = none
        rw [put_of_ne (by dsimp only at hi; omega)]
        exact hold.2
      · intro proc p hp hrun
        obtain ⟨m', hm', -, hst, -⟩ := h.running proc p hp hrun
        obtain rfl : m = m' := Option.mem_unique he hm'
        exact absurd hmd hst
      · exact h.noneAfterStop
      · intro m' proc hm' hdeadBy
        cases hm'
        exact h.ownExit m proc he hdeadBy
      · intro hstop m' hm'
        cases hm'
        exact h.stoppedEntry hstop m he
      · exact h.phases
      · intro m' proc p hm' hproc hp hlive
        cases hm'
        exact h.live m proc p he hproc hp hlive
      · intro m' hm' hst
        cases hm'
        exact absurd hmd hst

theorem EntryInv.spawn (h : s.EntryInv) (hdead : ∀ m, s.entry = some m → m.status = .dead) (hstop : s.stopped = false)
    (restart pidFile : Bool) : (s.spawn restart pidFile).EntryInv := by
  -- the processes are the new one and the old ones
  have hpr {proc : Nat} {p : MountProc} (hp : (s.spawn restart pidFile).procs proc = some p) :
      (proc = s.next ∧ p = ⟨restart, true, false, if pidFile then .awaited else .done, false⟩) ∨
        (proc ≠ s.next ∧ s.procs proc = some p) := by
    by_cases hproc : proc = s.next
    · subst hproc
      have hnew := Option.some.inj (Table.put_self.symm.trans hp)
      rw [hstop] at hnew
      exact .inl ⟨rfl, hnew.symm⟩
    · exact .inr ⟨hproc, (put_of_ne hproc).symm.trans hp⟩
  constructor
  · intro i hi
    have hi' : s.next + 1 ≤ i := hi
    have hfr := h.fresh i (by omega)
    exact ⟨(put_of_ne (by omega)).trans hfr.1, hfr.2⟩
  · intro proc p hp hrun
    rcases hpr hp with ⟨rfl, -⟩ | ⟨-, hp'⟩
    · exact ⟨_, rfl, rfl, by simp, rfl⟩
    · obtain ⟨m, hm, -, hst, -⟩ := h.running proc p hp' hrun
      exact absurd (hdead m hm) hst
  · intro proc p hp
    rcases hpr hp with ⟨-, rfl⟩ | ⟨-, hp'⟩
    · rfl
    · exact h.noneAfterStop proc p hp'
  · intro m proc hm hdeadBy
    cases hm
    cases hdeadBy
  · intro hs
    have hs' : s.stopped = true := hs
    rw [hstop] at hs'
    cases hs'
  · intro proc p hp
    rcases hpr hp with ⟨-, rfl⟩ | ⟨-, hp'⟩
    · cases pidFile <;> simp
    · exact h.phases proc p hp'
  · intro m proc p hm
    cases hm
    simp
  intro m hm
  cases hm
  simp

theorem EntryInv.congr (h : s.EntryInv) {s' : FolderMount} (he : s'.entry = s.entry) (hpr : s'.procs = s.procs)
    (hti : ∀ i, s.timers i = none → s'.timers i = none) (hnext : s.next ≤ s'.next)
    (hstop : s'.stopped = true → s.stopped = true) : s'.EntryInv := by
  constructor
  · intro i hi
    have hfr := h.fresh i (by omega)
    exact ⟨by rw [hpr]; exact hfr.1, hti i hfr.2⟩
  · rw [he, hpr]
    exact h.running
  · rw [hpr]
    exact h.noneAfterStop
  · rw [he]
    exact h.ownExit
  · rw [he]
    exact fun hs => h.stoppedEntry (hstop hs)
  · rw [hpr]
    exact h.phases
  · rw [he, hpr]
    exact h.live
  · rw [he]
    exact h.count

theorem EntryInv.adopt (h : s.EntryInv) (hdead : ∀ m, s.entry = some m → m.status = .dead) (hstop : s.stopped = false) :
    { s with entry := some ⟨none, .mounted, 0, none, false, none⟩ }.EntryInv := by
  constructor
  · exact h.fresh
  · intro proc p hp hrun
    obtain ⟨m, hm, -, hst, -⟩ := h.running proc p hp hrun
    exact absurd (hdead m hm) hst
  · exact h.noneAfterStop
  · intro m proc hm hdeadBy
    cases hm
    cases hdeadBy
  · intro hs
    have hs' : s.stopped = true := hs
    rw [hstop] at hs'
    cases hs'
  · exact h.phases
  · intro m proc p hm hproc
    cases hm
    cases hproc
  intro m hm
  cases hm
  simp

theorem EntryInv.launch (h : s.EntryInv) (hdead : ∀ m, s.entry = some m → m.status = .dead) (hstop : s.stopped = false)
    {restart : Bool} {launch : MountLaunch} (hpid : restart = true → launch ≠ .spawned false) :
    (s.launch restart launch).EntryInv := by
  unfold FolderMount.launch
  cases launch with
  | throws =>
    dsimp only
    split
    · exact h.scheduleRestart hdead
    · exact h
  | spawned pidFile =>
    dsimp only
    have hsp : (restart && !pidFile) = false := by
      cases restart with
      | false => rfl
      | true =>
        cases pidFile with
        | true => rfl
        | false => exact absurd rfl (hpid rfl)
    rw [hsp]
    exact h.spawn hdead hstop restart pidFile

theorem EntryInv.startMount (h : s.EntryInv) (hstop : s.stopped = false) {restart : Bool} {point : MountPoint}
    (hpid : restart = true → point ≠ .free (.spawned false)) : (s.startMount restart point).EntryInv := by
  unfold FolderMount.startMount
  split
  · exact h
  rename_i hnone
  have hdead : ∀ m, s.entry = some m → m.status = .dead := by
    intro m hm
    rw [hm] at hnone
    simpa using hnone
  have htr (attempts : Option (List Nat)) : { s with attempts := attempts }.EntryInv :=
    h.congr rfl rfl (fun _ hi => hi) (Nat.le_refl _) id
  cases point with
  | free launch =>
    refine (htr (if restart then s.attempts else none)).launch hdead hstop ?_
    rintro hre rfl
    exact hpid hre rfl
  | stale => exact h.congr rfl rfl (fun _ hi => hi) (Nat.le_succ _) id
  | live => exact (htr none).adopt hdead hstop

/-! ### The pieces of a process -/

section Piece

variable {proc : Nat} {p q : MountProc}

theorem EntryInv.piece (h : s.EntryInv) (hp : s.procs proc = some p) {f : TrackedMount → TrackedMount} {s' : FolderMount}
    (he : s'.entry = s.entry.map f) (hpr : s'.procs = s.procs.put proc q) (hti : s'.timers = s.timers)
    (hnext : s'.next = s.next) (hstop : s'.stopped = s.stopped)
    (hsame : ∀ m, (f m).proc = m.proc ∧ (f m).stoppedByUs = m.stoppedByUs)
    (hown : ∀ m, s.entry = some m → (f m).status = m.status ∧ (f m).deadBy = m.deadBy ∨
      m.proc = some proc ∧ ((f m).deadBy = m.deadBy ∨ (f m).deadBy = some proc))
    (hc : ∀ m, s.entry = some m → (f m).status ≠ .dead → m.stoppedByUs = false → (f m).restartCount = 0)
    (haf : q.afterStop = p.afterStop)
    (hph : (q.phase = .failing → q.killed = true) ∧ (q.phase = .reported → q.alive = false))
    (hruns : q.running = true → p.running = true ∧ ∀ m, s.entry = some m → m.status ≠ .dead → (f m).status ≠ .dead)
    (hlive : q.phase.isLive = true → ∀ m, s.entry = some m → m.proc = some proc → (f m).status ≠ .dead) :
    s'.EntryInv := by
  have hput {other : Nat} {r : MountProc} (hr : s'.procs other = some r) :
      (other = proc ∧ r = q) ∨ (other ≠ proc ∧ s.procs other = some r) := by
    rw [hpr] at hr
    by_cases ho : other = proc
    · subst ho
      exact .inl ⟨rfl, (Option.some.inj (Table.put_self.symm.trans hr)).symm⟩
    · exact .inr ⟨ho, (put_of_ne ho).symm.trans hr⟩
  have hback {m' : TrackedMount} (hm' : s'.entry = some m') : ∃ m, s.entry = some m ∧ f m = m' := by
    rw [he] at hm'
    exact Option.map_eq_some_iff.1 hm'
  constructor
  · intro i hi
    rw [hnext] at hi
    have hfr := h.fresh i hi
    rw [hpr, hti]
    refine ⟨?_, hfr.2⟩
    have hne : i ≠ proc := by
      rintro rfl
      rw [hfr.1] at hp
      cases hp
    exact (put_of_ne hne).trans hfr.1
  · intro other r hr hrun
    rcases hput hr with ⟨rfl, rfl⟩ | ⟨ho, hr'⟩
    · obtain ⟨hran, hkept⟩ := hruns hrun
      obtain ⟨m, hm, hproc, hst, hnot⟩ := h.running other p hp hran
      exact ⟨f m, by rw [he, hm]; rfl, (hsame m).1.trans hproc, hkept m hm hst, (hsame m).2.trans hnot⟩
    obtain ⟨m, hm, hproc, hst, hnot⟩ := h.running other r hr' hrun
    refine ⟨f m, by rw [he, hm]; rfl, (hsame m).1.trans hproc, ?_, (hsame m).2.trans hnot⟩
    rcases hown m hm with ⟨hkept, -⟩ | ⟨hthis, -⟩
    · rwa [hkept]
    · exact absurd (Option.mem_unique hproc hthis) ho
  · intro other r hr
    rcases hput hr with ⟨-, rfl⟩ | ⟨-, hr'⟩
    · rw [haf]
      exact h.noneAfterStop proc p hp
    · exact h.noneAfterStop other r hr'
  · intro m' other hm' hdeadBy
    obtain ⟨m, hm, rfl⟩ := hback hm'
    rw [(hsame m).1]
    rcases hown m hm with ⟨-, hkept⟩ | ⟨hthis, hkept | hnew⟩
    · exact h.ownExit m other hm (hkept.symm.trans hdeadBy)
    · exact h.ownExit m other hm (hkept.symm.trans hdeadBy)
    · rw [hthis, ← hnew, hdeadBy]
  · intro hs m' hm'
    obtain ⟨m, hm, rfl⟩ := hback hm'
    rw [(hsame m).2]
    exact h.stoppedEntry (hstop.symm.trans hs) m hm
  · intro other r hr
    rcases hput hr with ⟨-, rfl⟩ | ⟨-, hr'⟩
    · exact hph
    · exact h.phases other r hr'
  · intro m' other r hm' hproc hr hli
    obtain ⟨m, hm, rfl⟩ := hback hm'
    rw [(hsame m).1] at hproc
    rcases hput hr with ⟨rfl, rfl⟩ | ⟨ho, hr'⟩
    · exact hlive hli m hm hproc
    rcases hown m hm with ⟨hkept, -⟩ | ⟨hthis, -⟩
    · rw [hkept]
      exact h.live m other r hm hproc hr' hli
    · exact absurd (Option.mem_unique hproc hthis) ho
  · intro m' hm' hst hnot
    obtain ⟨m, hm, rfl⟩ := hback hm'
    rw [(hsame m).2] at hnot
    exact hc m hm hst hnot

theorem EntryInv.record (h : s.EntryInv) (hp : s.procs proc = some p) (haf : q.afterStop = p.afterStop)
    (hph : (q.phase = .failing → q.killed = true) ∧ (q.phase = .reported → q.alive = false))
    (hruns : q.running = true → p.running = true) (hlive : q.phase.isLive = true → p.phase.isLive = true) :
    { s with procs := s.procs.put proc q }.EntryInv := by
  refine h.piece (f := id) hp ?_ rfl rfl rfl rfl ?_ ?_ ?_ haf hph ?_ ?_
  · exact (Option.map_id_apply ..).symm
  · exact fun m => ⟨rfl, rfl⟩
  · exact fun m hm => .inl ⟨rfl, rfl⟩
  · exact h.count
  · exact fun hrun => ⟨hruns hrun, fun m hm => id⟩
  · exact fun hli m hm hproc => h.live m proc p hm hproc hp (hlive hli)

theorem EntryInv.clear (h : s.EntryInv) (hnone : ∀ proc p, s.procs proc = some p → p.running = false) :
    { s with entry := none }.EntryInv := by
  constructor
  · exact h.fresh
  · intro proc p hp hrun
    rw [hnone proc p hp] at hrun
    cases hrun
  · exact h.noneAfterStop
  · exact fun m proc hm => by cases hm
  · exact fun hs m hm => by cases hm
  · exact h.phases
  · exact fun m proc p hm => by cases hm
  · exact fun m hm => by cases hm

theorem EntryInv.ready (h : s.EntryInv) (hg : s.GuardHolds (.ready proc)) : (s.ready proc).EntryInv := by
  refine of_inPhase (P := EntryInv) h fun p hp hph => ?_
  have hown := hg p hp hph
  refine h.piece (f := fun m => { m with status := .mounted }) (q := { p with phase := .watched }) hp rfl rfl rfl rfl rfl
    ?_ ?_ ?_ rfl ?_ ?_ ?_
  · exact fun m => ⟨rfl, rfl⟩
  · exact fun m hm => .inr ⟨hown m hm, .inl rfl⟩
  · intro m hm _
    exact h.count m hm (h.live m proc p hm (hown m hm) hp (by rw [hph]; rfl))
  · exact ⟨by simp, by simp⟩
  · exact fun hrun => ⟨hrun, fun m hm _ => by simp⟩
  · exact fun _ m hm _ => by simp

theorem EntryInv.notReady (h : s.EntryInv) (hg : s.GuardHolds (.notReady proc)) : (s.notReady proc).EntryInv := by
  refine of_inPhase (P := EntryInv) h fun p hp hph => ?_
  have hown := hg p hp hph
  refine h.piece (f := fun m => { m with status := .dead, deadBy := some proc })
    (q := { p with killed := true, phase := .failing }) hp rfl rfl rfl rfl rfl ?_ ?_ ?_ rfl ?_ ?_ ?_
  · exact fun m => ⟨rfl, rfl⟩
  · exact fun m hm => .inr ⟨hown m hm, .inr rfl⟩
  · exact fun m hm hst => absurd rfl hst
  · exact ⟨fun _ => rfl, by simp⟩
  · intro hrun
    simp [MountProc.running] at hrun
  · exact fun hli => by cases hli

private theorem ms_none_runs (h : s.EntryInv) (hp : s.procs proc = some p) (hown : s.OwnEntry proc)
    (hki : p.running = false) : ∀ other r, s.procs other = some r → r.running = false := by
  intro other r hr
  by_contra hruns
  obtain ⟨m, hm, hproc, -⟩ := h.running other r hr (by simpa using hruns)
  obtain rfl : other = proc := Option.some.inj (hproc.symm.trans (hown m hm))
  obtain rfl := Table.unique hp hr
  exact hruns hki

theorem EntryInv.drained (h : s.EntryInv) (hg : s.GuardHolds (.drained proc)) : (s.drained proc).EntryInv := by
  refine of_inPhase (P := EntryInv) h fun p hp hph => ?_
  have hown := (hg p hp hph).1
  have hki : p.running = false := by simp [MountProc.running, (h.phases proc p hp).1 hph]
  have hdone : (s.setPhase proc p .done).EntryInv := by
    refine h.record hp rfl ?_ id ?_
    · exact ⟨by simp, by simp⟩
    · exact fun hli => by cases hli
  have hcl : { s.setPhase proc p .done with entry := none }.EntryInv := by
    apply hdone.clear
    have hp' : (s.setPhase proc p .done).procs proc = some { p with phase := .done } := put_self
    exact ms_none_runs hdone hp' hown hki
  split
  · exact hcl
  · exact hcl

theorem EntryInv.exits (h : s.EntryInv) : (s.exits proc).EntryInv := by
  unfold FolderMount.exits
  cases hp : s.procs proc with
  | none => exact h
  | some p =>
    refine h.record hp rfl ⟨(h.phases proc p hp).1, fun _ => rfl⟩ ?_ id
    intro hrun
    simp [MountProc.running] at hrun

theorem EntryInv.watcher (h : s.EntryInv) : (s.watcher proc).EntryInv := by
  refine of_inPhase (P := EntryInv) h fun p hp hph => ?_
  cases hal : p.alive with
  | true => exact h
  | false =>
    refine h.record hp rfl ?_ id ?_
    · refine ⟨?_, fun _ => hal⟩
      intro hfail
      dsimp only at hfail
      split at hfail <;> cases hfail
    intro _
    rw [hph]
    rfl

/-- The entry that the exit watcher leaves, before a restart is scheduled. -/
theorem EntryInv.reported (h : s.EntryInv) (hp : s.procs proc = some p) (hph : p.phase = .reported)
    (hown : s.OwnEntry proc) (attempts : Option (List Nat)) :
    { (s.markDead proc).setPhase proc p .done with attempts := attempts }.EntryInv := by
  refine h.piece (f := fun m => { m with status := .dead, deadBy := some proc }) (q := { p with phase := .done }) hp
    rfl rfl rfl rfl rfl ?_ ?_ ?_ rfl ?_ ?_ ?_
  · exact fun m => ⟨rfl, rfl⟩
  · exact fun m hm => .inr ⟨hown m hm, .inr rfl⟩
  · exact fun m hm hst => absurd rfl hst
  · exact ⟨by simp, by simp⟩
  · intro hrun
    have hal := (h.phases proc p hp).2 hph
    simp [MountProc.running, hal] at hrun
  · exact fun hli => by cases hli

theorem EntryInv.watcherDrained (h : s.EntryInv) (hg : s.GuardHolds (.watcherDrained proc)) :
    (s.watcherDrained proc).EntryInv := by
  refine of_inPhase (P := EntryInv) h fun p hp hph => ?_
  apply (h.reported hp hph (hg p hp hph) _).scheduleRestart
  intro m hm
  obtain ⟨m', -, rfl⟩ := Option.map_eq_some_iff.1 hm
  rfl

end Piece

/-! ### The other steps -/

section Steps

variable {call : Nat} {launch : MountLaunch} {point : MountPoint}

theorem EntryInv.unmounted (h : s.EntryInv) (hg : s.GuardHolds (.unmounted call launch)) :
    (s.unmounted call launch).EntryInv := by
  unfold FolderMount.unmounted
  cases hcall : s.unmounting call with
  | none => exact h
  | some restart =>
    have her : { s with unmounting := s.unmounting.erase call }.EntryInv :=
      h.congr rfl rfl (fun _ hi => hi) (Nat.le_refl _) id
    by_cases hacts : restart = true ∨ launch ≠ .throws
    · obtain ⟨hstop, hdead, -, -, hpid⟩ := hg restart hcall hacts
      exact her.launch (fun m hm => (hdead m hm).1) hstop hpid
    rw [not_or, Bool.not_eq_true, ne_eq, Classical.not_not] at hacts
    obtain ⟨rfl, rfl⟩ := hacts
    exact her

theorem EntryInv.fired (h : s.EntryInv) (timer : Nat) (attempts : Option (List Nat)) :
    { s with timers := s.timers.erase timer, attempts := attempts }.EntryInv := by
  refine h.congr rfl rfl ?_ (Nat.le_refl _) id
  intro i hi
  by_cases hsame : i = timer
  · subst hsame
    exact erase_self
  · exact (erase_of_ne hsame).trans hi

theorem EntryInv.timer (h : s.EntryInv) {timer : Nat} (hg : s.GuardHolds (.timer timer point)) :
    (s.timer timer point).EntryInv := by
  unfold FolderMount.timer
  cases hpend : s.timers timer with
  | none => exact h
  | some delay =>
    dsimp only
    by_cases hnone : s.entry.isNone = true
    · rw [if_pos hnone]
      exact h.fired timer s.attempts
    rw [if_neg hnone]
    obtain ⟨m, he⟩ : ∃ m, s.entry = some m := Option.ne_none_iff_exists'.1 (by simpa using hnone)
    obtain ⟨-, hrun, hpid⟩ := hg delay m hpend he
    have hst : s.stopped = false := by
      by_contra hs
      have hstop := h.stoppedEntry (by simpa using hs) m he
      rw [hrun] at hstop
      cases hstop
    exact (h.fired timer _).startMount hst fun _ => hpid

theorem killed_of_stop {m : TrackedMount} (he : s.entry = some m) {other : Nat} {r : MountProc}
    (hr : s.stop.procs other = some r) : ∃ p, s.procs other = some p ∧ r.phase = p.phase ∧ r.afterStop = p.afterStop ∧
      r.alive = p.alive ∧ (p.killed = true → r.killed = true) ∧
      (m.proc = some other → r.killed = (p.killed || p.alive)) := by
  unfold FolderMount.stop at hr
  rw [he] at hr
  dsimp only at hr
  cases hproc : m.proc with
  | none =>
    rw [hproc] at hr
    exact ⟨r, hr, rfl, rfl, rfl, id, fun hsame => by cases hsame⟩
  | some proc =>
    rw [hproc, Option.elim_some] at hr
    cases hp : s.procs proc with
    | none =>
      rw [hp, Option.elim_none] at hr
      refine ⟨r, hr, rfl, rfl, rfl, id, ?_⟩
      intro hsame
      rw [← Option.some.inj hsame, hp] at hr
      cases hr
    | some p =>
      rw [hp, Option.elim_some] at hr
      by_cases ho : other = proc
      · subst ho
        obtain rfl := Option.some.inj (Table.put_self.symm.trans hr)
        exact ⟨p, hp, rfl, rfl, rfl, fun hki => by simp [hki], fun _ => rfl⟩
      refine ⟨r, (put_of_ne ho).symm.trans hr, rfl, rfl, rfl, id, ?_⟩
      intro hsame
      exact absurd (Option.some.inj hsame).symm ho

theorem EntryInv.none_runs_of_stop (h : s.EntryInv) {m : TrackedMount} (he : s.entry = some m) {other : Nat}
    {r : MountProc} (hr : s.stop.procs other = some r) : r.running = false := by
  by_contra hruns
  obtain ⟨p, hp, -, -, hal, hkept, hki⟩ := killed_of_stop he hr
  obtain ⟨hra, hrk⟩ : r.alive = true ∧ r.killed = false := by simpa [MountProc.running] using hruns
  have hpk : p.killed = false := by
    by_contra hk
    rw [hkept (by simpa using hk)] at hrk
    cases hrk
  have hpr : p.running = true := by simp [MountProc.running, ← hal, hra, hpk]
  obtain ⟨m', hm', hproc, -⟩ := h.running other p hp hpr
  obtain rfl : m = m' := Option.mem_unique he hm'
  rw [hki hproc, ← hal, hra, Bool.or_true] at hrk
  cases hrk

theorem EntryInv.stop (h : s.EntryInv) : s.stop.EntryInv := by
  rcases Option.eq_none_or_eq_some s.entry with he | ⟨m, he⟩
  · have hstop : s.stop = { s with stopped := true, attempts := none } := by
      unfold FolderMount.stop
      rw [he]
    have hnone : ∀ m, s.entry ≠ some m := by
      intro m hm
      rw [he] at hm
      cases hm
    rw [hstop]
    exact ⟨h.fresh, h.running, h.noneAfterStop, h.ownExit, fun _ m hm => absurd hm (hnone m), h.phases, h.live, h.count⟩
  · have hstopEntry : s.stop.entry = some { m with status := .unmounting, restartTimer := none, stoppedByUs := true } := by
      unfold FolderMount.stop
      rw [he]
    have hti : s.stop.timers = m.restartTimer.elim s.timers s.timers.erase := by
      unfold FolderMount.stop
      rw [he]
    have hnext : s.stop.next = s.next := by
      unfold FolderMount.stop
      rw [he]
    constructor
    · intro i hi
      rw [hnext] at hi
      have hfr := h.fresh i hi
      constructor
      · by_contra hsome
        obtain ⟨r, hr⟩ := Option.ne_none_iff_exists'.1 hsome
        obtain ⟨p, hp, -⟩ := killed_of_stop he hr
        rw [hfr.1] at hp
        cases hp
      rw [hti]
      cases m.restartTimer with
      | none => exact hfr.2
      | some timer =>
        by_cases hsame : i = timer
        · subst hsame
          exact erase_self
        · exact (erase_of_ne hsame).trans hfr.2
    · intro other r hr hrun
      rw [h.none_runs_of_stop he hr] at hrun
      cases hrun
    · intro other r hr
      obtain ⟨p, hp, -, haf, -⟩ := killed_of_stop he hr
      rw [haf]
      exact h.noneAfterStop other p hp
    · intro m' proc hm' hdeadBy
      obtain rfl := Option.mem_unique hstopEntry hm'
      exact h.ownExit m proc he hdeadBy
    · intro _ m' hm'
      obtain rfl := Option.mem_unique hstopEntry hm'
      rfl
    · intro other r hr
      obtain ⟨p, hp, hph, -, hal, hkept, -⟩ := killed_of_stop he hr
      rw [hph, hal]
      exact ⟨fun hfail => hkept ((h.phases other p hp).1 hfail), (h.phases other p hp).2⟩
    · intro m' proc p hm' _ _ _
      obtain rfl := Option.mem_unique hstopEntry hm'
      simp
    · intro m' hm' _ hnot
      obtain rfl := Option.mem_unique hstopEntry hm'
      cases hnot

theorem EntryInv.stopEnds (h : s.EntryInv) (hg : s.GuardHolds .stopEnds) : s.stopEnds.EntryInv := by
  unfold FolderMount.stopEnds
  by_cases hst : s.stopping = 0
  · rw [if_pos hst]
    exact h
  rw [if_neg hst]
  have hcl : { s with entry := none }.EntryInv := by
    apply h.clear
    intro proc p hp
    by_contra hruns
    obtain ⟨m, hm, -, -, hnot⟩ := h.running proc p hp (by simpa using hruns)
    rw [hg hst m hm] at hnot
    cases hnot
  exact hcl.congr rfl rfl (fun _ hi => hi) (Nat.le_refl _) id

theorem EntryInv.start (h : s.EntryInv) : ({ s with stopped := false }.startMount false point).EntryInv := by
  have hst : { s with stopped := false }.EntryInv := h.congr rfl rfl (fun _ hi => hi) (Nat.le_refl _) (by simp)
  exact hst.startMount rfl (by simp)

end Steps

/-! ### The restarts -/

section Restarts

variable {proc n : Nat} {m : TrackedMount} {p : MountProc} {launch : MountLaunch} {point : MountPoint}

theorem scheduleRestart_attempts : s.scheduleRestart.attempts = s.attempts := by
  unfold FolderMount.scheduleRestart
  split
  · rfl
  · split <;> rfl

theorem launch_attempts (restart : Bool) (launch : MountLaunch) : (s.launch restart launch).attempts = s.attempts := by
  unfold FolderMount.launch
  cases launch with
  | throws | spawned pidFile =>
    dsimp only
    split
    · exact scheduleRestart_attempts
    · rfl

theorem AttemptsInv.congr (h : s.AttemptsInv) {s' : FolderMount} (hatt : s'.attempts = s.attempts)
    (he : s'.entry = s.entry) (hti : ∀ m, s.entry = some m → s'.timers = s.timers)
    (hun : ∀ call, s.unmounting call = some true → s'.unmounting call = some true)
    (hpr : ∀ proc p, s.procs proc = some p → p.phase = .done ∨ p.phase.isStarting = true →
      ∃ q, s'.procs proc = some q ∧ q.restart = p.restart ∧ q.phase = p.phase) : s'.AttemptsInv := by
  intro delays hdel
  rw [hatt] at hdel
  obtain ⟨hrun, n, hn, htk, hsg⟩ := h delays hdel
  rw [← he] at hrun
  refine ⟨hrun, n, hn, htk, ?_⟩
  have hnone (hnone : s.NoTimer) : s'.NoTimer := by
    intro m hm
    rw [he] at hm
    have hpend := hnone m hm
    unfold timerPending at hpend ⊢
    rwa [hti m hm]
  rcases hsg with ⟨m, proc, p, timer, delay, hm, hst, hc, hproc, hp, hdone, htm, hpend, hde⟩ | ⟨hno, hsg⟩
  · obtain ⟨q, hq, -, hph⟩ := hpr proc p hp (.inl hdone)
    refine .inl ⟨m, proc, q, timer, delay, he.trans hm, hst, hc, hproc, hq, hph.trans hdone, htm, ?_, hde⟩
    rwa [hti m hm]
  refine .inr ⟨hnone hno, ?_⟩
  rcases hsg with ⟨m, proc, p, call, hm, hst, hc, hproc, hp, hdone, hcall⟩ | ⟨proc, p, hp, hre, hsta⟩ |
    ⟨hth, hgi⟩
  · obtain ⟨q, hq, -, hph⟩ := hpr proc p hp (.inl hdone)
    exact .inl ⟨m, proc, q, call, he.trans hm, hst, hc, hproc, hq, hph.trans hdone, hun call hcall⟩
  · obtain ⟨q, hq, hsame, hph⟩ := hpr proc p hp (.inr hsta)
    exact .inr (.inl ⟨proc, q, hq, hsame.trans hre, by rwa [hph]⟩)
  refine .inr (.inr ⟨hth, ?_⟩)
  intro m hm hst
  rw [he] at hm
  rcases hgi m hm hst with hc | ⟨proc, p, hproc, hp, hsta⟩
  · exact .inl hc
  · obtain ⟨q, hq, -, hph⟩ := hpr proc p hp (.inr hsta)
    exact .inr ⟨proc, q, hproc, hq, by rwa [hph]⟩

theorem AttemptsInv.schedules (hatt : s.attempts = some (restartDelays.take n)) (hn : n ≤ 3) (he : s.entry = some m)
    (hst : m.status = .dead) (hc : m.restartCount = n) (hproc : m.proc = some proc) (hp : s.procs proc = some p)
    (hdone : p.phase = .done) (hrun : m.stoppedByUs = false) (hnone : n = 3 → s.NoTimer) :
    s.scheduleRestart.AttemptsInv := by
  intro delays hdel
  rw [scheduleRestart_attempts, hatt] at hdel
  cases hdel
  cases hde : restartDelays[n]? with
  | none =>
    have honly : ∀ m', s.entry = some m' → m' = m := fun m' hm' => (Option.mem_unique he hm').symm
    have hth : n = 3 := by
      have hlen : restartDelays.length ≤ n := List.getElem?_eq_none_iff.1 hde
      have hlen' : restartDelays.length = 3 := rfl
      omega
    rw [scheduleRestart_last (fun m' hm' => honly m' hm' ▸ hst) fun m' hm' => by rw [honly m' hm', hc, hde]]
    refine ⟨fun m' hm' => honly m' hm' ▸ hrun, n, hn, rfl, .inr ⟨hnone hth, .inr (.inr ⟨hth, ?_⟩)⟩⟩
    intro m' hm' _
    left
    rw [honly m' hm']
    omega
  | some delay =>
    have hnext : s.scheduleRestart = { s with
        entry := some { m with restartCount := m.restartCount + 1, restartTimer := some s.next }
        timers := s.timers.put s.next delay
        next := s.next + 1 } := by
      unfold FolderMount.scheduleRestart
      rw [he]
      dsimp only
      rw [hc, hde]
    rw [hnext]
    refine ⟨?_, n, hn, rfl, .inl ⟨_, proc, p, s.next, delay, rfl, hst, ?_, hproc, hp, hdone, rfl, ?_, hde⟩⟩
    · intro m' hm'
      cases hm'
      exact hrun
    · show m.restartCount + 1 = n + 1
      omega
    · exact put_self

theorem AttemptsInv.spawns (hatt : s.attempts = some (restartDelays.take n)) (hn : n ≤ 3) :
    (s.spawn true true).AttemptsInv := by
  intro delays hdel
  obtain rfl : restartDelays.take n = delays := Option.mem_unique hatt hdel
  refine ⟨?_, n, hn, rfl, .inr ⟨?_, .inr (.inl ⟨s.next, _, put_self, rfl, rfl⟩)⟩⟩
  · intro m hm
    cases hm
    rfl
  intro m hm
  cases hm
  rfl

theorem AttemptsInv.launches (hatt : s.attempts = some (restartDelays.take n)) (hn : n ≤ 3) (he : s.entry = some m)
    (hst : m.status = .dead) (hc : m.restartCount = n) (hproc : m.proc = some proc) (hp : s.procs proc = some p)
    (hdone : p.phase = .done) (hrun : m.stoppedByUs = false) (hnone : s.NoTimer) (hpid : launch ≠ .spawned false) :
    (s.launch true launch).AttemptsInv := by
  cases launch with
  | throws => exact AttemptsInv.schedules hatt hn he hst hc hproc hp hdone hrun fun _ => hnone
  | spawned pidFile =>
    cases pidFile with
    | false => exact absurd rfl hpid
    | true => exact AttemptsInv.spawns hatt hn

theorem AttemptsInv.startMount (h : s.AttemptsInv) {restart : Bool} (hnone : restart = true → s.attempts = none) :
    (s.startMount restart point).AttemptsInv := by
  have htr : (if restart then s.attempts else none) = none := by
    split
    · rename_i hre
      exact hnone hre
    · rfl
  unfold FolderMount.startMount
  split
  · exact h
  dsimp only
  cases point with
  | free launch => exact AttemptsInv.of_none ((launch_attempts ..).trans htr)
  | stale => exact AttemptsInv.of_none htr
  | live => exact AttemptsInv.of_none rfl

theorem AttemptsInv.start (h : s.AttemptsInv) : ({ s with stopped := false }.startMount false point).AttemptsInv := by
  have hst : { s with stopped := false }.AttemptsInv :=
    h.congr rfl rfl (fun _ _ => rfl) (fun _ => id) fun _ p hp _ => ⟨p, hp, rfl, rfl⟩
  exact hst.startMount (by simp)

private theorem ms_take_succ {delay : Nat} (hde : restartDelays[n]? = some delay) :
    n + 1 ≤ 3 ∧ restartDelays.take n ++ [delay] = restartDelays.take (n + 1) := by
  obtain ⟨hlt, rfl⟩ := List.getElem?_eq_some_iff.1 hde
  exact ⟨hlt, List.take_append_getElem hlt⟩

theorem AttemptsInv.timer (h : s.AttemptsInv) {timer : Nat} (hg : s.GuardHolds (.timer timer point)) :
    (s.timer timer point).AttemptsInv := by
  unfold FolderMount.timer
  cases hpend : s.timers timer with
  | none => exact h
  | some delay =>
    dsimp only
    by_cases hnone : s.entry.isNone = true
    · rw [if_pos hnone]
      have hnone' : s.entry = none := by simpa using hnone
      refine h.congr rfl rfl ?_ (fun _ => id) fun _ p hp _ => ⟨p, hp, rfl, rfl⟩
      intro m hm
      rw [hnone'] at hm
      cases hm
    · rw [if_neg hnone]
      obtain ⟨m, he⟩ : ∃ m, s.entry = some m := Option.ne_none_iff_exists'.1 (by simpa using hnone)
      obtain ⟨hown, hrun, hpid⟩ := hg delay m hpend he
      cases hatt : s.attempts with
      | none => exact (AttemptsInv.of_none rfl).startMount fun _ => rfl
      | some delays =>
        obtain ⟨-, n, hn, rfl, hsg⟩ := h delays hatt
        have hwt : s.WaitsForTimer n := by
          rcases hsg with hwt | ⟨hno, -⟩
          · exact hwt
          have hisPending : s.timerPending m = true := by simp [timerPending, hown, hpend]
          rw [hno m he] at hisPending
          cases hisPending
        obtain ⟨m', proc, p, timer', delay', hm', hst, hc, hproc, hp, hdone, htm, hpend', hde⟩ := hwt
        obtain rfl : m = m' := Option.mem_unique he hm'
        obtain rfl : timer = timer' := Option.mem_unique hown htm
        obtain rfl : delay = delay' := Option.mem_unique hpend hpend'
        obtain ⟨hn', htk⟩ := ms_take_succ hde
        have hat : (some (restartDelays.take n)).map (· ++ [delay]) = some (restartDelays.take (n + 1)) := by
          rw [Option.map_some, htk]
        have hno (attempts : Option (List Nat)) : NoTimer { s with timers := s.timers.erase timer, attempts := attempts } := by
          intro m' hm''
          obtain rfl : m = m' := Option.mem_unique he hm''
          simp [timerPending, hown, erase_self]
        have hdead : (s.entry.any fun m => m.status != .dead) = false := by
          rw [he]
          simp [hst]
        unfold FolderMount.startMount
        dsimp only
        rw [if_neg (by rw [hdead]; simp), hat]
        cases point with
        | free launch =>
          exact AttemptsInv.launches rfl hn' he hst hc hproc hp hdone hrun (hno _) fun hla =>
            hpid (by rw [hla])
        | stale =>
          intro delays hdel
          cases hdel
          refine ⟨?_, n + 1, hn', rfl, .inr ⟨hno none, .inl ⟨m, proc, p, s.next, he, hst, hc, hproc, hp, hdone, ?_⟩⟩⟩
          · intro m' hm''
            obtain rfl : m = m' := Option.mem_unique he hm''
            exact hrun
          · exact put_self
        | live => exact AttemptsInv.of_none rfl

theorem AttemptsInv.launches_last (hatt : s.attempts = some restartDelays)
    (hrun : ∀ m, s.entry = some m → m.stoppedByUs = false) (hdead : ∀ m, s.entry = some m → m.status = .dead)
    (hnone : s.NoTimer) (hc : ∀ m, s.entry = some m → 3 ≤ m.restartCount) (restart : Bool)
    (hpid : restart = true → launch ≠ .spawned false) : (s.launch restart launch).AttemptsInv := by
  cases launch with
  | throws =>
    have hlast : s.launch restart .throws = s := by
      unfold FolderMount.launch
      dsimp only
      split
      · exact scheduleRestart_last hdead fun m hm => List.getElem?_eq_none_iff.2 (hc m hm)
      · rfl
    rw [hlast]
    intro delays hdel
    obtain rfl := Option.mem_unique hatt hdel
    exact ⟨hrun, 3, Nat.le_refl 3, rfl, .inr ⟨hnone, .inr (.inr ⟨rfl, fun m hm _ => .inl (hc m hm)⟩)⟩⟩
  | spawned pidFile =>
    cases restart with
    | true =>
      cases pidFile with
      | false => exact absurd rfl (hpid rfl)
      | true => exact AttemptsInv.spawns (n := 3) hatt (Nat.le_refl 3)
    | false =>
      intro delays hdel
      obtain rfl := Option.mem_unique hatt hdel
      have he : (s.launch false (.spawned pidFile)).entry = some ⟨some s.next, .starting, 0, none, false, none⟩ := rfl
      refine ⟨?_, 3, Nat.le_refl 3, rfl, .inr ⟨?_, .inr (.inr ⟨rfl, ?_⟩)⟩⟩
      · intro m hm
        obtain rfl := Option.mem_unique he hm
        rfl
      · intro m hm
        obtain rfl := Option.mem_unique he hm
        rfl
      intro m hm hst
      obtain rfl := Option.mem_unique he hm
      cases hst

theorem AttemptsInv.unmounted (h : s.AttemptsInv) {call : Nat} (hg : s.GuardHolds (.unmounted call launch)) :
    (s.unmounted call launch).AttemptsInv := by
  unfold FolderMount.unmounted
  cases hcall : s.unmounting call with
  | none => exact h
  | some restart =>
    by_cases hacts : restart = true ∨ launch ≠ .throws
    · obtain ⟨hstop, hdead, hoth, hstarts, hpid⟩ := hg restart hcall hacts
      rcases Option.eq_none_or_eq_some s.attempts with hatt | ⟨delays, hatt⟩
      · exact AttemptsInv.of_none ((launch_attempts ..).trans hatt)
      obtain ⟨hrun, n, hn, rfl, hsg⟩ := h delays hatt
      have hnone : s.NoTimer := fun m hm => (hdead m hm).2
      rcases hsg with ⟨m, -, -, timer, delay, hm, -, -, -, -, -, htm, hpend, -⟩ |
        ⟨-, ⟨m, proc, p, other, hm, hst, hc, hproc, hp, hdone, ho⟩ | ⟨proc, p, hp, -, hsta⟩ | ⟨rfl, hgi⟩⟩
      · have hisPending : s.timerPending m = true := by simp [timerPending, htm, hpend]
        rw [hnone m hm] at hisPending
        cases hisPending
      · -- the restart that awaits the force-unmount is this call
        obtain rfl : other = call := by
          by_contra hne
          rw [hoth other hne] at ho
          cases ho
        obtain rfl : true = restart := Option.mem_unique ho hcall
        exact AttemptsInv.launches hatt hn hm hst hc hproc hp hdone (hrun m hm) hnone (hpid rfl)
      · rw [hstarts proc p hp] at hsta
        cases hsta
      · refine AttemptsInv.launches_last (s := { s with unmounting := s.unmounting.erase call }) hatt hrun
          (fun m hm => (hdead m hm).1) hnone ?_ restart hpid
        intro m hm
        rcases hgi m hm (hdead m hm).1 with hc | ⟨proc, p, -, hp, hsta⟩
        · exact hc
        · rw [hstarts proc p hp] at hsta
          cases hsta
    · rw [not_or, Bool.not_eq_true, ne_eq, Classical.not_not] at hacts
      obtain ⟨rfl, rfl⟩ := hacts
      refine h.congr rfl rfl (fun _ _ => rfl) ?_ fun _ p hp _ => ⟨p, hp, rfl, rfl⟩
      intro other ho
      have hne : other ≠ call := by
        rintro rfl
        rw [hcall] at ho
        cases ho
      exact (erase_of_ne hne).trans ho

theorem AttemptsInv.ready (h : s.AttemptsInv) : (s.ready proc).AttemptsInv := by
  refine of_inPhase (P := AttemptsInv) h fun p hp hph => ?_
  exact AttemptsInv.of_none rfl

theorem AttemptsInv.exits (h : s.AttemptsInv) : (s.exits proc).AttemptsInv := by
  unfold FolderMount.exits
  cases hp : s.procs proc with
  | none => exact h
  | some p =>
    refine h.congr rfl rfl (fun _ _ => rfl) (fun _ => id) ?_
    intro other q hq _
    by_cases ho : other = proc
    · subst ho
      obtain rfl := Table.unique hp hq
      exact ⟨_, put_self, rfl, rfl⟩
    · exact ⟨q, (put_of_ne ho).trans hq, rfl, rfl⟩

theorem AttemptsInv.watched (h : s.AttemptsInv) (hp : s.procs proc = some p) (hdone : p.phase ≠ .done)
    (hst : p.phase.isStarting = false) (phase : MountProcPhase) : (s.setPhase proc p phase).AttemptsInv := by
  refine h.congr rfl rfl (fun _ _ => rfl) (fun _ => id) ?_
  intro other q hq hread
  by_cases ho : other = proc
  · subst ho
    obtain rfl := Table.unique hp hq
    rcases hread with hph | hph
    · exact absurd hph hdone
    · rw [hst] at hph
      cases hph
  · exact ⟨q, (put_of_ne ho).trans hq, rfl, rfl⟩

theorem AttemptsInv.watcher (h : s.AttemptsInv) : (s.watcher proc).AttemptsInv := by
  refine of_inPhase (P := AttemptsInv) h fun p hp hph => ?_
  split
  · exact h
  · exact h.watched hp (by simp [hph]) (by rw [hph]; rfl) _

theorem AttemptsInv.stop : s.stop.AttemptsInv := by
  apply AttemptsInv.of_none
  unfold FolderMount.stop
  split <;> rfl

theorem AttemptsInv.stopEnds (h : s.AttemptsInv) (hg : s.GuardHolds .stopEnds) : s.stopEnds.AttemptsInv := by
  unfold FolderMount.stopEnds
  by_cases hst : s.stopping = 0
  · rw [if_pos hst]
    exact h
  rw [if_neg hst]
  cases hatt : s.attempts with
  | none => exact AttemptsInv.of_none rfl
  | some delays =>
    -- the mount behind an unexpected exit was not stopped, so there is none
    have hnone : s.entry = none := by
      by_contra hsome
      obtain ⟨m, hm⟩ := Option.ne_none_iff_exists'.1 hsome
      have hstop := hg hst m hm
      rw [(h delays hatt).1 m hm] at hstop
      cases hstop
    exact h.congr hatt.symm hnone.symm (fun _ _ => rfl) (fun _ => id) fun _ p hp _ => ⟨p, hp, rfl, rfl⟩

/-- As long as the process of the mount has not ended, no restart waits for a timer or for an unmount. -/
theorem AttemptsInv.of_process (h : s.AttemptsInv) (hown : s.OwnEntry proc) (hp : s.procs proc = some p)
    (hdone : p.phase ≠ .done) {delays : List Nat} (hdel : s.attempts = some delays) :
    (∀ m, s.entry = some m → m.stoppedByUs = false) ∧
      ∃ n, n ≤ 3 ∧ delays = restartDelays.take n ∧ s.NoTimer ∧ (s.Attempting ∨ s.GivenUp n) := by
  obtain ⟨hrun, n, hn, htk, hsg⟩ := h delays hdel
  have hnot {m : TrackedMount} {other : Nat} {q : MountProc} (hm : s.entry = some m) (ho : m.proc = some other)
      (hq : s.procs other = some q) (hqd : q.phase = .done) : False := by
    obtain rfl : other = proc := Option.some.inj (ho.symm.trans (hown m hm))
    obtain rfl := Table.unique hp hq
    exact hdone hqd
  refine ⟨hrun, n, hn, htk, ?_⟩
  rcases hsg with ⟨m, other, q, -, -, hm, -, -, ho, hq, hqd, -⟩ |
    ⟨hno, ⟨m, other, q, -, hm, -, -, ho, hq, hqd, -⟩ | hsg⟩
  · exact (hnot hm ho hq hqd).elim
  · exact (hnot hm ho hq hqd).elim
  · exact ⟨hno, hsg⟩

theorem AttemptsInv.notReady (h : s.AttemptsInv) (hg : s.GuardHolds (.notReady proc)) :
    (s.notReady proc).AttemptsInv := by
  refine of_inPhase (P := AttemptsInv) h fun p hp hph => ?_
  have hown := hg p hp hph
  intro delays hdel
  obtain ⟨hrun, n, hn, rfl, hno, hsg⟩ := h.of_process hown hp (by simp [hph]) hdel
  have hsti {other : Nat} {q : MountProc} (hq : s.procs other = some q) (hst : q.phase.isStarting = true) :
      ∃ r, ((s.markDead proc).setPhase proc { p with killed := true } .failing).procs other = some r ∧
        r.restart = q.restart ∧ r.phase.isStarting = true := by
    by_cases ho : other = proc
    · subst ho
      obtain rfl := Table.unique hp hq
      exact ⟨_, put_self, rfl, rfl⟩
    · exact ⟨q, (put_of_ne ho).trans hq, rfl, hst⟩
  have hback {m' : TrackedMount}
      (hm' : ((s.markDead proc).setPhase proc { p with killed := true } .failing).entry = some m') :
      ∃ m, s.entry = some m ∧ { m with status := .dead, deadBy := some proc } = m' := Option.map_eq_some_iff.1 hm'
  refine ⟨?_, n, hn, rfl, .inr ⟨?_, .inr ?_⟩⟩
  · intro m' hm'
    obtain ⟨m, hm, rfl⟩ := hback hm'
    exact hrun m hm
  · intro m' hm'
    obtain ⟨m, hm, rfl⟩ := hback hm'
    exact hno m hm
  rcases hsg with ⟨other, q, hq, hre, hst⟩ | ⟨rfl, -⟩
  · obtain ⟨r, hr, hsame, hrs⟩ := hsti hq hst
    exact .inl ⟨other, r, hr, hsame.trans hre, hrs⟩
  · refine .inr ⟨rfl, ?_⟩
    intro m' hm' _
    obtain ⟨m, hm, rfl⟩ := hback hm'
    exact .inr ⟨proc, _, hown m hm, put_self, rfl⟩

theorem AttemptsInv.drained (h : s.AttemptsInv) (hg : s.GuardHolds (.drained proc)) : (s.drained proc).AttemptsInv := by
  refine of_inPhase (P := AttemptsInv) h fun p hp hph => ?_
  obtain ⟨hown, hlast⟩ := hg p hp hph
  have hcl : AttemptsInv { s.setPhase proc p .done with entry := none } := by
    intro delays hdel
    have hatt : s.attempts = some delays := hdel
    obtain ⟨-, n, hn, rfl, -, hsg⟩ := h.of_process hown hp (by simp [hph]) hatt
    refine ⟨fun _ => by simp, n, hn, rfl, .inr ⟨fun _ => by simp, .inr ?_⟩⟩
    rcases hsg with ⟨other, q, hq, hre, hst⟩ | ⟨rfl, -⟩
    · by_cases ho : other = proc
      · subst ho
        obtain rfl := Table.unique hp hq
        have hth : n = 3 := by
          have hlen := congrArg List.length (hlast hre _ hatt)
          rw [List.length_take] at hlen
          have hlen' : restartDelays.length = 3 := rfl
          omega
        exact .inr ⟨hth, fun _ => by simp⟩
      · exact .inl ⟨other, q, (put_of_ne ho).trans hq, hre, hst⟩
    · exact .inr ⟨rfl, fun _ => by simp⟩
  split
  · exact hcl
  · exact hcl

theorem AttemptsInv.watcherDrained (h : s.AttemptsInv) (hentryInv : s.EntryInv)
    (hg : s.GuardHolds (.watcherDrained proc)) : (s.watcherDrained proc).AttemptsInv := by
  refine of_inPhase (P := AttemptsInv) h fun p hp hph => ?_
  have hown := hg p hp hph
  rcases Option.eq_none_or_eq_some s.entry with he | ⟨m, he⟩
  · have hq : { (s.markDead proc).setPhase proc p .done with
        attempts := if s.entry.all TrackedMount.stoppedByUs = true then s.attempts else some [] }.scheduleRestart =
        s.setPhase proc p .done := by
      unfold FolderMount.scheduleRestart FolderMount.markDead FolderMount.setPhase
      simp [he]
    rw [hq]
    exact h.watched hp (by simp [hph]) (by rw [hph]; rfl) _
  · cases hstop : m.stoppedByUs with
    | true =>
      apply AttemptsInv.of_none
      rw [scheduleRestart_attempts]
      have hall : s.entry.all TrackedMount.stoppedByUs = true := by
        rw [he]
        exact hstop
      show (if s.entry.all TrackedMount.stoppedByUs = true then s.attempts else some []) = none
      rw [if_pos hall]
      by_contra hsome
      obtain ⟨delays, hdel⟩ := Option.ne_none_iff_exists'.1 hsome
      have hrun := (h delays hdel).1 m he
      rw [hstop] at hrun
      cases hrun
    | false =>
      have hall : s.entry.all TrackedMount.stoppedByUs = false := by
        rw [he]
        exact hstop
      have hc : m.restartCount = 0 :=
        hentryInv.count m he (hentryInv.live m proc p he (hown m he) hp (by rw [hph]; rfl)) hstop
      apply AttemptsInv.schedules (n := 0) (m := { m with status := .dead, deadBy := some proc })
        (p := { p with phase := .done }) ?_ (Nat.zero_le 3) ?_ rfl hc (hown m he) put_self rfl hstop
      · intro hth
        cases hth
      · show (if s.entry.all TrackedMount.stoppedByUs = true then s.attempts else some []) = some []
        rw [hall]
        rfl
      show s.entry.map _ = _
      rw [he]
      rfl

end Restarts

theorem Inv.step (h : s.Inv) {e : MountEvent} (hg : s.GuardHolds e) : (s.step e).Inv := by
  obtain ⟨he, hatt⟩ := h
  cases e with
  | start point => exact ⟨he.start, hatt.start⟩
  | unmounted call launch => exact ⟨he.unmounted hg, hatt.unmounted hg⟩
  | ready proc => exact ⟨he.ready hg, hatt.ready⟩
  | notReady proc => exact ⟨he.notReady hg, hatt.notReady hg⟩
  | drained proc => exact ⟨he.drained hg, hatt.drained hg⟩
  | exits proc => exact ⟨he.exits, hatt.exits⟩
  | watcher proc => exact ⟨he.watcher, hatt.watcher⟩
  | watcherDrained proc => exact ⟨he.watcherDrained hg, hatt.watcherDrained he hg⟩
  | timer timer point => exact ⟨he.timer hg, hatt.timer hg⟩
  | stop => exact ⟨he.stop, AttemptsInv.stop⟩
  | stopEnds => exact ⟨he.stopEnds hg, hatt.stopEnds hg⟩

end FolderMount

theorem newFolderMount_inv : newFolderMount.Inv := by
  refine ⟨⟨?_, ?_, ?_, ?_, ?_, ?_, ?_, ?_⟩, FolderMount.AttemptsInv.of_none rfl⟩
  · exact fun _ _ => ⟨rfl, rfl⟩
  all_goals
    intros
    contradiction

theorem mountStep_inv {s : MountSupervisor} (h : ∀ folderId, (s folderId).Inv) {e : String × MountEvent}
    (hg : (s e.1).GuardHolds e.2) (folderId : String) : (mountStep s e folderId).Inv := by
  unfold mountStep
  by_cases hsame : folderId = e.1
  · subst hsame
    rw [Function.update_self]
    exact (h e.1).step hg
  · rw [Function.update_of_ne hsame]
    exact h folderId

/-- **The supervisor keeps its promises.** In every state of a run whose steps all meet the condition, each folder has one
running process at most, no process was spawned for it behind a stop, what marked its mount dead is the exit of its own
process, and it was restarted at the documented delays, as often as documented before it was given up. -/
theorem mounts_safe (es : List (String × MountEvent))
    (hguard : Always mountStep (fun s e => (s e.1).GuardHolds e.2) newMountSupervisor es)
    (before after : List (String × MountEvent)) (hes : es = before ++ after) (folderId : String) :
    (run mountStep newMountSupervisor before folderId).Safe := by
  subst hes
  have hinv : ∀ folderId, (run mountStep newMountSupervisor before folderId).Inv :=
    (always_append.1 hguard).1.invariant (I := fun s => ∀ folderId, (s folderId).Inv) (fun _ => newFolderMount_inv)
      fun s e h hstep => mountStep_inv h hstep
  exact (hinv folderId).safe

/-! ### Runs of an example folder -/

def exampleMountRestarts : List (String × MountEvent) :=
  [.start (.free (.spawned true)), .ready 0, .exits 0, .watcher 0, .watcherDrained 0, .timer 1 (.free .throws),
    .timer 2 (.free .throws), .timer 3 (.free .throws)].map fun e => ("f", e)

/-- All three restarts are made. -/
theorem mounts_safe_restarts :
    (run mountStep newMountSupervisor exampleMountRestarts "f").attempts = some [60000, 300000, 900000] ∧
      (run mountStep newMountSupervisor exampleMountRestarts "f").Safe := by
  refine ⟨by decide, mounts_safe exampleMountRestarts ?_ exampleMountRestarts [] (List.append_nil _).symm "f"⟩
  refine ⟨trivial, ?_, trivial, trivial, ?_, ?_, ?_, ?_, trivial⟩
  · intro p _ _ m hm
    cases hm
    rfl
  · intro p _ _ m hm
    cases hm
    rfl
  all_goals
    intro delay m _ hm
    cases hm
    exact ⟨rfl, rfl, by simp⟩

def exampleTwoStarts : List MountEvent :=
  [.start .stale, .start .stale, .unmounted 0 (.spawned true), .unmounted 1 (.spawned true)]

def exampleStopInStart : List MountEvent := [.start .stale, .stop, .unmounted 0 (.spawned true)]

def exampleLateExit : List MountEvent :=
  [.start (.free (.spawned true)), .ready 0, .stop, .stopEnds, .start (.free (.spawned true)), .ready 1, .exits 0,
    .watcher 0, .watcherDrained 0]

def exampleRestartFails : List MountEvent :=
  [.start (.free (.spawned true)), .ready 0, .exits 0, .watcher 0, .watcherDrained 0, .timer 1 (.free (.spawned true)),
    .notReady 2, .drained 2]

/-- Two processes run for the folder, one is spawned behind its stop, the exit of an old process marks the new mount dead,
and the mount is given up after one restart. -/
theorem mounts_break_promises :
    let folder (es : List MountEvent) := run mountStep newMountSupervisor (es.map fun e => ("f", e)) "f"
    (((folder exampleTwoStarts).procs 2).map MountProc.running = some true ∧
      ((folder exampleTwoStarts).procs 3).map MountProc.running = some true ∧ ¬(folder exampleTwoStarts).Safe) ∧
    (((folder exampleStopInStart).procs 1).map MountProc.afterStop = some true ∧ ¬(folder exampleStopInStart).Safe) ∧
    ((folder exampleLateExit).entry.map (fun m => (m.proc, m.status, m.deadBy)) = some (some 1, .dead, some 0) ∧
      ¬(folder exampleLateExit).Safe) ∧
    ((folder exampleRestartFails).entry = none ∧ (folder exampleRestartFails).attempts = some [60000] ∧
      ¬(folder exampleRestartFails).Safe) := by
  intro folder
  refine ⟨⟨by decide, by decide, ?_⟩, ⟨by decide, ?_⟩, ⟨by decide, ?_⟩, by decide, by decide, ?_⟩
  · intro hsafe
    have hsame := hsafe.oneProcess 2 3 _ _ rfl rfl rfl rfl
    cases hsame
  · intro hsafe
    have haf := hsafe.noneAfterStop 1 _ rfl
    cases haf
  · intro hsafe
    have hown := hsafe.ownExit _ 0 rfl rfl
    cases hown
  intro hsafe
  have hall := (hsafe.threeAttempts [60000] rfl).2
  have hnone : ¬(folder exampleRestartFails).Restarting := by
    rintro (⟨m, hm, -⟩ | ⟨call, hcall⟩ | ⟨proc, p, hp, hre, hst⟩)
    · cases hm
    · cases hcall
    rcases proc with _ | _ | _ | proc
    · cases hp
      cases hre
    · cases hp
    · cases hp
      cases hst
    · cases hp
  cases hall hnone

end LamaSync
