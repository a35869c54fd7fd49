import LamaSync.Server.SeedJobs
import LamaSync.Lib.Trace

/-!
# The lease supervisor of a seed run

A daemon that runs one side of a seed renews its job lease on a timer next to the stage it runs.  A renewal that
fails for a transport reason is tolerated within a grace window inside the lease, a refusal latches a stop, and the
stop aborts everything in flight.

The supervisor is a state machine: `tick` sends a renewal unless one is on its way, and the answers settle later, in
any order with the other calls.  The expiry of the grace window is looked at only when a renewal fails, so the
supervisor stops in time when its timer keeps firing and no request outlives the lease
(`lease_supervisor_stops_in_time`).
-/

namespace LamaSync

open Trace

/-- Why a request failed: the server answered with an error status, or no answer came. -/
inductive RequestError where
  | api (status : Int) (message : String)
  | transport (message : String)

def RequestError.describe : RequestError → String
  | .api _ message => message
  | .transport message => message

def RequestError.isRefusal : RequestError → Bool
  | .api status _ => 400 ≤ status && status < 500
  | .transport _ => false

abbrev JobAnswer := Except RequestError SeedJob

def clamp (value min' max' : Int) : Int := min (max value min') max'

/-- The lease a supervisor asks for and how often it asks: at most every half lease. -/
structure LeaseWindow where
  leaseMs : Int
  intervalMs : Int
  min_lease : 30000 ≤ leaseMs
  min_interval : 1000 ≤ intervalMs
  well_before : 2 * intervalMs ≤ leaseMs

def LeaseWindow.of (leaseMs intervalMs : Option Int) : LeaseWindow :=
  let lease := clamp (leaseMs.getD seedJobLeaseMs) 30000 3600000
  have hlease : 30000 ≤ lease := by simp only [lease, clamp]; omega
  { leaseMs := lease
    intervalMs := clamp (intervalMs.getD seedJobLeaseRenewIntervalMs) 1000 (lease / 2)
    min_lease := hlease
    min_interval := by simp only [clamp]; omega
    well_before := by simp only [clamp]; omega }

/-- How long a failing renewal is tolerated. -/
def LeaseWindow.graceMs (w : LeaseWindow) : Int := max (w.leaseMs - w.intervalMs) 1000

theorem LeaseWindow.graceMs_eq (w : LeaseWindow) : w.graceMs = w.leaseMs - w.intervalMs := by
  have hle := w.min_lease
  have hhalf := w.well_before
  simp only [LeaseWindow.graceMs]
  omega

structure SeedJobLeaseSupervisor where
  label : String
  window : LeaseWindow
  stopped : Option String
  timer : Bool
  ticking : Bool
  aborted : Bool
  lastRenewedAt : Int

namespace SeedJobLeaseSupervisor

def new (label : String) (leaseMs intervalMs : Option Int) (now : Int) : SeedJobLeaseSupervisor where
  label := label
  window := .of leaseMs intervalMs
  stopped := none
  timer := false
  ticking := false
  aborted := false
  lastRenewedAt := now

def start (s : SeedJobLeaseSupervisor) : SeedJobLeaseSupervisor :=
  if s.timer || s.stopped.isSome then s else { s with timer := true }

def stop (s : SeedJobLeaseSupervisor) : SeedJobLeaseSupervisor := { s with timer := false }

def assertLive (s : SeedJobLeaseSupervisor) : Except String Unit :=
  match s.stopped with
  | some reason => .error reason
  | none => .ok ()

def markRenewed (s : SeedJobLeaseSupervisor) (now : Int) : SeedJobLeaseSupervisor := { s with lastRenewedAt := now }

def latch (s : SeedJobLeaseSupervisor) (reason : String) : SeedJobLeaseSupervisor :=
  if s.stopped.isSome then s else { s.stop with stopped := some reason, aborted := true }

def roundSeconds (ms : Int) : Int := (ms + 500) / 1000

def latchTerminal (s : SeedJobLeaseSupervisor) (job : SeedJob) : SeedJobLeaseSupervisor :=
  if isTerminalSeedPhase job.phase then s.latch s!"the job is {job.phase.text}" else s

def renewed (s : SeedJobLeaseSupervisor) (job : SeedJob) (now : Int) : SeedJobLeaseSupervisor :=
  (s.markRenewed now).latchTerminal job

def renewalLost (s : SeedJobLeaseSupervisor) (now : Int) : SeedJobLeaseSupervisor :=
  let silentFor := now - s.lastRenewedAt
  if s.window.graceMs ≤ silentFor then
    s.latch (s!"the seed lease could not be renewed for {roundSeconds silentFor}s, which is inside the " ++
      s!"{roundSeconds s.window.leaseMs}s lifetime it was granted for, so this run is treated as lost")
  else s

def renewalRefused (s : SeedJobLeaseSupervisor) (err : RequestError) (current : JobAnswer) :
    SeedJobLeaseSupervisor :=
  let refused := s.latch s!"the server refused to renew this seed job's lease: {err.describe}"
  match current with
  | .ok job => if isTerminalSeedPhase job.phase then s.latch s!"the job is {job.phase.text}" else refused
  | .error _ => refused

def verifyAuthority (s : SeedJobLeaseSupervisor) (current : JobAnswer) :
    SeedJobLeaseSupervisor × Except String Unit :=
  match current with
  | .error err =>
    if err.isRefusal then
      let s' := s.latch s!"the job could not be read before an irreversible step: {err.describe}"
      (s', s'.assertLive)
    else (s, .ok ())
  | .ok job =>
    let s' := s.latchTerminal job
    (s', s'.assertLive)

end SeedJobLeaseSupervisor

inductive PendingRequest where
  | renew
  | read (refusal : RequestError)

/-- A supervisor with the request it waits for.  `heardAt` is the time of the last tick, settled renewal or renewal
through another write. -/
structure SupervisedRun where
  supervisor : SeedJobLeaseSupervisor
  pending : Option PendingRequest
  heardAt : Int

inductive SupervisorEvent where
  | start
  | stop
  | tick (now : Int)
  | settled (answer : JobAnswer) (now : Int)
  | markRenewed (now : Int)
  | verified (answer : JobAnswer)

def SupervisedRun.tick (s : SupervisedRun) (now : Int) : SupervisedRun :=
  if s.supervisor.stopped.isSome || s.supervisor.ticking then { s with heardAt := now }
  else { supervisor := { s.supervisor with ticking := true }, pending := some .renew, heardAt := now }

def SupervisedRun.ticked (supervisor : SeedJobLeaseSupervisor) (now : Int) : SupervisedRun where
  supervisor := { supervisor with ticking := false }
  pending := none
  heardAt := now

def SupervisedRun.settled (s : SupervisedRun) (answer : JobAnswer) (now : Int) : SupervisedRun :=
  match s.pending, answer with
  | none, _ => s
  | some .renew, .ok job => ticked (s.supervisor.renewed job now) now
  | some .renew, .error err =>
    if err.isRefusal then { s with pending := some (.read err) } else ticked (s.supervisor.renewalLost now) now
  | some (.read err), answer => ticked (s.supervisor.renewalRefused err answer) now

def supervisorStep (s : SupervisedRun) : SupervisorEvent → SupervisedRun
  | .start => { s with supervisor := s.supervisor.start }
  | .stop => { s with supervisor := s.supervisor.stop }
  | .tick now => s.tick now
  | .settled answer now => s.settled answer now
  | .markRenewed now => { s with supervisor := s.supervisor.markRenewed now, heardAt := now }
  | .verified answer => { s with supervisor := (s.supervisor.verifyAuthority answer).1 }

def newSupervisedRun (label : String) (leaseMs intervalMs : Option Int) (now : Int) : SupervisedRun where
  supervisor := .new label leaseMs intervalMs now
  pending := none
  heardAt := now

section Latch

variable {s : SeedJobLeaseSupervisor} {reason : String}

private theorem ls_latch_stopped (s : SeedJobLeaseSupervisor) (reason : String) :
    (s.latch reason).stopped.isSome = true := by
  unfold SeedJobLeaseSupervisor.latch
  split
  · assumption
  · rfl

private theorem ls_latch_open (s : SeedJobLeaseSupervisor) (reason : String) : (s.latch reason).stopped ≠ none := by
  intro h
  have hla := ls_latch_stopped s reason
  rw [h] at hla
  cases hla

private theorem ls_latch_kept {r : String} (h : s.stopped = some r) : s.latch reason = s := by
  simp [SeedJobLeaseSupervisor.latch, h]

/-- What a call may do to the supervisor apart from its timer: nothing, or latch a stop. -/
structure LatchStep (s s' : SeedJobLeaseSupervisor) : Prop where
  window : s'.window = s.window
  ticking : s'.ticking = s.ticking
  clock : s'.lastRenewedAt = s.lastRenewedAt
  latched : (s'.stopped = s.stopped ∧ s'.aborted = s.aborted) ∨
    (s.stopped = none ∧ s'.stopped.isSome = true ∧ s'.aborted = true)

variable {s' : SeedJobLeaseSupervisor}

theorem LatchStep.kept (h : LatchStep s s') (hs : s.stopped = some reason) :
    s'.stopped = some reason := by
  rcases h.latched with ⟨hstop, -⟩ | ⟨hopen, -, -⟩
  · rw [hstop, hs]
  · rw [hs] at hopen; cases hopen

theorem LatchStep.open (h : LatchStep s s') (hs : s'.stopped = none) :
    s.stopped = none := by
  cases hstop : s.stopped with
  | none => rfl
  | some r => rw [h.kept hstop] at hs; cases hs

theorem LatchStep.signalled (h : LatchStep s s')
    (hs : s.aborted = s.stopped.isSome) : s'.aborted = s'.stopped.isSome := by
  rcases h.latched with ⟨hstop, habt⟩ | ⟨-, hstop, habt⟩
  · rw [hstop, habt, hs]
  · rw [hstop, habt]

private theorem ls_refl (s : SeedJobLeaseSupervisor) : LatchStep s s := ⟨rfl, rfl, rfl, .inl ⟨rfl, rfl⟩⟩

private theorem ls_latch (s : SeedJobLeaseSupervisor) (reason : String) : LatchStep s (s.latch reason) := by
  cases hs : s.stopped with
  | some r => rw [ls_latch_kept hs]; exact ls_refl s
  | none =>
    refine ⟨?_, ?_, ?_, .inr ⟨hs, ls_latch_stopped s reason, ?_⟩⟩
    all_goals simp [SeedJobLeaseSupervisor.latch, SeedJobLeaseSupervisor.stop, hs]

private theorem ls_latchTerminal (s : SeedJobLeaseSupervisor) (job : SeedJob) : LatchStep s (s.latchTerminal job) := by
  unfold SeedJobLeaseSupervisor.latchTerminal
  split
  · exact ls_latch s _
  · exact ls_refl s

private theorem ls_renewalLost (s : SeedJobLeaseSupervisor) (now : Int) : LatchStep s (s.renewalLost now) := by
  unfold SeedJobLeaseSupervisor.renewalLost
  dsimp only
  split
  · exact ls_latch s _
  · exact ls_refl s

private theorem ls_renewalRefused (s : SeedJobLeaseSupervisor) (err : RequestError) (current : JobAnswer) :
    LatchStep s (s.renewalRefused err current) ∧ (s.renewalRefused err current).stopped.isSome = true := by
  unfold SeedJobLeaseSupervisor.renewalRefused
  dsimp only
  split
  · split
    · exact ⟨ls_latch s _, ls_latch_stopped s _⟩
    · exact ⟨ls_latch s _, ls_latch_stopped s _⟩
  · exact ⟨ls_latch s _, ls_latch_stopped s _⟩

private theorem ls_verifyAuthority (s : SeedJobLeaseSupervisor) (current : JobAnswer) :
    LatchStep s (s.verifyAuthority current).1 := by
  unfold SeedJobLeaseSupervisor.verifyAuthority
  split
  · split
    · exact ls_latch s _
    · exact ls_refl s
  · exact ls_latchTerminal s _

end Latch

structure SupervisorInv (s : SupervisedRun) : Prop where
  inFlight : s.supervisor.ticking = s.pending.isSome
  signalled : s.supervisor.aborted = s.supervisor.stopped.isSome
  fresh : s.supervisor.stopped = none → s.supervisor.ticking = false →
    s.heardAt - s.supervisor.lastRenewedAt < s.supervisor.window.graceMs

private theorem ls_grace_pos (w : LeaseWindow) : 0 < w.graceMs := by
  simp only [LeaseWindow.graceMs]; omega

theorem supervisorInv_new (label : String) (leaseMs intervalMs : Option Int) (now : Int) :
    SupervisorInv (newSupervisedRun label leaseMs intervalMs now) where
  inFlight := rfl
  signalled := rfl
  fresh _ _ := by
    have hpos := ls_grace_pos (.of leaseMs intervalMs)
    simp only [newSupervisedRun, SeedJobLeaseSupervisor.new]
    omega

section Step

variable {s : SupervisedRun}

private theorem ls_ticked {before after : SeedJobLeaseSupervisor} {now : Int}
    (h : before.aborted = before.stopped.isSome) (hstep : LatchStep before after)
    (hfr : after.stopped = none → now - after.lastRenewedAt < after.window.graceMs) :
    SupervisorInv (SupervisedRun.ticked after now) where
  inFlight := rfl
  signalled := hstep.signalled h
  fresh hopen _ := hfr hopen

private theorem ls_settled (h : SupervisorInv s) (answer : JobAnswer) (now : Int) :
    SupervisorInv (s.settled answer now) := by
  have hpos := ls_grace_pos s.supervisor.window
  unfold SupervisedRun.settled
  split
  · exact h
  · -- granted: the renewal is fresh
    rename_i job hpend
    have hstep : LatchStep (s.supervisor.markRenewed now) (s.supervisor.renewed job now) := ls_latchTerminal _ job
    refine ls_ticked (show (s.supervisor.markRenewed now).aborted = _ from h.signalled) hstep ?_
    intro _
    have hcl : (s.supervisor.renewed job now).lastRenewedAt = now := hstep.clock
    have hwi : (s.supervisor.renewed job now).window = s.supervisor.window := hstep.window
    rw [hcl, hwi]
    omega
  · rename_i err hpend
    split
    · -- refused: the tick goes on to the read
      refine ⟨?_, h.signalled, ?_⟩
      · rw [h.inFlight, hpend]; rfl
      intro _ hidle
      have hbusy := h.inFlight
      rw [hpend, hidle] at hbusy
      cases hbusy
    · -- lost: outside the window it latches
      refine ls_ticked h.signalled (ls_renewalLost _ now) ?_
      intro hopen
      unfold SeedJobLeaseSupervisor.renewalLost at hopen ⊢
      dsimp only at hopen ⊢
      split
      · rename_i hsil
        rw [if_pos hsil] at hopen
        exact absurd hopen (ls_latch_open _ _)
      · omega
  · rename_i err hpend
    obtain ⟨hstep, hstop⟩ := ls_renewalRefused s.supervisor err _
    refine ls_ticked h.signalled hstep ?_
    intro hopen
    rw [hopen] at hstop
    cases hstop

theorem SupervisorInv.step (h : SupervisorInv s) (e : SupervisorEvent) : SupervisorInv (supervisorStep s e) := by
  cases e with
  | start =>
    simp only [supervisorStep, SeedJobLeaseSupervisor.start]
    split
    · exact h
    · exact ⟨h.inFlight, h.signalled, h.fresh⟩
  | stop => exact ⟨h.inFlight, h.signalled, h.fresh⟩
  | tick now =>
    simp only [supervisorStep, SupervisedRun.tick]
    split
    · rename_i hidle
      refine ⟨h.inFlight, h.signalled, ?_⟩
      intro hopen hq
      have hopen' : s.supervisor.stopped = none := hopen
      have hq' : s.supervisor.ticking = false := hq
      simp [hopen', hq'] at hidle
    refine ⟨rfl, h.signalled, ?_⟩
    intro _ hidle
    cases hidle
  | settled answer now => exact ls_settled h answer now
  | markRenewed now =>
    refine ⟨h.inFlight, h.signalled, ?_⟩
    intro _ _
    have hpos := ls_grace_pos s.supervisor.window
    simp only [supervisorStep, SeedJobLeaseSupervisor.markRenewed]
    omega
  | verified answer =>
    have hstep := ls_verifyAuthority s.supervisor answer
    refine ⟨hstep.ticking.trans h.inFlight, hstep.signalled h.signalled, ?_⟩
    intro hopen hidle
    have hfr := h.fresh (hstep.open hopen) (hstep.ticking.symm.trans hidle)
    simp only [supervisorStep, hstep.clock, hstep.window]
    exact hfr

theorem supervisorStep_stopped {reason : String} (h : s.supervisor.stopped = some reason) (e : SupervisorEvent) :
    (supervisorStep s e).supervisor.stopped = some reason := by
  cases e with
  | start =>
    simp only [supervisorStep, SeedJobLeaseSupervisor.start]
    split <;> exact h
  | stop | markRenewed now => exact h
  | tick now =>
    simp only [supervisorStep, SupervisedRun.tick]
    split <;> exact h
  | settled answer now =>
    simp only [supervisorStep, SupervisedRun.settled]
    split
    · exact h
    · rename_i job hpend
      have hstep : LatchStep (s.supervisor.markRenewed now) (s.supervisor.renewed job now) := ls_latchTerminal _ job
      exact hstep.kept h
    · split
      · exact h
      · exact (ls_renewalLost s.supervisor now).kept h
    · rename_i err hpend
      exact (ls_renewalRefused s.supervisor err _).1.kept h
  | verified answer => exact (ls_verifyAuthority s.supervisor answer).kept h

end Step

def StoppedOnceLapsed (s : SupervisedRun) (e : SupervisorEvent) : Prop :=
  ∀ now, e = .tick now → s.supervisor.window.leaseMs ≤ now - s.supervisor.lastRenewedAt →
    s.supervisor.stopped.isSome = true ∧ s.supervisor.aborted = true

/-- The schedule: ticks keep coming, each at most one interval after the supervisor was last heard of, and a request
that a tick finds on its way is sent and answered within a lease of the last renewal. -/
def TickInTime (s : SupervisedRun) : SupervisorEvent → Prop
  | .tick now => now - s.heardAt ≤ s.supervisor.window.intervalMs ∧
      (s.pending.isSome = true → now - s.supervisor.lastRenewedAt < s.supervisor.window.leaseMs)
  | _ => True

instance (s : SupervisedRun) : ∀ e, Decidable (TickInTime s e)
  | .tick now => inferInstanceAs (Decidable (now - s.heardAt ≤ s.supervisor.window.intervalMs ∧
      (s.pending.isSome = true → now - s.supervisor.lastRenewedAt < s.supervisor.window.leaseMs)))
  | .start | .stop | .settled _ _ | .markRenewed _ | .verified _ => isTrue trivial

private theorem ls_in_time {s : SupervisedRun} {e : SupervisorEvent} (h : SupervisorInv s) (hgood : TickInTime s e) :
    StoppedOnceLapsed s e := by
  rintro now rfl hlaps
  obtain ⟨hon, hans⟩ := hgood
  have hidle : s.supervisor.ticking = false := by
    rw [h.inFlight]
    cases hpend : s.pending.isSome with
    | false => rfl
    | true =>
      have hwi := hans hpend
      omega
  have hstop : s.supervisor.stopped.isSome = true := by
    cases hs : s.supervisor.stopped with
    | some reason => rfl
    | none =>
      have hfr := h.fresh hs hidle
      rw [s.supervisor.window.graceMs_eq] at hfr
      omega
  exact ⟨hstop, by rw [h.signalled, hstop]⟩

/-- Along every run of a supervisor, whatever its calls and the answers to its requests: when the timer keeps firing
and no request outlives the lease, it has stopped at every tick a whole lease after the last renewal; and a stop, once
latched, stays as it is with the abort signalled. -/
theorem lease_supervisor_stops_in_time (label : String) (leaseMs intervalMs : Option Int) (created : Int)
    (es : List SupervisorEvent) :
    (Always supervisorStep TickInTime (newSupervisedRun label leaseMs intervalMs created) es →
      Always supervisorStep StoppedOnceLapsed (newSupervisedRun label leaseMs intervalMs created) es) ∧
    (∀ before after reason, es = before ++ after →
      (run supervisorStep (newSupervisedRun label leaseMs intervalMs created) before).supervisor.stopped =
        some reason →
      (run supervisorStep (newSupervisedRun label leaseMs intervalMs created) es).supervisor.stopped = some reason ∧
      (run supervisorStep (newSupervisedRun label leaseMs intervalMs created) es).supervisor.aborted = true) := by
  have hnew := supervisorInv_new label leaseMs intervalMs created
  constructor
  · intro h
    exact h.of_invariant hnew (fun s e hI _ => hI.step e) (fun s e hI hgood => ls_in_time hI hgood)
  · intro before after reason hes hstop
    have hinv : SupervisorInv (run supervisorStep (newSupervisedRun label leaseMs intervalMs created) es) :=
      run_invariant hnew fun s e hI => hI.step e
    have hkept : (run supervisorStep (newSupervisedRun label leaseMs intervalMs created) es).supervisor.stopped =
        some reason := by
      rw [hes, run_append]
      exact run_invariant (I := fun s : SupervisedRun => s.supervisor.stopped = some reason) hstop
        fun s e hI => supervisorStep_stopped hI e
    refine ⟨hkept, ?_⟩
    rw [hinv.signalled, hkept]
    rfl

/-- A renewal that fails after half a lease of 30 seconds stops the run before the tick at which the lease is over. -/
theorem lease_supervisor_stops_in_time_silent :
    let s := newSupervisedRun "source" (some 30000) (some 15000) 0
    Always supervisorStep StoppedOnceLapsed s
      [.start, .tick 14000, .settled (.error (.transport "timeout")) 14200, .tick 28000,
        .settled (.error (.transport "timeout")) 28200, .tick 30000] ∧
    (run supervisorStep s [.start, .tick 14000, .settled (.error (.transport "timeout")) 14200, .tick 28000,
      .settled (.error (.transport "timeout")) 28200]).supervisor.aborted = true :=
  ⟨(lease_supervisor_stops_in_time "source" (some 30000) (some 15000) 0 _).1 (by decide), by decide⟩

/-- The first renewal of a default supervisor never settles: at the tick ten minutes later it has not stopped. -/
theorem unsettled_renewal_outlives_lease :
    ¬ Always supervisorStep StoppedOnceLapsed (newSupervisedRun "source" none none 0)
      [.start, .tick 60000, .tick 600000] := by
  intro h
  obtain ⟨-, -, hlast, -⟩ := h
  obtain ⟨hstop, -⟩ := hlast 600000 rfl (by decide)
  cases hstop

end LamaSync
