import LamaSync.Lib.Table
import LamaSync.Lib.Trace
import Mathlib.Data.Rat.Floor

/-!
# The watch controller of one assignment

File events start a quiet period, every further event starts it again, and at its end the folder is synchronised.
Events during the run are remembered and start one more quiet period behind it.

The timers that are armed are part of the state: clearing one disarms it, and only an armed timer fires.  `started` and
`ended` count the runs.
-/

namespace LamaSync

open Trace

def watchQuietSecDefault : Int := 30

def watchQuietSecMin : Int := 10

def watchQuietSecMax : Int := 300

def resolveWatchQuietSec (value : Option Rat) : Int :=
  match value with
  | none => watchQuietSecDefault
  | some q =>
    if q ≤ 0 then watchQuietSecDefault
    else if q < watchQuietSecMin then watchQuietSecMin
    else if watchQuietSecMax < q then watchQuietSecMax
    else q.floor

inductive WatchState where
  | idle | debouncing | running
  deriving DecidableEq

structure WatchController where
  /-- Of the assignment. -/
  watchQuietSec : Option Rat
  handle : Bool
  timer : Option Nat
  state : WatchState
  dirtyDuringRun : Bool
  closed : Bool
  armed : Table Nat Int
  nextTimer : Nat
  started : Nat
  ended : Nat

inductive WatchEvent where
  /-- `start`, and whether the factory could watch the path. -/
  | start (ok : Bool)
  /-- The watcher reports a change. -/
  | dirty
  /-- Or that it may have missed some. -/
  | error (message : String)
  | fires (timer : Nat)
  | runSettles (ok : Bool)
  | stop

namespace WatchController

def new (watchQuietSec : Option Rat) : WatchController where
  watchQuietSec := watchQuietSec
  handle := false
  timer := none
  state := .idle
  dirtyDuringRun := false
  closed := false
  armed := fun _ => none
  nextTimer := 0
  started := 0
  ended := 0

def start (s : WatchController) (ok : Bool) : WatchController := if s.handle then s else { s with handle := ok }

def clearTimer (s : WatchController) : WatchController :=
  match s.timer with
  | none => s
  | some t => { s with armed := s.armed.erase t, timer := none }

def stop (s : WatchController) : WatchController := { clearTimer { s with closed := true } with handle := false }

def scheduleRun (s : WatchController) : WatchController :=
  let cleared := s.clearTimer
  { cleared with
    state := .debouncing
    armed := cleared.armed.put cleared.nextTimer (resolveWatchQuietSec s.watchQuietSec * 1000)
    timer := some cleared.nextTimer
    nextTimer := cleared.nextTimer + 1 }

def markDirty (s : WatchController) : WatchController :=
  if s.closed then s else if s.state = .running then { s with dirtyDuringRun := true } else s.scheduleRun

def fire (s : WatchController) : WatchController :=
  if s.closed then s
  else
    let cleared := s.clearTimer
    if cleared.state ≠ .debouncing then cleared
    else { cleared with state := .running, dirtyDuringRun := false, started := cleared.started + 1 }

/-- The part behind the run, whether it succeeded or threw. -/
def runSettled (s : WatchController) : WatchController :=
  if s.closed then s else if s.dirtyDuringRun then s.scheduleRun else { s with state := .idle }

end WatchController

def watchStep (s : WatchController) : WatchEvent → WatchController
  | .start ok => s.start ok
  | .dirty => s.markDirty
  | .error _ => s.markDirty
  | .fires t => if (s.armed t).isSome then { s with armed := s.armed.erase t }.fire else s
  | .runSettles _ => if s.ended < s.started then { s with ended := s.ended + 1 }.runSettled else s
  | .stop => s.stop

/-- How the state, the timer and the runs of a controller that has not been stopped belong together. -/
def WatchController.Fits (s : WatchController) : Prop :=
  match s.state with
  | .idle => s.timer = none ∧ s.started = s.ended
  | .debouncing => (∃ t, s.timer = some t ∧ (s.armed t).isSome = true) ∧ s.started = s.ended
  | .running => s.timer = none ∧ s.started = s.ended + 1

structure WatchInv (s : WatchController) : Prop where
  armed : ∀ t, (s.armed t).isSome = true → s.timer = some t
  fits : s.closed = false → s.Fits
  stopped : s.closed = true → ∀ t, s.armed t = none
  flight : s.ended ≤ s.started ∧ s.started ≤ s.ended + 1

variable {s : WatchController}

theorem watchInv_new (watchQuietSec : Option Rat) : WatchInv (.new watchQuietSec) where
  armed t h := by cases h
  fits _ := ⟨rfl, rfl⟩
  stopped h := by cases h
  flight := ⟨Nat.le_refl _, Nat.le_succ _⟩

private theorem fw_clearTimer (s : WatchController) :
    s.clearTimer = { s with armed := s.clearTimer.armed, timer := none } := by
  unfold WatchController.clearTimer
  cases htm : s.timer with
  | none => exact congrArg (fun timer => { s with timer := timer }) htm
  | some t => rfl

private theorem fw_cleared (h : ∀ t, (s.armed t).isSome = true → s.timer = some t) (t : Nat) : s.clearTimer.armed t = none := by
  have hnone (ht : s.timer ≠ some t) : s.armed t = none := by
    cases har : s.armed t with
    | none => rfl
    | some delay => exact absurd (h t (by rw [har]; rfl)) ht
  unfold WatchController.clearTimer
  cases htm : s.timer with
  | none =>
    refine hnone ?_
    rw [htm]
    exact fun hsome => by cases hsome
  | some t' =>
    by_cases heq : t = t'
    · subst heq
      exact Table.erase_self
    refine (Table.erase_of_ne heq).trans (hnone ?_)
    rw [htm]
    exact fun hsome => heq (Option.some.inj hsome).symm

private theorem fw_scheduleRun (h : ∀ t, (s.armed t).isSome = true → s.timer = some t) (hopen : s.closed = false)
    (hfl : s.started = s.ended) : WatchInv s.scheduleRun := by
  have hcl : s.scheduleRun.closed = s.closed := by
    unfold WatchController.scheduleRun
    rw [fw_clearTimer]
  have hco : s.scheduleRun.started = s.started ∧ s.scheduleRun.ended = s.ended := by
    unfold WatchController.scheduleRun
    rw [fw_clearTimer]
    exact ⟨rfl, rfl⟩
  constructor
  · intro t ht
    by_cases heq : t = s.clearTimer.nextTimer
    · subst heq
      rfl
    have hnone : s.scheduleRun.armed t = none := (Table.put_of_ne heq).trans (fw_cleared h t)
    rw [hnone] at ht
    cases ht
  · intro _
    refine ⟨⟨s.clearTimer.nextTimer, rfl, ?_⟩, ?_⟩
    · show (Table.put _ _ _ _).isSome = true
      rw [Table.put_self]
      rfl
    · rw [hco.1, hco.2, hfl]
  · intro hc
    rw [hcl, hopen] at hc
    cases hc
  · rw [hco.1, hco.2, hfl]
    exact ⟨Nat.le_refl _, Nat.le_succ _⟩

theorem WatchInv.markDirty (h : WatchInv s) : WatchInv s.markDirty := by
  unfold WatchController.markDirty
  split
  · exact h
  rename_i hopen
  have hopen' : s.closed = false := Bool.eq_false_iff.2 hopen
  have hfits := h.fits hopen'
  split
  · rename_i hrun
    refine ⟨h.armed, ?_, h.stopped, h.flight⟩
    intro _
    exact hfits
  rename_i hidle
  refine fw_scheduleRun h.armed hopen' ?_
  unfold WatchController.Fits at hfits
  cases hs : s.state with
  | idle | debouncing =>
    rw [hs] at hfits
    exact hfits.2
  | running => exact absurd hs hidle

private theorem fw_armed (h : WatchInv s) {t : Nat} (ht : (s.armed t).isSome = true) :
    s.closed = false ∧ s.state = .debouncing ∧ s.timer = some t ∧ s.started = s.ended := by
  have hopen : s.closed = false := by
    cases hc : s.closed with
    | false => rfl
    | true =>
      rw [h.stopped hc t] at ht
      cases ht
  have htm := h.armed t ht
  have hfits := h.fits hopen
  unfold WatchController.Fits at hfits
  cases hs : s.state with
  | idle | running =>
    rw [hs] at hfits
    rw [htm] at hfits
    cases hfits.1
  | debouncing =>
    rw [hs] at hfits
    exact ⟨hopen, rfl, htm, hfits.2⟩

private theorem fw_fire (h : WatchInv s) {t : Nat} (ht : (s.armed t).isSome = true) :
    { s with armed := s.armed.erase t }.fire =
      { s with armed := (s.armed.erase t).erase t, timer := none, state := .running, dirtyDuringRun := false,
               started := s.started + 1 } := by
  obtain ⟨hopen, hs, htm, -⟩ := fw_armed h ht
  simp only [WatchController.fire, WatchController.clearTimer, htm, hopen, hs, Bool.false_eq_true, if_false, ne_eq,
    not_true_eq_false]

theorem WatchInv.fires (h : WatchInv s) {t : Nat} (ht : (s.armed t).isSome = true) :
    WatchInv { s with armed := s.armed.erase t }.fire := by
  obtain ⟨hopen, -, htm, hco⟩ := fw_armed h ht
  have hnone (t' : Nat) : ((s.armed.erase t).erase t) t' = none := by
    by_cases heq : t' = t
    · subst heq
      exact Table.erase_self
    rw [Table.erase_of_ne heq, Table.erase_of_ne heq]
    cases har : s.armed t' with
    | none => rfl
    | some delay =>
      have ho := h.armed t' (by rw [har]; rfl)
      exact absurd (Option.mem_unique ho htm) heq
  rw [fw_fire h ht]
  constructor
  · intro t' ht'
    have hn : (none : Option Int).isSome = true := (congrArg Option.isSome (hnone t')).symm.trans ht'
    cases hn
  · intro _
    exact ⟨rfl, congrArg (· + 1) hco⟩
  · intro _
    exact hnone
  · show s.ended ≤ s.started + 1 ∧ s.started + 1 ≤ s.ended + 1
    omega

theorem WatchInv.runSettled (h : WatchInv s) (hrun : s.ended < s.started) :
    WatchInv { s with ended := s.ended + 1 }.runSettled := by
  have hfl := h.flight
  have hnd : s.started = s.ended + 1 := by omega
  unfold WatchController.runSettled
  split
  · rename_i hcl
    refine ⟨h.armed, ?_, h.stopped, ?_⟩
    · intro hopen
      have hopen' : s.closed = false := hopen
      rw [show s.closed = true from hcl] at hopen'
      cases hopen'
    · show s.ended + 1 ≤ s.started ∧ s.started ≤ s.ended + 1 + 1
      omega
  · rename_i hopen
    have hopen' : s.closed = false := Bool.eq_false_iff.2 hopen
    split
    · exact @fw_scheduleRun { s with ended := s.ended + 1 } h.armed hopen' hnd
    refine ⟨h.armed, ?_, h.stopped, ?_⟩
    · intro _
      have hfits := h.fits hopen'
      unfold WatchController.Fits at hfits
      cases hs : s.state with
      | idle | debouncing =>
        rw [hs] at hfits
        exact absurd hfits.2 (by omega)
      | running =>
        rw [hs] at hfits
        exact ⟨hfits.1, hnd⟩
    · show s.ended + 1 ≤ s.started ∧ s.started ≤ s.ended + 1 + 1
      omega

theorem WatchInv.stop (h : WatchInv s) : WatchInv s.stop := by
  have hcl := fw_clearTimer { s with closed := true }
  have hnone := @fw_cleared { s with closed := true } h.armed
  have hsame : s.stop = { s with closed := true, handle := false, timer := none,
                                 armed := ({ s with closed := true } : WatchController).clearTimer.armed } := by
    unfold WatchController.stop
    rw [hcl]
  rw [hsame]
  constructor
  · intro t ht
    have ht' : (({ s with closed := true } : WatchController).clearTimer.armed t).isSome = true := ht
    rw [hnone t] at ht'
    cases ht'
  · intro hopen
    cases hopen
  · intro _
    exact hnone
  · exact h.flight

theorem WatchInv.step (h : WatchInv s) (e : WatchEvent) : WatchInv (watchStep s e) := by
  cases e with
  | start ok =>
    show WatchInv (s.start ok)
    unfold WatchController.start
    split
    · exact h
    · exact ⟨h.armed, h.fits, h.stopped, h.flight⟩
  | dirty | error message => exact h.markDirty
  | fires t =>
    show WatchInv (if (s.armed t).isSome then _ else s)
    split
    · rename_i ht
      exact h.fires ht
    · exact h
  | runSettles ok =>
    show WatchInv (if s.ended < s.started then _ else s)
    split
    · rename_i hrun
      exact h.runSettled hrun
    · exact h
  | stop => exact h.stop

def WatchEvent.isDirty : WatchEvent → Bool
  | .dirty | .error _ => true
  | _ => false

/-- A run will follow: the quiet period is on, or the run that is on its way will start another. -/
def WatchController.Awaits (s : WatchController) : Prop :=
  (s.state = .debouncing ∧ ∃ t, s.timer = some t ∧ (s.armed t).isSome = true) ∨
    (s.state = .running ∧ s.dirtyDuringRun = true ∧ s.started = s.ended + 1)

/-- A run has been started since there were `n`, or a run will follow, or the controller has been stopped. -/
def WatchController.Heeds (s : WatchController) (n : Nat) : Prop := n < s.started ∨ s.closed = true ∨ s.Awaits

private theorem fw_scheduled (s : WatchController) : s.scheduleRun.Awaits := by
  left
  refine ⟨rfl, s.clearTimer.nextTimer, rfl, ?_⟩
  show (Table.put _ _ _ _).isSome = true
  rw [Table.put_self]
  rfl

private theorem fw_counts (s : WatchController) :
    s.scheduleRun.started = s.started ∧ s.stop.started = s.started ∧ s.markDirty.started = s.started := by
  have hcl (s : WatchController) : s.clearTimer.started = s.started := by rw [fw_clearTimer]
  have hsc : s.scheduleRun.started = s.started := hcl s
  refine ⟨hsc, hcl { s with closed := true }, ?_⟩
  unfold WatchController.markDirty
  split
  · rfl
  split
  · rfl
  · exact hsc

private theorem fw_dirty (h : WatchInv s) (n : Nat) : s.markDirty.Heeds n := by
  unfold WatchController.markDirty
  split
  · rename_i hcl
    exact .inr (.inl hcl)
  rename_i hopen
  split
  · rename_i hrun
    have hfits := h.fits (Bool.eq_false_iff.2 hopen)
    unfold WatchController.Fits at hfits
    rw [hrun] at hfits
    exact .inr (.inr (.inr ⟨hrun, rfl, hfits.2⟩))
  · exact .inr (.inr (fw_scheduled s))

private theorem fw_heeds (h : WatchInv s) {n : Nat} (hn : n ≤ s.started) (hhe : s.Heeds n) (e : WatchEvent) :
    n ≤ (watchStep s e).started ∧ (watchStep s e).Heeds n := by
  cases e with
  | start ok =>
    show n ≤ (s.start ok).started ∧ (s.start ok).Heeds n
    unfold WatchController.start
    split <;> exact ⟨hn, hhe⟩
  | dirty | error message => exact ⟨(fw_counts s).2.2.symm ▸ hn, fw_dirty h n⟩
  | fires t =>
    show n ≤ WatchController.started (if (s.armed t).isSome then _ else s) ∧
      WatchController.Heeds (if (s.armed t).isSome then _ else s) n
    split
    · rename_i ht
      rw [fw_fire h ht]
      exact ⟨Nat.le_succ_of_le hn, .inl (Nat.lt_succ_of_le hn)⟩
    · exact ⟨hn, hhe⟩
  | runSettles ok =>
    show n ≤ WatchController.started (if s.ended < s.started then _ else s) ∧
      WatchController.Heeds (if s.ended < s.started then _ else s) n
    split
    · rename_i hrun
      unfold WatchController.runSettled
      split
      · rename_i hcl
        exact ⟨hn, .inr (.inl hcl)⟩
      rename_i hopen
      split
      · exact ⟨(fw_counts { s with ended := s.ended + 1 }).1.symm ▸ hn, .inr (.inr (fw_scheduled _))⟩
      rename_i hcle
      refine ⟨hn, ?_⟩
      rcases hhe with hmore | hcl | haw | ⟨-, hdi, -⟩
      · exact .inl hmore
      · exact absurd hcl hopen
      · -- during a quiet period no run is on its way
        have hfits := h.fits (Bool.eq_false_iff.2 hopen)
        unfold WatchController.Fits at hfits
        rw [haw.1] at hfits
        exact absurd hfits.2 (by omega)
      · exact absurd hdi hcle
    · exact ⟨hn, hhe⟩
  | stop =>
    refine ⟨(fw_counts s).2.1.symm ▸ hn, .inr (.inl ?_)⟩
    show ({ s with closed := true } : WatchController).clearTimer.closed = true
    rw [fw_clearTimer]

private theorem fw_stopped (h : WatchInv s) (hcl : s.closed = true) (e : WatchEvent) :
    (watchStep s e).closed = true ∧ (watchStep s e).started = s.started := by
  cases e with
  | start ok =>
    show (s.start ok).closed = true ∧ (s.start ok).started = s.started
    unfold WatchController.start
    split <;> exact ⟨hcl, rfl⟩
  | dirty | error message =>
    refine ⟨?_, (fw_counts s).2.2⟩
    show s.markDirty.closed = true
    unfold WatchController.markDirty
    rw [if_pos hcl]
    exact hcl
  | fires t =>
    have hnone : ¬(s.armed t).isSome = true := by
      rw [h.stopped hcl t]
      exact fun hsome => by cases hsome
    have hsame : watchStep s (.fires t) = s := if_neg hnone
    rw [hsame]
    exact ⟨hcl, rfl⟩
  | runSettles ok =>
    show WatchController.closed (if s.ended < s.started then _ else s) = true ∧
      WatchController.started (if s.ended < s.started then _ else s) = s.started
    split
    · unfold WatchController.runSettled
      rw [if_pos (show ({ s with ended := s.ended + 1 } : WatchController).closed = true from hcl)]
      exact ⟨hcl, rfl⟩
    · exact ⟨hcl, rfl⟩
  | stop =>
    refine ⟨?_, (fw_counts s).2.1⟩
    show ({ s with closed := true } : WatchController).clearTimer.closed = true
    rw [fw_clearTimer]

/-- In every run: at most one run is on its way; when no run has started since a change, the quiet period is on with its
timer armed or the run that is on its way is marked, unless the controller has been stopped; and after `stop` no run
starts. -/
theorem watch_controller_single_flight (watchQuietSec : Option Rat) (es : List WatchEvent) :
    let reached := fun es => run watchStep (.new watchQuietSec) es
    (reached es).started ≤ (reached es).ended + 1 ∧
    (∀ before e after, es = before ++ e :: after → e.isDirty = true → (reached es).started = (reached before).started →
      (reached es).closed = true ∨ (reached es).Awaits) ∧
    (∀ before after, es = before ++ .stop :: after → (reached es).started = (reached before).started) := by
  intro reached
  have hinv (es : List WatchEvent) : WatchInv (reached es) := run_invariant (watchInv_new watchQuietSec) fun _ e h => h.step e
  refine ⟨(hinv es).flight.2, ?_, ?_⟩
  · rintro before e after rfl hdi hsame
    have hhe : (watchStep (reached before) e).Heeds (reached before).started ∧
        (reached before).started ≤ (watchStep (reached before) e).started := by
      cases e with
      | dirty | error message => exact ⟨fw_dirty (hinv before) _, (fw_counts _).2.2.symm ▸ Nat.le_refl _⟩
      | start | fires | runSettles | stop => cases hdi
    have hrun : reached (before ++ e :: after) = run watchStep (watchStep (reached before) e) after := by
      show run _ _ _ = _
      rw [run_append]
      rfl
    have hkept := @run_invariant _ _ watchStep (watchStep (reached before) e) after
      (fun s => WatchInv s ∧ (reached before).started ≤ s.started ∧ s.Heeds (reached before).started)
      ⟨(hinv before).step e, hhe.2, hhe.1⟩ fun _ e h => ⟨h.1.step e, fw_heeds h.1 h.2.1 h.2.2 e⟩
    rw [← hrun] at hkept
    rcases hkept.2.2 with hmore | hrest
    · omega
    · exact hrest
  · rintro before after rfl
    have hstop : (watchStep (reached before) .stop).closed = true := by
      show ({ reached before with closed := true } : WatchController).clearTimer.closed = true
      rw [fw_clearTimer]
    have hrun : reached (before ++ .stop :: after) = run watchStep (watchStep (reached before) .stop) after := by
      show run _ _ _ = _
      rw [run_append]
      rfl
    have hkept := @run_invariant _ _ watchStep (watchStep (reached before) .stop) after
      (fun s => WatchInv s ∧ s.closed = true ∧ s.started = (reached before).started)
      ⟨(hinv before).step .stop, hstop, (fw_counts _).2.1⟩ fun _ e h =>
        ⟨h.1.step e, (fw_stopped h.1 h.2.1 e).1, (fw_stopped h.1 h.2.1 e).2.trans h.2.2⟩
    rw [hrun]
    exact hkept.2.2

end LamaSync
