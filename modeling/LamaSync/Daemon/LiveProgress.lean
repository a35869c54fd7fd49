import LamaSync.Lib.Trace
import Mathlib.Data.List.Basic

/-!
# The reporter of live progress

A run tells the server what it is doing.  Reports are throttled: a report within the interval arms a timer, and a report
during a request is sent when the request has been answered.  The terminal state is sent whatever the interval.

The promise of a request is kept in `sending` as long as the request is on its way, so that no other one starts; only the
request that follows an answered one is not kept there.  `progress_reports_in_order` says that this is the one thing that
can go wrong.
-/

namespace LamaSync

open Trace

inductive LiveSyncPhase where
  | queued | lock | preparing | enumerating | enumeratingLocal | enumeratingRemote | reconciling | transferring | checking
  | finalizing | retrying | working | success | failed
  deriving DecidableEq

/-- The phases that end a run. -/
inductive TerminalPhase where
  | success | failed
  deriving DecidableEq

def TerminalPhase.live : TerminalPhase → LiveSyncPhase
  | .success => .success
  | .failed => .failed

structure ProgressCounters where
  transfers : Option Int
  bytes : Option Int
  checks : Option Int
  errors : Option Int
  files : Option Int
  deriving DecidableEq

/-- An observation: what is `none` is omitted, and `some none` is null. -/
structure LiveProgressState where
  phase : Option LiveSyncPhase
  detail : Option (Option String)
  transfers : Option (Option Int)
  bytes : Option (Option Int)
  checks : Option (Option Int)
  errors : Option (Option Int)
  files : Option (Option Int)

structure LiveSyncProgressUpdate where
  runId : String
  hostId : String
  hostname : Option String
  folderId : Option String
  folderName : Option String
  operation : String
  phase : LiveSyncPhase
  startedAt : Int
  phaseStartedAt : Int
  counters : ProgressCounters
  detail : Option String
  deriving DecidableEq

structure SyncProgressReporterOptions where
  hostId : String
  hostname : Option String
  folderId : Option String
  folderName : Option String
  operation : String
  runId : String
  startedAt : Int
  minIntervalMs : Option Int

/-- A request that has not been answered, and whether it followed an answered one. -/
structure ProgressSend where
  id : Nat
  body : LiveSyncProgressUpdate
  followUp : Bool
  deriving DecidableEq

structure SyncProgressReporter where
  opts : SyncProgressReporterOptions
  phase : LiveSyncPhase
  detail : Option String
  counters : ProgressCounters
  phaseStartedAt : Int
  lastSentAt : Int
  sending : Bool
  dirty : Bool
  terminalPhase : Option TerminalPhase
  failedOnce : Bool
  timer : Option Int
  inFlight : List ProgressSend
  sent : List LiveSyncProgressUpdate

inductive ProgressEvent where
  | report (state : LiveProgressState) (now : Int)
  | timerFires
  | sendSettles (id : Nat) (ok : Bool) (now : Int)
  | finish (terminal : TerminalPhase) (terminalDetail : Option (Option String))

namespace SyncProgressReporter

def defaultMinIntervalMs : Int := 2000

def create (opts : SyncProgressReporterOptions) : SyncProgressReporter where
  opts := opts
  phase := .queued
  detail := none
  counters := ⟨none, none, none, none, none⟩
  phaseStartedAt := opts.startedAt
  lastSentAt := 0
  sending := false
  dirty := false
  terminalPhase := none
  failedOnce := false
  timer := none
  inFlight := []
  sent := []

variable (s : SyncProgressReporter)

def minIntervalMs : Int := s.opts.minIntervalMs.getD defaultMinIntervalMs

def body : LiveSyncProgressUpdate where
  runId := s.opts.runId
  hostId := s.opts.hostId
  hostname := s.opts.hostname
  folderId := s.opts.folderId
  folderName := s.opts.folderName
  operation := s.opts.operation
  phase := (s.terminalPhase.map TerminalPhase.live).getD s.phase
  startedAt := s.opts.startedAt
  phaseStartedAt := s.phaseStartedAt
  counters := s.counters
  detail := s.detail

def send (followUp : Bool) : SyncProgressReporter :=
  { s with
    timer := none
    dirty := false
    inFlight := s.inFlight ++ [⟨s.sent.length, s.body, followUp⟩]
    sent := s.sent ++ [s.body] }

def sendKept : SyncProgressReporter := { s.send false with sending := true }

def sendSettled (request : ProgressSend) (ok : Bool) (now : Int) : SyncProgressReporter :=
  let answered := { s with
    inFlight := s.inFlight.filter fun other => other.id != request.id
    lastSentAt := if ok then now else s.lastSentAt
    failedOnce := s.failedOnce || !ok
    sending := false }
  if answered.dirty then answered.send true else answered

def scheduleFlush (now : Int) : SyncProgressReporter :=
  if s.timer.isSome || s.sending || s.terminalPhase.isSome then s
  else { s with timer := some (max 0 (s.minIntervalMs - (now - s.lastSentAt))) }

def flushTimer : SyncProgressReporter :=
  let fired := { s with timer := none }
  if fired.dirty && !fired.sending then fired.sendKept else fired

def observe (state : LiveProgressState) (now : Int) : SyncProgressReporter :=
  let moved := state.phase.any fun phase => phase != s.phase
  { s with
    phase := state.phase.getD s.phase
    phaseStartedAt := if moved then now else s.phaseStartedAt
    detail := state.detail.getD s.detail
    counters := {
      transfers := state.transfers.getD s.counters.transfers
      bytes := state.bytes.getD s.counters.bytes
      checks := state.checks.getD s.counters.checks
      errors := state.errors.getD s.counters.errors
      files := state.files.getD s.counters.files }
    dirty := true }

def due (now : Int) : Bool := s.lastSentAt == 0 || s.minIntervalMs ≤ now - s.lastSentAt

def report (state : LiveProgressState) (now : Int) : SyncProgressReporter :=
  if s.terminalPhase.isSome then s
  else
    let observed := s.observe state now
    if observed.sending then observed
    else if observed.due now then observed.sendKept
    else observed.scheduleFlush now

def finish (terminal : TerminalPhase) (terminalDetail : Option (Option String)) : SyncProgressReporter :=
  let ended := { s with
    terminalPhase := some terminal
    detail := terminalDetail.getD s.detail
    dirty := true
    timer := none }
  if ended.sending then ended else ended.sendKept

end SyncProgressReporter

def progressStep (s : SyncProgressReporter) : ProgressEvent → SyncProgressReporter
  | .report state now => s.report state now
  | .timerFires => if s.timer.isSome then s.flushTimer else s
  | .sendSettles id ok now => (s.inFlight.find? fun request => request.id == id).elim s fun request => s.sendSettled request ok now
  | .finish terminal terminalDetail => s.finish terminal terminalDetail

/-- At most one request is on its way, and after the terminal update the last state sent is the terminal one, or it will be
sent when the request on its way has been answered. -/
def SyncProgressReporter.InOrder (s : SyncProgressReporter) : Prop :=
  s.inFlight.length ≤ 1 ∧
    ∀ terminal, s.terminalPhase = some terminal →
      (s.sent.getLast?.any fun body => body.phase == terminal.live) = true ∨ (s.dirty = true ∧ s.inFlight ≠ [])

def ProgressEvent.starts (s : SyncProgressReporter) : ProgressEvent → Bool
  | .report _ now => s.terminalPhase.isNone && !s.sending && s.due now
  | .timerFires => s.timer.isSome && s.dirty && !s.sending
  | .sendSettles _ _ _ => false
  | .finish _ _ => !s.sending

/-- Nothing is sent while a request that followed another one is on its way. -/
def FollowUpsAlone (s : SyncProgressReporter) (e : ProgressEvent) : Prop :=
  e.starts s = true → ∀ request ∈ s.inFlight, request.followUp = false

/-- No request is on its way and no promise is kept, or one is, and its promise is kept unless it followed another. -/
def SyncProgressReporter.OneFlight (s : SyncProgressReporter) : Prop :=
  (s.inFlight = [] ∧ s.sending = false) ∨ ∃ request, s.inFlight = [request] ∧ s.sending = !request.followUp

/-- What the terminal state asks for. -/
def SyncProgressReporter.EndsTerminal (s : SyncProgressReporter) : Prop :=
  ∀ terminal, s.terminalPhase = some terminal →
    (s.sent.getLast?.any fun body => body.phase == terminal.live) = true ∨ (s.dirty = true ∧ s.inFlight ≠ [])

structure ProgressInv (s : SyncProgressReporter) : Prop where
  flight : s.OneFlight
  terminal : s.EndsTerminal

variable {s : SyncProgressReporter}

theorem progressInv_create (opts : SyncProgressReporterOptions) : ProgressInv (.create opts) where
  flight := .inl ⟨rfl, rfl⟩
  terminal terminal h := by cases h

theorem ProgressInv.inOrder (h : ProgressInv s) : s.InOrder := by
  refine ⟨?_, h.terminal⟩
  rcases h.flight with ⟨hnone, -⟩ | ⟨request, hone, -⟩
  · rw [hnone]
    exact Nat.zero_le _
  · rw [hone]
    exact Nat.le_refl _

private theorem lp_busy (h : ProgressInv s) (hsend : s.sending = true) : s.inFlight ≠ [] := by
  rcases h.flight with ⟨-, hidle⟩ | ⟨request, hone, -⟩
  · rw [hidle] at hsend
    cases hsend
  · rw [hone]
    exact List.cons_ne_nil _ _

private theorem lp_idle (h : ProgressInv s) (hsend : s.sending = false) :
    s.inFlight = [] ∨ ∃ request ∈ s.inFlight, request.followUp = true := by
  rcases h.flight with ⟨hnone, -⟩ | ⟨request, hone, hkept⟩
  · exact .inl hnone
  refine .inr ⟨request, by rw [hone]; exact .head _, ?_⟩
  cases hfo : request.followUp with
  | true => rfl
  | false =>
    rw [hsend, hfo] at hkept
    cases hkept

private theorem lp_sent_terminal (s : SyncProgressReporter) (followUp : Bool) : (s.send followUp).EndsTerminal := by
  intro terminal hterm
  left
  show ((s.sent ++ [s.body]).getLast?.any fun body => body.phase == terminal.live) = true
  have hph : s.body.phase = terminal.live := by
    show (s.terminalPhase.map TerminalPhase.live).getD s.phase = terminal.live
    rw [show s.terminalPhase = some terminal from hterm]
    rfl
  rw [List.getLast?_concat, Option.any_some, hph]
  exact beq_self_eq_true _

private theorem lp_sendKept (hem : s.inFlight = []) : ProgressInv s.sendKept where
  flight := by
    refine .inr ⟨⟨s.sent.length, s.body, false⟩, ?_, rfl⟩
    show s.inFlight ++ _ = _
    rw [hem]
    rfl
  terminal := lp_sent_terminal s false

private theorem lp_followUp (hem : s.inFlight = []) (hsend : s.sending = false) : ProgressInv (s.send true) where
  flight := by
    refine .inr ⟨⟨s.sent.length, s.body, true⟩, ?_, hsend⟩
    show s.inFlight ++ _ = _
    rw [hem]
    rfl
  terminal := lp_sent_terminal s true

private theorem lp_overlap (h : s.inFlight ≠ []) : ¬s.sendKept.InOrder := by
  rintro ⟨hlen, -⟩
  have hlen' : (s.inFlight ++ [(⟨s.sent.length, s.body, false⟩ : ProgressSend)]).length ≤ 1 := hlen
  have hpos := List.length_pos_iff.2 h
  rw [List.length_append, List.length_singleton] at hlen'
  omega

variable {t : SyncProgressReporter} {e : ProgressEvent}

private theorem lp_starts (h : ProgressInv s) (hsend : s.sending = false)
    (hfl : t.inFlight = s.inFlight) :
    (t.sendKept.InOrder ↔ ∀ request ∈ s.inFlight, request.followUp = false) ∧ (t.sendKept.InOrder → ProgressInv t.sendKept) := by
  rcases lp_idle h hsend with hem | ⟨request, hmem, hfo⟩
  · have hinv := lp_sendKept (hfl.trans hem)
    refine ⟨iff_of_true hinv.inOrder ?_, fun _ => hinv⟩
    intro request hmem
    rw [hem] at hmem
    cases hmem
  have hbusy : t.inFlight ≠ [] := by
    rw [hfl]
    exact List.ne_nil_of_mem hmem
  refine ⟨iff_of_false (lp_overlap hbusy) ?_, fun h => absurd h (lp_overlap hbusy)⟩
  intro hall
  rw [hall request hmem] at hfo
  cases hfo

private theorem lp_quiet (hq : e.starts s = false) (hinv : ProgressInv t) :
    (t.InOrder ↔ FollowUpsAlone s e) ∧ (t.InOrder → ProgressInv t) := by
  refine ⟨iff_of_true hinv.inOrder ?_, fun _ => hinv⟩
  intro hst
  rw [hq] at hst
  cases hst

private theorem lp_loud (hst : e.starts s = true) (h : ProgressInv s)
    (hsend : s.sending = false) (hfl : t.inFlight = s.inFlight) :
    (t.sendKept.InOrder ↔ FollowUpsAlone s e) ∧ (t.sendKept.InOrder → ProgressInv t.sendKept) := by
  obtain ⟨hiff, hinv⟩ := lp_starts h hsend hfl
  exact ⟨hiff.trans ⟨fun hall _ => hall, fun hal => hal hst⟩, hinv⟩

private theorem lp_report (h : ProgressInv s) (state : LiveProgressState) (now : Int) :
    ((s.report state now).InOrder ↔ FollowUpsAlone s (.report state now)) ∧
      ((s.report state now).InOrder → ProgressInv (s.report state now)) := by
  unfold SyncProgressReporter.report
  by_cases hnd : s.terminalPhase.isSome = true
  · rw [if_pos hnd]
    refine lp_quiet ?_ h
    have hnone : s.terminalPhase.isNone = false := by
      rw [← Option.not_isSome, hnd]
      rfl
    show (s.terminalPhase.isNone && !s.sending && s.due now) = false
    rw [hnone]
    rfl
  rw [if_neg hnd]
  have hnone : s.terminalPhase = none := Option.not_isSome_iff_eq_none.1 hnd
  have hkept : ProgressInv (s.observe state now) := by
    refine ⟨h.flight, fun terminal hterm => ?_⟩
    rw [show s.terminalPhase = some terminal from hterm] at hnone
    cases hnone
  dsimp only
  by_cases hsend : (s.observe state now).sending = true
  · rw [if_pos hsend]
    refine lp_quiet ?_ hkept
    show (s.terminalPhase.isNone && !s.sending && s.due now) = false
    rw [show s.sending = true from hsend, Bool.not_true, Bool.and_false, Bool.false_and]
  rw [if_neg hsend]
  have hidle : s.sending = false := Bool.eq_false_iff.2 hsend
  by_cases hdue : (s.observe state now).due now = true
  · rw [if_pos hdue]
    refine lp_loud ?_ h hidle rfl
    show (s.terminalPhase.isNone && !s.sending && s.due now) = true
    rw [hnone, hidle, show s.due now = true from hdue]
    rfl
  rw [if_neg hdue]
  refine lp_quiet ?_ ?_
  · show (s.terminalPhase.isNone && !s.sending && s.due now) = false
    rw [show s.due now = false from Bool.eq_false_iff.2 hdue, Bool.and_false]
  unfold SyncProgressReporter.scheduleFlush
  split
  · exact hkept
  · exact ⟨hkept.flight, hkept.terminal⟩

private theorem lp_timerFires (h : ProgressInv s) :
    ((progressStep s .timerFires).InOrder ↔ FollowUpsAlone s .timerFires) ∧
      ((progressStep s .timerFires).InOrder → ProgressInv (progressStep s .timerFires)) := by
  by_cases har : s.timer.isSome = true
  · have hstep : progressStep s .timerFires = s.flushTimer := if_pos har
    rw [hstep]
    unfold SyncProgressReporter.flushTimer
    dsimp only
    by_cases hfl : (s.dirty && !s.sending) = true
    · rw [if_pos hfl]
      rw [Bool.and_eq_true, Bool.not_eq_true'] at hfl
      refine lp_loud ?_ h hfl.2 rfl
      show (s.timer.isSome && s.dirty && !s.sending) = true
      rw [har, hfl.1, hfl.2]
      rfl
    · rw [if_neg hfl]
      refine lp_quiet ?_ ⟨h.flight, h.terminal⟩
      show (s.timer.isSome && s.dirty && !s.sending) = false
      rw [Bool.and_assoc, Bool.eq_false_iff.2 hfl, Bool.and_false]
  · have hstep : progressStep s .timerFires = s := if_neg har
    rw [hstep]
    refine lp_quiet ?_ h
    show (s.timer.isSome && s.dirty && !s.sending) = false
    rw [Bool.eq_false_iff.2 har, Bool.false_and, Bool.false_and]

private theorem lp_sendSettles (h : ProgressInv s) (id : Nat) (ok : Bool) (now : Int) :
    ProgressInv (progressStep s (.sendSettles id ok now)) := by
  show ProgressInv ((s.inFlight.find? fun request => request.id == id).elim s fun request => s.sendSettled request ok now)
  cases hf : s.inFlight.find? fun request => request.id == id with
  | none => exact h
  | some request =>
    rw [Option.elim_some]
    have hmem := List.mem_of_find?_eq_some hf
    -- it was the only one
    have hlast : (s.inFlight.filter fun other => other.id != request.id) = [] := by
      rcases h.flight with ⟨hnone, -⟩ | ⟨only, hone, -⟩
      · rw [hnone]
        rfl
      rw [hone] at hmem ⊢
      obtain rfl := List.mem_singleton.1 hmem
      rw [List.filter_cons_of_neg (by simp)]
      rfl
    unfold SyncProgressReporter.sendSettled
    dsimp only
    by_cases hdi : s.dirty = true
    · rw [if_pos hdi]
      exact lp_followUp hlast rfl
    rw [if_neg hdi]
    refine ⟨.inl ⟨hlast, rfl⟩, fun terminal hterm => ?_⟩
    rcases h.terminal terminal hterm with hsent | ⟨hd, -⟩
    · exact .inl hsent
    · exact absurd hd hdi

private theorem lp_finish (h : ProgressInv s) (terminal : TerminalPhase) (terminalDetail : Option (Option String)) :
    ((s.finish terminal terminalDetail).InOrder ↔ FollowUpsAlone s (.finish terminal terminalDetail)) ∧
      ((s.finish terminal terminalDetail).InOrder → ProgressInv (s.finish terminal terminalDetail)) := by
  unfold SyncProgressReporter.finish
  dsimp only
  by_cases hsend : s.sending = true
  · have hbusy := lp_busy h hsend
    rw [if_pos hsend]
    refine lp_quiet ?_ ⟨h.flight, fun _ _ => .inr ⟨rfl, hbusy⟩⟩
    show (!s.sending) = false
    rw [hsend]
    rfl
  · rw [if_neg hsend]
    have hidle : s.sending = false := Bool.eq_false_iff.2 hsend
    refine lp_loud ?_ h hidle rfl
    show (!s.sending) = true
    rw [hidle]
    rfl

private theorem lp_step (h : ProgressInv s) (e : ProgressEvent) :
    ((progressStep s e).InOrder ↔ FollowUpsAlone s e) ∧ ((progressStep s e).InOrder → ProgressInv (progressStep s e)) := by
  cases e with
  | report state now => exact lp_report h state now
  | timerFires => exact lp_timerFires h
  | sendSettles id ok now => exact lp_quiet rfl (lp_sendSettles h id ok now)
  | finish terminal terminalDetail => exact lp_finish h terminal terminalDetail

/-- A run keeps to one request at a time, and ends with the terminal state, exactly when nothing is sent while a request
that followed another one is on its way. -/
theorem progress_reports_in_order (opts : SyncProgressReporterOptions) (es : List ProgressEvent) :
    Always progressStep (fun s e => (progressStep s e).InOrder) (.create opts) es ↔
      Always progressStep FollowUpsAlone (.create opts) es :=
  always_congr (progressInv_create opts) (fun _ e h => (lp_step h e).1) fun _ e h => (lp_step h e).2

private def exampleReporter : SyncProgressReporterOptions where
  hostId := "alpha"
  hostname := none
  folderId := some "photos"
  folderName := some "photos"
  operation := "sync"
  runId := "run"
  startedAt := 1
  minIntervalMs := none

private def exampleObservation (phase : LiveSyncPhase) : LiveProgressState := ⟨some phase, none, none, none, none, none, none⟩

/-- A second report during the first request is sent behind it, and the terminal update is sent next to that. -/
theorem follow_up_overlaps_terminal :
    let s := run progressStep (.create exampleReporter)
      [.report (exampleObservation .lock) 10, .report (exampleObservation .transferring) 20, .sendSettles 0 true 30,
        .finish .success none]
    s.inFlight.map (fun request => request.body.phase) = [.transferring, .success] ∧ ¬s.InOrder := by
  have hfl : (run progressStep (.create exampleReporter)
      [.report (exampleObservation .lock) 10, .report (exampleObservation .transferring) 20, .sendSettles 0 true 30,
        .finish .success none]).inFlight.map (fun request => request.body.phase) = [.transferring, .success] := by
    decide +kernel
  refine ⟨hfl, ?_⟩
  rintro ⟨hlen, -⟩
  have htwo := congrArg List.length hfl
  rw [List.length_map] at htwo
  rw [htwo] at hlen
  exact absurd hlen (by decide)

end LamaSync
