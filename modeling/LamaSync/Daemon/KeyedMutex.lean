import LamaSync.Lib.Table
import LamaSync.Lib.Trace

/-!
# Tasks that take turns

Runs for one folder execute one after the other.  A call of the mutex waits for the gate of the call before it, opens its
own gate when its task has ended, and takes the chain's entry out when no later call has replaced it.

A gate is named by the call that made it.  The pieces of a call are the call itself, the start of its task, once the
gate before it is open, and the end of its task; pieces of different calls mix in any order.  The invariant says which
calls are settled in terms of the chain's entry and of what each call waits for; `keyed_mutex_serializes` reads off it
what callers rely on.
-/

namespace LamaSync

open Trace
open Table (put_of_ne put_self)

variable {κ τ : Type}

inductive TaskPhase (τ : Type) where
  | waiting
  | running
  | settled (outcome : Except String τ)

structure MutexCall (κ τ : Type) where
  key : κ
  /-- The gate it waits for, when the chain had one. -/
  prev : Option Nat
  phase : TaskPhase τ

def TaskPhase.isSettled : TaskPhase τ → Bool
  | .settled _ => true
  | _ => false

def TaskPhase.isRunning : TaskPhase τ → Bool
  | .running => true
  | _ => false

def TaskPhase.isWaiting : TaskPhase τ → Bool
  | .waiting => true
  | _ => false

structure KeyedMutex (κ τ : Type) where
  chains : Table κ Nat
  calls : Table Nat (MutexCall κ τ)
  next : Nat

inductive MutexEvent (κ τ : Type) where
  | run (key : κ)
  /-- The gate before is open, and the task starts. -/
  | start (call : Nat)
  /-- The task ends, with a value or an error. -/
  | settle (call : Nat) (outcome : Except String τ)

namespace KeyedMutex

def new : KeyedMutex κ τ := ⟨fun _ => none, fun _ => none, 0⟩

def gateOpen (s : KeyedMutex κ τ) (call : Nat) : Bool := (s.calls call).any fun c => c.phase.isSettled

def mayStart (s : KeyedMutex κ τ) (c : MutexCall κ τ) : Bool := c.phase.isWaiting && c.prev.all s.gateOpen

variable [DecidableEq κ]

/-- The part of `run` before its first `await`. -/
def enter (s : KeyedMutex κ τ) (key : κ) : KeyedMutex κ τ where
  chains := s.chains.put key s.next
  calls := s.calls.put s.next ⟨key, s.chains key, .waiting⟩
  next := s.next + 1

def startTask (s : KeyedMutex κ τ) (call : Nat) (c : MutexCall κ τ) : KeyedMutex κ τ :=
  { s with calls := s.calls.put call { c with phase := .running } }

/-- The part of `run` behind its task: open the gate, and take the entry out when this call is still the tail. -/
def endTask (s : KeyedMutex κ τ) (call : Nat) (c : MutexCall κ τ) (outcome : Except String τ) : KeyedMutex κ τ where
  chains := if s.chains c.key = some call then s.chains.erase c.key else s.chains
  calls := s.calls.put call { c with phase := .settled outcome }
  next := s.next

end KeyedMutex

def mutexStep [DecidableEq κ] (s : KeyedMutex κ τ) : MutexEvent κ τ → KeyedMutex κ τ
  | .run key => s.enter key
  | .start call => (s.calls call).elim s fun c => if s.mayStart c then s.startTask call c else s
  | .settle call outcome => (s.calls call).elim s fun c => if c.phase.isRunning then s.endTask call c outcome else s

structure KeyedMutexInv (s : KeyedMutex κ τ) : Prop where
  fresh : ∀ i c, s.calls i = some c → i < s.next
  tail : ∀ k i, s.chains k = some i → (∃ c, s.calls i = some c ∧ c.key = k ∧ c.phase.isSettled = false) ∧
    ∀ j c, s.calls j = some c → c.key = k → j ≤ i
  idle : ∀ k, s.chains k = none → ∀ i c, s.calls i = some c → c.key = k → c.phase.isSettled = true
  /-- A call waits for the last one of its key before it. -/
  prev : ∀ j c i, s.calls j = some c → c.prev = some i →
    (∃ c', s.calls i = some c' ∧ c'.key = c.key ∧ i < j) ∧
      ∀ m c', s.calls m = some c' → c'.key = c.key → m < j → m ≤ i
  first : ∀ j c, s.calls j = some c → c.prev = none →
    ∀ i c', s.calls i = some c' → c'.key = c.key → i < j → c'.phase.isSettled = true
  /-- When a task has started, those before it have ended. -/
  ordered : ∀ j c, s.calls j = some c → c.phase.isWaiting = false →
    ∀ i c', s.calls i = some c' → c'.key = c.key → i < j → c'.phase.isSettled = true

variable {s : KeyedMutex κ τ}

theorem keyedMutexInv_new : KeyedMutexInv (KeyedMutex.new : KeyedMutex κ τ) where
  fresh i c h := by cases h
  tail k i h := by cases h
  idle k _ i c h := by cases h
  prev j c i h := by cases h
  first j c h := by cases h
  ordered j c h := by cases h

variable {call : Nat} {c : MutexCall κ τ}

private theorem km_before {phase : TaskPhase τ} (hc : s.calls call = some c)
    (hkept : c.phase.isSettled = true → phase.isSettled = true) {j : Nat} {d : MutexCall κ τ}
    (hd : s.calls.put call { c with phase := phase } j = some d) :
    ∃ d', s.calls j = some d' ∧ d.key = d'.key ∧ d.prev = d'.prev ∧
      (d'.phase.isSettled = true → d.phase.isSettled = true) ∧
        (j = call ∧ d = { c with phase := phase } ∧ d' = c ∨ j ≠ call ∧ d = d') := by
  by_cases hj : j = call
  · subst hj
    obtain rfl : { c with phase := phase } = d := Option.some.inj (Table.put_self.symm.trans hd)
    exact ⟨c, hc, rfl, rfl, hkept, .inl ⟨rfl, rfl, rfl⟩⟩
  · have hold : s.calls j = some d := (put_of_ne hj).symm.trans hd
    exact ⟨d, hold, rfl, rfl, id, .inr ⟨hj, rfl⟩⟩

private theorem km_after (phase : TaskPhase τ) (hc : s.calls call = some c)
    {j : Nat} {d : MutexCall κ τ} (hd : s.calls j = some d) :
    ∃ d', s.calls.put call { c with phase := phase } j = some d' ∧ d'.key = d.key := by
  by_cases hj : j = call
  · subst hj
    obtain rfl : c = d := Option.mem_unique hc hd
    exact ⟨_, put_self, rfl⟩
  · exact ⟨d, (put_of_ne hj).trans hd, rfl⟩

private theorem km_mayStart (h : KeyedMutexInv s) (hc : s.calls call = some c)
    (hst : s.mayStart c = true) {i : Nat} {e : MutexCall κ τ} (he : s.calls i = some e) (hkey : e.key = c.key)
    (hi : i < call) : e.phase.isSettled = true := by
  rw [KeyedMutex.mayStart, Bool.and_eq_true] at hst
  cases hprev : c.prev with
  | none => exact h.first call c hc hprev i e he hkey hi
  | some p =>
    obtain ⟨⟨d, hd, hdkey, hp⟩, hlast⟩ := h.prev call c p hc hprev
    have hnd : d.phase.isSettled = true := by
      have hgate := hst.2
      rw [hprev] at hgate
      have hgate' : (s.calls p).any (fun c => c.phase.isSettled) = true := hgate
      rw [hd] at hgate'
      exact hgate'
    have hip := hlast i e he hkey hi
    by_cases heq : i = p
    · subst heq
      obtain rfl := Table.unique hd he
      exact hnd
    have hsta : d.phase.isWaiting = false := by
      cases hph : d.phase with
      | waiting => rw [hph] at hnd; cases hnd
      | running | settled outcome => rfl
    exact h.ordered p d hd hsta i e he (hkey.trans hdkey.symm) (by omega)

/-- A call that goes on keeps the invariant when those before it have ended and the entries still fit. -/
private theorem km_moved (h : KeyedMutexInv s) {phase : TaskPhase τ}
    {chains : Table κ Nat} (hc : s.calls call = some c) (hkept : c.phase.isSettled = true → phase.isSettled = true)
    (hrd : ∀ i e, s.calls i = some e → e.key = c.key → i < call → e.phase.isSettled = true)
    (htail : ∀ k i, chains k = some i → s.chains k = some i ∧ (i = call → phase.isSettled = false))
    (hidle : ∀ k, chains k = none → ∀ i e, s.calls.put call { c with phase := phase } i = some e → e.key = k →
      e.phase.isSettled = true) :
    KeyedMutexInv ⟨chains, s.calls.put call { c with phase := phase }, s.next⟩ where
  fresh j d hd := by
    obtain ⟨d₀, hd₀, -⟩ := km_before hc hkept hd
    exact h.fresh j d₀ hd₀
  tail k i hi := by
    obtain ⟨hold, hopen⟩ := htail k i hi
    obtain ⟨⟨d, hd, hkey, hnot⟩, hlast⟩ := h.tail k i hold
    constructor
    · by_cases heq : i = call
      · subst heq
        obtain rfl := Table.unique hc hd
        exact ⟨_, put_self, hkey, hopen rfl⟩
      · exact ⟨d, (put_of_ne heq).trans hd, hkey, hnot⟩
    intro j e he hkey'
    obtain ⟨e₀, he₀, hkeye, -⟩ := km_before hc hkept he
    exact hlast j e₀ he₀ (hkeye.symm.trans hkey')
  idle := hidle
  prev j d i hd hprev := by
    obtain ⟨d₀, hd₀, hkey₀, hprev₀, -, -⟩ := km_before hc hkept hd
    obtain ⟨⟨e, he, hekey, hi⟩, hlast⟩ := h.prev j d₀ i hd₀ (hprev₀.symm.trans hprev)
    obtain ⟨e', he', hekey'⟩ := km_after phase hc he
    refine ⟨⟨e', he', hekey'.trans (hekey.trans hkey₀.symm), hi⟩, ?_⟩
    intro m d' hd' hkeym hm
    obtain ⟨d₁, hd₁, hkey₁, -⟩ := km_before hc hkept hd'
    exact hlast m d₁ hd₁ (hkey₁.symm.trans (hkeym.trans hkey₀)) hm
  first j d hd hprev i e he hkey hi := by
    obtain ⟨d₀, hd₀, hkey₀, hprev₀, -, -⟩ := km_before hc hkept hd
    obtain ⟨e₀, he₀, hkeye, -, hsett, -⟩ := km_before hc hkept he
    exact hsett (h.first j d₀ hd₀ (hprev₀.symm.trans hprev) i e₀ he₀ (hkeye.symm.trans (hkey.trans hkey₀)) hi)
  ordered j d hd hst i e he hkey hi := by
    obtain ⟨d₀, hd₀, hkey₀, -, -, hwh⟩ := km_before hc hkept hd
    obtain ⟨e₀, he₀, hkeye, -, hsett, -⟩ := km_before hc hkept he
    have hkey' : e₀.key = d₀.key := hkeye.symm.trans (hkey.trans hkey₀)
    refine hsett ?_
    rcases hwh with ⟨rfl, -, rfl⟩ | ⟨-, rfl⟩
    · exact hrd i e₀ he₀ hkey' hi
    · exact h.ordered j d hd₀ hst i e₀ he₀ hkey' hi

theorem KeyedMutexInv.startTask (h : KeyedMutexInv s) (hc : s.calls call = some c)
    (hst : s.mayStart c = true) : KeyedMutexInv (s.startTask call c) := by
  have hkept : c.phase.isSettled = true → (TaskPhase.running : TaskPhase τ).isSettled = true := by
    rw [KeyedMutex.mayStart, Bool.and_eq_true] at hst
    intro hs
    cases hph : c.phase with
    | waiting | running => rw [hph] at hs; cases hs
    | settled outcome => rw [hph] at hst; cases hst.1
  refine km_moved h hc hkept (fun i e he hkey hi => km_mayStart h hc hst he hkey hi) (fun k i hi => ⟨hi, fun _ => rfl⟩) ?_
  intro k hk i e he hkey
  obtain ⟨e₀, he₀, hkeye, -, hsett, -⟩ := km_before hc hkept he
  exact hsett (h.idle k hk i e₀ he₀ (hkeye.symm.trans hkey))

section Steps

variable [DecidableEq κ] {c : MutexCall κ τ}

private theorem km_enter (h : KeyedMutexInv s) {key : κ} {j : Nat} (hc : (s.enter key).calls j = some c) :
    (j = s.next ∧ c = ⟨key, s.chains key, .waiting⟩) ∨ (j < s.next ∧ s.calls j = some c) := by
  by_cases hj : j = s.next
  · subst hj
    have hnew : c = ⟨key, s.chains key, .waiting⟩ := Option.mem_unique hc put_self
    exact .inl ⟨rfl, hnew⟩
  · have hold : s.calls j = some c := (put_of_ne hj).symm.trans hc
    exact .inr ⟨h.fresh j c hold, hold⟩

theorem KeyedMutexInv.enter (h : KeyedMutexInv s) (key : κ) : KeyedMutexInv (s.enter key) where
  fresh j c hc := by
    show j < s.next + 1
    rcases km_enter h hc with ⟨rfl, -⟩ | ⟨hj, -⟩ <;> omega
  tail k i hi := by
    by_cases hk : k = key
    · subst hk
      have hnew : i = s.next := (Option.some.inj (Table.put_self.symm.trans hi)).symm
      subst hnew
      refine ⟨⟨_, put_self, rfl, rfl⟩, ?_⟩
      intro j c hc _
      rcases km_enter h hc with ⟨rfl, -⟩ | ⟨hj, -⟩ <;> omega
    · obtain ⟨⟨c, hc, hkey, hopen⟩, hlast⟩ := h.tail k i ((put_of_ne hk).symm.trans hi)
      have hi' := h.fresh i c hc
      refine ⟨⟨c, (put_of_ne (by omega)).trans hc, hkey, hopen⟩, ?_⟩
      intro j c' hc' hkey'
      rcases km_enter h hc' with ⟨-, rfl⟩ | ⟨-, hold⟩
      · exact absurd hkey'.symm hk
      · exact hlast j c' hold hkey'
  idle k hk i c hc hkey := by
    have hne : k ≠ key := by
      rintro rfl
      cases Table.put_self.symm.trans hk
    rcases km_enter h hc with ⟨-, rfl⟩ | ⟨-, hold⟩
    · exact absurd hkey.symm hne
    · exact h.idle k ((put_of_ne hne).symm.trans hk) i c hold hkey
  prev j c i hc hprev := by
    rcases km_enter h hc with ⟨rfl, rfl⟩ | ⟨hj, hold⟩
    · -- the new call waits for the entry it replaced
      obtain ⟨⟨c', hc', hkey, -⟩, hlast⟩ := h.tail key i hprev
      have hi := h.fresh i c' hc'
      refine ⟨⟨c', (put_of_ne (by omega)).trans hc', hkey, hi⟩, ?_⟩
      intro m d hd hkey' hm
      rcases km_enter h hd with ⟨rfl, -⟩ | ⟨-, hold⟩
      · omega
      · exact hlast m d hold hkey'
    · obtain ⟨⟨c', hc', hkey, hi⟩, hlast⟩ := h.prev j c i hold hprev
      refine ⟨⟨c', (put_of_ne (by omega)).trans hc', hkey, hi⟩, ?_⟩
      intro m d hd hkey' hm
      rcases km_enter h hd with ⟨rfl, -⟩ | ⟨-, holdm⟩
      · omega
      · exact hlast m d holdm hkey' hm
  first j c hc hprev i c' hc' hkey hi := by
    rcases km_enter h hc with ⟨rfl, rfl⟩ | ⟨hj, hold⟩
    · rcases km_enter h hc' with ⟨rfl, -⟩ | ⟨-, hold'⟩
      · omega
      · exact h.idle key hprev i c' hold' hkey
    rcases km_enter h hc' with ⟨rfl, -⟩ | ⟨-, hold'⟩
    · omega
    · exact h.first j c hold hprev i c' hold' hkey hi
  ordered j c hc hst i c' hc' hkey hi := by
    rcases km_enter h hc with ⟨rfl, rfl⟩ | ⟨hj, hold⟩
    · cases hst
    rcases km_enter h hc' with ⟨rfl, -⟩ | ⟨-, hold'⟩
    · omega
    · exact h.ordered j c hold hst i c' hold' hkey hi

theorem KeyedMutexInv.endTask (h : KeyedMutexInv s) {call : Nat} (hc : s.calls call = some c)
    (hrun : c.phase.isRunning = true) (outcome : Except String τ) : KeyedMutexInv (s.endTask call c outcome) := by
  have hkept : c.phase.isSettled = true → (TaskPhase.settled outcome).isSettled = true := fun _ => rfl
  have hst : c.phase.isWaiting = false := by
    cases hph : c.phase with
    | waiting => rw [hph] at hrun; cases hrun
    | running | settled o => rfl
  -- an entry that is still there is not the call that ended
  have hmine {k : κ} (hk : s.chains k = some call) : k = c.key := by
    obtain ⟨⟨d, hd, hkey, -⟩, -⟩ := h.tail k call hk
    rw [Table.unique hc hd, hkey]
  have hch {k : κ} {i : Nat} (hi : (s.endTask call c outcome).chains k = some i) : s.chains k = some i ∧ i ≠ call := by
    have hi' : (if s.chains c.key = some call then s.chains.erase c.key else s.chains) k = some i := hi
    split at hi'
    · obtain ⟨hk, hold⟩ := Table.of_erase hi'
      exact ⟨hold, fun heq => hk (hmine (heq ▸ hold))⟩
    · rename_i htail
      refine ⟨hi', ?_⟩
      rintro rfl
      exact htail (hmine hi' ▸ hi')
  refine km_moved h hc hkept (fun i e he hkey hi => h.ordered call c hc hst i e he hkey hi)
    (fun k i hi => ⟨(hch hi).1, fun heq => absurd heq (hch hi).2⟩) ?_
  intro k hk i e he hkey
  obtain ⟨e₀, he₀, hkeye, -, hsett, hwh⟩ := km_before hc hkept he
  rcases hwh with ⟨-, rfl, -⟩ | ⟨hne, rfl⟩
  · rfl
  split at hk
  · rename_i htail
    by_cases hsame : k = c.key
    · -- the call was the last of its key, and all before it have ended
      subst hsame
      have hle := (h.tail c.key call htail).2 i e he₀ hkey
      exact h.ordered call c hc hst i e he₀ hkey (by omega)
    · exact h.idle k ((Table.erase_of_ne hsame).symm.trans hk) i e he₀ hkey
  · exact h.idle k hk i e he₀ hkey

theorem KeyedMutexInv.step (h : KeyedMutexInv s) (e : MutexEvent κ τ) : KeyedMutexInv (mutexStep s e) := by
  cases e with
  | run key => exact h.enter key
  | start call =>
    show KeyedMutexInv ((s.calls call).elim s fun c => if s.mayStart c then s.startTask call c else s)
    cases hc : s.calls call with
    | none => exact h
    | some c =>
      rw [Option.elim_some]
      split
      · rename_i hst
        exact h.startTask hc hst
      · exact h
  | settle call outcome =>
    show KeyedMutexInv ((s.calls call).elim s fun c => if c.phase.isRunning then s.endTask call c outcome else s)
    cases hc : s.calls call with
    | none => exact h
    | some c =>
      rw [Option.elim_some]
      split
      · rename_i hrun
        exact h.endTask hc hrun outcome
      · exact h

private theorem km_settles {call : Nat} {outcome : Except String τ} {e : MutexEvent κ τ}
    (hnot : ¬∃ c, s.calls call = some c ∧ c.phase = .settled outcome)
    (hnow : ∃ c, (mutexStep s e).calls call = some c ∧ c.phase = .settled outcome) : e = .settle call outcome := by
  obtain ⟨c, hc, hph⟩ := hnow
  have hnew {other : Nat} {d : MutexCall κ τ} (hput : s.calls.put other d call = some c) : other = call ∧ d = c := by
    by_cases heq : call = other
    · subst heq
      exact ⟨rfl, Option.some.inj (Table.put_self.symm.trans hput)⟩
    · exact absurd ⟨c, (put_of_ne heq).symm.trans hput, hph⟩ hnot
  have hg {other : Nat} {guard : MutexCall κ τ → Bool} {next : MutexCall κ τ → KeyedMutex κ τ}
      (hput : ((s.calls other).elim s fun d => if guard d then next d else s).calls call = some c) :
      ∃ d, (next d).calls call = some c := by
    cases ho : s.calls other with
    | none =>
      rw [ho, Option.elim_none] at hput
      exact absurd ⟨c, hput, hph⟩ hnot
    | some d =>
      rw [ho, Option.elim_some] at hput
      split at hput
      · exact ⟨d, hput⟩
      · exact absurd ⟨c, hput, hph⟩ hnot
  cases e with
  | run key =>
    obtain ⟨-, rfl⟩ := hnew hc
    cases hph
  | start other =>
    obtain ⟨d, hput⟩ := hg hc
    obtain ⟨-, rfl⟩ := hnew hput
    cases hph
  | settle other o =>
    obtain ⟨d, hput⟩ := hg hc
    obtain ⟨rfl, rfl⟩ := hnew hput
    cases hph
    rfl

/-- The end of a running task settles its call with what the task ended with, opens its gate and takes out the entry
that is still its own. -/
theorem KeyedMutexInv.settles (h : KeyedMutexInv s) {call : Nat} (hc : s.calls call = some c)
    (hrun : c.phase.isRunning = true) (outcome : Except String τ) :
    let s' := mutexStep s (.settle call outcome)
    s'.calls call = some { c with phase := .settled outcome } ∧ s'.gateOpen call = true ∧
      (∀ i, i ≠ call → s'.calls i = s.calls i) ∧ ∀ k, s'.chains k = if s.chains k = some call then none else s.chains k := by
  have hend : mutexStep s (.settle call outcome) = s.endTask call c outcome := by
    show ((s.calls call).elim s fun c => if c.phase.isRunning then s.endTask call c outcome else s) = _
    rw [hc, Option.elim_some, if_pos hrun]
  have hsett : (s.endTask call c outcome).calls call = some { c with phase := .settled outcome } := put_self
  intro s'
  simp only [s', hend]
  refine ⟨hsett, ?_, fun i hi => put_of_ne hi, ?_⟩
  · rw [KeyedMutex.gateOpen, hsett]
    rfl
  intro k
  show (if s.chains c.key = some call then s.chains.erase c.key else s.chains) k = _
  by_cases hk : k = c.key
  · subst hk
    split
    · exact Table.erase_self
    · rfl
  · have ho : s.chains k ≠ some call := by
      intro hmine
      obtain ⟨⟨d, hd, hkey, -⟩, -⟩ := h.tail k call hmine
      exact hk (by rw [Table.unique hc hd, hkey])
    rw [if_neg ho]
    split
    · exact Table.erase_of_ne hk
    · rfl

/-- In every run: tasks of one key do not overlap; a task that has started leaves only ended ones of its key before it;
a call may start as soon as those before it have ended, whatever they ended with; the end of a running task settles its
call alone, opens its gate and takes out the entry that is its own; a call ends with what its own task ended with; and a
key has an entry exactly as long as one of its calls has not ended. -/
theorem keyed_mutex_serializes (es : List (MutexEvent κ τ)) :
    let s := run mutexStep KeyedMutex.new es
    (∀ i j c d, s.calls i = some c → s.calls j = some d → c.key = d.key →
      c.phase.isRunning = true → d.phase.isRunning = true → i = j) ∧
    (∀ i j c d, s.calls i = some c → s.calls j = some d → c.key = d.key → i < j →
      d.phase.isWaiting = false → c.phase.isSettled = true) ∧
    (∀ j d, s.calls j = some d → d.phase.isWaiting = true →
      (∀ i c, s.calls i = some c → c.key = d.key → i < j → c.phase.isSettled = true) →
      (mutexStep s (.start j)).calls j = some { d with phase := .running }) ∧
    (∀ key, s.calls s.next = none ∧
      (mutexStep s (.run key)).calls s.next = some ⟨key, s.chains key, .waiting⟩ ∧
      ∀ i, i ≠ s.next → (mutexStep s (.run key)).calls i = s.calls i) ∧
    (∀ j d outcome, s.calls j = some d → d.phase.isRunning = true →
      let s' := mutexStep s (.settle j outcome)
      s'.calls j = some { d with phase := .settled outcome } ∧ s'.gateOpen j = true ∧
        (∀ i, i ≠ j → s'.calls i = s.calls i) ∧
        ∀ k, s'.chains k = if s.chains k = some j then none else s.chains k) ∧
    (∀ j d outcome, s.calls j = some d → d.phase = .settled outcome → .settle j outcome ∈ es) ∧
    (∀ k, s.chains k = none ↔ ∀ i c, s.calls i = some c → c.key = k → c.phase.isSettled = true) := by
  intro s
  have h : KeyedMutexInv s := run_invariant keyedMutexInv_new fun _ e hI => hI.step e
  have hru {c : MutexCall κ τ} (hc : c.phase.isRunning = true) : c.phase.isWaiting = false ∧ c.phase.isSettled = false := by
    cases hph : c.phase with
    | waiting | settled outcome => rw [hph] at hc; cases hc
    | running => exact ⟨rfl, rfl⟩
  refine ⟨?_, ?_, ?_, ?_, fun j d outcome hd hrun => h.settles hd hrun outcome, ?_, ?_⟩
  · intro i j c d hc hd hkey hcrun hdrun
    rcases Nat.lt_trichotomy i j with hlt | heq | hlt
    · have hnd := h.ordered j d hd (hru hdrun).1 i c hc hkey hlt
      rw [(hru hcrun).2] at hnd
      cases hnd
    · exact heq
    have hnd := h.ordered i c hc (hru hcrun).1 j d hd hkey.symm hlt
    rw [(hru hdrun).2] at hnd
    cases hnd
  · intro i j c d hc hd hkey hlt hst
    exact h.ordered j d hd hst i c hc hkey hlt
  · intro j d hd hwait hbef
    have hgate : d.prev.all s.gateOpen = true := by
      cases hprev : d.prev with
      | none => rfl
      | some p =>
        obtain ⟨⟨c, hc, hkey, hp⟩, -⟩ := h.prev j d p hd hprev
        show (s.calls p).any (fun c => c.phase.isSettled) = true
        rw [hc]
        exact hbef p c hc hkey hp
    have hmay : s.mayStart d = true := by
      rw [KeyedMutex.mayStart, hwait, hgate]
      rfl
    show ((s.calls j).elim s fun c => if s.mayStart c then s.startTask j c else s).calls j = _
    rw [hd, Option.elim_some, if_pos hmay]
    exact put_self
  · intro key
    refine ⟨?_, put_self, fun i hi => put_of_ne hi⟩
    cases hc : s.calls s.next with
    | none => rfl
    | some c => exact absurd (h.fresh s.next c hc) (Nat.lt_irrefl _)
  · intro j d outcome hd hph
    have hnew : ¬∃ c, (KeyedMutex.new : KeyedMutex κ τ).calls j = some c ∧ c.phase = .settled outcome := by
      rintro ⟨c, hc, -⟩
      cases hc
    obtain ⟨pre, e, post, heq, hnot, hnow⟩ :=
      @run_reaches _ _ mutexStep _ es (fun s => ∃ c, s.calls j = some c ∧ c.phase = .settled outcome) hnew ⟨d, hd, hph⟩
    rw [heq, ← km_settles hnot hnow]
    exact List.mem_append_right _ (.head _)
  · intro k
    constructor
    · exact h.idle k
    intro hall
    cases hk : s.chains k with
    | none => rfl
    | some i =>
      obtain ⟨⟨c, hc, hkey, hopen⟩, -⟩ := h.tail k i hk
      rw [hall i c hc hkey] at hopen
      cases hopen

end Steps

end LamaSync
