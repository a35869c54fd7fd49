import Mathlib.Logic.Basic

/-!
# Programs whose statements can fail

A program works on a state, and each of its statements meets a fate: it takes effect, it throws, or the machine stops in
the middle of it.  The fates are an argument of a run, in the order of the statements; when they are used up the
statements meet the default fate.  An exception can be caught, a crash cannot.

`wp allowed p post stopped s` says that every run of `p` from `s` whose fates are allowed ends well: in `post` when it
returns and in `stopped` when it does not.  There is one rule for each way to build a program, and a loop over a list has
the invariant rule.  The postcondition of the stops goes through a sequence unchanged, so what holds after every
prefix of a program is shown by giving it there.
-/

namespace Faults

/-- How a program ends that does not return. -/
inductive Stop (ε : Type) where
  | threw (e : ε)
  | crashed
  deriving DecidableEq

/-- The end of a run: what was returned or why not, the state, and the fates that are left. -/
structure Ran (φ σ ε α : Type) where
  result : Except (Stop ε) α
  state : σ
  fates : List φ

/-- A program on states `σ` whose statements meet fates `φ`. -/
def Prog (φ σ ε α : Type) : Type := σ → List φ → Ran φ σ ε α

variable {φ σ ε α β : Type}

namespace Prog

protected def pure (a : α) : Prog φ σ ε α := fun s fates => ⟨.ok a, s, fates⟩

protected def bind (p : Prog φ σ ε α) (k : α → Prog φ σ ε β) : Prog φ σ ε β := fun s fates =>
  match p s fates with
  | ⟨.ok a, s', rest⟩ => k a s' rest
  | ⟨.error stop, s', rest⟩ => ⟨.error stop, s', rest⟩

instance : Monad (Prog φ σ ε) where
  pure := Prog.pure
  bind := Prog.bind

/-- The state, as it is now. -/
def get : Prog φ σ ε σ := fun s fates => ⟨.ok s, s, fates⟩

/-- A change of the state that cannot fail. -/
def modify (f : σ → σ) : Prog φ σ ε Unit := fun s fates => ⟨.ok (), f s, fates⟩

def throw (e : ε) : Prog φ σ ε α := fun s fates => ⟨.error (.threw e), s, fates⟩

def tryCatch (p : Prog φ σ ε α) (handler : ε → Prog φ σ ε α) : Prog φ σ ε α := fun s fates =>
  match p s fates with
  | ⟨.error (.threw e), s', rest⟩ => handler e s' rest
  | ran => ran

/-- What comes `finally` is run after a return and after an exception; its own exception takes the place of the end. -/
def tryFinally (p : Prog φ σ ε α) (after : Prog φ σ ε Unit) : Prog φ σ ε α := fun s fates =>
  match p s fates with
  | ⟨.ok a, s', rest⟩ => Prog.bind after (fun _ => Prog.pure a) s' rest
  | ⟨.error (.threw e), s', rest⟩ => Prog.bind after (fun _ => Prog.throw e) s' rest
  | ⟨.error .crashed, s', rest⟩ => ⟨.error .crashed, s', rest⟩

def attempt [Inhabited φ] (op : φ → σ → Except (Stop ε) α × σ) : Prog φ σ ε α := fun s fates =>
  match fates with
  | [] => ⟨(op default s).1, (op default s).2, []⟩
  | fate :: rest => ⟨(op fate s).1, (op fate s).2, rest⟩

def forEach (body : β → Prog φ σ ε Unit) : List β → Prog φ σ ε Unit
  | [] => Prog.pure ()
  | x :: xs => Prog.bind (body x) fun _ => forEach body xs

end Prog

/-- A run ended in the postcondition of its end, and the fates it left are allowed. -/
def Meets (allowed : φ → Prop) (post : α → σ → Prop) (stopped : Stop ε → σ → Prop) : Ran φ σ ε α → Prop
  | ⟨.ok a, s, rest⟩ => post a s ∧ ∀ f ∈ rest, allowed f
  | ⟨.error stop, s, rest⟩ => stopped stop s ∧ ∀ f ∈ rest, allowed f

def wp (allowed : φ → Prop) (p : Prog φ σ ε α) (post : α → σ → Prop) (stopped : Stop ε → σ → Prop) (s : σ) : Prop :=
  ∀ fates, (∀ f ∈ fates, allowed f) → Meets allowed post stopped (p s fates)

section Rules

variable {allowed : φ → Prop} {p : Prog φ σ ε α} {k : α → Prog φ σ ε β} {post post' : α → σ → Prop}
  {postB : β → σ → Prop} {stopped stopped' : Stop ε → σ → Prop} {s : σ}

/-- What holds after every way to end holds in the state a run leaves. -/
theorem wp.state {I : σ → Prop} (h : wp allowed p (fun _ s' => I s') (fun _ s' => I s') s) {fates : List φ}
    (hft : ∀ f ∈ fates, allowed f) : I (p s fates).state := by
  have hme := h fates hft
  cases hran : p s fates with
  | mk result s' rest =>
    rw [hran] at hme
    cases result with
    | ok a | error stop => exact hme.1

theorem wp_mono (h : wp allowed p post stopped s) (hpost : ∀ a s', post a s' → post' a s')
    (hstop : ∀ stop s', stopped stop s' → stopped' stop s') : wp allowed p post' stopped' s := by
  intro fates hft
  have hme := h fates hft
  cases hran : p s fates with
  | mk result s' rest =>
    rw [hran] at hme
    cases result with
    | ok a => exact ⟨hpost a s' hme.1, hme.2⟩
    | error stop => exact ⟨hstop stop s' hme.1, hme.2⟩

theorem wp_pure {a : α} (h : post a s) : wp allowed (pure a) post stopped s := fun _ hft => ⟨h, hft⟩

theorem wp_bind (h : wp allowed p (fun a s' => wp allowed (k a) postB stopped s') stopped s) :
    wp allowed (p >>= k) postB stopped s := by
  intro fates hft
  have hme := h fates hft
  show Meets allowed postB stopped (Prog.bind p k s fates)
  unfold Prog.bind
  cases hran : p s fates with
  | mk result s' rest =>
    rw [hran] at hme
    cases result with
    | ok a => exact hme.1 rest hme.2
    | error stop => exact hme

/-- The first part runs to a condition from which the rest goes on. -/
theorem wp_seq {R : α → σ → Prop} (h : wp allowed p R stopped s)
    (hk : ∀ a s', R a s' → wp allowed (k a) postB stopped s') : wp allowed (p >>= k) postB stopped s :=
  wp_bind (wp_mono h hk fun _ _ hstop => hstop)

theorem wp_get {post : σ → σ → Prop} (h : post s s) : wp allowed Prog.get post stopped s := fun _ hft => ⟨h, hft⟩

theorem wp_modify {f : σ → σ} {post : Unit → σ → Prop} (h : post () (f s)) :
    wp allowed (Prog.modify f) post stopped s := fun _ hft => ⟨h, hft⟩

theorem wp_throw {e : ε} (h : stopped (.threw e) s) : wp allowed (Prog.throw e) post stopped s :=
  fun _ hft => ⟨h, hft⟩

theorem wp_tryCatch {handler : ε → Prog φ σ ε α}
    (h : wp allowed p post (fun stop s' => match stop with
      | .threw e => wp allowed (handler e) post stopped s'
      | .crashed => stopped .crashed s') s) :
    wp allowed (Prog.tryCatch p handler) post stopped s := by
  intro fates hft
  have hme := h fates hft
  unfold Prog.tryCatch
  cases hran : p s fates with
  | mk result s' rest =>
    rw [hran] at hme
    cases result with
    | ok a => exact hme
    | error stop =>
      cases stop with
      | threw e => exact hme.1 rest hme.2
      | crashed => exact hme

theorem wp_tryFinally {after : Prog φ σ ε Unit}
    (h : wp allowed p (fun a s' => wp allowed after (fun _ s'' => post a s'') stopped s') (fun stop s' => match stop with
      | .threw e => wp allowed after (fun _ s'' => stopped (.threw e) s'') stopped s'
      | .crashed => stopped .crashed s') s) :
    wp allowed (Prog.tryFinally p after) post stopped s := by
  intro fates hft
  have hme := h fates hft
  unfold Prog.tryFinally
  cases hran : p s fates with
  | mk result s' rest =>
    rw [hran] at hme
    cases result with
    | ok a =>
      have haf : wp allowed (after >>= fun _ => pure a) post stopped s' :=
        wp_seq hme.1 fun _ _ hpost => wp_pure hpost
      exact haf rest hme.2
    | error stop =>
      cases stop with
      | threw e =>
        have haf : wp allowed (after >>= fun _ => Prog.throw e) post stopped s' :=
          wp_seq hme.1 fun _ _ hth => wp_throw hth
        exact haf rest hme.2
      | crashed => exact hme

theorem wp_attempt [Inhabited φ] {op : φ → σ → Except (Stop ε) α × σ} (hdef : allowed default)
    (h : ∀ fate, allowed fate → ∀ rest, (∀ f ∈ rest, allowed f) →
      Meets allowed post stopped ⟨(op fate s).1, (op fate s).2, rest⟩) :
    wp allowed (Prog.attempt op) post stopped s := by
  intro fates hft
  cases fates with
  | nil => exact h default hdef [] hft
  | cons fate rest => exact h fate (hft fate (.head _)) rest fun f hf => hft f (.tail _ hf)

/-- The invariant rule: what the body keeps, for the elements there are, holds after the loop. -/
theorem wp_forEach {body : β → Prog φ σ ε Unit} {I : σ → Prop} :
    ∀ {xs : List β} {s : σ}, I s →
      (∀ x ∈ xs, ∀ s, I s → wp allowed (body x) (fun _ s' => I s') stopped s) →
      wp allowed (Prog.forEach body xs) (fun _ s' => I s') stopped s
  | [], _, hs, _ => wp_pure hs
  | x :: xs, _, hs, hbody => by
    refine wp_seq (hbody x (.head _) _ hs) fun _ s' hs' => ?_
    exact wp_forEach hs' fun y hy s hI => hbody y (.tail _ hy) s hI

end Rules

end Faults
