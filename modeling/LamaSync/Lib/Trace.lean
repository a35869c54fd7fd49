import Mathlib.Logic.Basic
import Mathlib.Order.Defs.PartialOrder

/-!
# Runs of event-driven systems

A system is a step function: a state and an event give the next state.  A run is the fold of a list of events.
`Always step P s es` says that every event of the run meets `P` in the state it finds, so a condition on the steps
of a run (an environment assumption) and a property of every step are the same kind of statement.

The three rules are the inductions every safety proof over runs needs: an invariant kept by the good steps holds at
the end (`Always.invariant`) and at every step (`Always.of_invariant`) of a run of good steps, and a reflexive and
transitive relation between the states around each step relates the two ends of a run (`Always.rel`).  `outputs` is what
a run writes besides its states.
-/

namespace Trace

variable {σ ε : Type*} {step : σ → ε → σ} {P Q : σ → ε → Prop} {s : σ} {es es' : List ε} {e : ε}

/-- The state after the events `es`, taken one after the other from `s`. -/
def run (step : σ → ε → σ) (s : σ) (es : List ε) : σ := es.foldl step s

/-- Every event of the run from `s` meets `P` in the state it finds. -/
def Always (step : σ → ε → σ) (P : σ → ε → Prop) : σ → List ε → Prop
  | _, [] => True
  | s, e :: es => P s e ∧ Always step P (step s e) es

/-- A condition that can be checked step by step can be checked of a run. -/
instance Always.decidable [∀ s e, Decidable (P s e)] : ∀ s es, Decidable (Always step P s es)
  | _, [] => isTrue trivial
  | s, e :: es =>
    have := Always.decidable (step s e) es
    inferInstanceAs (Decidable (P s e ∧ Always step P (step s e) es))

@[simp] theorem run_nil : run step s [] = s := rfl

@[simp] theorem run_cons : run step s (e :: es) = run step (step s e) es := rfl

theorem run_append : run step s (es ++ es') = run step (run step s es) es' := by
  unfold run; exact List.foldl_append

theorem run_concat : run step s (es ++ [e]) = step (run step s es) e := by
  rw [run_append]; rfl

@[simp] theorem always_nil : Always step P s [] := trivial

@[simp] theorem always_cons : Always step P s (e :: es) ↔ P s e ∧ Always step P (step s e) es := Iff.rfl

theorem always_append :
    Always step P s (es ++ es') ↔ Always step P s es ∧ Always step P (run step s es) es' := by
  induction es generalizing s with
  | nil => simp
  | cons e es ih => simp only [List.cons_append, always_cons, run_cons, ih, and_assoc]

/-- A condition on every event holds of the event after any prefix of the run. -/
theorem Always.at (h : Always step P s (es ++ e :: es')) : P (run step s es) e := by
  rw [always_append] at h
  exact h.2.1

theorem Always.mono (h : Always step P s es) (hPQ : ∀ s e, P s e → Q s e) : Always step Q s es := by
  induction es generalizing s with
  | nil => trivial
  | cons e es ih => exact ⟨hPQ _ _ h.1, ih h.2⟩

theorem Always.and (h : Always step P s es) (h' : Always step Q s es) : Always step (fun s e => P s e ∧ Q s e) s es := by
  induction es generalizing s with
  | nil => trivial
  | cons e es ih => exact ⟨⟨h.1, h'.1⟩, ih h.2 h'.2⟩

theorem always_true : Always step (fun _ _ => True) s es := by
  induction es generalizing s with
  | nil => trivial
  | cons e es ih => exact ⟨trivial, ih⟩

/-- What holds at the end of a run and not at its start was brought about by one event. -/
theorem run_reaches {Q : σ → Prop} (hs : ¬ Q s) (h : Q (run step s es)) :
    ∃ pre e post, es = pre ++ e :: post ∧ ¬ Q (run step s pre) ∧ Q (step (run step s pre) e) := by
  induction es generalizing s with
  | nil => exact absurd h hs
  | cons e es ih =>
    by_cases he : Q (step s e)
    · exact ⟨[], e, es, rfl, hs, he⟩
    · obtain ⟨pre, e', post, heq, hpre, hpost⟩ := ih he h
      exact ⟨e :: pre, e', post, by rw [heq, List.cons_append], hpre, hpost⟩

theorem always_of_forall {Q : ε → Prop} (h : ∀ e ∈ es, Q e) : Always step (fun _ e => Q e) s es := by
  induction es generalizing s with
  | nil => trivial
  | cons e es ih => exact ⟨h e (.head _), ih fun e' he' => h e' (.tail _ he')⟩

theorem Always.forall_mem {Q : ε → Prop} (h : Always step (fun _ e => Q e) s es) : ∀ e ∈ es, Q e := by
  induction es generalizing s with
  | nil => exact fun _ he => nomatch he
  | cons e es ih =>
    intro e' he'
    rcases List.mem_cons.1 he' with rfl | hla
    · exact h.1
    · exact ih h.2 e' hla

section Rules

variable {I : σ → Prop} {R : σ → σ → Prop}

theorem Always.invariant (h : Always step P s es) (hs : I s)
    (hstep : ∀ s e, I s → P s e → I (step s e)) : I (run step s es) := by
  induction es generalizing s with
  | nil => exact hs
  | cons e es ih => exact ih h.2 (hstep s e hs h.1)

theorem run_invariant (hs : I s) (hstep : ∀ s e, I s → I (step s e)) : I (run step s es) :=
  always_true.invariant hs fun s e hI _ => hstep s e hI

theorem Always.of_invariant (h : Always step P s es) (hs : I s)
    (hstep : ∀ s e, I s → P s e → I (step s e)) (hQ : ∀ s e, I s → P s e → Q s e) :
    Always step Q s es := by
  induction es generalizing s with
  | nil => trivial
  | cons e es ih => exact ⟨hQ s e hs h.1, ih h.2 (hstep s e hs h.1)⟩

/-- Two conditions on the steps that say the same of a step where an invariant holds say the same of a run, when the
invariant is kept by the steps that meet the first. -/
theorem always_congr (hs : I s) (hiff : ∀ s e, I s → (P s e ↔ Q s e)) (hstep : ∀ s e, I s → P s e → I (step s e)) :
    Always step P s es ↔ Always step Q s es := by
  induction es generalizing s with
  | nil => exact Iff.rfl
  | cons e es ih =>
    rw [always_cons, always_cons, ← hiff s e hs]
    exact and_congr_right fun hP => ih (hstep s e hs hP)

theorem always_iff_invariant (hs : I s) (hstep : ∀ s e, I s → (P s e ↔ I (step s e))) :
    Always step P s es ↔ ∀ before after, es = before ++ after → I (run step s before) := by
  constructor
  · rintro h before after rfl
    exact (always_append.1 h).1.invariant hs fun s e hI hP => (hstep s e hI).1 hP
  intro h
  induction es generalizing s with
  | nil => trivial
  | cons e es ih =>
    have hnext : I (step s e) := h [e] es rfl
    refine ⟨(hstep s e hs).2 hnext, ih hnext ?_⟩
    rintro before after rfl
    exact h (e :: before) after rfl

/-- A reflexive and transitive relation around each step relates the ends of the run. -/
theorem Always.rel (h : Always step P s es) (hs : I s)
    (hstep : ∀ s e, I s → P s e → I (step s e) ∧ R s (step s e))
    (hrefl : ∀ s, R s s) (htr : ∀ a b c, R a b → R b c → R a c) : R s (run step s es) := by
  induction es generalizing s with
  | nil => exact hrefl s
  | cons e es ih =>
    obtain ⟨hI, hR⟩ := hstep s e hs h.1
    exact htr _ _ _ hR (ih h.2 hI)

theorem always_rel_iff (hrefl : ∀ s, R s s) (htr : ∀ a b c, R a b → R b c → R a c) :
    Always step (fun s e => R s (step s e)) s es ↔
      ∀ before stretch after, es = before ++ stretch ++ after →
        R (run step s before) (run step s (before ++ stretch)) := by
  constructor
  · rintro h before stretch after rfl
    rw [always_append, always_append] at h
    rw [run_append]
    exact h.1.2.rel (I := fun _ => True) trivial (fun _ _ _ hR => ⟨trivial, hR⟩) hrefl htr
  intro h
  induction es generalizing s with
  | nil => trivial
  | cons e es ih =>
    refine ⟨h [] [e] es rfl, ih ?_⟩
    rintro before stretch after rfl
    exact h (e :: before) stretch after rfl

end Rules

section Outputs

variable {α : Type*} {out : σ → ε → List α}

/-- What the events of a run write, in order: `out` is what one event writes in the state it finds. -/
def outputs (step : σ → ε → σ) (out : σ → ε → List α) : σ → List ε → List α
  | _, [] => []
  | s, e :: es => out s e ++ outputs step out (step s e) es

/-- What was written was written by one event. -/
theorem mem_outputs {a : α} (h : a ∈ outputs step out s es) :
    ∃ pre e post, es = pre ++ e :: post ∧ a ∈ out (run step s pre) e := by
  induction es generalizing s with
  | nil => cases h
  | cons e es ih =>
    rcases List.mem_append.1 h with he | hla
    · exact ⟨[], e, es, rfl, he⟩
    · obtain ⟨pre, e', post, heq, hmem⟩ := ih hla
      exact ⟨e :: pre, e', post, by rw [heq, List.cons_append], hmem⟩

theorem Always.outputs_invariant {R : σ → List α → Prop} {written : List α} (h : Always step P s es) (hs : R s written)
    (hstep : ∀ s e written, R s written → P s e → R (step s e) (written ++ out s e)) :
    R (run step s es) (written ++ outputs step out s es) := by
  induction es generalizing s written with
  | nil => simpa [outputs] using hs
  | cons e es ih =>
    have hnext := ih h.2 (hstep s e written hs h.1)
    simpa [outputs, List.append_assoc] using hnext

theorem outputs_invariant {R : σ → List α → Prop} {written : List α} (hs : R s written)
    (hstep : ∀ s e written, R s written → R (step s e) (written ++ out s e)) :
    R (run step s es) (written ++ outputs step out s es) :=
  always_true.outputs_invariant hs fun s e written hR _ => hstep s e written hR

end Outputs

end Trace
