import LamaSync.Lib.Trace

/-!
# Scripts

A script is a routine that acts on a system: it looks at the state, lets events happen, and ends with a value or leaves
early.  The state changes by its events only, so a script that is started in a state writes a run of the system: `log`
is the list of its events, and `final` the state after them.

`wp step P post left p s` says that every event of `p`, started in `s`, meets `P` in the state it finds, and that `p` ends
in `post`, or in `left` when it leaves.  There is one rule for each way to build a script, and every rule is an
equivalence, so the rules compute the weakest precondition of a script; `wp_iff` reads it off the run.
-/

/-- A routine over states `σ` with events `ε`.  It returns an `α`, or leaves with a `ρ`. -/
inductive Script (σ ε ρ α : Type) : Type where
  | value (a : α)
  | leave (r : ρ)
  | emit (e : ε) (next : Script σ ε ρ α)
  | look (next : σ → Script σ ε ρ α)

namespace Script

variable {σ ε ρ α β : Type}

protected def bind : Script σ ε ρ α → (α → Script σ ε ρ β) → Script σ ε ρ β
  | value a, k => k a
  | leave r, _ => leave r
  | emit e next, k => emit e (next.bind k)
  | look next, k => look fun s => (next s).bind k

instance : Monad (Script σ ε ρ) where
  pure := value
  bind := Script.bind

theorem bind_assoc {γ : Type} (p : Script σ ε ρ α) (f : α → Script σ ε ρ β) (g : β → Script σ ε ρ γ) :
    p >>= f >>= g = p >>= fun a => f a >>= g := by
  show (p.bind f).bind g = p.bind fun a => (f a).bind g
  induction p with
  | value a | leave r => rfl
  | emit e next ih => exact congrArg (emit e) ih
  | look next ih => exact congrArg look (funext ih)

/-- One event. -/
def act (e : ε) : Script σ ε ρ Unit := emit e (value ())

/-- The state, as it is now. -/
def get : Script σ ε ρ σ := look value

def leaveIf (c : Prop) [Decidable c] (r : ρ) : Script σ ε ρ Unit := if c then leave r else value ()

def orLeave (r : ρ) : Option α → Script σ ε ρ α
  | some a => value a
  | none => leave r

def orLeaveNone (found : Option β) (r : β → ρ) : Script σ ε ρ Unit :=
  match found with
  | some b => leave (r b)
  | none => value ()

/-- One event, under a condition. -/
def actIf (c : Prop) [Decidable c] (e : ε) : Script σ ε ρ Unit := if c then act e else value ()

/-- A part of the routine, under a condition. -/
def whenDo (c : Prop) [Decidable c] (p : Script σ ε ρ Unit) : Script σ ε ρ Unit := if c then p else value ()

def each (body : β → Script σ ε ρ α) : List β → Script σ ε ρ (List α)
  | [] => value []
  | x :: xs => (body x).bind fun a => (each body xs).bind fun as => value (a :: as)

section Run

variable (step : σ → ε → σ)

def log : Script σ ε ρ α → σ → List ε
  | value _, _ => []
  | leave _, _ => []
  | emit e next, s => e :: next.log (step s e)
  | look next, s => (next s).log s

def result : Script σ ε ρ α → σ → Except ρ α
  | value a, _ => .ok a
  | leave r, _ => .error r
  | emit e next, s => next.result (step s e)
  | look next, s => (next s).result s

def final (p : Script σ ε ρ α) (s : σ) : σ := Trace.run step s (p.log step s)

variable {step} {p : Script σ ε ρ α} {k : α → Script σ ε ρ β} {s : σ}

theorem log_bind_of_ok {a : α} (h : p.result step s = .ok a) :
    (p >>= k).log step s = p.log step s ++ (k a).log step (p.final step s) := by
  show (p.bind k).log step s = _
  induction p generalizing s with
  | value b =>
    cases h
    rfl
  | leave r => cases h
  | emit e next ih => exact congrArg (e :: ·) (ih h)
  | look next ih => exact ih s h

theorem log_bind_of_error {r : ρ} (h : p.result step s = .error r) : (p >>= k).log step s = p.log step s := by
  show (p.bind k).log step s = _
  induction p generalizing s with
  | value b => cases h
  | leave r => rfl
  | emit e next ih => exact congrArg (e :: ·) (ih h)
  | look next ih => exact ih s h

theorem log_bind_pure (f : α → β) : (p >>= fun a => pure (f a)).log step s = p.log step s := by
  show (p.bind fun a => value (f a)).log step s = _
  induction p generalizing s with
  | value a | leave r => rfl
  | emit e next ih => exact congrArg (e :: ·) ih
  | look next ih => exact ih s

theorem final_bind_pure (f : α → β) : (p >>= fun a => pure (f a)).final step s = p.final step s := by
  unfold final
  rw [log_bind_pure]

theorem result_bind_of_ok {a : α} (h : p.result step s = .ok a) :
    (p >>= k).result step s = (k a).result step (p.final step s) := by
  show (p.bind k).result step s = _
  induction p generalizing s with
  | value b =>
    cases h
    rfl
  | leave r => cases h
  | emit e next ih => exact ih h
  | look next ih => exact ih s h

theorem final_bind_of_ok {a : α} (h : p.result step s = .ok a) :
    (p >>= k).final step s = (k a).final step (p.final step s) := by
  unfold final
  rw [log_bind_of_ok h, Trace.run_append]
  rfl

/-- Bodies that return and leave the state write one after the other. -/
theorem each_of_still {body : β → Script σ ε ρ α} {xs : List β}
    (h : ∀ x ∈ xs, (∃ a, (body x).result step s = .ok a) ∧ (body x).final step s = s) :
    (each body xs).log step s = (xs.flatMap fun x => (body x).log step s) ∧
      (∃ as, (each body xs).result step s = .ok as) ∧ (each body xs).final step s = s := by
  induction xs with
  | nil => exact ⟨rfl, ⟨[], rfl⟩, rfl⟩
  | cons x xs ih =>
    obtain ⟨⟨a, ha⟩, hfn⟩ := h x (.head _)
    obtain ⟨hlog, ⟨as, has⟩, hlast⟩ := ih fun y hy => h y (.tail _ hy)
    show (body x >>= fun a => each body xs >>= fun as => pure (a :: as)).log step s = _ ∧
      (∃ as, (body x >>= fun a => each body xs >>= fun as => pure (a :: as)).result step s = .ok as) ∧
      (body x >>= fun a => each body xs >>= fun as => pure (a :: as)).final step s = s
    rw [log_bind_of_ok ha, result_bind_of_ok ha, final_bind_of_ok ha, hfn, log_bind_pure, result_bind_of_ok has,
      final_bind_pure, hlog, hlast]
    exact ⟨rfl, ⟨_, rfl⟩, rfl⟩

/-- Bodies that leave the state return what they return one by one. -/
theorem each_result_of_still {body : β → Script σ ε ρ α} {f : β → α} {xs : List β}
    (h : ∀ x ∈ xs, (body x).result step s = .ok (f x) ∧ (body x).final step s = s) :
    (each body xs).result step s = .ok (xs.map f) := by
  induction xs with
  | nil => rfl
  | cons x xs ih =>
    obtain ⟨hx, hfn⟩ := h x (.head _)
    have hxs := ih fun y hy => h y (.tail _ hy)
    show (body x >>= fun a => each body xs >>= fun as => pure (a :: as)).result step s = _
    rw [result_bind_of_ok hx, hfn, result_bind_of_ok hxs]
    rfl

end Run

/-- The condition on the end of a script, in the state it ends in. -/
def Ends (post : α → σ → Prop) (left : ρ → σ → Prop) (s : σ) : Except ρ α → Prop
  | .ok a => post a s
  | .error r => left r s

def wp (step : σ → ε → σ) (P : σ → ε → Prop) (post : α → σ → Prop) (left : ρ → σ → Prop) :
    Script σ ε ρ α → σ → Prop
  | value a, s => post a s
  | leave r, s => left r s
  | emit e next, s => P s e ∧ wp step P post left next (step s e)
  | look next, s => wp step P post left (next s) s

section Rules

variable {step : σ → ε → σ} {P Q : σ → ε → Prop} {post post' : α → σ → Prop} {left left' : ρ → σ → Prop} {s : σ}

@[simp] theorem wp_value (a : α) : wp step P post left (value a) s ↔ post a s := Iff.rfl

@[simp] theorem wp_pure (a : α) : wp step P post left (pure a) s ↔ post a s := Iff.rfl

@[simp] theorem wp_leave (r : ρ) : wp step P post left (leave r) s ↔ left r s := Iff.rfl

@[simp] theorem wp_emit (e : ε) (next : Script σ ε ρ α) :
    wp step P post left (emit e next) s ↔ P s e ∧ wp step P post left next (step s e) := Iff.rfl

@[simp] theorem wp_look (next : σ → Script σ ε ρ α) :
    wp step P post left (look next) s ↔ wp step P post left (next s) s := Iff.rfl

@[simp] theorem wp_act {post : Unit → σ → Prop} (e : ε) :
    wp step P post left (act e) s ↔ P s e ∧ post () (step s e) := Iff.rfl

@[simp] theorem wp_get {post : σ → σ → Prop} : wp step P post left get s ↔ post s s := Iff.rfl

/-- Weakest preconditions compose. -/
@[simp] theorem wp_bind {post : β → σ → Prop} (p : Script σ ε ρ α) (k : α → Script σ ε ρ β) :
    wp step P post left (p >>= k) s ↔ wp step P (fun a s' => wp step P post left (k a) s') left p s := by
  show wp step P post left (p.bind k) s ↔ _
  induction p generalizing s with
  | value a | leave r => exact Iff.rfl
  | emit e next ih => exact and_congr_right fun _ => ih
  | look next ih => exact ih s

variable {p : Script σ ε ρ α}

theorem wp_ite {c : Prop} [Decidable c] {q : Script σ ε ρ α} : wp step P post left (if c then p else q) s ↔
      (c → wp step P post left p s) ∧ (¬ c → wp step P post left q s) := by
  by_cases hc : c
  · simp [hc]
  · simp [hc]

@[simp] theorem wp_leaveIf {post : Unit → σ → Prop} {c : Prop} [Decidable c] {r : ρ} :
    wp step P post left (leaveIf c r) s ↔ (c → left r s) ∧ (¬ c → post () s) := wp_ite

@[simp] theorem wp_actIf {post : Unit → σ → Prop} {c : Prop} [Decidable c] {e : ε} :
    wp step P post left (actIf c e) s ↔ (c → P s e ∧ post () (step s e)) ∧ (¬ c → post () s) := wp_ite

@[simp] theorem wp_whenDo {post : Unit → σ → Prop} {c : Prop} [Decidable c] {p : Script σ ε ρ Unit} :
    wp step P post left (whenDo c p) s ↔ (c → wp step P post left p s) ∧ (¬ c → post () s) := wp_ite

@[simp] theorem wp_orLeave {r : ρ} {o : Option α} :
    wp step P post left (orLeave r o) s ↔ (o = none → left r s) ∧ ∀ a, o = some a → post a s := by
  cases o with
  | none | some a => simp [orLeave]

@[simp] theorem wp_orLeaveNone {post : Unit → σ → Prop} {found : Option β} {r : β → ρ} :
    wp step P post left (orLeaveNone found r) s ↔ (∀ b, found = some b → left (r b) s) ∧ (found = none → post () s) := by
  cases found with
  | none | some b => simp [orLeaveNone]

/-- A script meets its weakest precondition exactly when its run does. -/
theorem wp_iff : wp step P post left p s ↔
    Trace.Always step P s (p.log step s) ∧ Ends post left (p.final step s) (p.result step s) := by
  induction p generalizing s with
  | value a | leave r => exact ⟨fun h => ⟨trivial, h⟩, fun h => h.2⟩
  | emit e next ih =>
    show P s e ∧ wp step P post left next (step s e) ↔
      (P s e ∧ Trace.Always step P (step s e) (next.log step (step s e))) ∧
        Ends post left (next.final step (step s e)) (next.result step (step s e))
    rw [ih, and_assoc]
  | look next ih => exact ih s

/-- A script whose events are as asked, and whose end is known. -/
theorem wp_of_result {a : α} (hP : Trace.Always step P s (p.log step s))
    (hres : p.result step s = .ok a) : wp step P post left p s ↔ post a (p.final step s) := by
  rw [wp_iff, hres]
  exact and_iff_right hP

theorem wp_events : wp step P (fun _ _ => True) (fun _ _ => True) p s ↔ Trace.Always step P s (p.log step s) := by
  rw [wp_iff]
  refine ⟨fun h => h.1, fun h => ⟨h, ?_⟩⟩
  cases p.result step s with
  | ok a | error r => trivial

theorem wp_mono (h : wp step P post left p s) (hP : ∀ s e, P s e → Q s e)
    (hpost : ∀ a s', post a s' → post' a s') (hleft : ∀ r s', left r s' → left' r s') : wp step Q post' left' p s := by
  rw [wp_iff] at h ⊢
  refine ⟨h.1.mono hP, ?_⟩
  revert h
  rintro ⟨-, hends⟩
  cases hres : p.result step s with
  | ok a =>
    rw [hres] at hends
    exact hpost a _ hends
  | error r =>
    rw [hres] at hends
    exact hleft r _ hends

/-- What the events do to a condition `I`: with `I` they meet `Q` as well and keep `I`, so `I` holds at every end. -/
theorem wp_strengthen {I : σ → Prop} (hs : I s) (hstep : ∀ s e, I s → P s e → Q s e ∧ I (step s e))
    (h : wp step P post left p s) :
    wp step Q (fun a s' => post a s' ∧ I s') (fun r s' => left r s' ∧ I s') p s := by
  rw [wp_iff] at h ⊢
  have hQ := h.1.of_invariant hs (fun s e hI hP => (hstep s e hI hP).2) fun s e hI hP => (hstep s e hI hP).1
  have hI : I (p.final step s) := h.1.invariant hs fun s e hI hP => (hstep s e hI hP).2
  have hends := h.2
  refine ⟨hQ, ?_⟩
  cases hres : p.result step s with
  | ok a | error r =>
    rw [hres] at hends
    exact ⟨hends, hI⟩

end Rules

section Only

variable {P : ε → Prop}

/-- Every event that the script can write meets the condition, whatever it looks at. -/
def Only (P : ε → Prop) : Script σ ε ρ α → Prop
  | value _ | leave _ => True
  | emit e next => P e ∧ next.Only P
  | look next => ∀ s, (next s).Only P

@[simp] theorem only_value (a : α) : (value a : Script σ ε ρ α).Only P := trivial

@[simp] theorem only_pure (a : α) : (pure a : Script σ ε ρ α).Only P := trivial

@[simp] theorem only_leave (r : ρ) : (leave r : Script σ ε ρ α).Only P := trivial

@[simp] theorem only_act {e : ε} : (act e : Script σ ε ρ Unit).Only P ↔ P e := ⟨fun h => h.1, fun h => ⟨h, trivial⟩⟩

@[simp] theorem only_get : (get : Script σ ε ρ σ).Only P := fun _ => trivial

@[simp] theorem only_leaveIf (c : Prop) [Decidable c] (r : ρ) : (leaveIf c r : Script σ ε ρ Unit).Only P := by
  unfold leaveIf
  split <;> trivial

@[simp] theorem only_orLeave (r : ρ) (o : Option α) : (orLeave r o : Script σ ε ρ α).Only P := by
  cases o <;> trivial

@[simp] theorem only_orLeaveNone (found : Option β) (r : β → ρ) :
    (orLeaveNone found r : Script σ ε ρ Unit).Only P := by
  cases found <;> trivial

variable {p : Script σ ε ρ α}

theorem only_ite {c : Prop} [Decidable c] {q : Script σ ε ρ α} (hp : c → p.Only P) (hq : ¬c → q.Only P) :
    (if c then p else q).Only P := by
  by_cases hc : c
  · rw [if_pos hc]
    exact hp hc
  · rw [if_neg hc]
    exact hq hc

theorem only_actIf {c : Prop} [Decidable c] {e : ε} (h : c → P e) : (actIf c e : Script σ ε ρ Unit).Only P :=
  only_ite (fun hc => only_act.2 (h hc)) fun _ => trivial

theorem only_whenDo {c : Prop} [Decidable c] {p : Script σ ε ρ Unit} (h : c → p.Only P) : (whenDo c p).Only P :=
  only_ite h fun _ => trivial

theorem Only.mono {Q : ε → Prop} (h : p.Only P) (hPQ : ∀ e, P e → Q e) : p.Only Q := by
  induction p with
  | value a | leave r => trivial
  | emit e next ih => exact ⟨hPQ e h.1, ih h.2⟩
  | look next ih => exact fun s => ih s (h s)

theorem Only.bind {k : α → Script σ ε ρ β} (hp : p.Only P) (hk : ∀ a, (k a).Only P) : (p >>= k).Only P := by
  show (p.bind k).Only P
  induction p with
  | value a => exact hk a
  | leave r => trivial
  | emit e next ih => exact ⟨hp.1, ih hp.2⟩
  | look next ih => exact fun s => ih s (hp s)

theorem Only.each {body : β → Script σ ε ρ α} {xs : List β} (h : ∀ x ∈ xs, (body x).Only P) : (each body xs).Only P := by
  induction xs with
  | nil => trivial
  | cons x xs ih =>
    apply Only.bind (h x (.head _))
    intro a
    exact Only.bind (ih fun y hy => h y (.tail _ hy)) fun _ => trivial

variable {step : σ → ε → σ} {s : σ}

theorem Only.mem_log (h : p.Only P) : ∀ e ∈ p.log step s, P e := by
  induction p generalizing s with
  | value a | leave r => exact fun _ he => nomatch he
  | emit e next ih =>
    intro e' he'
    rcases List.mem_cons.1 he' with rfl | hla
    · exact h.1
    · exact ih h.2 e' hla
  | look next ih => exact ih s (h s)

theorem Only.wp {Q : σ → ε → Prop} (h : p.Only P) (hQ : ∀ s e, P e → Q s e) :
    Script.wp step Q (fun _ _ => True) (fun _ _ => True) p s := by
  induction p generalizing s with
  | value a | leave r => trivial
  | emit e next ih => exact ⟨hQ s e h.1, ih h.2⟩
  | look next ih => exact ih s (h s)

/-- An event that the first part cannot write is one of what follows. -/
theorem Only.split {k : α → Script σ ε ρ β} (h : p.Only P) {before after : List ε} {e : ε}
    (hlog : (p >>= k).log step s = before ++ e :: after) (he : ¬P e) :
    ∃ a, p.result step s = .ok a ∧ ∃ rest, before = p.log step s ++ rest ∧
      (k a).log step (p.final step s) = rest ++ e :: after := by
  change (p.bind k).log step s = _ at hlog
  induction p generalizing s before with
  | value a => exact ⟨a, rfl, before, rfl, hlog⟩
  | leave r =>
    have hnil : [] = before ++ e :: after := hlog
    simp at hnil
  | emit e' next ih =>
    change e' :: (next.bind k).log step (step s e') = _ at hlog
    cases before with
    | nil =>
      obtain ⟨rfl, -⟩ := List.cons.inj hlog
      exact absurd h.1 he
    | cons e'' before =>
      obtain ⟨rfl, hla⟩ := List.cons.inj hlog
      obtain ⟨a, hres, rest, hbef, hrest⟩ := ih h.2 hla
      exact ⟨a, hres, rest, congrArg (e' :: ·) hbef, hrest⟩
  | look next ih => exact ih s (h s) hlog

end Only

section Selected

variable {step : σ → ε → σ} {f : ε → Option β} {s : σ} {γ : Type}

/-- What `f` selects of the events that a script writes. -/
def selected (step : σ → ε → σ) (f : ε → Option β) (p : Script σ ε ρ α) (s : σ) : List β := (p.log step s).filterMap f

@[simp] theorem selected_value (a : α) : selected step f (value a : Script σ ε ρ α) s = [] := rfl

@[simp] theorem selected_leave (r : ρ) : selected step f (leave r : Script σ ε ρ α) s = [] := rfl

@[simp] theorem selected_pure (a : α) : selected step f (pure a : Script σ ε ρ α) s = [] := rfl

@[simp] theorem selected_pure_bind (a : α) (k : α → Script σ ε ρ γ) :
    selected step f (pure a >>= k) s = selected step f (k a) s := rfl

@[simp] theorem selected_leave_bind (r : ρ) (k : α → Script σ ε ρ γ) : selected step f (leave r >>= k) s = [] := rfl

@[simp] theorem selected_get_bind (k : σ → Script σ ε ρ γ) :
    selected step f (get >>= k) s = selected step f (k s) s := rfl

@[simp] theorem selected_act_bind (e : ε) (k : Unit → Script σ ε ρ γ) :
    selected step f (act e >>= k) s = (f e).toList ++ selected step f (k ()) (step s e) := by
  show (e :: (k ()).log step (step s e)).filterMap f = _
  rw [List.filterMap_cons]
  cases f e with
  | none | some b => rfl

@[simp] theorem selected_leaveIf_bind (c : Prop) [Decidable c] (r : ρ) (k : Unit → Script σ ε ρ γ) :
    selected step f (leaveIf c r >>= k) s = if c then [] else selected step f (k ()) s := by
  unfold leaveIf
  split <;> rfl

@[simp] theorem selected_actIf_bind (c : Prop) [Decidable c] (e : ε) (k : Unit → Script σ ε ρ γ) :
    selected step f (actIf c e >>= k) s =
      if c then (f e).toList ++ selected step f (k ()) (step s e) else selected step f (k ()) s := by
  unfold actIf
  split
  · exact selected_act_bind e k
  · rfl

variable {p : Script σ ε ρ α}

theorem selected_bind_of_ok {k : α → Script σ ε ρ γ} {a : α} (h : p.result step s = .ok a) :
    selected step f (p >>= k) s = selected step f p s ++ selected step f (k a) (p.final step s) := by
  unfold selected
  rw [log_bind_of_ok h, List.filterMap_append]

theorem Only.selected_eq_nil (h : p.Only fun e => f e = none) : selected step f p s = [] :=
  List.filterMap_eq_nil_iff.2 fun e he => h.mem_log e he

/-- A part of which nothing is selected leaves it to what follows. -/
theorem Only.selected_bind (h : p.Only fun e => f e = none) (k : α → Script σ ε ρ γ) :
    selected step f (p >>= k) s =
      match p.result step s with
      | .ok a => selected step f (k a) (p.final step s)
      | .error _ => [] := by
  cases hres : p.result step s with
  | ok a => rw [selected_bind_of_ok hres, h.selected_eq_nil, List.nil_append]
  | error r =>
    unfold selected
    rw [log_bind_of_error hres]
    exact h.selected_eq_nil

theorem Only.final_eq (h : p.Only fun e => ∀ s, step s e = s) : p.final step s = s := by
  unfold final
  induction p with
  | value a | leave r => rfl
  | emit e next ih =>
    show Trace.run step (step s e) (next.log step (step s e)) = s
    rw [h.1 s]
    exact ih h.2
  | look next ih => exact ih s (h s)

end Selected

section First

variable {step : σ → ε → σ} {sel : ε → Option β} {s : σ}

def first (step : σ → ε → σ) (sel : ε → Option β) (p : Script σ ε ρ α) (s : σ) : Option β :=
  (p.log step s).findSome? sel

theorem first_bind_of_some {γ : Type} {p : Script σ ε ρ α} {k : α → Script σ ε ρ γ} {b : β}
    (h : first step sel p s = some b) : first step sel (p >>= k) s = some b := by
  show first step sel (p.bind k) s = some b
  unfold first at h ⊢
  induction p generalizing s with
  | value a | leave r => cases h
  | emit e next ih =>
    show ((e :: (next.bind k).log step (step s e)).findSome? sel) = some b
    change ((e :: next.log step (step s e)).findSome? sel) = some b at h
    rw [List.findSome?_cons] at h ⊢
    cases hsel : sel e with
    | some found =>
      rw [hsel] at h
      exact h
    | none =>
      rw [hsel] at h
      exact ih h
  | look next ih => exact ih s h

/-- A part without an event of the kind leaves it to what follows. -/
theorem first_bind_of_none {γ : Type} {post : α → σ → Prop} {left : ρ → σ → Prop} {p : Script σ ε ρ α}
    {k : α → Script σ ε ρ γ} {b : β} (h : wp step (fun _ e => sel e = none) post left p s)
    (hfi : first step sel (p >>= k) s = some b) : ∃ a s', post a s' ∧ first step sel (k a) s' = some b := by
  change first step sel (p.bind k) s = some b at hfi
  unfold first at hfi ⊢
  induction p generalizing s with
  | value a => exact ⟨a, s, h, hfi⟩
  | leave r => cases hfi
  | emit e next ih =>
    apply ih h.2
    change ((e :: (next.bind k).log step (step s e)).findSome? sel) = some b at hfi
    rwa [List.findSome?_cons, h.1] at hfi
  | look next ih => exact ih s h hfi

end First

end Script
