import Mathlib.Data.List.Basic

/-!
# Patterns of letters and runs

A pattern is a list of terms, each one letter of a class or a run of letters of a class, over any alphabet.  It accepts a
word that can be cut into pieces its terms accept, one after the other.  This is the part of regular expressions that
file globs need.

`accepts` decides it by trying every length of every run.  What it means is `accepts_cons_one` and `accepts_cons_many`.
-/

namespace Pattern

variable {α : Type*}

/-- One letter that `p` accepts, or any number of them. -/
inductive Term (α : Type*) where
  | one (p : α → Bool)
  | many (p : α → Bool)

def acceptsRun (p : α → Bool) (rest : List α → Bool) : List α → Bool
  | [] => rest []
  | x :: xs => rest (x :: xs) || (p x && acceptsRun p rest xs)

def accepts : List (Term α) → List α → Bool
  | [], xs => xs.isEmpty
  | .one _ :: _, [] => false
  | .one p :: ts, x :: xs => p x && accepts ts xs
  | .many p :: ts, xs => acceptsRun p (accepts ts) xs

variable {p : α → Bool} {rest : List α → Bool} {ts us : List (Term α)} {x : α} {xs ys : List α}

@[simp] theorem accepts_nil : accepts ([] : List (Term α)) xs = true ↔ xs = [] := by
  cases xs <;> simp [accepts]

theorem acceptsRun_iff :
    acceptsRun p rest xs = true ↔ ∃ run ys, xs = run ++ ys ∧ (∀ x ∈ run, p x = true) ∧ rest ys = true := by
  induction xs with
  | nil =>
    constructor
    · intro h
      exact ⟨[], [], rfl, nofun, h⟩
    rintro ⟨run, ys, heq, -, hrest⟩
    obtain ⟨rfl, rfl⟩ := List.append_eq_nil_iff.1 heq.symm
    exact hrest
  | cons x xs ih =>
    unfold acceptsRun
    rw [Bool.or_eq_true, Bool.and_eq_true, ih]
    constructor
    · rintro (h | ⟨hx, run, ys, rfl, hrun, hrest⟩)
      · exact ⟨[], x :: xs, rfl, nofun, h⟩
      · exact ⟨x :: run, ys, rfl, List.forall_mem_cons.2 ⟨hx, hrun⟩, hrest⟩
    rintro ⟨run, ys, heq, hrun, hrest⟩
    cases run with
    | nil =>
      left
      rw [heq]
      exact hrest
    | cons y run =>
      obtain ⟨rfl, rfl⟩ := List.cons.inj heq
      obtain ⟨hx, hrun⟩ := List.forall_mem_cons.1 hrun
      exact .inr ⟨hx, run, ys, rfl, hrun, hrest⟩

theorem accepts_cons_one : accepts (.one p :: ts) xs = true ↔ ∃ x ys, xs = x :: ys ∧ p x = true ∧ accepts ts ys = true := by
  cases xs with
  | nil | cons x xs => simp [accepts]

theorem accepts_cons_many :
    accepts (.many p :: ts) xs = true ↔ ∃ run ys, xs = run ++ ys ∧ (∀ x ∈ run, p x = true) ∧ accepts ts ys = true :=
  acceptsRun_iff

end Pattern
