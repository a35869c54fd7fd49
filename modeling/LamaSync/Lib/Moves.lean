import Mathlib.Data.List.AList

/-!
# Moving the entries of a directory

An entry of a directory is a name with a tree under it, of any type.  A rename takes an entry out of one directory and
puts it into another, over the entry of that name there.  `moveUntil` stops at the first rename that fails, and
`moveEach` goes on.

Both leave every entry in one of the two directories, and `lookup_moveEach_source` and `lookup_moveEach_target` say in
which.  `removeEach` deletes what can be deleted.
-/

abbrev Entries (τ : Type) := AList fun _ : String => τ

/-- Two directories: the one that entries are taken from, and the one that they go to. -/
structure Move (τ : Type) where
  source : Entries τ
  target : Entries τ

section Moves

variable {τ ε : Type} {m : Move τ} {name other : String} {names : List String} {moves : String → Bool}
  {fails : String → Option ε}

/-- `rename`. -/
def Move.entry (m : Move τ) (name : String) : Move τ :=
  match m.source.lookup name with
  | none => m
  | some tree => ⟨m.source.erase name, m.target.insert name tree⟩

def moveEach (moves : String → Bool) : List String → Move τ → Move τ
  | [], m => m
  | name :: names, m => moveEach moves names (if moves name then m.entry name else m)

def moveUntil (fails : String → Option ε) : List String → Move τ → Option ε × Move τ
  | [], m => (none, m)
  | name :: names, m =>
    match fails name with
    | some error => (some error, m)
    | none => moveUntil fails names (m.entry name)

def removeEach (removes : String → Bool) (d : Entries τ) : List String → Entries τ
  | [] => d
  | name :: names => removeEach removes (if removes name then d.erase name else d) names

theorem lookup_entry_source : (m.entry name).source.lookup other = if other = name then none else m.source.lookup other := by
  unfold Move.entry
  by_cases h : other = name
  · subst h
    rw [if_pos rfl]
    cases hlo : m.source.lookup other with
    | none => exact hlo
    | some tree => exact AList.lookup_erase _ _
  rw [if_neg h]
  cases m.source.lookup name with
  | none => rfl
  | some tree => exact AList.lookup_erase_ne h

theorem lookup_entry_target : (m.entry name).target.lookup other =
    if other = name then (m.source.lookup other).or (m.target.lookup other) else m.target.lookup other := by
  unfold Move.entry
  by_cases h : other = name
  · subst h
    rw [if_pos rfl]
    cases hlo : m.source.lookup other with
    | none => rfl
    | some tree => exact AList.lookup_insert _
  rw [if_neg h]
  cases m.source.lookup name with
  | none => rfl
  | some tree => exact AList.lookup_insert_ne h

theorem lookup_moveEach_source : (moveEach moves names m).source.lookup other =
    if other ∈ names ∧ moves other = true then none else m.source.lookup other := by
  induction names generalizing m with
  | nil => simp [moveEach]
  | cons name names ih =>
    show (moveEach moves names (if moves name then m.entry name else m)).source.lookup other = _
    rw [ih]
    by_cases hmv : moves name = true
    · rw [if_pos hmv, lookup_entry_source]
      by_cases ho : other = name
      · subst ho
        simp [hmv]
      · simp [ho]
    rw [if_neg hmv]
    by_cases ho : other = name
    · subst ho
      simp [hmv]
    · simp [ho]

theorem lookup_moveEach_target : (moveEach moves names m).target.lookup other =
    if other ∈ names ∧ moves other = true then (m.source.lookup other).or (m.target.lookup other)
    else m.target.lookup other := by
  induction names generalizing m with
  | nil => simp [moveEach]
  | cons name names ih =>
    show (moveEach moves names (if moves name then m.entry name else m)).target.lookup other = _
    rw [ih]
    by_cases hmv : moves name = true
    · rw [if_pos hmv, lookup_entry_source, lookup_entry_target]
      by_cases ho : other = name
      · subst ho
        simp [hmv]
      · simp [ho]
    rw [if_neg hmv]
    by_cases ho : other = name
    · subst ho
      simp [hmv]
    · simp [ho]

/-- An entry is in the source, or it is in the target and no other one can come over it. -/
def Move.Keeps (m : Move τ) (name : String) (tree : τ) : Prop :=
  m.source.lookup name = some tree ∨ m.source.lookup name = none ∧ m.target.lookup name = some tree

theorem Move.Keeps.moveEach {tree : τ} (h : m.Keeps name tree) : (moveEach moves names m).Keeps name tree := by
  unfold Move.Keeps
  rw [lookup_moveEach_source, lookup_moveEach_target]
  by_cases hmv : name ∈ names ∧ moves name = true
  · right
    rw [if_pos hmv, if_pos hmv]
    rcases h with hsrc | ⟨hsrc, htgt⟩
    · simp [hsrc]
    · simp [hsrc, htgt]
  · rw [if_neg hmv, if_neg hmv]
    exact h

theorem moveUntil_moves (fails : String → Option ε) (names : List String) (m : Move τ) :
    ∃ moved, (moveUntil fails names m).2 = moveEach (fun _ => true) moved m := by
  induction names generalizing m with
  | nil => exact ⟨[], rfl⟩
  | cons name names ih =>
    cases hfl : fails name with
    | some error => exact ⟨[], by simp [moveUntil, moveEach, hfl]⟩
    | none =>
      obtain ⟨moved, hmv⟩ := ih (m.entry name)
      exact ⟨name :: moved, by simpa [moveUntil, moveEach, hfl] using hmv⟩

theorem moveUntil_of_succeeds (h : ∀ name ∈ names, fails name = none) :
    moveUntil fails names m = (none, moveEach (fun _ => true) names m) := by
  induction names generalizing m with
  | nil => rfl
  | cons name names ih =>
    have hname : fails name = none := h name (.head _)
    have hrest := ih (m := m.entry name) fun other ho => h other (.tail _ ho)
    simpa [moveUntil, moveEach, hname] using hrest

theorem moveUntil_isSome (hmem : name ∈ names) (hfl : fails name ≠ none) : (moveUntil fails names m).1.isSome := by
  induction names generalizing m with
  | nil => cases hmem
  | cons first names ih =>
    cases hfi : fails first with
    | some error => simp [moveUntil, hfi]
    | none =>
      have hne : name ≠ first := by
        rintro rfl
        exact hfl hfi
      have hla : name ∈ names := (List.mem_cons.1 hmem).resolve_left hne
      simpa [moveUntil, hfi] using ih (m := m.entry first) hla

theorem lookup_removeEach {removes : String → Bool} {d : Entries τ} : (removeEach removes d names).lookup other =
    if other ∈ names ∧ removes other = true then none else d.lookup other := by
  induction names generalizing d with
  | nil => simp [removeEach]
  | cons name names ih =>
    show (removeEach removes (if removes name then d.erase name else d) names).lookup other = _
    rw [ih]
    by_cases ho : other = name
    · subst ho
      by_cases hrem : removes other = true
      · simp [hrem]
      · simp [hrem]
    by_cases hrem : removes name = true
    · simp [hrem, ho, AList.lookup_erase_ne ho]
    · simp [hrem, ho]

end Moves
