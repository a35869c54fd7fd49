import Mathlib.Data.List.Count
import Mathlib.Logic.Function.Basic

/-!
# Slots with a limit for each class

A fixed number of slots is shared by tasks of several classes, and a class may hold only so many of them.  A task that
finds no slot free for its class waits.  A slot that is given back goes at once to the task that has waited longest among
those that may have it.

`Accounts` relates the counters to the tasks that hold a slot, and says that no task waits while a slot is free for it.
Handing over one slot is enough for that: the slot that is given back can only help one task.
-/

/-- The slots taken, in all and by class, and the tasks that wait, the oldest first. -/
structure Slots (κ ι : Type*) where
  active : Nat
  activeBy : κ → Nat
  waiters : List (κ × ι)

namespace Slots

variable {κ ι : Type*} {limit limitBy : Nat} {s : Slots κ ι} {k k' : κ} {i : ι}

def empty : Slots κ ι where
  active := 0
  activeBy := fun _ => 0
  waiters := []

def free (limit limitBy : Nat) (s : Slots κ ι) (k : κ) : Bool := s.active < limit && s.activeBy k < limitBy

theorem free_iff : s.free limit limitBy k = true ↔ s.active < limit ∧ s.activeBy k < limitBy := by simp [free]

theorem not_free_iff : s.free limit limitBy k = false ↔ limit ≤ s.active ∨ limitBy ≤ s.activeBy k := by
  rw [← Bool.not_eq_true, free_iff]; omega

variable [DecidableEq κ]

def take (s : Slots κ ι) (k : κ) : Slots κ ι :=
  { s with active := s.active + 1, activeBy := Function.update s.activeBy k (s.activeBy k + 1) }

def drop (s : Slots κ ι) (k : κ) : Slots κ ι :=
  { s with active := s.active - 1, activeBy := Function.update s.activeBy k (s.activeBy k - 1) }

/-- The slot of class `k` is given back; the task it is handed to, when there is one. -/
def release (limit limitBy : Nat) (s : Slots κ ι) (k : κ) : Slots κ ι × Option (κ × ι) :=
  let dropped := s.drop k
  match dropped.waiters.find? fun w => dropped.free limit limitBy w.1 with
  | none => (dropped, none)
  | some w =>
    ({ dropped with waiters := dropped.waiters.eraseP fun w => dropped.free limit limitBy w.1 }.take w.1, some w)

def acquire (limit limitBy : Nat) (s : Slots κ ι) (k : κ) (i : ι) : Slots κ ι × Bool :=
  if s.free limit limitBy k then (s.take k, true) else ({ s with waiters := s.waiters ++ [(k, i)] }, false)

def heldBy (held : List (κ × ι)) (k : κ) : Nat := held.countP fun h => h.1 = k

@[simp] theorem heldBy_nil : heldBy ([] : List (κ × ι)) k = 0 := rfl

theorem heldBy_cons (h : κ × ι) (held : List (κ × ι)) :
    heldBy (h :: held) k = heldBy held k + if h.1 = k then 1 else 0 := by
  simp [heldBy, List.countP_cons]

variable {held : List (κ × ι)}

theorem heldBy_erase [DecidableEq ι] (hmem : (k, i) ∈ held) (k' : κ) :
    heldBy (held.erase (k, i)) k' + (if k = k' then 1 else 0) = heldBy held k' := by
  have hperm := List.perm_cons_erase hmem
  have hc : heldBy held k' = heldBy ((k, i) :: held.erase (k, i)) k' := hperm.countP_eq _
  rw [hc, heldBy_cons]

structure Counts (s : Slots κ ι) (held : List (κ × ι)) : Prop where
  active : s.active = held.length
  activeBy : ∀ k, s.activeBy k = heldBy held k

structure Accounts (limit limitBy : Nat) (s : Slots κ ι) (held : List (κ × ι)) : Prop extends s.Counts held where
  bound : held.length ≤ limit
  boundBy : ∀ k, heldBy held k ≤ limitBy
  idle : ∀ w ∈ s.waiters, s.free limit limitBy w.1 = false

theorem accounts_empty : Accounts limit limitBy (empty : Slots κ ι) [] where
  active := rfl
  activeBy := fun _ => rfl
  bound := Nat.zero_le _
  boundBy := fun _ => Nat.zero_le _
  idle := fun _ hw => nomatch hw

theorem Counts.withWaiters (h : s.Counts held) (waiters : List (κ × ι)) :
    ({ s with waiters := waiters } : Slots κ ι).Counts held :=
  ⟨h.active, h.activeBy⟩

theorem Counts.take (h : s.Counts held) (k : κ) (i : ι) : (s.take k).Counts ((k, i) :: held) where
  active := by simp [Slots.take, h.active]
  activeBy := by
    intro k'
    rw [heldBy_cons]
    by_cases hk : k = k'
    · subst hk
      simp [Slots.take, h.activeBy]
    · simp [Slots.take, Function.update_of_ne (Ne.symm hk), h.activeBy, hk]

theorem Counts.drop [DecidableEq ι] (h : s.Counts held) (hmem : (k, i) ∈ held) :
    (s.drop k).Counts (held.erase (k, i)) where
  active := by simp [Slots.drop, h.active, List.length_erase_of_mem hmem]
  activeBy := by
    intro k'
    have hc := heldBy_erase hmem k'
    by_cases hk : k = k'
    · subst hk
      simp only [if_true] at hc
      simp only [Slots.drop, Function.update_self, h.activeBy]
      omega
    · simp only [if_neg hk, Nat.add_zero] at hc
      simp only [Slots.drop, Function.update_of_ne (Ne.symm hk), h.activeBy, hc]

theorem Counts.take_bounds (h : s.Counts held) (hby : ∀ k, heldBy held k ≤ limitBy)
    (hfree : s.free limit limitBy k = true) (i : ι) :
    ((k, i) :: held).length ≤ limit ∧ ∀ k', heldBy ((k, i) :: held) k' ≤ limitBy := by
  obtain ⟨hact, hactiveBy⟩ := free_iff.1 hfree
  rw [h.active] at hact
  rw [h.activeBy] at hactiveBy
  refine ⟨hact, fun k' => ?_⟩
  rw [heldBy_cons]
  by_cases hk : k = k'
  · subst hk
    rw [if_pos rfl]
    exact hactiveBy
  · simpa [hk] using hby k'

theorem take_not_free (hbusy : s.free limit limitBy k' = false) : (s.take k).free limit limitBy k' = false := by
  rw [not_free_iff] at hbusy ⊢
  rcases hbusy with hact | hactiveBy
  · exact .inl (Nat.le_succ_of_le hact)
  right
  by_cases hk : k' = k
  · subst hk
    simpa [take] using Nat.le_succ_of_le hactiveBy
  · simpa [take, Function.update_of_ne hk] using hactiveBy

variable {held : List (κ × ι)}

theorem Accounts.acquired (h : Accounts limit limitBy s held) (hfree : s.free limit limitBy k = true) (i : ι) :
    Accounts limit limitBy (s.take k) ((k, i) :: held) where
  toCounts := h.toCounts.take k i
  bound := (h.toCounts.take_bounds h.boundBy hfree i).1
  boundBy := (h.toCounts.take_bounds h.boundBy hfree i).2
  idle := fun w hw => take_not_free (h.idle w hw)

theorem Accounts.queued (h : Accounts limit limitBy s held) (hbusy : s.free limit limitBy k = false) (i : ι) :
    Accounts limit limitBy { s with waiters := s.waiters ++ [(k, i)] } held where
  toCounts := h.toCounts.withWaiters _
  bound := h.bound
  boundBy := h.boundBy
  idle := by
    intro w hw
    rcases List.mem_append.1 hw with hold | hnew
    · exact h.idle w hold
    rw [List.mem_singleton] at hnew
    subst hnew
    exact hbusy

theorem handed_over_not_free (h : Accounts limit limitBy s held) (hmem : (k, i) ∈ held) {w w' : κ × ι}
    (hw : w ∈ s.waiters) (hfree : (s.drop k).free limit limitBy w.1 = true) (hw' : w' ∈ s.waiters) :
    ((s.drop k).take w.1).free limit limitBy w'.1 = false := by
  have hheld : 0 < held.length := List.length_pos_of_mem hmem
  have hheldBy : 0 < heldBy held k := List.countP_pos_iff.2 ⟨(k, i), hmem, by simp⟩
  have hact : ((s.drop k).take w.1).active = s.active := by
    have hpos := h.active
    simp only [take, drop]
    omega
  rw [not_free_iff, hact]
  by_cases hfull : limit ≤ s.active
  · exact .inl hfull
  -- below the limit every task waits for its class, so the slot that was given back is of the class that takes it
  have hcl : ∀ v ∈ s.waiters, limitBy ≤ s.activeBy v.1 := fun v hv =>
    (not_free_iff.1 (h.idle v hv)).resolve_left hfull
  have hwk : w.1 = k := by
    by_contra hne
    have hby := (free_iff.1 hfree).2
    simp only [drop, Function.update_of_ne hne] at hby
    exact absurd (hcl w hw) (Nat.not_le.2 hby)
  have hback : ((s.drop k).take w.1).activeBy w'.1 = s.activeBy w'.1 := by
    rw [hwk]
    have hpos := h.activeBy k
    by_cases hw'k : w'.1 = k
    · rw [hw'k]
      simp only [take, drop, Function.update_self]
      omega
    · simp only [take, drop, Function.update_of_ne hw'k]
  exact .inr (hback ▸ hcl w' hw')

theorem release_of_none (h : (s.drop k).waiters.find? (fun w => (s.drop k).free limit limitBy w.1) = none) :
    s.release limit limitBy k = (s.drop k, none) := by
  simp only [release, h]

theorem release_of_some {w : κ × ι}
    (h : (s.drop k).waiters.find? (fun w => (s.drop k).free limit limitBy w.1) = some w) :
    s.release limit limitBy k =
      ({ s.drop k with waiters := (s.drop k).waiters.eraseP fun w => (s.drop k).free limit limitBy w.1 }.take w.1,
        some w) := by
  simp only [release, h]

theorem Accounts.released [DecidableEq ι] (h : Accounts limit limitBy s held) (hmem : (k, i) ∈ held) :
    Accounts limit limitBy (s.release limit limitBy k).1
      ((s.release limit limitBy k).2.toList ++ held.erase (k, i)) := by
  have hco := h.toCounts.drop hmem
  have hbd : (held.erase (k, i)).length ≤ limit := Nat.le_trans List.length_erase_le h.bound
  have hboundBy : ∀ k', heldBy (held.erase (k, i)) k' ≤ limitBy := fun k' =>
    Nat.le_trans (Nat.le_of_add_right_le (Nat.le_of_eq (heldBy_erase hmem k'))) (h.boundBy k')
  cases hfind : (s.drop k).waiters.find? fun w => (s.drop k).free limit limitBy w.1 with
  | none =>
    rw [release_of_none hfind]
    exact
      { toCounts := hco
        bound := hbd
        boundBy := hboundBy
        idle := fun w hw => Bool.not_eq_true _ ▸ List.find?_eq_none.1 hfind w hw }
  | some w =>
    rw [release_of_some hfind]
    have hfree : (s.drop k).free limit limitBy w.1 = true := by simpa using List.find?_some hfind
    have hw : w ∈ s.waiters := List.mem_of_find?_eq_some hfind
    exact
      { toCounts := (hco.withWaiters _).take w.1 w.2
        bound := (hco.take_bounds hboundBy hfree w.2).1
        boundBy := (hco.take_bounds hboundBy hfree w.2).2
        idle := fun w' hw' => handed_over_not_free h hmem hw hfree (List.mem_of_mem_eraseP hw') }

theorem release_handed {w : κ × ι} (hw : (s.release limit limitBy k).2 = some w) :
    ∃ before after, s.waiters = before ++ w :: after ∧
      (s.release limit limitBy k).1.waiters = before ++ after := by
  cases hfind : (s.drop k).waiters.find? fun w => (s.drop k).free limit limitBy w.1 with
  | none => simp [release_of_none hfind] at hw
  | some w' =>
    rw [release_of_some hfind] at hw ⊢
    cases hw
    obtain ⟨hpw, before, after, hsp, hbef⟩ := List.find?_eq_some_iff_append.1 hfind
    refine ⟨before, after, hsp, ?_⟩
    have hnone : ∀ v ∈ before, ¬ (s.drop k).free limit limitBy v.1 = true := by simpa using hbef
    simp only [take]
    rw [hsp, List.eraseP_append_right _ hnone]
    exact congrArg (before ++ ·) (List.eraseP_cons_of_pos hpw)

/-- A slot that is handed to no one leaves the waiting tasks as they are. -/
theorem release_kept (hw : (s.release limit limitBy k).2 = none) :
    (s.release limit limitBy k).1.waiters = s.waiters := by
  cases hfind : (s.drop k).waiters.find? fun w => (s.drop k).free limit limitBy w.1 with
  | none => rw [release_of_none hfind]; rfl
  | some w' => simp [release_of_some hfind] at hw

end Slots
