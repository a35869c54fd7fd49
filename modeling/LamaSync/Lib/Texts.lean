import Mathlib.Data.List.Basic
import Mathlib.Data.Nat.Notation

/-!
# Texts that can be read back

A text with a separator is read back from its front where the separator is not in what stands before it, and from its end
where it is not in what stands behind it.  A whole number has one decimal text.
-/

namespace Texts

section Separators

variable {α : Type} {separator : α} {xs ys rest rest' : List α}

theorem eq_of_first_separator (hxs : separator ∉ xs) (hys : separator ∉ ys)
    (h : xs ++ separator :: rest = ys ++ separator :: rest') : xs = ys ∧ rest = rest' := by
  induction xs generalizing ys with
  | nil =>
    cases ys with
    | nil => exact ⟨rfl, (List.cons.inj h).2⟩
    | cons y ys => exact absurd (List.mem_cons.2 (.inl (List.cons.inj h).1)) hys
  | cons x xs ih =>
    cases ys with
    | nil => exact absurd (List.mem_cons.2 (.inl (List.cons.inj h).1.symm)) hxs
    | cons y ys =>
      obtain ⟨rfl, htail⟩ := List.cons.inj h
      obtain ⟨rfl, hrest⟩ := ih (fun hmem => hxs (.tail _ hmem))
        (fun hmem => hys (.tail _ hmem)) htail
      exact ⟨rfl, hrest⟩

theorem eq_of_last_separator (hrest : separator ∉ rest) (hrest' : separator ∉ rest')
    (h : xs ++ separator :: rest = ys ++ separator :: rest') : xs = ys ∧ rest = rest' := by
  -- the last separator is the first one of the reversed text
  have hre : rest.reverse ++ separator :: xs.reverse = rest'.reverse ++ separator :: ys.reverse := by
    simpa using congrArg List.reverse h
  obtain ⟨haf, hbef⟩ :=
    eq_of_first_separator (mt List.mem_reverse.1 hrest) (mt List.mem_reverse.1 hrest') hre
  exact ⟨List.reverse_inj.1 hbef, List.reverse_inj.1 haf⟩

/-- The second text in front of a separator goes on where the first one ends, and the two texts are one all the same. -/
def Straddles (separator before behind before' behind' : List α) : Prop :=
  ∃ more, more ≠ [] ∧ before' = before ++ more ∧ separator ++ behind = more ++ (separator ++ behind')

theorem append_separator_iff {separator before behind before' behind' : List α} :
    before ++ (separator ++ behind) = before' ++ (separator ++ behind') ↔ (before = before' ∧ behind = behind') ∨
      Straddles separator before behind before' behind' ∨ Straddles separator before' behind' before behind := by
  constructor
  · intro h
    rcases List.append_eq_append_iff.1 h with ⟨more, hbef, hbeh⟩ | ⟨more, hbef, hbeh⟩
    · by_cases hnil : more = []
      · subst hnil
        rw [List.append_nil] at hbef
        exact .inl ⟨hbef.symm, List.append_cancel_left hbeh⟩
      · exact .inr (.inl ⟨more, hnil, hbef, hbeh⟩)
    by_cases hnil : more = []
    · subst hnil
      rw [List.append_nil] at hbef
      exact .inl ⟨hbef, (List.append_cancel_left hbeh).symm⟩
    · exact .inr (.inr ⟨more, hnil, hbef, hbeh⟩)
  · rintro (⟨rfl, rfl⟩ | ⟨more, -, rfl, hbeh⟩ | ⟨more, -, rfl, hbeh⟩)
    · rfl
    · rw [hbeh, List.append_assoc]
    · rw [hbeh, List.append_assoc]

end Separators

section Decimals

theorem toDigits_injective {k l : Nat} (h : Nat.toDigits 10 k = Nat.toDigits 10 l) : k = l := by
  have hk := Nat.ofDigitChars_toDigits (n := k) (b := 10) (by omega) (by omega)
  have hl := Nat.ofDigitChars_toDigits (n := l) (b := 10) (by omega) (by omega)
  rw [← hk, ← hl, h]

theorem notMem_toDigits {c : Char} (hc : c.isDigit = false) (k : Nat) : c ∉ Nat.toDigits 10 k := by
  intro hmem
  have hdi := Nat.isDigit_of_mem_toDigits (by omega) (by omega) hmem
  rw [hc] at hdi
  cases hdi

theorem toList_toString (n : Int) :
    (toString n).toList = if 0 ≤ n then Nat.toDigits 10 n.toNat else '-' :: Nat.toDigits 10 (-n).toNat := by
  rw [Int.toString_eq_repr, Int.repr_eq_if]
  split
  · exact Nat.toList_repr
  · rw [String.toList_append, Nat.toList_repr]
    rfl

theorem notMem_toString {c : Char} (hc : c.isDigit = false) {n : Int} (h : c ≠ '-' ∨ 0 ≤ n) : c ∉ (toString n).toList := by
  rw [toList_toString]
  split
  case isTrue => exact notMem_toDigits hc _
  case isFalse hneg => exact List.not_mem_cons_of_ne_of_not_mem (h.resolve_right hneg) (notMem_toDigits hc _)

theorem toString_injective {a b : Int} (h : toString a = toString b) : a = b := by
  have hlist := congrArg String.toList h
  have hmi : ∀ k, '-' ∉ Nat.toDigits 10 k := notMem_toDigits (by decide)
  rw [toList_toString, toList_toString] at hlist
  split at hlist <;> split at hlist
  · have := toDigits_injective hlist
    omega
  · exact absurd (hlist ▸ .head _) (hmi a.toNat)
  · exact absurd (hlist ▸ .head _) (hmi b.toNat)
  · have := toDigits_injective (List.cons.inj hlist).2
    omega

end Decimals

end Texts
