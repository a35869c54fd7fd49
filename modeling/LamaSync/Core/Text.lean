import Mathlib.Data.List.DropRight
import Mathlib.Data.List.Lex
import Mathlib.Data.List.TakeWhile
import Mathlib.Logic.Basic

/-!
# Texts as the code handles them

Strings are lists of characters here.  `length` and `slice` of the code count UTF-16 units and `<` compares them, `\s` and
`trim` know more spaces than ASCII has, and `split` on one character keeps the empty parts.
-/

namespace LamaSync

def utf16Length (cs : List Char) : Nat := cs.foldl (fun n c => n + if c.toNat ≤ 0xFFFF then 1 else 2) 0

def utf16Units (c : Char) : List Nat :=
  if c.toNat < 0x10000 then [c.toNat] else [0xD800 + (c.toNat - 0x10000) / 0x400, 0xDC00 + (c.toNat - 0x10000) % 0x400]

def utf16 (text : String) : List Nat := text.toList.flatMap utf16Units

theorem utf16Units_append {c d : Char} {us vs : List Nat} (h : utf16Units c ++ us = utf16Units d ++ vs) : c = d ∧ us = vs := by
  have hra : ∀ e : Char, e.toNat < 0xD800 ∨ 0xDFFF < e.toNat ∧ e.toNat < 0x110000 := fun e => e.valid
  have hc := hra c
  have hd := hra d
  rw [← Char.toNat_inj]
  unfold utf16Units at h
  -- the first unit of a pair is no character of its own
  split at h <;> split at h <;> simp only [List.cons_append, List.nil_append, List.cons.injEq] at h
  · exact h
  · omega
  · omega
  · exact ⟨by omega, h.2.2⟩

theorem utf16_injective : Function.Injective utf16 := by
  have hch : ∀ cs ds : List Char, cs.flatMap utf16Units = ds.flatMap utf16Units → cs = ds := by
    have hne : ∀ (c : Char) (cs : List Char), (c :: cs).flatMap utf16Units ≠ [] := by
      intro c cs h
      rw [List.flatMap_cons, List.append_eq_nil_iff] at h
      unfold utf16Units at h
      split at h <;> cases h.1
    intro cs
    induction cs with
    | nil =>
      intro ds h
      cases ds with
      | nil => rfl
      | cons d ds => exact absurd h.symm (hne d ds)
    | cons c cs ih =>
      intro ds h
      cases ds with
      | nil => exact absurd h (hne c cs)
      | cons d ds =>
        rw [List.flatMap_cons, List.flatMap_cons] at h
        obtain ⟨rfl, hrest⟩ := utf16Units_append h
        rw [ih ds hrest]
  intro a b h
  exact String.toList_injective (hch _ _ h)

/-- The characters of the first `n` UTF-16 code units.  A pair cut in half is dropped whole. -/
def takeUtf16 : List Char → Nat → List Char
  | [], _ => []
  | c :: cs, n =>
    let size := if c.toNat ≤ 0xFFFF then 1 else 2
    if size ≤ n then c :: takeUtf16 cs (n - size) else []

def sliceText (text : String) (n : Nat) : String := String.ofList (takeUtf16 text.toList n)

/-- What `\s` matches. -/
def isJsSpace (c : Char) : Bool :=
  let n := c.toNat
  (9 ≤ n && n ≤ 13) || n == 0x20 || n == 0xA0 || n == 0x1680 || (0x2000 ≤ n && n ≤ 0x200A) || n == 0x2028 ||
    n == 0x2029 || n == 0x202F || n == 0x205F || n == 0x3000 || n == 0xFEFF

/-- `replace(/\s+/g, " ")`; the flag says that the run of spaces before has been written. -/
def collapseSpaces : Bool → List Char → List Char
  | _, [] => []
  | inSpace, c :: cs =>
    if isJsSpace c then
      if inSpace then collapseSpaces true cs else ' ' :: collapseSpaces true cs
    else c :: collapseSpaces false cs

def trimSpaces (cs : List Char) : List Char := ((cs.dropWhile isJsSpace).reverse.dropWhile isJsSpace).reverse

theorem trimSpaces_of_ends {cs : List Char} (hhead : cs.dropWhile isJsSpace = cs) (hlast : cs.rdropWhile isJsSpace = cs) :
    trimSpaces cs = cs := by
  unfold trimSpaces
  rw [hhead]
  exact hlast

theorem dropWhile_trimSpaces (cs : List Char) : (trimSpaces cs).dropWhile isJsSpace = trimSpaces cs := by
  -- what is left is a prefix of a text that does not begin with a space
  have hpr : trimSpaces cs <+: cs.dropWhile isJsSpace := List.rdropWhile_prefix _ _
  cases htrim : trimSpaces cs with
  | nil => rfl
  | cons c rest =>
    obtain ⟨behind, hbeh⟩ := hpr
    rw [htrim, List.cons_append] at hbeh
    have hc : isJsSpace c = false := by
      have hhead := List.head?_dropWhile_not isJsSpace cs
      rw [← hbeh] at hhead
      simpa using hhead
    rw [List.dropWhile_cons_of_neg (by simp [hc])]

theorem rdropWhile_trimSpaces (cs : List Char) : (trimSpaces cs).rdropWhile isJsSpace = trimSpaces cs :=
  List.rdropWhile_idempotent _ (cs.dropWhile isJsSpace)

theorem trimSpaces_idem (cs : List Char) : trimSpaces (trimSpaces cs) = trimSpaces cs :=
  trimSpaces_of_ends (dropWhile_trimSpaces cs) (rdropWhile_trimSpaces cs)

def pathSegments (path : String) : List String :=
  ((path.toList.splitOn '/').filter fun s => !s.isEmpty).map String.ofList

theorem toList_of_splitOn_three {text : String} {c : Char} {a b d : List Char}
    (h : text.toList.splitOn c = [a, b, d]) : text.toList = a ++ c :: (b ++ c :: d) := by
  have hjoin : [c].intercalate (text.toList.splitOn c) = text.toList := List.intercalate_splitOn c
  rw [h] at hjoin
  simpa [List.intercalate, List.intersperse] using hjoin.symm

end LamaSync
