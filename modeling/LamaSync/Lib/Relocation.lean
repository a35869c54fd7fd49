import Mathlib.Data.Fintype.EquivFin
import Mathlib.Data.List.Infix
import Mathlib.Logic.Nontrivial.Basic

/-!
# Moving subtrees by copying and removing

Files are found at paths, and a path is a root and a list of segments.  Entries are moved by copying each to its target,
one after the other, and removing the sources when all of them have been copied.  The tool that copies and removes may
fail at any entry, and leaves anything at the targets of the files that it was copying.

No run of any such tool loses a file exactly when no target meets a source and no two files have one target
(`relocate_kept` and `apart_of_kept`).
-/

namespace Relocation

structure Path (κ σ : Type*) where
  root : κ
  segments : List σ
  deriving DecidableEq

abbrev Files (κ σ α : Type*) := Path κ σ → Option α

variable {κ σ α ι : Type*} {p q x y : Path κ σ} {rel rel' : List σ} {t t' : Files κ σ α} {out : Files κ σ α × Bool}

namespace Path

def under (p : Path κ σ) (rel : List σ) : Path κ σ := ⟨p.root, p.segments ++ rel⟩

@[simp] theorem under_root : (p.under rel).root = p.root := rfl

@[simp] theorem under_segments : (p.under rel).segments = p.segments ++ rel := rfl

@[simp] theorem under_nil : p.under [] = p := by simp [under]

theorem under_under : (p.under rel).under rel' = p.under (rel ++ rel') := by simp [under]

theorem under_inj : p.under rel = p.under rel' ↔ rel = rel' := by simp [under]

/-- One is the other, or lies inside it. -/
def Meets (p q : Path κ σ) : Prop := p.root = q.root ∧ (p.segments <+: q.segments ∨ q.segments <+: p.segments)

theorem meets_iff : p.Meets q ↔ (∃ rel, q = p.under rel) ∨ ∃ rel, p = q.under rel := by
  constructor
  · rintro ⟨hroot, ⟨rel, hrel⟩ | ⟨rel, hrel⟩⟩
    · exact .inl ⟨rel, by simp [under, hroot, hrel]⟩
    · exact .inr ⟨rel, by simp [under, ← hroot, hrel]⟩
  rintro (⟨rel, rfl⟩ | ⟨rel, rfl⟩)
  · exact ⟨rfl, .inl (List.prefix_append _ _)⟩
  · exact ⟨rfl, .inr (List.prefix_append _ _)⟩

theorem meets_of_under (h : p.under rel = q.under rel') : p.Meets q := by
  obtain ⟨hroot, hsegs⟩ := Path.mk.inj h
  refine ⟨hroot, ?_⟩
  have hp : p.segments <+: q.segments ++ rel' := hsegs ▸ List.prefix_append _ _
  exact List.prefix_or_prefix_of_prefix hp (List.prefix_append _ _)

def Below (x q : Path κ σ) : Prop := x.root = q.root ∧ q.segments <+: x.segments

instance [DecidableEq κ] [DecidableEq σ] (x q : Path κ σ) : Decidable (x.Below q) := inferInstanceAs (Decidable (_ ∧ _))

theorem below_iff : x.Below q ↔ ∃ rel, x = q.under rel := by
  constructor
  · rintro ⟨hroot, rel, hrel⟩
    exact ⟨rel, by simp [under, ← hroot, hrel]⟩
  · rintro ⟨rel, rfl⟩
    exact ⟨rfl, List.prefix_append _ _⟩

theorem under_below : (q.under rel).Below q := below_iff.2 ⟨rel, rfl⟩

end Path

/-- `rel` is a file of the entry at `p`: the entry itself, or what is below it when it is no file. -/
def IsFile (t : Files κ σ α) (p : Path κ σ) (rel : List σ) : Prop :=
  (t (p.under rel)).isSome ∧ ((t p).isSome → rel = [])

instance [DecidableEq σ] (t : Files κ σ α) (p : Path κ σ) (rel : List σ) : Decidable (IsFile t p rel) :=
  inferInstanceAs (Decidable (_ ∧ (_ → _)))

theorem isFile_congr (h : ∀ rel, t' (p.under rel) = t (p.under rel)) : IsFile t' p rel ↔ IsFile t p rel := by
  have hp : t' p = t p := by simpa using h []
  rw [IsFile, IsFile, h rel, hp]

/-- The outcome of copying the entry at `p` to `q`: only the targets of its files change, and when it succeeds they have
the contents of the files. -/
structure Copied (t : Files κ σ α) (p q : Path κ σ) (out : Files κ σ α × Bool) : Prop where
  frame : ∀ x, (∀ rel, IsFile t p rel → x ≠ q.under rel) → out.1 x = t x
  done : out.2 = true → ∀ rel, IsFile t p rel → out.1 (q.under rel) = t (p.under rel)

/-- The outcome of removing the entry at `p`: only files below it go, and when it succeeds all the files of the entry. -/
structure Removed (t : Files κ σ α) (p : Path κ σ) (out : Files κ σ α × Bool) : Prop where
  frame : ∀ x, (∀ rel, x ≠ p.under rel) → out.1 x = t x
  shrinks : ∀ x, out.1 x = t x ∨ out.1 x = none
  done : out.2 = true → ∀ rel, IsFile t p rel → out.1 (p.under rel) = none

/-- A program that copies and removes entries, and says whether it has succeeded. -/
structure Tool (κ σ α : Type*) where
  copy : Files κ σ α → Path κ σ → Path κ σ → Files κ σ α × Bool
  remove : Files κ σ α → Path κ σ → Files κ σ α × Bool
  copied : ∀ t p q, Copied t p q (copy t p q)
  removed : ∀ t p, Removed t p (remove t p)

/-- The entries are copied up to the first that is refused or fails. -/
def copyAll (tool : Tool κ σ α) (allowed : ι → Bool) (source target : ι → Path κ σ) :
    Files κ σ α → List ι → Files κ σ α × Bool
  | t, [] => (t, true)
  | t, i :: is =>
    if !allowed i then (t, false)
    else
      let out := tool.copy t (source i) (target i)
      if out.2 then copyAll tool allowed source target out.1 is else out

def removeAll (tool : Tool κ σ α) (source : ι → Path κ σ) : Files κ σ α → List ι → Files κ σ α × Bool
  | t, [] => (t, true)
  | t, i :: is =>
    let out := tool.remove t (source i)
    if out.2 then removeAll tool source out.1 is else out

def relocate (tool : Tool κ σ α) (allowed : ι → Bool) (source target : ι → Path κ σ) (t : Files κ σ α) (is : List ι) :
    Files κ σ α × Bool :=
  let out := copyAll tool allowed source target t is
  if out.2 then removeAll tool source out.1 is else out

def Kept (source target : ι → Path κ σ) (is : List ι) (t t' : Files κ σ α) : Prop :=
  ∀ i ∈ is, (∀ rel, IsFile t (source i) rel → t' ((source i).under rel) = t ((source i).under rel)) ∨
    ∀ rel, IsFile t (source i) rel → t' ((target i).under rel) = t ((source i).under rel)

structure Apart (source target : ι → Path κ σ) (is : List ι) : Prop where
  meets : ∀ i ∈ is, ∀ j ∈ is, ¬ (target i).Meets (source j)
  distinct : ∀ i ∈ is, ∀ j ∈ is, ∀ rel, target j = (target i).under rel → source j = (source i).under rel

variable {tool : Tool κ σ α} {allowed : ι → Bool} {source target : ι → Path κ σ} {is js : List ι}

theorem Apart.source_eq (h : Apart source target is) {i j : ι} (hi : i ∈ is) (hj : j ∈ is)
    (heq : (target i).under rel = (target j).under rel') : (source i).under rel = (source j).under rel' := by
  rcases Path.meets_iff.1 (Path.meets_of_under heq) with ⟨between, hj'⟩ | ⟨between, hi'⟩
  · rw [hj', Path.under_under, Path.under_inj] at heq
    rw [h.distinct i hi j hj between hj', Path.under_under, heq]
  · rw [hi', Path.under_under, Path.under_inj] at heq
    rw [h.distinct j hj i hi between hi', Path.under_under, heq]

theorem copyAll_kept (tool : Tool κ σ α) (allowed : ι → Bool) (hap : Apart source target is) (hjs : ∀ j ∈ js, j ∈ is) {t₀ : Files κ σ α}
    (hsrcs : ∀ i ∈ is, ∀ rel, t ((source i).under rel) = t₀ ((source i).under rel)) :
    (∀ i ∈ is, ∀ rel, (copyAll tool allowed source target t js).1 ((source i).under rel) = t₀ ((source i).under rel)) ∧
    ((copyAll tool allowed source target t js).2 = true →
      (∀ j ∈ js, ∀ rel, IsFile t₀ (source j) rel →
        (copyAll tool allowed source target t js).1 ((target j).under rel) = t₀ ((source j).under rel)) ∧
      ∀ i ∈ is, ∀ rel, t ((target i).under rel) = t₀ ((source i).under rel) →
        (copyAll tool allowed source target t js).1 ((target i).under rel) = t₀ ((source i).under rel)) := by
  induction js generalizing t with
  | nil => exact ⟨hsrcs, fun _ => ⟨fun _ hj => (nomatch hj), fun _ _ _ h => h⟩⟩
  | cons j js ih =>
    have hj : j ∈ is := hjs j (.head _)
    have hcop := tool.copied t (source j) (target j)
    have hf : ∀ rel, IsFile t (source j) rel ↔ IsFile t₀ (source j) rel := fun rel =>
      isFile_congr fun rel => hsrcs j hj rel
    have hnext : ∀ i ∈ is, ∀ rel,
        (tool.copy t (source j) (target j)).1 ((source i).under rel) = t₀ ((source i).under rel) := by
      intro i hi rel
      rw [hcop.frame _ fun rel' _ heq => hap.meets j hj i hi (Path.meets_of_under heq.symm), hsrcs i hi]
    unfold copyAll
    split
    · exact ⟨hsrcs, fun h => (nomatch h)⟩
    simp only
    split
    · rename_i hok
      obtain ⟨hkeep, hdone⟩ := ih (fun j' hj' => hjs j' (.tail _ hj')) hnext
      have hwr : ∀ i ∈ is, ∀ rel, t ((target i).under rel) = t₀ ((source i).under rel) →
          (tool.copy t (source j) (target j)).1 ((target i).under rel) = t₀ ((source i).under rel) := by
        intro i hi rel hmade
        by_cases hover : ∃ rel', IsFile t (source j) rel' ∧ (target i).under rel = (target j).under rel'
        · -- the same file is written again
          obtain ⟨rel', hfile, heq⟩ := hover
          rw [heq, hcop.done hok rel' hfile, hsrcs j hj, hap.source_eq hi hj heq]
        · rw [hcop.frame _ fun rel' hfile heq => hover ⟨rel', hfile, heq⟩, hmade]
      refine ⟨hkeep, fun hall => ⟨?_, fun i hi rel hmade => (hdone hall).2 i hi rel (hwr i hi rel hmade)⟩⟩
      intro i hi rel hfile
      rcases List.mem_cons.1 hi with rfl | hla
      · refine (hdone hall).2 i hj rel ?_
        rw [hcop.done hok rel ((hf rel).2 hfile), hsrcs i hj]
      · exact (hdone hall).1 i hla rel hfile
    · rename_i hfail
      exact ⟨hnext, fun h => absurd h hfail⟩

theorem removeAll_frame (hx : ∀ i ∈ is, ∀ rel, x ≠ (source i).under rel) : (removeAll tool source t is).1 x = t x := by
  induction is generalizing t with
  | nil => rfl
  | cons i is ih =>
    have hfr := (tool.removed t (source i)).frame x (hx i (.head _))
    unfold removeAll
    simp only
    split
    · rw [ih fun j hj => hx j (.tail _ hj), hfr]
    · exact hfr

theorem relocate_kept (hap : Apart source target is) (tool : Tool κ σ α) (allowed : ι → Bool) (t : Files κ σ α) :
    Kept source target is t (relocate tool allowed source target t is).1 := by
  obtain ⟨hsrcs, hdone⟩ := copyAll_kept (t := t) tool allowed hap (fun _ hj => hj) fun _ _ _ => rfl
  intro i hi
  unfold relocate
  simp only
  split
  · rename_i hok
    refine .inr fun rel hfile => ?_
    have hnot : ∀ j ∈ is, ∀ rel', (target i).under rel ≠ (source j).under rel' := fun j hj rel' heq =>
      hap.meets i hi j hj (Path.meets_of_under heq)
    rw [removeAll_frame hnot]
    exact (hdone hok).1 i hi rel hfile
  · exact .inl fun rel _ => hsrcs i hi rel

section Exact

variable [DecidableEq κ] [DecidableEq σ]

def exactCopy (t : Files κ σ α) (p q : Path κ σ) : Files κ σ α := fun x =>
  let rel := x.segments.drop q.segments.length
  if x.Below q ∧ IsFile t p rel then t (p.under rel) else t x

theorem exactCopy_under : exactCopy t p q (q.under rel) = if IsFile t p rel then t (p.under rel) else t (q.under rel) := by
  simp [exactCopy, Path.under_below]

def exactTool (κ σ α : Type*) [DecidableEq κ] [DecidableEq σ] : Tool κ σ α where
  copy t p q := (exactCopy t p q, true)
  remove t p := (fun x => if x.Below p then none else t x, true)
  copied t p q :=
    { frame := fun x hx => by
        simp only [exactCopy]
        rw [if_neg]
        rintro ⟨hbelow, hfile⟩
        obtain ⟨rel, rfl⟩ := Path.below_iff.1 hbelow
        exact hx rel (by simpa using hfile) rfl
      done := fun _ rel hfile => exactCopy_under.trans (if_pos hfile) }
  removed t p :=
    { frame := fun x hx => if_neg fun hbelow => (Path.below_iff.1 hbelow).elim fun rel heq => hx rel heq
      shrinks := fun x => by
        simp only
        split
        · exact .inr rfl
        · exact .inl rfl
      done := fun _ rel _ => if_pos Path.under_below }

theorem exact_copyAll (hok : ∀ i ∈ is, allowed i = true) :
    (copyAll (exactTool κ σ α) allowed source target t is).2 = true := by
  induction is generalizing t with
  | nil => rfl
  | cons i is ih =>
    unfold copyAll
    rw [hok i (.head _)]
    exact ih fun j hj => hok j (.tail _ hj)

omit [DecidableEq κ] [DecidableEq σ] in
theorem removeAll_none (hx : t x = none) : (removeAll tool source t is).1 x = none := by
  induction is generalizing t with
  | nil => exact hx
  | cons i is ih =>
    have hnone : (tool.remove t (source i)).1 x = none := ((tool.removed t (source i)).shrinks x).elim (·.trans hx) id
    unfold removeAll
    simp only
    split
    · exact ih hnone
    · exact hnone

theorem exact_removeAll {i : ι} (hi : i ∈ is) :
    (removeAll (exactTool κ σ α) source t is).1 ((source i).under rel) = none := by
  induction is generalizing t with
  | nil => exact nomatch hi
  | cons j js ih =>
    rcases List.mem_cons.1 hi with rfl | hla
    · exact removeAll_none (t := fun x => if x.Below (source i) then none else t x) (if_pos Path.under_below)
    · exact ih hla

/-- When nothing fails the sources are gone. -/
theorem exact_relocate (t : Files κ σ α) (source target : ι → Path κ σ) (hok : ∀ i ∈ is, allowed i = true) {i : ι}
    (hi : i ∈ is) (rel : List σ) :
    (relocate (exactTool κ σ α) allowed source target t is).1 ((source i).under rel) = none := by
  unfold relocate
  simp only [exact_copyAll hok, if_true]
  exact exact_removeAll hi

theorem apart_of_kept [Nontrivial α] [Infinite σ] (hok : ∀ i ∈ is, allowed i = true)
    (hkept : ∀ t : Files κ σ α, Kept source target is t (relocate (exactTool κ σ α) allowed source target t is).1) :
    Apart source target is := by
  -- the source is gone, so the file is at the target
  have hth : ∀ (t : Files κ σ α) (i : ι), i ∈ is → ∀ rel a, IsFile t (source i) rel →
      t ((source i).under rel) = some a →
      (relocate (exactTool κ σ α) allowed source target t is).1 ((target i).under rel) = some a := by
    intro t i hi rel a hfile ha
    rcases hkept t i hi with hsrc | htgt
    · have hgone := exact_relocate t source target hok hi rel
      rw [hsrc rel hfile, ha] at hgone
      cases hgone
    · rw [htgt rel hfile, ha]
  obtain ⟨a, b, hab⟩ := exists_pair_ne α
  refine ⟨fun i hi j hj hme => ?_, fun i hi j hj rel htgt => ?_⟩
  · obtain ⟨rel, rel', heq⟩ : ∃ rel rel', (target i).under rel = (source j).under rel' := by
      rcases Path.meets_iff.1 hme with ⟨rel, hrel⟩ | ⟨rel', hrel'⟩
      · exact ⟨rel, [], by rw [hrel, Path.under_nil]⟩
      · exact ⟨[], rel', by rw [hrel', Path.under_nil]⟩
    have hfile : IsFile (fun x => if x = (source i).under rel then some a else none) (source i) rel := by
      refine ⟨by simp, fun hroot => ?_⟩
      have hself : source i = (source i).under rel := by
        by_contra hne
        simp [hne] at hroot
      exact (Path.under_inj.1 (Path.under_nil.trans hself)).symm
    have hcopy := hth _ i hi rel a hfile (if_pos rfl)
    rw [heq, exact_relocate _ _ _ hok hj] at hcopy
    cases hcopy
  · by_contra hne
    obtain ⟨fresh, hfr⟩ := Infinite.exists_notMem_finset ((source i).segments ++ (source j).segments).toFinset
    simp only [List.mem_toFinset, List.mem_append, not_or] at hfr
    have ho : (source i).under (rel ++ [fresh]) ≠ (source j).under [fresh] := by
      intro heq
      obtain ⟨hroot, hsegs⟩ := Path.mk.inj heq
      rw [← List.append_assoc] at hsegs
      exact hne (by simp [Path.under, hroot, List.append_cancel_right hsegs])
    have hou : ∀ {p q : Path κ σ} {rel : List σ}, fresh ∉ p.segments → p ≠ q.under (rel ++ [fresh]) := by
      rintro p q rel hp rfl
      simp at hp
    let t : Files κ σ α := fun x =>
      if x = (source i).under (rel ++ [fresh]) then some a
      else if x = (source j).under ([] ++ [fresh]) then some b
      else none
    have hi₀ : t (source i) = none := by simp only [t, if_neg (hou hfr.1)]
    have hj₀ : t (source j) = none := by simp only [t, if_neg (hou hfr.2)]
    have hi₁ : t ((source i).under (rel ++ [fresh])) = some a := if_pos rfl
    have hj₁ : t ((source j).under [fresh]) = some b := (if_neg (Ne.symm ho)).trans (if_pos rfl)
    have hcopy := hth t i hi _ a ⟨by simp [hi₁], by simp [hi₀]⟩ hi₁
    have hcopy' := hth t j hj _ b ⟨by simp [hj₁], by simp [hj₀]⟩ hj₁
    rw [htgt, Path.under_under, hcopy] at hcopy'
    exact hab (Option.some.inj hcopy')

end Exact

end Relocation
