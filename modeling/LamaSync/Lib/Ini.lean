import Mathlib.Data.List.Basic
import Mathlib.Data.List.TakeWhile
import Mathlib.Data.String.Basic

/-!
# Files of sections

A file has some comments and then sections, each with a heading, entries and comments of its own.  It is read line by line,
and what stands under a heading belongs to its section.

The lines that were written are the ones that are read just when no line has a line feed in it, and then the sections are as
well (`readLines_text_iff`, `blocksOf_lines`).
-/

namespace Ini

inductive Line where
  | heading (name : String)
  | entry (key value : String)
  | comment (text : String)
  | blank
  /-- Nothing that is ever written. -/
  | other (text : String)
  deriving DecidableEq

namespace Line

def text : Line → String
  | heading name => "[" ++ name ++ "]"
  | entry key value => key ++ " = " ++ value
  | comment text => "# " ++ text
  | blank => ""
  | other text => text

def readEntry (cs : List Char) : Line :=
  match cs.dropWhile (· ≠ '=') with
  | '=' :: ' ' :: value => entry (String.ofList (cs.takeWhile (· ≠ '=')).dropLast) (String.ofList value)
  | _ => other (String.ofList cs)

def read (cs : List Char) : Line :=
  match cs with
  | [] => blank
  | '#' :: ' ' :: rest => comment (String.ofList rest)
  | '[' :: rest => if rest.getLast? = some ']' then heading (String.ofList rest.dropLast) else other (String.ofList cs)
  | cs => readEntry cs

end Line

/-- A key that does not look like another line. -/
def PlainKey (key : String) : Prop := (∃ c ∈ key.toList.head?, c ≠ '#' ∧ c ≠ '[') ∧ '=' ∉ key.toList

instance (key : String) : Decidable (PlainKey key) :=
  @instDecidableAnd _ _ (Option.decidableExistsMem _) inferInstance

def Line.Written : Line → Prop
  | .entry key _ => PlainKey key
  | .other _ => False
  | .heading _ | .comment _ | .blank => True

theorem Line.readEntry_entry {key value : String} (hkey : PlainKey key) :
    Line.readEntry (key ++ " = " ++ value).toList = .entry key value := by
  have hch : (key ++ " = " ++ value).toList = (key.toList ++ [' ']) ++ '=' :: ' ' :: value.toList := by simp
  have hbef : ∀ c ∈ key.toList ++ [' '], (decide (c ≠ '=')) = true := by
    intro c hc
    rcases List.mem_append.1 hc with hkeyChar | hsp
    · exact decide_eq_true fun heq => hkey.2 (heq ▸ hkeyChar)
    · rw [List.mem_singleton.1 hsp]
      decide
  unfold Line.readEntry
  rw [hch, List.dropWhile_append_of_pos hbef, List.takeWhile_append_of_pos hbef,
    List.dropWhile_cons_of_neg (by decide), List.takeWhile_cons_of_neg (by decide)]
  simp

theorem Line.read_text {line : Line} (h : line.Written) : Line.read line.text.toList = line := by
  cases line with
  | heading name =>
    have hch : (Line.heading name).text.toList = '[' :: (name.toList ++ [']']) := by simp [Line.text]
    rw [hch]
    simp [Line.read]
  | entry key value =>
    obtain ⟨⟨c, hc, hcomm, hhe⟩, hequ⟩ := h
    have hhead : (Line.entry key value).text.toList = c :: (key.toList.tail ++ " = ".toList ++ value.toList) := by
      cases hkey : key.toList with
      | nil => simp [hkey] at hc
      | cons d rest =>
        obtain rfl : d = c := by simpa [hkey] using hc
        simp [Line.text, hkey]
    have hread : Line.read (Line.entry key value).text.toList = Line.readEntry (Line.entry key value).text.toList := by
      rw [hhead]
      unfold Line.read
      split
      · rename_i heq
        cases heq
      · rename_i heq
        exact absurd (List.cons.inj heq).1 hcomm
      · rename_i heq
        exact absurd (List.cons.inj heq).1 hhe
      · rfl
    rw [hread]
    exact Line.readEntry_entry ⟨⟨c, hc, hcomm, hhe⟩, hequ⟩
  | comment text =>
    have hch : (Line.comment text).text.toList = '#' :: ' ' :: text.toList := by simp [Line.text]
    rw [hch]
    simp [Line.read]
  | blank => rfl
  | other text => exact h.elim

/-- A section as it is read: its comments do not count. -/
structure Block where
  name : String
  entries : List (String × String)
  deriving DecidableEq

namespace Block

variable (block : Block)

def get (key : String) : Option String := block.entries.lookup key

end Block

structure Section extends Block where
  comments : List String := []
  plain : ∀ entry ∈ entries, PlainKey entry.1

def Section.lines (s : Section) : List Line :=
  .heading s.name :: (s.entries.map fun entry => .entry entry.1 entry.2) ++ s.comments.map .comment ++ [.blank]

structure File where
  comments : List String
  sections : List Section

namespace File

variable (file : File)

def lines : List Line := file.comments.map .comment ++ [.blank] ++ file.sections.flatMap Section.lines

def text : String := "\n".intercalate (file.lines.map Line.text)

end File

def readLines (text : String) : List Line := (text.toList.splitOn '\n').map Line.read

def collect : List Line → List (String × String) × List Block
  | [] => ([], [])
  | .heading name :: lines => ([], ⟨name, (collect lines).1⟩ :: (collect lines).2)
  | .entry key value :: lines => ((key, value) :: (collect lines).1, (collect lines).2)
  | .comment _ :: lines | .blank :: lines | .other _ :: lines => collect lines

def blocksOf (lines : List Line) : List Block := (collect lines).2

theorem Section.written {s : Section} : ∀ line ∈ s.lines, line.Written := by
  intro line hline
  unfold Section.lines at hline
  simp only [List.cons_append, List.mem_cons, List.mem_append, List.mem_map, List.not_mem_nil, or_false] at hline
  rcases hline with rfl | (⟨entry, he, rfl⟩ | ⟨comment, -, rfl⟩) | rfl
  · trivial
  · exact s.plain entry he
  · trivial
  · trivial

theorem File.written {file : File} : ∀ line ∈ file.lines, line.Written := by
  intro line hline
  unfold File.lines at hline
  simp only [List.mem_append, List.mem_map, List.mem_singleton, List.mem_flatMap] at hline
  rcases hline with (⟨comment, -, rfl⟩ | rfl) | ⟨s, -, hs⟩
  · trivial
  · trivial
  · exact s.written line hs

theorem toList_text (file : File) :
    file.text.toList = ['\n'].intercalate (file.lines.map fun line => line.text.toList) := by
  unfold File.text
  rw [String.toList_intercalate, List.map_map]
  rfl

theorem length_splitOn (cs : List Char) : (cs.splitOn '\n').length = cs.count '\n' + 1 := by
  induction cs with
  | nil => rfl
  | cons c cs ih =>
    rw [List.splitOn_cons_eq_if_modifyHead]
    by_cases hc : c = '\n'
    · simp [hc, ih]
    · simp [hc, ih]

/-- A joined text has as many lines as parts, and one more for every line feed in them. -/
theorem length_splitOn_intercalate (parts : List (List Char)) (h : parts ≠ []) :
    ((['\n'].intercalate parts).splitOn '\n').length = parts.length + parts.flatten.count '\n' := by
  rw [length_splitOn]
  induction parts with
  | nil => exact absurd rfl h
  | cons part parts ih =>
    cases parts with
    | nil => simp [List.intercalate_singleton, Nat.add_comm]
    | cons next parts =>
      have hrest := ih (List.cons_ne_nil next parts)
      rw [List.intercalate_cons_cons, List.count_append, List.count_append, List.flatten_cons, List.count_append,
        List.length_cons]
      have hone : List.count '\n' ['\n'] = 1 := rfl
      omega

theorem readLines_text_iff (file : File) :
    readLines file.text = file.lines ↔ ∀ line ∈ file.lines, '\n' ∉ line.text.toList := by
  have hne : file.lines.map (fun line => line.text.toList) ≠ [] := by simp [File.lines]
  unfold readLines
  rw [toList_text]
  constructor
  · intro h
    have hlen := congrArg List.length h
    rw [List.length_map, length_splitOn_intercalate _ hne, List.length_map] at hlen
    have hc : (file.lines.map fun line => line.text.toList).flatten.count '\n' = 0 := by omega
    intro line hline hmem
    exact List.count_eq_zero.1 hc (List.mem_flatten_of_mem (List.mem_map_of_mem hline) hmem)
  · intro h
    rw [List.splitOn_intercalate _ (List.forall_mem_map.2 h) hne, List.map_map]
    conv_rhs => rw [← List.map_id file.lines]
    exact List.map_congr_left fun line hline => Line.read_text (file.written line hline)

theorem collect_comments (comments : List String) (lines : List Line) :
    collect (comments.map Line.comment ++ .blank :: lines) = collect lines := by
  induction comments with
  | nil => rfl
  | cons comment comments ih => exact ih

theorem collect_section (s : Section) {lines : List Line} (h : (collect lines).1 = []) :
    collect (s.lines ++ lines) = ([], s.toBlock :: (collect lines).2) := by
  have hents : ∀ entries : List (String × String),
      collect (entries.map (fun entry => .entry entry.1 entry.2) ++ (s.comments.map Line.comment ++ .blank :: lines)) =
        (entries, (collect lines).2) := by
    intro entries
    induction entries with
    | nil => rw [List.map_nil, List.nil_append, collect_comments, ← h]
    | cons entry entries ih =>
      rw [List.map_cons, List.cons_append]
      dsimp only [collect]
      rw [ih]
  simp only [Section.lines, List.cons_append, List.append_assoc, List.nil_append]
  dsimp only [collect]
  rw [hents]

theorem blocksOf_lines (file : File) : blocksOf file.lines = file.sections.map Section.toBlock := by
  have hsecs : ∀ sections : List Section,
      collect (sections.flatMap Section.lines) = ([], sections.map Section.toBlock) := by
    intro sections
    induction sections with
    | nil => rfl
    | cons s sections ih => rw [List.flatMap_cons, collect_section s (by rw [ih]), ih, List.map_cons]
  unfold blocksOf File.lines
  rw [List.append_assoc, List.singleton_append, collect_comments, hsecs]

def Unbroken (text : String) : Prop := '\n' ∉ text.toList

instance (text : String) : Decidable (Unbroken text) := inferInstanceAs (Decidable ('\n' ∉ text.toList))

@[simp] theorem unbroken_append {a b : String} : Unbroken (a ++ b) ↔ Unbroken a ∧ Unbroken b := by
  unfold Unbroken
  rw [String.toList_append, List.mem_append, not_or]

-- the texts of literals are not to be looked into
attribute [irreducible] Unbroken

theorem unbroken_heading (name : String) : '\n' ∉ (Line.heading name).text.toList ↔ Unbroken name := by
  have hwd : Unbroken "[" ∧ Unbroken "]" := by decide
  have hline : Unbroken ("[" ++ name ++ "]") ↔ Unbroken name := by simp [hwd]
  unfold Unbroken at hline ⊢
  exact hline

theorem unbroken_entry (key value : String) :
    '\n' ∉ (Line.entry key value).text.toList ↔ Unbroken key ∧ Unbroken value := by
  have hword : Unbroken " = " := by decide
  have hline : Unbroken (key ++ " = " ++ value) ↔ Unbroken key ∧ Unbroken value := by simp [hword]
  unfold Unbroken at hline ⊢
  exact hline

theorem unbroken_comment (comment : String) : '\n' ∉ (Line.comment comment).text.toList ↔ Unbroken comment := by
  have hword : Unbroken "# " := by decide
  have hline : Unbroken ("# " ++ comment) ↔ Unbroken comment := by simp [hword]
  unfold Unbroken at hline ⊢
  exact hline

theorem unbroken_blank : '\n' ∉ Line.blank.text.toList := by
  decide

def Section.OneLines (s : Section) : Prop :=
  Unbroken s.name ∧ (∀ entry ∈ s.entries, Unbroken entry.1 ∧ Unbroken entry.2) ∧ ∀ comment ∈ s.comments, Unbroken comment

theorem Section.oneLines_iff (s : Section) : (∀ line ∈ s.lines, '\n' ∉ line.text.toList) ↔ s.OneLines := by
  unfold Section.lines Section.OneLines
  simp only [List.cons_append, List.forall_mem_cons, List.forall_mem_append, List.forall_mem_map, List.not_mem_nil,
    false_implies, implies_true, and_true, unbroken_heading, unbroken_entry, unbroken_comment, unbroken_blank,
    not_false_eq_true]

theorem File.oneLines_iff (file : File) : (∀ line ∈ file.lines, '\n' ∉ line.text.toList) ↔
    (∀ comment ∈ file.comments, Unbroken comment) ∧ ∀ s ∈ file.sections, s.OneLines := by
  unfold File.lines
  simp only [List.forall_mem_append, List.forall_mem_map, List.mem_singleton, forall_eq, unbroken_comment, unbroken_blank,
    not_false_eq_true, and_true, List.mem_flatMap, forall_exists_index, and_imp]
  refine and_congr_right fun _ => ⟨fun h s hs => s.oneLines_iff.1 fun line hline => h line s hs hline, ?_⟩
  intro h line s hs hline
  exact s.oneLines_iff.2 (h s hs) line hline

end Ini
