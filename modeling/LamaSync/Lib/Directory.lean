import Mathlib.Data.List.AList

/-!
# Directories of files

A directory is an association list of names and contents without a name twice.  `size` is the sum of the files' sizes,
and a write or a removal changes it by the file it touches.  `writeAt` is `pwrite`: what lies between the end of the
file and the offset becomes zeros, and what lies behind the written bytes stays.

A file and a text *agree* when one begins with the other: the file has lost its end, or has more bytes than were
recorded of it, but where both have a byte it is the same.

A *free name* is the first of a base and its numbered variants that no file of the directory has.
-/

/-- The content of a file. -/
abbrev Bytes := List UInt8

abbrev Directory := AList fun _ : String => Bytes

section Sizes

variable {d : Directory} {name : String} {bytes : Bytes}

def fileSize (d : Directory) (name : String) : Nat := ((d.lookup name).getD []).length

private def dir_total : List (Sigma fun _ : String => Bytes) → Nat
  | [] => 0
  | file :: files => file.2.length + dir_total files

/-- The bytes of all files. -/
def totalSize (d : Directory) : Nat := dir_total d.entries

private theorem dir_total_kerase (files : List (Sigma fun _ : String => Bytes)) (name : String) :
    dir_total (files.kerase name) + ((files.dlookup name).getD []).length = dir_total files := by
  induction files with
  | nil => rfl
  | cons file files ih =>
    by_cases hn : name = file.1
    · subst hn
      rw [List.kerase_cons_eq rfl, List.dlookup_cons_eq]
      show dir_total files + file.2.length = file.2.length + dir_total files
      omega
    rw [List.kerase_cons_ne hn, List.dlookup_cons_ne _ _ hn]
    show file.2.length + dir_total (files.kerase name) + _ = file.2.length + dir_total files
    omega

/-- A removal takes the file's bytes off. -/
theorem totalSize_erase : totalSize (d.erase name) + fileSize d name = totalSize d := dir_total_kerase d.entries name

/-- A write puts the new content in the place of the old one. -/
theorem totalSize_insert : totalSize (d.insert name bytes) + fileSize d name = totalSize d + bytes.length := by
  have her := @totalSize_erase d name
  show bytes.length + dir_total (d.entries.kerase name) + fileSize d name = totalSize d + bytes.length
  have : dir_total (d.entries.kerase name) = totalSize (d.erase name) := rfl
  omega

theorem fileSize_le : fileSize d name ≤ totalSize d := by
  have her := @totalSize_erase d name
  omega

theorem fileSize_of_lookup (h : d.lookup name = some bytes) : fileSize d name = bytes.length := by
  unfold fileSize
  rw [h]
  rfl

theorem fileSize_of_none (h : d.lookup name = none) : fileSize d name = 0 := by
  unfold fileSize
  rw [h]
  rfl

end Sizes

section WriteAt

variable {file text data : Bytes} {offset n : Nat}

def writeAt (file : Bytes) (offset : Nat) (data : Bytes) : Bytes :=
  file.take offset ++ List.replicate (offset - file.length) 0 ++ data ++ file.drop (offset + data.length)

theorem length_writeAt (h : offset ≤ file.length) :
    (writeAt file offset data).length = max file.length (offset + data.length) := by
  unfold writeAt
  simp only [List.length_append, List.length_take, List.length_replicate, List.length_drop]
  omega

/-- One of the two begins with the other. -/
def Agrees (file text : Bytes) : Prop := file <+: text ∨ text <+: file

theorem agrees_nil : Agrees file [] := .inr (List.nil_prefix)

theorem Agrees.eq_of_length (h : Agrees file text) (hlen : file.length = text.length) : file = text := by
  rcases h with h | h
  · exact h.eq_of_length hlen
  · exact (h.eq_of_length hlen.symm).symm

theorem Agrees.prefix_of_length (h : Agrees file text) (hlen : text.length ≤ file.length) : text <+: file := by
  rcases h with h | h
  · have hlen' := h.length_le
    obtain rfl := h.eq_of_length (by omega)
    exact List.prefix_refl _
  · exact h

theorem Agrees.take (h : Agrees file text) : Agrees (file.take n) text := by
  rcases h with h | h
  · exact .inl ((List.take_prefix n file).trans h)
  · exact List.prefix_or_prefix_of_prefix (List.take_prefix n file) h

theorem prefix_writeAt (h : text <+: file) : text ++ data <+: writeAt file text.length data := by
  unfold writeAt
  rw [← List.prefix_iff_eq_take.1 h, Nat.sub_eq_zero_of_le h.length_le, List.replicate_zero, List.append_nil]
  exact List.prefix_append _ _

end WriteAt

section FreeNames

variable {d : Directory} {base : String}

def countedName (base : String) : Nat → String
  | 0 => base
  | n + 1 => base ++ "." ++ toString (n + 1)

def freeNameFrom (d : Directory) (base : String) : (tries n : Nat) → String
  | 0, n => countedName base n
  | tries + 1, n => if countedName base n ∈ d then freeNameFrom d base tries (n + 1) else countedName base n

def freeName (d : Directory) (base : String) : String := freeNameFrom d base d.entries.length 0

private theorem dir_countedName_injective (base : String) : Function.Injective (countedName base) := by
  have hlen : ∀ n, (countedName base (n + 1)).length ≠ base.length := by
    intro n
    unfold countedName
    rw [String.length_append, String.length_append]
    have : ".".length = 1 := by decide
    omega
  intro n m h
  cases n with
  | zero =>
    cases m with
    | zero => rfl
    | succ m => exact absurd (congrArg String.length h.symm) (hlen m)
  | succ n =>
    cases m with
    | zero => exact absurd (congrArg String.length h) (hlen n)
    | succ m =>
      have hli := congrArg String.toList h
      unfold countedName at hli
      simp only [String.toList_append, List.append_cancel_left_eq, Nat.toString_eq_repr, Nat.toList_repr] at hli
      have hco := congrArg (fun digits => Nat.ofDigitChars 10 digits 0) hli
      simpa using hco

private theorem dir_freeNameFrom {tries n : Nat} (h : freeNameFrom d base tries n ∈ d) :
    ∀ i ≤ tries, countedName base (n + i) ∈ d := by
  induction tries generalizing n with
  | zero =>
    intro i hi
    obtain rfl : i = 0 := by omega
    exact h
  | succ tries ih =>
    unfold freeNameFrom at h
    split at h
    · rename_i htk
      intro i hi
      cases i with
      | zero => exact htk
      | succ i =>
        have hnext := ih h i (by omega)
        rwa [show n + (i + 1) = n + 1 + i from by omega]
    · rename_i hfree
      exact absurd h hfree

theorem freeName_notMem (d : Directory) (base : String) : freeName d base ∉ d := by
  intro hmem
  have htk := dir_freeNameFrom hmem
  have hnd : ((List.range (d.entries.length + 1)).map (countedName base)).Nodup :=
    List.nodup_range.map (dir_countedName_injective base)
  have hsu : (List.range (d.entries.length + 1)).map (countedName base) ⊆ d.keys := by
    intro name hname
    obtain ⟨i, hi, rfl⟩ := List.mem_map.1 hname
    have hthis := htk i (by have := List.mem_range.1 hi; omega)
    rw [Nat.zero_add] at hthis
    exact AList.mem_keys.1 hthis
  have hle := (List.subperm_of_subset hnd hsu).length_le
  rw [List.length_map, List.length_range] at hle
  have hkeys : d.keys.length = d.entries.length := List.length_map _
  omega

end FreeNames
