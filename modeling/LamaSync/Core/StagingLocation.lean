import LamaSync.Core.Text
import Mathlib.Data.List.DropRight

/-!
# Where a seed is staged

`seedStagingPath` builds the path of the staging directory, and `validateStagingLocation` is there to refuse a staging
directory that does not lie beside the target.  Both compare the texts of the paths: neither resolves a dot component, a
path that is normalised twice is trimmed twice, and the builder does not look at the length that the validator bounds.
`staging_location_agrees` says for which targets the two agree and the staging directory really is a sibling.
-/

namespace LamaSync

def seedPathMaxLength : Nat := 4096

/-- `replace(/\/+/g, "/")`. -/
def collapseSlashes : List Char → List Char
  | [] => []
  | c :: cs => if c = '/' ∧ cs.head? = some '/' then collapseSlashes cs else c :: collapseSlashes cs

def normalizeAbsolutePath (path : List Char) : Option (List Char) :=
  let trimmed := trimSpaces path
  if trimmed = [] ∨ seedPathMaxLength < utf16Length trimmed then none
  else if trimmed.head? ≠ some '/' then none
  else
    let collapsed := collapseSlashes trimmed
    if collapsed = ['/'] then some ['/']
    else some (if collapsed.getLast? = some '/' then collapsed.dropLast else collapsed)

def beforeLastSlash (path : List Char) : List Char := (path.rdropWhile (· != '/')).dropLast

def afterLastSlash (path : List Char) : List Char := path.rtakeWhile (· != '/')

def parentPathOf (path : List Char) : Option (List Char) :=
  (normalizeAbsolutePath path).map fun normalized =>
    if beforeLastSlash normalized = [] then ['/'] else beforeLastSlash normalized

structure StagingLocationInput where
  stagingPath : List Char
  targetPath : List Char
  stagingDevice : Option Int
  targetDevice : Option Int
  sameFilesystemProven : Option Bool

structure StagingLocationVerdict where
  ok : Bool
  adjacentToTarget : Bool
  derivedSibling : Bool
  insideTarget : Bool
  sameFilesystem : Option Bool
  message : List Char
  deriving DecidableEq

def seedStagingDirPrefix : List Char := ".lamasync-seed-staging-".toList

def StagingLocationInput.sameFilesystem (input : StagingLocationInput) : Option Bool :=
  match input.sameFilesystemProven with
  | some proven => some proven
  | none => input.stagingDevice.bind fun staging => input.targetDevice.map fun target => decide (staging = target)

def validateStagingLocation (input : StagingLocationInput) : StagingLocationVerdict :=
  match normalizeAbsolutePath input.stagingPath, normalizeAbsolutePath input.targetPath with
  | some staging, some target =>
    let stagingParent := parentPathOf staging
    let targetParent := parentPathOf target
    let stagingBase := afterLastSlash staging
    let insideTarget := staging == target || (target ++ ['/']).isPrefixOf staging
    let adjacentToTarget := stagingParent.isSome && stagingParent == targetParent
    let derivedSibling := seedStagingDirPrefix.isPrefixOf stagingBase
    let verdict := fun ok message =>
      (⟨ok, adjacentToTarget, derivedSibling, insideTarget, input.sameFilesystem, message⟩ : StagingLocationVerdict)
    if insideTarget then
      verdict false ("The staging directory is inside the final target. Staging must be a sibling of the target, " ++
        "so the finished tree can be published with one atomic rename and never appears as managed content.").toList
    else if !adjacentToTarget then
      verdict false ("The staging directory is not a sibling of the target: staging must sit directly in `".toList ++
        targetParent.getD ['?'] ++ "`, the same directory that holds the target.".toList)
    else if !derivedSibling then
      verdict false ("The staging directory `".toList ++ stagingBase ++
        "` is not a seed staging directory. It must be named `".toList ++ seedStagingDirPrefix ++
        ("…` directly beside the target; publishing renames it over the target, so an " ++
          "unrelated directory is never published as the target.").toList)
    else
      match input.sameFilesystem with
      | some false =>
        verdict false ("The staging directory is on a different filesystem from the final target, so publishing would " ++
          "be a copy instead of an atomic rename. Put the staging directory beside the target.").toList
      | none =>
        verdict false ("The target device has not confirmed that the staging directory and the target share a filesystem, " ++
          "so publishing cannot be proven to be an atomic rename. The device confirms this in its next report.").toList
      | some true => verdict true "Staging is a sibling of the target on the same filesystem.".toList
  | _, _ => ⟨false, false, false, false, none, "Staging and target must both be absolute paths.".toList⟩

def safeJobName (jobId : List Char) : List Char :=
  let safeJob := (jobId.filter fun c => c.isAlphanum || c == '-').take 64
  if safeJob = [] then "job".toList else safeJob

def stagingPathOf (targetPath jobId : List Char) : Option (List Char) :=
  (normalizeAbsolutePath targetPath).map fun target =>
    let parent := (parentPathOf target).getD ['/']
    let base := if afterLastSlash target = [] then "target".toList else afterLastSlash target
    (if parent = ['/'] then [] else parent) ++ '/' :: (seedStagingDirPrefix ++ base ++ '-' :: safeJobName jobId)

def seedStagingPath (targetPath jobId : String) : Option String :=
  (stagingPathOf targetPath.toList jobId.toList).map String.ofList

def absoluteText (segments : List (List Char)) : List Char := segments.flatMap ('/' :: ·)

/-- Segments as a split leaves them, but for the empty ones. -/
def AreSegments (segments : List (List Char)) : Prop := ∀ s ∈ segments, s ≠ [] ∧ '/' ∉ s

def segmentsOf (path : List Char) : List (List Char) := (path.splitOn '/').filter fun s => !s.isEmpty

section Segments

variable {segments : List (List Char)} {word rest : List Char}

theorem segmentsOf_slash : segmentsOf ('/' :: rest) = segmentsOf rest := by
  have hsp := List.splitOn_append_cons_self ([] : List Char) rest (a := '/')
  rw [List.nil_append, List.splitOn_nil] at hsp
  unfold segmentsOf
  rw [hsp]
  rfl

theorem segmentsOf_word (hne : word ≠ []) (hno : '/' ∉ word) : segmentsOf word = [word] := by
  unfold segmentsOf
  rw [List.splitOn_eq_singleton hno]
  simp [hne]

theorem segmentsOf_word_slash (hne : word ≠ []) (hno : '/' ∉ word) :
    segmentsOf (word ++ '/' :: rest) = word :: segmentsOf rest := by
  unfold segmentsOf
  rw [List.splitOn_append_cons_self_of_not_mem hno]
  simp [hne]

theorem segmentsOf_absoluteText_append (h : AreSegments segments) (rest : List Char) :
    segmentsOf (absoluteText segments ++ '/' :: rest) = segments ++ segmentsOf rest := by
  induction segments with
  | nil => exact segmentsOf_slash
  | cons s ss ih =>
    obtain ⟨hne, hno⟩ := h s (.head _)
    have hss := ih fun t ht => h t (.tail _ ht)
    obtain ⟨more, hmore⟩ : ∃ more, absoluteText ss ++ '/' :: rest = '/' :: more := by
      cases ss with
      | nil => exact ⟨rest, rfl⟩
      | cons t ts => exact ⟨t ++ absoluteText ts ++ '/' :: rest, rfl⟩
    have hcons : absoluteText (s :: ss) ++ '/' :: rest = '/' :: (s ++ '/' :: more) := by
      rw [← hmore]
      simp [absoluteText]
    rw [hmore, segmentsOf_slash] at hss
    rw [hcons, segmentsOf_slash, segmentsOf_word_slash hne hno, hss, List.cons_append]

theorem word_cases (path : List Char) : ∃ word, '/' ∉ word ∧ (path = word ∨ ∃ rest, path = word ++ '/' :: rest) := by
  induction path with
  | nil => exact ⟨[], by simp, .inl rfl⟩
  | cons c cs ih =>
    by_cases hc : c = '/'
    · exact ⟨[], by simp, .inr ⟨cs, by rw [hc]; rfl⟩⟩
    obtain ⟨word, hno, hca⟩ := ih
    refine ⟨c :: word, by simp [Ne.symm hc, hno], ?_⟩
    rcases hca with rfl | ⟨rest, rfl⟩
    · exact .inl rfl
    · exact .inr ⟨rest, rfl⟩

theorem collapseSlashes_word (hno : '/' ∉ word) (rest : List Char) :
    collapseSlashes (word ++ rest) = word ++ collapseSlashes rest := by
  induction word with
  | nil => rfl
  | cons c cs ih =>
    have hc : ¬(c = '/' ∧ (cs ++ rest).head? = some '/') := fun h => hno (by simp [h.1])
    have hcs : '/' ∉ cs := fun h => hno (.tail _ h)
    rw [List.cons_append, collapseSlashes, if_neg hc, ih hcs, List.cons_append]

theorem collapseSlashes_double : collapseSlashes ('/' :: '/' :: rest) = collapseSlashes ('/' :: rest) := by
  rw [collapseSlashes, if_pos ⟨rfl, rfl⟩]

theorem collapseSlashes_slash_word (hne : word ≠ []) (hno : '/' ∉ word) (rest : List Char) :
    collapseSlashes ('/' :: (word ++ rest)) = '/' :: (word ++ collapseSlashes rest) := by
  have hhead : ¬('/' = '/' ∧ (word ++ rest).head? = some '/') := by
    rintro ⟨-, h⟩
    cases word with
    | nil => exact hne rfl
    | cons c cs =>
      have hc : c = '/' := by simpa using h
      exact hno (hc ▸ .head _)
  rw [collapseSlashes, if_neg hhead, collapseSlashes_word hno]

theorem collapseSlashes_slash (path : List Char) :
    (segmentsOf path = [] ∧ collapseSlashes ('/' :: path) = ['/']) ∨
    (segmentsOf path ≠ [] ∧ (collapseSlashes ('/' :: path) = absoluteText (segmentsOf path) ∨
      collapseSlashes ('/' :: path) = absoluteText (segmentsOf path) ++ ['/'])) := by
  induction hlen : path.length using Nat.strong_induction_on generalizing path with
  | _ n ih =>
    obtain ⟨word, hno, hc⟩ := word_cases path
    by_cases hword : word = []
    · subst hword
      rcases hc with rfl | ⟨rest, rfl⟩
      · exact .inl ⟨rfl, rfl⟩
      · rw [List.nil_append, segmentsOf_slash, collapseSlashes_double]
        exact ih rest.length (by simp [← hlen]) rest rfl
    right
    rcases hc with rfl | ⟨rest, rfl⟩
    · rw [segmentsOf_word hword hno]
      have h := collapseSlashes_slash_word hword hno []
      rw [List.append_nil] at h
      exact ⟨by simp, .inl h⟩
    rw [segmentsOf_word_slash hword hno]
    have h := collapseSlashes_slash_word hword hno ('/' :: rest)
    have hrest := ih rest.length (by simp [← hlen]; omega) rest rfl
    refine ⟨by simp, ?_⟩
    rw [h]
    rcases hrest with ⟨hnil, hcoll⟩ | ⟨hne, hcoll | hcoll⟩
    · rw [hcoll, hnil]
      exact .inr (by simp [absoluteText])
    · rw [hcoll]
      exact .inl (by simp [absoluteText])
    · rw [hcoll]
      exact .inr (by simp [absoluteText])

theorem areSegments_segmentsOf (path : List Char) : AreSegments (segmentsOf path) := by
  induction hlen : path.length using Nat.strong_induction_on generalizing path with
  | _ n ih =>
    obtain ⟨word, hno, hc⟩ := word_cases path
    by_cases hword : word = []
    · subst hword
      rcases hc with rfl | ⟨rest, rfl⟩
      · exact fun s hs => absurd hs (by simp [segmentsOf])
      · rw [List.nil_append, segmentsOf_slash]
        exact ih rest.length (by simp [← hlen]) rest rfl
    rcases hc with rfl | ⟨rest, rfl⟩
    · rw [segmentsOf_word hword hno]
      simp [AreSegments, hword, hno]
    · rw [segmentsOf_word_slash hword hno]
      have hrest := ih rest.length (by simp [← hlen]; omega) rest rfl
      rintro s (_ | ⟨_, hs⟩)
      · exact ⟨hword, hno⟩
      · exact hrest s hs

theorem getLast_absoluteText (h : AreSegments segments) : (absoluteText segments).getLast? ≠ some '/' := by
  rcases List.eq_nil_or_concat segments with rfl | ⟨init, last, rfl⟩
  · simp [absoluteText]
  obtain ⟨hne, hno⟩ := h last (by simp)
  rw [List.concat_eq_append]
  have htext : absoluteText (init ++ [last]) = absoluteText init ++ '/' :: last := by simp [absoluteText]
  rw [htext]
  intro h
  have hmem : '/' ∈ last := by
    rw [List.getLast?_append, List.getLast?_cons] at h
    cases hlast : last.getLast? with
    | none => exact absurd (List.getLast?_eq_none_iff.1 hlast) hne
    | some c =>
      have hc : c = '/' := by simpa [hlast] using h
      exact hc ▸ List.mem_of_getLast? hlast
  exact hno hmem

end Segments

section Texts

variable {segments above : List (List Char)} {last path target : List Char}

theorem utf16Length_cons (c : Char) (cs : List Char) :
    utf16Length (c :: cs) = (if c.toNat ≤ 0xFFFF then 1 else 2) + utf16Length cs := by
  have hfold : ∀ (cs : List Char) (n : Nat),
      cs.foldl (fun n c => n + if c.toNat ≤ 0xFFFF then 1 else 2) n = n + utf16Length cs := by
    intro cs
    induction cs with
    | nil => simp [utf16Length]
    | cons d ds ih =>
      intro n
      have hd := ih (n + if d.toNat ≤ 0xFFFF then 1 else 2)
      have hd0 := ih (0 + if d.toNat ≤ 0xFFFF then 1 else 2)
      simp only [utf16Length, List.foldl_cons] at hd hd0 ⊢
      omega
  have h := hfold cs (0 + if c.toNat ≤ 0xFFFF then 1 else 2)
  rw [utf16Length, List.foldl_cons, h, Nat.zero_add]

theorem utf16Length_append (cs ds : List Char) : utf16Length (cs ++ ds) = utf16Length cs + utf16Length ds := by
  induction cs with
  | nil => simp [utf16Length]
  | cons c cs ih => rw [List.cons_append, utf16Length_cons, utf16Length_cons, ih, Nat.add_assoc]

theorem utf16Length_sublist {cs ds : List Char} (h : cs.Sublist ds) : utf16Length cs ≤ utf16Length ds := by
  induction h with
  | slnil => exact le_refl _
  | cons c _ ih =>
    rw [utf16Length_cons]
    omega
  | cons_cons c _ ih =>
    rw [utf16Length_cons, utf16Length_cons]
    omega

theorem trimSpaces_eq (cs : List Char) : trimSpaces cs = (cs.dropWhile isJsSpace).rdropWhile isJsSpace := rfl

theorem trimSpaces_slash (cs : List Char) : trimSpaces ('/' :: cs) = ('/' :: cs).rdropWhile isJsSpace := by
  rw [trimSpaces_eq, List.dropWhile_cons_of_neg (by decide)]

theorem rdropWhile_append_of_some (cs : List Char) {ds : List Char} (h : ds.rdropWhile isJsSpace ≠ []) :
    (cs ++ ds).rdropWhile isJsSpace = cs ++ ds.rdropWhile isJsSpace := by
  have hre : ds.reverse.dropWhile isJsSpace ≠ [] := fun hnil => h (by rw [List.rdropWhile, hnil]; rfl)
  rw [List.rdropWhile, List.reverse_append, List.dropWhile_append, if_neg (by simpa using hre),
    List.reverse_append, List.reverse_reverse, List.rdropWhile]

def normalForm (segments : List (List Char)) : List Char := if segments = [] then ['/'] else absoluteText segments

theorem absoluteText_concat : absoluteText (above ++ [last]) = absoluteText above ++ '/' :: last := by
  simp [absoluteText]

theorem segmentsOf_absoluteText_concat (h : AreSegments (above ++ [last])) :
    segmentsOf (absoluteText (above ++ [last])) = above ++ [last] := by
  obtain ⟨hne, hno⟩ := h last (by simp)
  rw [absoluteText_concat, segmentsOf_absoluteText_append fun s hs => h s (List.mem_append_left _ hs), segmentsOf_word hne hno]

theorem normalizeAbsolutePath_of_trimmed (hhead : (trimSpaces path).head? = some '/')
    (hlen : utf16Length (trimSpaces path) ≤ seedPathMaxLength) :
    normalizeAbsolutePath path = some (normalForm (segmentsOf (trimSpaces path))) := by
  unfold normalizeAbsolutePath
  dsimp only
  cases htrim : trimSpaces path with
  | nil => simp [htrim] at hhead
  | cons c cs =>
    rw [htrim] at hhead hlen
    obtain rfl : c = '/' := by simpa using hhead
    rw [if_neg (by simp; omega), if_neg (by simp), segmentsOf_slash]
    have hlast := getLast_absoluteText (areSegments_segmentsOf cs)
    rcases collapseSlashes_slash cs with ⟨hnil, hcoll⟩ | ⟨hne, hcoll | hcoll⟩
    · simp [hcoll, hnil, normalForm]
    · have hroot : absoluteText (segmentsOf cs) ≠ ['/'] := fun h => hlast (by rw [h]; rfl)
      rw [hcoll, if_neg hroot, if_neg hlast, normalForm, if_neg hne]
    have hroot : absoluteText (segmentsOf cs) ++ ['/'] ≠ ['/'] := by
      intro h
      obtain ⟨s, ss, hsegs⟩ := List.exists_cons_of_ne_nil hne
      rw [hsegs] at h
      simp [absoluteText] at h
    rw [hcoll, if_neg hroot, if_pos (by simp), normalForm, if_neg hne, List.dropLast_concat]

theorem normalizeAbsolutePath_some (h : normalizeAbsolutePath path = some target) :
    (trimSpaces path).head? = some '/' ∧ utf16Length (trimSpaces path) ≤ seedPathMaxLength ∧
      target = normalForm (segmentsOf (trimSpaces path)) := by
  have hch : (trimSpaces path).head? = some '/' ∧ utf16Length (trimSpaces path) ≤ seedPathMaxLength := by
    unfold normalizeAbsolutePath at h
    dsimp only at h
    split at h
    · cases h
    rename_i hbd
    split at h
    · cases h
    rename_i hhead
    rw [not_or] at hbd
    exact ⟨not_not.1 hhead, by omega⟩
  refine ⟨hch.1, hch.2, ?_⟩
  rw [normalizeAbsolutePath_of_trimmed hch.1 hch.2] at h
  exact (Option.some.inj h).symm

theorem beforeLastSlash_concat (hno : '/' ∉ last) (text : List Char) : beforeLastSlash (text ++ '/' :: last) = text := by
  have hdrop : (text ++ '/' :: last).rdropWhile (· != '/') = text ++ ['/'] := by
    have hre : (last.reverse ++ '/' :: text.reverse).dropWhile (· != '/') = '/' :: text.reverse := by
      rw [List.dropWhile_append_of_pos fun c hc => by
        have hmem : c ∈ last := List.mem_reverse.1 hc
        simpa using fun (heq : c = '/') => hno (heq ▸ hmem)]
      exact List.dropWhile_cons_of_neg (by simp)
    rw [List.rdropWhile, List.reverse_append, List.reverse_cons, List.append_assoc, List.singleton_append, hre]
    simp
  rw [beforeLastSlash, hdrop, List.dropLast_concat]

theorem afterLastSlash_concat (hno : '/' ∉ last) (text : List Char) : afterLastSlash (text ++ '/' :: last) = last := by
  have hre : (last.reverse ++ '/' :: text.reverse).takeWhile (· != '/') = last.reverse := by
    rw [List.takeWhile_append_of_pos fun c hc => by
      have hmem : c ∈ last := List.mem_reverse.1 hc
      simpa using fun (heq : c = '/') => hno (heq ▸ hmem)]
    simp
  rw [afterLastSlash, List.rtakeWhile, List.reverse_append, List.reverse_cons, List.append_assoc, List.singleton_append,
    hre, List.reverse_reverse]

theorem parentPathOf_eq (h : normalizeAbsolutePath path = some target) :
    parentPathOf path = some (normalForm (segmentsOf (trimSpaces path)).dropLast) := by
  have hsegs := areSegments_segmentsOf (trimSpaces path)
  rw [parentPathOf, h, Option.map_some, (normalizeAbsolutePath_some h).2.2]
  rcases List.eq_nil_or_concat (segmentsOf (trimSpaces path)) with hnil | ⟨above, last, hco⟩
  · rw [hnil]
    rfl
  rw [List.concat_eq_append] at hco
  rw [hco] at hsegs ⊢
  have hbef := beforeLastSlash_concat (hsegs last (by simp)).2 (absoluteText above)
  have hform : normalForm (above ++ [last]) = absoluteText above ++ '/' :: last := by
    rw [normalForm, if_neg (by simp), absoluteText_concat]
  rw [List.dropLast_concat, hform, hbef, normalForm]
  cases above with
  | nil => rfl
  | cons s ss => rw [if_neg (by simp [absoluteText]), if_neg (by simp)]

end Texts

/-- The components of a path, with those above them cancelled by `..`. -/
def resolveDots (segments : List (List Char)) : List (List Char) :=
  segments.foldl (fun above s => if s = ['.'] then above else if s = ['.', '.'] then above.dropLast else above ++ [s]) []

def resolvedPath (path : List Char) : List (List Char) := resolveDots (segmentsOf (trimSpaces path))

structure StagedBeside (targetPath stagingPath : List Char) : Prop where
  accepted : (validateStagingLocation ⟨stagingPath, targetPath, none, none, some true⟩).ok = true
  sibling : ∃ directory target staging,
    resolvedPath targetPath = directory ++ [target] ∧ resolvedPath stagingPath = directory ++ [staging]
  distinct : resolvedPath stagingPath ≠ resolvedPath targetPath
  outside : ¬resolvedPath targetPath <+: resolvedPath stagingPath

/-- The directory that the builder takes the target to be in.  It trims the path once more, and so does not see a
component of white space at the end. -/
def builderParent (above : List (List Char)) (last : List Char) : List (List Char) :=
  if last.all isJsSpace then above.dropLast else above

/-- The target has a final component that is no dot component, the builder sees the directory of it, and the name beside
it is not too long. -/
def Stageable (targetPath jobId : List Char) : Prop :=
  ∃ above last, segmentsOf (trimSpaces targetPath) = above ++ [last] ∧ last ≠ ['.'] ∧ last ≠ ['.', '.'] ∧
    resolveDots (builderParent above last) = resolveDots above ∧
    utf16Length (absoluteText (builderParent above last)) + utf16Length last + utf16Length (safeJobName jobId) + 25 ≤
      seedPathMaxLength

section Siblings

variable {segments above : List (List Char)} {last path target targetPath jobId staging : List Char}

/-- What a second normalisation makes of a path. -/
theorem segmentsOf_trim_normalForm (h : AreSegments (above ++ [last])) :
    (segmentsOf (trimSpaces (normalForm (above ++ [last])))).dropLast = builderParent above last := by
  have hform : normalForm (above ++ [last]) = absoluteText above ++ '/' :: last := by
    rw [normalForm, if_neg (by simp), absoluteText_concat]
  have htrim : trimSpaces (absoluteText above ++ '/' :: last) = (absoluteText above ++ '/' :: last).rdropWhile isJsSpace := by
    cases above with
    | nil => exact trimSpaces_slash last
    | cons s ss => exact trimSpaces_slash _
  have hab : AreSegments above := fun s hs => h s (List.mem_append_left _ hs)
  obtain ⟨hne, hno⟩ := h last (by simp)
  have hsl : ∀ rest : List Char, (absoluteText above ++ '/' :: rest) = absoluteText above ++ (['/'] ++ rest) := fun rest => rfl
  rw [hform, htrim, builderParent]
  by_cases hall : last.all isJsSpace = true
  · have hdrop : ('/' :: last).rdropWhile isJsSpace = ['/'] := by
      have hlast : last.reverse.dropWhile isJsSpace = [] := by
        rw [List.dropWhile_eq_nil_iff]
        intro c hc
        exact List.all_eq_true.1 hall c (List.mem_reverse.1 hc)
      rw [List.rdropWhile, List.reverse_cons, List.dropWhile_append, hlast]
      rfl
    rw [if_pos hall, rdropWhile_append_of_some _ (by rw [hdrop]; simp), hdrop, segmentsOf_absoluteText_append hab]
    simp [segmentsOf]
  · have hword : last.rdropWhile isJsSpace ≠ [] := by
      intro hnil
      rw [List.rdropWhile_eq_nil_iff] at hnil
      exact hall (List.all_eq_true.2 hnil)
    have hdrop : ('/' :: last).rdropWhile isJsSpace = '/' :: last.rdropWhile isJsSpace :=
      rdropWhile_append_of_some ['/'] hword
    have hnoWord : '/' ∉ last.rdropWhile isJsSpace := fun hmem => hno ((List.rdropWhile_prefix _ last).subset hmem)
    rw [if_neg hall, rdropWhile_append_of_some _ (by rw [hdrop]; simp), hdrop, segmentsOf_absoluteText_append hab,
      segmentsOf_word hword hnoWord, List.dropLast_concat]

theorem safeJobName_chars {c : Char} (h : c ∈ safeJobName jobId) : c ≠ '/' ∧ isJsSpace c = false := by
  have hsafe : (c.isAlphanum || c == '-') = true := by
    unfold safeJobName at h
    dsimp only at h
    split at h
    · have hjob : ("job".toList.all fun d => d.isAlphanum || d == '-') = true := by decide
      exact List.all_eq_true.1 hjob c h
    · exact (List.mem_filter.1 (List.mem_of_mem_take h)).2
  have hra : (48 ≤ c.toNat ∧ c.toNat ≤ 57) ∨ (65 ≤ c.toNat ∧ c.toNat ≤ 90) ∨ (97 ≤ c.toNat ∧ c.toNat ≤ 122) ∨
      c.toNat = 45 := by
    rw [Bool.or_eq_true, beq_iff_eq] at hsafe
    rcases hsafe with hal | rfl
    · delta Char.isAlphanum Char.isAlpha Char.isUpper Char.isLower Char.isDigit at hal
      simp only [Bool.or_eq_true, Bool.and_eq_true, decide_eq_true_eq, ge_iff_le, UInt32.le_iff_toNat_le] at hal
      have hval : c.val.toNat = c.toNat := rfl
      rw [hval] at hal
      have hco : ((65 ≤ c.toNat ∧ c.toNat ≤ 90) ∨ (97 ≤ c.toNat ∧ c.toNat ≤ 122)) ∨ (48 ≤ c.toNat ∧ c.toNat ≤ 57) :=
        hal
      omega
    · exact .inr (.inr (.inr rfl))
  constructor
  · rintro rfl
    revert hra
    decide
  · simp only [isJsSpace, Bool.or_eq_false_iff, Bool.and_eq_false_iff, decide_eq_false_iff_not, beq_eq_false_iff_ne]
    omega

theorem staging_name (base : List Char) (hno : '/' ∉ base) :
    '/' ∉ seedStagingDirPrefix ++ base ++ '-' :: safeJobName jobId ∧
      seedStagingDirPrefix <+: seedStagingDirPrefix ++ base ++ '-' :: safeJobName jobId ∧
      (∃ name c, seedStagingDirPrefix ++ base ++ '-' :: safeJobName jobId = name ++ [c] ∧ isJsSpace c = false) ∧
      utf16Length (seedStagingDirPrefix ++ base ++ '-' :: safeJobName jobId) =
        utf16Length base + utf16Length (safeJobName jobId) + 24 := by
  have hch : ∀ c ∈ safeJobName jobId, c ≠ '/' ∧ isJsSpace c = false := fun _ hc => safeJobName_chars hc
  have hne : safeJobName jobId ≠ [] := by
    unfold safeJobName
    dsimp only
    split
    · decide
    · assumption
  refine ⟨?_, ?_, ?_, ?_⟩
  · have hst : '/' ∉ seedStagingDirPrefix := by decide
    simp only [List.mem_append, List.mem_cons, not_or]
    exact ⟨⟨hst, hno⟩, by decide, fun hmem => (hch _ hmem).1 rfl⟩
  · rw [List.append_assoc]
    exact List.prefix_append _ _
  · obtain ⟨name, c, hname⟩ : ∃ name c, safeJobName jobId = name ++ [c] := by
      rcases List.eq_nil_or_concat (safeJobName jobId) with hnil | ⟨name, c, hco⟩
      · exact absurd hnil hne
      · exact ⟨name, c, by rw [hco, List.concat_eq_append]⟩
    refine ⟨seedStagingDirPrefix ++ base ++ '-' :: name, c, by rw [hname]; simp, ?_⟩
    exact (hch c (by rw [hname]; simp)).2
  · have hst : utf16Length seedStagingDirPrefix = 23 := by decide
    have hdash : utf16Length ('-' :: safeJobName jobId) = 1 + utf16Length (safeJobName jobId) := utf16Length_cons _ _
    rw [utf16Length_append, utf16Length_append, hst, hdash]
    omega

theorem resolveDots_concat :
    resolveDots (above ++ [last]) =
      if last = ['.'] then resolveDots above
      else if last = ['.', '.'] then (resolveDots above).dropLast
      else resolveDots above ++ [last] := by
  rw [resolveDots, List.foldl_append]
  rfl

theorem normalForm_sublist (h : (trimSpaces path).head? = some '/') :
    (normalForm (segmentsOf (trimSpaces path))).Sublist (trimSpaces path) := by
  have hcoll : ∀ cs : List Char, (collapseSlashes cs).Sublist cs := by
    intro cs
    induction cs with
    | nil => exact List.Sublist.slnil
    | cons c cs ih =>
      rw [collapseSlashes]
      split
      · exact ih.cons c
      · exact ih.cons_cons c
  cases htrim : trimSpaces path with
  | nil => simp [htrim] at h
  | cons c cs =>
    rw [htrim] at h
    obtain rfl : c = '/' := by simpa using h
    have hsub := hcoll ('/' :: cs)
    rw [segmentsOf_slash]
    rcases collapseSlashes_slash cs with ⟨hnil, htext⟩ | ⟨hne, htext | htext⟩
    · rw [hnil, ← show collapseSlashes ('/' :: cs) = normalForm [] from htext]
      exact hsub
    · rw [normalForm, if_neg hne, ← htext]
      exact hsub
    · rw [normalForm, if_neg hne]
      exact (List.sublist_append_left _ _).trans (htext ▸ hsub)

theorem normalizeAbsolutePath_normalForm (h : normalizeAbsolutePath path = some target) :
    ∃ again, normalizeAbsolutePath target = some again := by
  obtain ⟨hhead, hlen, htgt⟩ := normalizeAbsolutePath_some h
  have hsub := normalForm_sublist hhead
  rw [← htgt] at hsub
  obtain ⟨rest, hrest⟩ : ∃ rest, target = '/' :: rest := by
    rw [htgt, normalForm]
    cases segmentsOf (trimSpaces path) with
    | nil => exact ⟨[], rfl⟩
    | cons s ss => exact ⟨s ++ absoluteText ss, rfl⟩
  have htrim : trimSpaces target = target.rdropWhile isJsSpace := by
    rw [hrest]
    exact trimSpaces_slash rest
  have hst := List.rdropWhile_prefix isJsSpace target
  refine ⟨_, normalizeAbsolutePath_of_trimmed ?_ ?_⟩
  · have hne : target.rdropWhile isJsSpace ≠ [] := by
      intro hnil
      rw [List.rdropWhile_eq_nil_iff] at hnil
      have hsl := hnil '/' (by rw [hrest]; exact .head _)
      exact absurd hsl (by decide)
    obtain ⟨c, cs, hcs⟩ := List.exists_cons_of_ne_nil hne
    obtain ⟨more, hmore⟩ := hst
    rw [hcs, hrest, List.cons_append] at hmore
    rw [htrim, hcs, (List.cons.inj hmore).1]
    rfl
  · rw [htrim]
    exact (utf16Length_sublist (hst.sublist.trans hsub)).trans hlen

theorem builderParent_subset : builderParent above last ⊆ above := by
  unfold builderParent
  split
  · exact List.dropLast_subset _
  · exact List.Subset.refl _

theorem builderParent_length : (builderParent above last).length ≤ above.length := by
  unfold builderParent
  split
  · simp
  · exact le_refl _

theorem count_absoluteText (h : AreSegments segments) : (absoluteText segments).count '/' = segments.length := by
  induction segments with
  | nil => rfl
  | cons s ss ih =>
    have hs : s.count '/' = 0 := List.count_eq_zero.2 (h s (.head _)).2
    have hss := ih fun t ht => h t (.tail _ ht)
    have hcons : absoluteText (s :: ss) = '/' :: (s ++ absoluteText ss) := rfl
    rw [hcons, List.count_cons_self, List.count_append, hs, hss, List.length_cons, Nat.zero_add]

theorem trimSpaces_absoluteText {name : List Char} {c : Char} (hlast : last = name ++ [c]) (hc : isJsSpace c = false) :
    trimSpaces (absoluteText (above ++ [last])) = absoluteText (above ++ [last]) := by
  obtain ⟨rest, hrest⟩ : ∃ rest, absoluteText (above ++ [last]) = '/' :: rest := by
    cases above with
    | nil | cons s ss => exact ⟨_, rfl⟩
  have hend : absoluteText (above ++ [last]) = (absoluteText above ++ '/' :: name) ++ [c] := by
    rw [absoluteText_concat, hlast]
    simp
  rw [hrest, trimSpaces_slash, ← hrest, hend, List.rdropWhile_concat_neg _ _ _ (by simp [hc])]

theorem stagingPathOf_eq (jobId : List Char) (h : normalizeAbsolutePath targetPath = some target)
    (hsegs : segmentsOf (trimSpaces targetPath) = above ++ [last]) :
    stagingPathOf targetPath jobId =
      some (absoluteText (builderParent above last ++ [seedStagingDirPrefix ++ last ++ '-' :: safeJobName jobId])) := by
  obtain ⟨again, hag⟩ := normalizeAbsolutePath_normalForm h
  have htgt := (normalizeAbsolutePath_some h).2.2
  rw [hsegs] at htgt
  have hare := areSegments_segmentsOf (trimSpaces targetPath)
  rw [hsegs] at hare
  have hpa := parentPathOf_eq hag
  rw [htgt, segmentsOf_trim_normalForm hare] at hpa
  obtain ⟨hne, hno⟩ := hare last (by simp)
  have hform : normalForm (above ++ [last]) = absoluteText above ++ '/' :: last := by
    rw [normalForm, if_neg (by simp), absoluteText_concat]
  have haf := afterLastSlash_concat hno (absoluteText above)
  rw [stagingPathOf, h, Option.map_some, htgt, hpa, hform, haf, absoluteText_concat]
  have hroot : (if normalForm (builderParent above last) = ['/'] then [] else normalForm (builderParent above last)) =
      absoluteText (builderParent above last) := by
    unfold normalForm
    by_cases hnil : builderParent above last = []
    · rw [if_pos hnil, if_pos rfl, hnil]
      rfl
    rw [if_neg hnil, if_neg]
    intro hsl
    obtain ⟨s, ss, hcons⟩ := List.exists_cons_of_ne_nil hnil
    have hs := hare s (List.mem_append_left _ ?_)
    · rw [hcons] at hsl
      simp [absoluteText, hs.1] at hsl
    have hmem : s ∈ builderParent above last := by rw [hcons]; exact .head _
    unfold builderParent at hmem
    split at hmem
    · exact List.dropLast_subset _ hmem
    · exact hmem
  simp only [Option.getD_some, hroot, if_neg hne]

theorem staging_accepted_iff (h : normalizeAbsolutePath targetPath = some target)
    (hsegs : segmentsOf (trimSpaces targetPath) = above ++ [last])
    (hstag : stagingPathOf targetPath jobId = some staging) :
    (validateStagingLocation ⟨staging, targetPath, none, none, some true⟩).ok = true ↔
      utf16Length staging ≤ seedPathMaxLength := by
  have hare := areSegments_segmentsOf (trimSpaces targetPath)
  rw [hsegs] at hare
  obtain ⟨hne, hno⟩ := hare last (by simp)
  obtain ⟨hnameNo, hnamePrefix, ⟨name, c, hname, hc⟩, hnameLength⟩ := @staging_name jobId last hno
  have hpath := stagingPathOf_eq jobId h hsegs
  rw [hstag] at hpath
  have htext := Option.some.inj hpath
  generalize hbase : seedStagingDirPrefix ++ last ++ '-' :: safeJobName jobId = base at *
  have hbaseNe : base ≠ [] := by
    rw [hname]
    simp
  have hareStaging : AreSegments (builderParent above last ++ [base]) := by
    refine List.forall_mem_append.2 ⟨?_, List.forall_mem_singleton.2 ⟨hbaseNe, hnameNo⟩⟩
    exact fun s hs => hare s (List.mem_append_left _ (builderParent_subset hs))
  have htrim : trimSpaces staging = staging := by
    rw [htext]
    exact trimSpaces_absoluteText hname hc
  have hhead : (trimSpaces staging).head? = some '/' := by
    rw [htrim, htext]
    cases builderParent above last <;> rfl
  by_cases hlen : utf16Length staging ≤ seedPathMaxLength
  · refine iff_of_true ?_ hlen
    have hnor : normalizeAbsolutePath staging = some staging := by
      have hform := normalizeAbsolutePath_of_trimmed hhead (by rw [htrim]; exact hlen)
      rw [htrim] at hform
      rw [hform, htext, segmentsOf_absoluteText_concat hareStaging, normalForm, if_neg (by simp)]
    have hpa : parentPathOf staging = some (normalForm (builderParent above last)) := by
      rw [parentPathOf_eq hnor, htrim, htext, segmentsOf_absoluteText_concat hareStaging, List.dropLast_concat]
    obtain ⟨again, hag⟩ := normalizeAbsolutePath_normalForm h
    have htgt := (normalizeAbsolutePath_some h).2.2
    rw [hsegs] at htgt
    have htargetParent : parentPathOf target = some (normalForm (builderParent above last)) := by
      rw [parentPathOf_eq hag, htgt, segmentsOf_trim_normalForm hare]
    have haf : afterLastSlash staging = base := by
      rw [htext, absoluteText_concat]
      exact afterLastSlash_concat hnameNo _
    have htargetText : target = absoluteText (above ++ [last]) := by
      rw [htgt, normalForm, if_neg (by simp)]
    have hco : target.count '/' = above.length + 1 := by
      rw [htargetText, count_absoluteText hare]
      simp
    have hcountStaging : staging.count '/' = (builderParent above last).length + 1 := by
      rw [htext, count_absoluteText hareStaging]
      simp
    have hdi : (staging == target) = false := by
      rw [beq_eq_false_iff_ne]
      intro heq
      have hlast : afterLastSlash target = last := by
        rw [htargetText, absoluteText_concat]
        exact afterLastSlash_concat hno _
      rw [← heq, haf] at hlast
      rw [hlast] at hnameLength
      omega
    have hou : (target ++ ['/']).isPrefixOf staging = false := by
      rw [← Bool.not_eq_true, List.isPrefixOf_iff_prefix]
      intro hst
      have hle := hst.sublist.count_le '/'
      have hparentLength : (builderParent above last).length ≤ above.length := builderParent_length
      rw [List.count_append, hco, hcountStaging] at hle
      have hone : ['/'].count '/' = 1 := rfl
      omega
    have hde : seedStagingDirPrefix.isPrefixOf base = true := List.isPrefixOf_iff_prefix.2 hnamePrefix
    simp [validateStagingLocation, hnor, h, hpa, htargetParent, haf, hdi, hou, hde,
      StagingLocationInput.sameFilesystem]
  · refine iff_of_false ?_ hlen
    have hnor : normalizeAbsolutePath staging = none := by
      cases hsome : normalizeAbsolutePath staging with
      | none => rfl
      | some form =>
        have hbd := (normalizeAbsolutePath_some hsome).2.1
        rw [htrim] at hbd
        exact absurd hbd hlen
    simp [validateStagingLocation, hnor]

theorem resolvedPath_staging (h : normalizeAbsolutePath targetPath = some target)
    (hsegs : segmentsOf (trimSpaces targetPath) = above ++ [last])
    (hstag : stagingPathOf targetPath jobId = some staging) :
    ∃ name, resolvedPath staging = resolveDots (builderParent above last) ++ [name] ∧ name ≠ last ∧
      utf16Length staging = utf16Length (absoluteText (builderParent above last)) + utf16Length last +
        utf16Length (safeJobName jobId) + 25 := by
  have hare := areSegments_segmentsOf (trimSpaces targetPath)
  rw [hsegs] at hare
  obtain ⟨hnameNo, hnamePrefix, ⟨name, c, hname, hc⟩, hnameLength⟩ := @staging_name jobId last (hare last (by simp)).2
  have hpath := stagingPathOf_eq jobId h hsegs
  rw [hstag] at hpath
  have htext := Option.some.inj hpath
  generalize hbase : seedStagingDirPrefix ++ last ++ '-' :: safeJobName jobId = base at *
  have hareStaging : AreSegments (builderParent above last ++ [base]) := by
    refine List.forall_mem_append.2 ⟨?_, List.forall_mem_singleton.2 ⟨by rw [hname]; simp, hnameNo⟩⟩
    exact fun s hs => hare s (List.mem_append_left _ (builderParent_subset hs))
  have hlong : 24 ≤ base.length := by
    have hpt : base.length = 23 + last.length + (1 + (safeJobName jobId).length) := by
      rw [← hbase, List.length_append, List.length_append, List.length_cons, Nat.add_comm (safeJobName jobId).length]
      rfl
    omega
  refine ⟨base, ?_, ?_, ?_⟩
  · have hdot : base ≠ ['.'] ∧ base ≠ ['.', '.'] := by
      constructor
      · rintro rfl
        simp at hlong
      · rintro rfl
        simp at hlong
    rw [resolvedPath, htext, trimSpaces_absoluteText hname hc, segmentsOf_absoluteText_concat hareStaging, resolveDots_concat,
      if_neg hdot.1, if_neg hdot.2]
  · rintro rfl
    omega
  · rw [htext, absoluteText_concat, utf16Length_append, utf16Length_cons, hnameLength]
    have hsl : (if '/'.toNat ≤ 0xFFFF then 1 else 2) = 1 := rfl
    omega

end Siblings

/-- The staging path is accepted and lies beside the target exactly when the target has a final component that is no dot
component, the builder sees the directory of it, and the path is not too long. -/
theorem staging_location_agrees (targetPath jobId staging : String) (h : seedStagingPath targetPath jobId = some staging) :
    StagedBeside targetPath.toList staging.toList ↔ Stageable targetPath.toList jobId.toList := by
  obtain ⟨stagingText, hstag, htext⟩ := Option.map_eq_some_iff.1 h
  have hlist : staging.toList = stagingText := by rw [← htext, String.toList_ofList]
  rw [hlist]
  obtain ⟨target, htgt⟩ : ∃ target, normalizeAbsolutePath targetPath.toList = some target := by
    rw [stagingPathOf] at hstag
    obtain ⟨target, htgt, -⟩ := Option.map_eq_some_iff.1 hstag
    exact ⟨target, htgt⟩
  rcases List.eq_nil_or_concat (segmentsOf (trimSpaces targetPath.toList)) with hnil | ⟨above, last, hco⟩
  · refine iff_of_false (fun hbe => ?_) ?_
    · obtain ⟨directory, name, other, hres, -⟩ := hbe.sibling
      rw [resolvedPath, hnil] at hres
      simp [resolveDots] at hres
    · rintro ⟨above, last, hsegs, -⟩
      rw [hnil] at hsegs
      simp at hsegs
  rw [List.concat_eq_append] at hco
  obtain ⟨name, hres, hname, hlen⟩ := resolvedPath_staging htgt hco hstag
  have hacc := staging_accepted_iff htgt hco hstag
  have htargetResolved : resolvedPath targetPath.toList = resolveDots (above ++ [last]) := by rw [resolvedPath, hco]
  constructor
  · intro hbe
    obtain ⟨directory, targetName, stagingName, hin, hbesideIt⟩ := hbe.sibling
    rw [hres] at hbesideIt
    have hdir := (List.append_inj' hbesideIt rfl).1
    rw [htargetResolved, resolveDots_concat, ← hdir] at hin
    have hbd := hacc.1 hbe.accepted
    -- a dot component would leave the target above the staging directory
    have hdot : last ≠ ['.'] := by
      rintro rfl
      have hpa : builderParent above ['.'] = above := by rw [builderParent, if_neg (by decide)]
      rw [if_pos rfl, hpa] at hin
      have hle := congrArg List.length hin
      simp at hle
    have hdots : last ≠ ['.', '.'] := by
      rintro rfl
      have hpa : builderParent above ['.', '.'] = above := by rw [builderParent, if_neg (by decide)]
      rw [if_neg (by decide), if_pos rfl, hpa] at hin
      have hle := congrArg List.length hin
      rw [List.length_dropLast, List.length_append, List.length_singleton] at hle
      omega
    rw [if_neg hdot, if_neg hdots] at hin
    exact ⟨above, last, hco, hdot, hdots, (List.append_inj' hin rfl).1.symm, by omega⟩
  · rintro ⟨above', last', hsegs, hdot, hdots, hpa, hbd⟩
    rw [hco] at hsegs
    obtain ⟨rfl, hlast⟩ := List.append_inj' hsegs rfl
    obtain rfl := (List.cons.inj hlast).1
    have hin : resolvedPath targetPath.toList = resolveDots above ++ [last] := by
      rw [htargetResolved, resolveDots_concat, if_neg hdot, if_neg hdots]
    rw [hpa] at hres
    have hdist : resolveDots above ++ [name] ≠ resolveDots above ++ [last] := by
      intro heq
      exact hname (by simpa using heq)
    refine ⟨hacc.2 (by omega), ⟨resolveDots above, last, name, hin, hres⟩, ?_, ?_⟩
    · rw [hres, hin]
      exact hdist
    rw [hres, hin]
    intro hst
    exact hdist (hst.eq_of_length (by simp)).symm

/-- A target that is written with a dot behind it: the staging path is accepted, and inside the target. -/
theorem dot_target_stages_inside :
    let targetPath := "/data/photos/."
    let stagingPath := "/data/photos/.lamasync-seed-staging-.-job"
    seedStagingPath targetPath "job" = some stagingPath ∧
      (validateStagingLocation ⟨stagingPath.toList, targetPath.toList, none, none, some true⟩).ok = true ∧
      resolvedPath targetPath.toList <+: resolvedPath stagingPath.toList ∧
      ¬StagedBeside targetPath.toList stagingPath.toList := by
  have hin : seedStagingPath "/data/photos/." "job" = some "/data/photos/.lamasync-seed-staging-.-job" ∧
      (validateStagingLocation ⟨"/data/photos/.lamasync-seed-staging-.-job".toList, "/data/photos/.".toList, none, none,
        some true⟩).ok = true ∧
      resolvedPath "/data/photos/.".toList <+: resolvedPath "/data/photos/.lamasync-seed-staging-.-job".toList := by
    decide +kernel
  exact ⟨hin.1, hin.2.1, hin.2.2, fun hbe => hbe.outside hin.2.2⟩

theorem staging_location_agrees_photos :
    seedStagingPath "/data/photos" "job" = some "/data/.lamasync-seed-staging-photos-job" ∧
      (StagedBeside "/data/photos".toList "/data/.lamasync-seed-staging-photos-job".toList ↔
        Stageable "/data/photos".toList "job".toList) := by
  have h : seedStagingPath "/data/photos" "job" = some "/data/.lamasync-seed-staging-photos-job" := by decide +kernel
  exact ⟨h, staging_location_agrees _ _ _ h⟩

end LamaSync
