import LamaSync.Core.StagingLocation

/-!
# The publication of a staged tree

`publishStagedTree` puts a verified staging tree in the place of its target: it refuses a target that is not empty, removes
an empty one, and renames the staging directory over the path.  Other programs may write at the target between the calls,
and every call may fail.  A rename that fails after the removal leaves no target: `publication_atomic_iff` says that this is
the only way in which a publication that does not succeed changes its target.
-/

namespace LamaSync

/-- What a call that follows links finds. -/
inductive SeenPath (κ : Type) where
  | nothing
  | file
  | directory (entries : List (String × κ))

inductive PathState (κ : Type) where
  | absent
  | file (content : List UInt8)
  | directory (entries : List (String × κ))
  | link (shown : SeenPath κ)

variable {κ : Type}

def PathState.seen : PathState κ → SeenPath κ
  | .absent => .nothing
  | .file _ => .file
  | .directory entries => .directory entries
  | .link shown => shown

def PathState.isPopulated : PathState κ → Bool
  | .directory entries => !entries.isEmpty
  | .absent | .file _ | .link _ => false

def PathState.rmdir : PathState κ → Except String (PathState κ)
  | .absent => .error "ENOENT: no such file or directory, rmdir"
  | .file _ | .link _ => .error "ENOTDIR: not a directory, rmdir"
  | .directory entries => if entries.isEmpty then .ok .absent else .error "ENOTEMPTY: directory not empty, rmdir"

def PathState.readdir (path : PathState κ) : Except String (List String) :=
  match path.seen with
  | .nothing => .error "ENOENT: no such file or directory, scandir"
  | .file => .error "ENOTDIR: not a directory, scandir"
  | .directory entries => .ok (entries.map Prod.fst)

def PathState.renameTo (source target : PathState κ) : Except String (PathState κ) :=
  match source, target with
  | .absent, _ => .error "ENOENT: no such file or directory, rename"
  | .directory _, .absent => .ok source
  | .directory _, .directory entries =>
    if entries.isEmpty then .ok source else .error "ENOTEMPTY: directory not empty, rename"
  | .directory _, .file _ | .directory _, .link _ => .error "ENOTDIR: not a directory, rename"
  | .file _, .directory _ | .link _, .directory _ => .error "EISDIR: illegal operation on a directory, rename"
  | .file _, _ | .link _, _ => .ok source

/-- What happens around the calls: the failures of the calls themselves, and what others make of the target before each of
them. -/
structure PublishIo (κ : Type) where
  statError : Option String
  device : List Char → Option Int
  /-- `existsSync` says no when it may not look. -/
  existsHidden : Bool
  readdirError : Option String
  rmdirError : Option String
  renameError : Option String
  beforeExists : PathState κ → PathState κ
  beforeReaddir : PathState κ → PathState κ
  beforeRmdir : PathState κ → PathState κ
  beforeRename : PathState κ → PathState κ

def called {α : Type} (failure : Option String) (result : Except String α) : Except String α :=
  match failure with
  | some error => .error error
  | none => result

structure PublishInput where
  stagingDir : List Char
  targetPath : List Char
  targetParentDevice : Option (Option Int)

inductive PublicationResult where
  | ok
  | refused (error : List Char)
  | thrown (error : String)
  deriving DecidableEq

structure Publication (κ : Type) where
  result : PublicationResult
  target : PathState κ
  changes : List (PathState κ × PathState κ)

def parentSlice (path : List Char) : List Char :=
  let parent := if '/' ∈ path then beforeLastSlash path else path.dropLast
  if parent = [] then ['/'] else parent

section Publish

variable (io : PublishIo κ) (input : PublishInput) (staging target : PathState κ)

def publishPolicy : StagingLocationVerdict :=
  validateStagingLocation {
    stagingPath := input.stagingDir
    targetPath := input.targetPath
    stagingDevice := io.device (parentSlice input.stagingDir)
    targetDevice := input.targetParentDevice.getD (io.device (parentSlice input.targetPath))
    sameFilesystemProven := none }

def renameStaged (changes : List (PathState κ × PathState κ)) : Publication κ :=
  let target := io.beforeRename target
  match called io.renameError (staging.renameTo target) with
  | .ok published => ⟨.ok, published, changes ++ [(target, published)]⟩
  | .error error => ⟨.refused ("publishing the staged tree failed: " ++ error).toList, target, changes⟩

def publishStagedTree : Publication κ :=
  let refuse := fun target error => (⟨.refused error, target, []⟩ : Publication κ)
  match staging.seen with
  | .nothing => refuse target "the staging directory does not exist".toList
  | seen =>
    match io.statError, seen with
    | some error, _ => ⟨.thrown error, target, []⟩
    | none, .directory _ =>
      if !(publishPolicy io input).ok then refuse target (publishPolicy io input).message
      else
        let target := io.beforeExists target
        match io.existsHidden, target.seen with
        | true, _ | false, .nothing => renameStaged io staging target []
        | false, _ =>
          let target := io.beforeReaddir target
          match called io.readdirError target.readdir with
          | .error error => refuse target ("the target exists but cannot be read: " ++ error).toList
          | .ok (_ :: _) =>
            refuse target ("the target directory already contains files. A seed only publishes into an empty target, " ++
              "so nothing is merged or overwritten.").toList
          | .ok [] =>
            let target := io.beforeRmdir target
            match called io.rmdirError target.rmdir with
            | .error error =>
              refuse target ("the empty target directory could not be replaced: " ++ error).toList
            | .ok removed => renameStaged io staging removed [(target, removed)]
    | none, _ => refuse target "the staging path is not a directory".toList

end Publish

/-- Nobody else writes at the target. -/
def PublishIo.Quiet (io : PublishIo κ) : Prop :=
  ∀ path, io.beforeExists path = path ∧ io.beforeReaddir path = path ∧ io.beforeRmdir path = path ∧
    io.beforeRename path = path

section Atomic

variable (io : PublishIo κ) (input : PublishInput) (staging target : PathState κ)

/-- A publication that does not succeed changes nothing at the target, whatever others do there, and leaves it as it was
when they do nothing.  None changes a populated directory. -/
structure PublishedAtomically : Prop where
  unchanged : (publishStagedTree io input staging target).result ≠ .ok →
    ∀ change ∈ (publishStagedTree io input staging target).changes, change.2 = change.1
  restored : (publishStagedTree io input staging target).result ≠ .ok → io.Quiet →
    (publishStagedTree io input staging target).target = target
  populated : ∀ change ∈ (publishStagedTree io input staging target).changes, change.1.isPopulated = false

def RemovesTarget : Prop :=
  (∃ entries, staging.seen = .directory entries) ∧ io.statError = none ∧ (publishPolicy io input).ok = true ∧
    io.existsHidden = false ∧ (io.beforeExists target).seen ≠ .nothing ∧ io.readdirError = none ∧
    (io.beforeReaddir (io.beforeExists target)).readdir = .ok [] ∧ io.rmdirError = none ∧
    io.beforeRmdir (io.beforeReaddir (io.beforeExists target)) = .directory []

/-- The rename goes through once the target has been removed: it does not fail by itself, and nobody has put anything in
its way. -/
def RenameFollows : Prop :=
  io.renameError = none ∧ (staging.renameTo (io.beforeRename .absent)).isOk = true

variable {io input staging target}

theorem refused_ne_ok (error : List Char) : PublicationResult.refused error ≠ .ok := by
  intro h
  cases h

theorem thrown_ne_ok (error : String) : PublicationResult.thrown error ≠ .ok := by
  intro h
  cases h

theorem called_eq_ok {α : Type} {failure : Option String} {result : Except String α} {value : α} :
    called failure result = .ok value ↔ failure = none ∧ result = .ok value := by
  cases failure <;> simp [called]

theorem rmdir_eq_ok {path removed : PathState κ} : path.rmdir = .ok removed ↔ path = .directory [] ∧ removed = .absent := by
  cases path with
  | directory entries => cases entries <;> simp [PathState.rmdir, eq_comm]
  | absent | file content | link shown => simp [PathState.rmdir]

theorem renameTo_populated (staging : PathState κ) (h : target.isPopulated = true) :
    (staging.renameTo target).isOk = false := by
  cases target with
  | directory entries =>
    have hents : entries.isEmpty = false := by simpa [PathState.isPopulated] using h
    cases staging with
    | directory staged =>
      simp only [PathState.renameTo, hents]
      rfl
    | absent | file content | link shown => rfl
  | absent | file content | link shown => cases h

theorem renameStaged_cases (changes : List (PathState κ × PathState κ)) :
    ((renameStaged io staging target changes).result = .ok ∧ io.renameError = none ∧
      (staging.renameTo (io.beforeRename target)).isOk = true ∧
      ∃ published, (renameStaged io staging target changes).changes = changes ++ [(io.beforeRename target, published)] ∧
        (io.beforeRename target).isPopulated = false) ∨
    ((renameStaged io staging target changes).result ≠ .ok ∧
      ¬(io.renameError = none ∧ (staging.renameTo (io.beforeRename target)).isOk = true) ∧
      (renameStaged io staging target changes).changes = changes ∧
      (renameStaged io staging target changes).target = io.beforeRename target) := by
  unfold renameStaged
  dsimp only
  cases her : io.renameError with
  | some error => exact .inr ⟨refused_ne_ok _, by simp, rfl, rfl⟩
  | none =>
    cases hre : staging.renameTo (io.beforeRename target) with
    | error error => exact .inr ⟨refused_ne_ok _, by simp [Except.isOk, Except.toBool], rfl, rfl⟩
    | ok published =>
      refine .inl ⟨rfl, rfl, rfl, published, rfl, ?_⟩
      cases hpop : (io.beforeRename target).isPopulated with
      | false => rfl
      | true =>
        have hfl := renameTo_populated staging hpop
        rw [hre] at hfl
        cases hfl

theorem publishStagedTree_cases :
    (¬RemovesTarget io input staging target ∧ (publishStagedTree io input staging target).result ≠ .ok ∧
      (publishStagedTree io input staging target).changes = [] ∧
      (io.Quiet → (publishStagedTree io input staging target).target = target)) ∨
    (¬RemovesTarget io input staging target ∧
      publishStagedTree io input staging target = renameStaged io staging (io.beforeExists target) []) ∨
    (RemovesTarget io input staging target ∧
      publishStagedTree io input staging target = renameStaged io staging .absent [(.directory [], .absent)]) := by
  have hq : io.Quiet → io.beforeExists target = target ∧
      io.beforeReaddir (io.beforeExists target) = target ∧
      io.beforeRmdir (io.beforeReaddir (io.beforeExists target)) = target := by
    intro h
    simp only [(h _).1, (h _).2.1, (h _).2.2.1, and_self]
  unfold publishStagedTree RemovesTarget
  dsimp only
  cases hseen : staging.seen with
  | nothing => exact .inl ⟨by simp, refused_ne_ok _, rfl, fun _ => rfl⟩
  | file =>
    cases hstat : io.statError with
    | some error => exact .inl ⟨by simp, thrown_ne_ok _, rfl, fun _ => rfl⟩
    | none => exact .inl ⟨by simp, refused_ne_ok _, rfl, fun _ => rfl⟩
  | directory staged =>
    cases hstat : io.statError with
    | some error => exact .inl ⟨by simp, thrown_ne_ok _, rfl, fun _ => rfl⟩
    | none =>
      cases hpo : (publishPolicy io input).ok with
      | false => exact .inl ⟨by simp, refused_ne_ok _, rfl, fun _ => rfl⟩
      | true =>
        cases hhi : io.existsHidden with
        | true => exact .inr (.inl ⟨by simp, rfl⟩)
        | false =>
          cases hex : (io.beforeExists target).seen with
          | nothing => exact .inr (.inl ⟨by simp, rfl⟩)
          | file | directory entries =>
            cases hread : called io.readdirError (io.beforeReaddir (io.beforeExists target)).readdir with
            | error error =>
              refine .inl ⟨?_, refused_ne_ok _, rfl, fun h => (hq h).2.1⟩
              rintro ⟨-, -, -, -, -, hnone, hem, -, -⟩
              rw [called_eq_ok.mpr ⟨hnone, hem⟩] at hread
              cases hread
            | ok names =>
              cases names with
              | cons name names =>
                refine .inl ⟨?_, refused_ne_ok _, rfl, fun h => (hq h).2.1⟩
                rintro ⟨-, -, -, -, -, hnone, hem, -, -⟩
                rw [called_eq_ok.mpr ⟨hnone, hem⟩] at hread
                cases hread
              | nil =>
                obtain ⟨hreadError, hem⟩ := called_eq_ok.mp hread
                cases hrm : called io.rmdirError (io.beforeRmdir (io.beforeReaddir (io.beforeExists target))).rmdir with
                | error error =>
                  refine .inl ⟨?_, refused_ne_ok _, rfl, fun h => (hq h).2.2⟩
                  rintro ⟨-, -, -, -, -, -, -, hnone, hdir⟩
                  rw [called_eq_ok.mpr ⟨hnone, rmdir_eq_ok.mpr ⟨hdir, rfl⟩⟩] at hrm
                  cases hrm
                | ok removed =>
                  obtain ⟨hrmError, hrmd⟩ := called_eq_ok.mp hrm
                  obtain ⟨hdir, rfl⟩ := rmdir_eq_ok.mp hrmd
                  refine .inr (.inr ⟨⟨⟨staged, rfl⟩, rfl, rfl, rfl, by simp, hreadError, hem, hrmError, hdir⟩, ?_⟩)
                  simp [hdir]

/-- A publication is atomic exactly when it does not come to remove an empty target that it then cannot replace. -/
theorem publication_atomic_iff (io : PublishIo κ) (input : PublishInput) (staging target : PathState κ) :
    PublishedAtomically io input staging target ↔
      (RemovesTarget io input staging target → RenameFollows io staging) := by
  constructor
  · intro hat hre
    obtain ⟨hnot, -⟩ | ⟨hnot, -⟩ | ⟨-, hrun⟩ := @publishStagedTree_cases κ io input staging target
    · exact absurd hre hnot
    · exact absurd hre hnot
    obtain ⟨-, her, hren, -⟩ | ⟨hres, -, hch, -⟩ :=
      @renameStaged_cases κ io staging .absent [(.directory [], .absent)]
    · exact ⟨her, hren⟩
    · have hun := hat.unchanged
      rw [hrun, hch] at hun
      cases hun hres (.directory [], .absent) (by simp)
  · intro hfo
    obtain ⟨-, hres, hch, htgt⟩ | ⟨-, hrun⟩ | ⟨hre, hrun⟩ := @publishStagedTree_cases κ io input staging target
    · exact ⟨fun _ => by simp [hch], fun _ => htgt, by simp [hch]⟩
    · obtain ⟨hres, -, -, published, hch, hpop⟩ | ⟨hres, -, hch, htgt⟩ :=
        @renameStaged_cases κ io staging (io.beforeExists target) []
      · constructor
        · exact fun hnot => absurd (hrun ▸ hres) hnot
        · exact fun hnot => absurd (hrun ▸ hres) hnot
        · intro change hchg
          rw [hrun, hch] at hchg
          obtain rfl : change = _ := by simpa using hchg
          exact hpop
      · refine ⟨fun _ => by simp [hrun, hch], fun _ hq => ?_, by simp [hrun, hch]⟩
        rw [hrun, htgt, (hq _).2.2.2, (hq _).1]
    · obtain ⟨hres, -, -, published, hch, hpop⟩ | ⟨-, hnot, -, -⟩ :=
        @renameStaged_cases κ io staging .absent [(.directory [], .absent)]
      · constructor
        · exact fun hnot => absurd (hrun ▸ hres) hnot
        · exact fun hnot => absurd (hrun ▸ hres) hnot
        · intro change hchg
          rw [hrun, hch] at hchg
          obtain rfl | rfl : change = _ ∨ change = _ := by simpa using hchg
          · rfl
          · exact hpop
      · exact absurd (hfo hre) hnot

end Atomic

def failingRename : PublishIo Unit where
  statError := none
  device := fun _ => some 1
  existsHidden := false
  readdirError := none
  rmdirError := none
  renameError := some "EIO: i/o error, rename"
  beforeExists := id
  beforeReaddir := id
  beforeRmdir := id
  beforeRename := id

def photosInput : PublishInput where
  stagingDir := "/data/.lamasync-seed-staging-photos-j1".toList
  targetPath := "/data/photos".toList
  targetParentDevice := none

theorem failingRename_run {input : PublishInput} (hpo : (publishPolicy failingRename input).ok = true) :
    publishStagedTree failingRename input (.directory [("a.txt", ())]) (.directory []) =
      ⟨.refused ("publishing the staged tree failed: " ++ "EIO: i/o error, rename").toList, .absent,
        [(.directory [], .absent)]⟩ := by
  unfold publishStagedTree
  dsimp only
  rw [hpo]
  rfl

/-- The target was an empty directory, and the publication that failed leaves nothing there. -/
theorem failed_publication_drops_target :
    (publishStagedTree failingRename photosInput (.directory [("a.txt", ())]) (.directory [])).target = .absent ∧
      ¬PublishedAtomically failingRename photosInput (.directory [("a.txt", ())]) (.directory []) := by
  have hrun := @failingRename_run photosInput (by decide +kernel)
  constructor
  · rw [hrun]
  intro hat
  have hrest := hat.restored (by simp [hrun]) fun _ => ⟨rfl, rfl, rfl, rfl⟩
  rw [hrun] at hrest
  cases hrest

end LamaSync
