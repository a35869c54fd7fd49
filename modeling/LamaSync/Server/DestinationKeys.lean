import LamaSync.Lib.Texts
import LamaSync.Server.StoredFolders

/-!
# Destinations and their keys

A lock key stands for a destination: a path in a bucket or a directory of a connection, or a restic repository.  A connection
is a backend, or for a folder without one the alias under which rclone knows the remote.

The key is put together from texts that may hold its separators, a path that is not given is not normalised like one that is,
an alias may be that of another folder's default, and a repository counts for folders that do not use it.
`keys_identify_iff` says for which stored pairs of a folder and an assignment the keys are one just when the destinations
are.
-/

namespace LamaSync

structure StoredPair (s : FolderStore) where
  folder : FolderRow
  assignment : AssignmentRow
  folderStored : folder ∈ s.folders
  assignmentStored : assignment ∈ s.assignments
  assigned : assignment.folderId = folder.id

/-- The folder as `canonicalKeyForAcquire` hands it over. -/
def FolderRow.lockFolder (row : FolderRow) : Folder where
  id := row.id
  name := row.name
  type := (FolderType.ofText row.type).getD .sync
  backend := some (normalizedBackend row.backend)
  backendId := row.backendId
  s3Bucket := row.s3Bucket

namespace StoredPair

variable {s : FolderStore} (p : StoredPair s)

def resticBackend : Option BackendRow :=
  if normalizedBackend p.folder.backend = .restic then p.folder.backendId.bind s.getBackend else none

def repository : Option String :=
  (presentText p.assignment.resticRepository).or (p.resticBackend.bind fun b => presentTrimmed b.resticRepository)

def password : Option String :=
  (presentText p.assignment.resticPassword).or (p.resticBackend.bind fun b => presentText b.resticPassword)

def identity : AssignmentIdentity where
  hostId := p.assignment.hostId
  remoteName := p.assignment.remoteName
  destination := p.assignment.destination
  resticRepository := p.repository

def key : Except String String := canonicalDestinationKey p.folder.lockFolder p.identity

def usesRestic : Bool :=
  (p.folder.type = "backup" || p.folder.type = "dotfile") && p.repository.isSome && p.password.isSome

end StoredPair

inductive Connection where
  | backend (id : String)
  | remote (name : String)
  deriving DecidableEq

structure WrittenPlace where
  connection : Connection
  bucket : Option String
  parts : List (List Char)
  deriving DecidableEq

inductive WrittenTarget where
  | repository (text : String)
  | place (place : WrittenPlace)
  deriving DecidableEq

def destinationParts (path : String) : List (List Char) :=
  (((trimSpaces path.toList).map fun c => if c = '\\' then '/' else c).splitOn '/').filter fun part => !part.isEmpty

def repositoryText (repository : String) : String :=
  (presentText (some (dropTrailingSlashes (trimText repository)))).getD "/"

def bucketText (bucket : String) : String := (normalizeDestination bucket).getD (trimText bucket)

namespace StoredPair

variable {s : FolderStore} (p : StoredPair s)

def connection : Connection :=
  match presentText p.folder.backendId with
  | some id => .backend id
  | none => .remote ((presentTrimmed p.assignment.remoteName).getD ("lamasync-" ++ p.folder.id))

def path : Except String String := resolveDestination p.folder.lockFolder p.identity

def place : Except String WrittenPlace :=
  p.path.map fun path => {
    connection := p.connection
    bucket := (folderBucket p.folder.lockFolder).map bucketText
    parts := destinationParts path }

def destination : Except String WrittenTarget :=
  match p.repository with
  | some repository => if p.usesRestic then .ok (.repository (repositoryText repository)) else p.place.map .place
  | none => p.place.map .place

end StoredPair

section Condition

variable {s : FolderStore} (x y : StoredPair s)

/-- Both pairs have the same one. -/
def SameOk {α : Type} (a b : Except String α) : Prop := ∃ v, a = .ok v ∧ b = .ok v

inductive FreeTexts : String → String → Prop
  | buckets {b b' : String} (hid : x.folder.backendId = y.folder.backendId) (hx : folderBucket x.folder.lockFolder = some b)
      (hy : folderBucket y.folder.lockFolder = some b') : FreeTexts (bucketText b) (bucketText b')
  | aliases {a a' : String} (hx : normalizedBackend x.folder.backend = .sftp) (hy : normalizedBackend y.folder.backend = .sftp)
      (hax : presentTrimmed x.assignment.remoteName = some a) (hay : presentTrimmed y.assignment.remoteName = some a') :
      FreeTexts a a'

/-- The alias or the bucket of `y` goes on where that of `x` ends, over the separator of the path. -/
def RunsOver : Prop :=
  ∃ a a' path path', FreeTexts x y a a' ∧ x.path = .ok path ∧ y.path = .ok path' ∧
    Texts.Straddles ":path:".toList a.toList path.toList a'.toList path'.toList

def SpelledAlike : Prop :=
  x.path = y.path ∧ (x.folder.backendId = none →
    (presentTrimmed x.assignment.remoteName).isSome = (presentTrimmed y.assignment.remoteName).isSome)

/-- The runs of neither pair write to a repository, and they write to the same place. -/
def SamePlace : Prop := x.usesRestic = false ∧ y.usesRestic = false ∧ SameOk x.place y.place

/-- What has to be true of a pair of pairs. -/
def KeysFit : Prop :=
  match x.repository, y.repository with
  | none, none => ¬ RunsOver x y ∧ ¬ RunsOver y x ∧ (SamePlace x y → SpelledAlike x y)
  | some r, some r' => x.usesRestic = false ∨ y.usesRestic = false →
    (repositoryText r = repositoryText r' ↔ SamePlace x y)
  | _, _ => ¬ SamePlace x y

end Condition

/-- What stands in a key in front of the path. -/
inductive KeySpace where
  | backend (kind : FolderBackend) (id : String) (bucket : Option String)
  | remote (name : String)
  | folder (id : String)
  deriving DecidableEq

namespace KeySpace

def head : KeySpace → String
  | .backend kind _ _ => kind.text
  | .remote _ => "sftp"
  | .folder _ => "folder"

def rest : KeySpace → String
  | .backend _ id bucket => id ++ bucket.elim "" fun b => ":bucket:" ++ b
  | .remote name => name
  | .folder id => id

def text (space : KeySpace) : String := space.head ++ ":" ++ space.rest

/-- The identifiers have no colon, and the S3 backends are those with buckets. -/
def Plain : KeySpace → Prop
  | .backend kind id bucket => kind.needsRef = true ∧ ':' ∉ id.toList ∧ (bucket.isSome = true ↔ kind = .s3)
  | .remote _ => True
  | .folder id => ':' ∉ id.toList

def extend (more : List Char) : KeySpace → Option KeySpace
  | .backend kind id (some bucket) => some (.backend kind id (some (bucket ++ String.ofList more)))
  | .backend _ _ none => none
  | .remote name => some (.remote (name ++ String.ofList more))
  | .folder _ => none

def connection : KeySpace → Connection
  | .backend _ id _ => .backend id
  | .remote name => .remote name
  | .folder id => .remote ("lamasync-" ++ id)

def bucket : KeySpace → Option String
  | .backend _ _ bucket => bucket
  | .remote _ | .folder _ => none

theorem head_noColon (space : KeySpace) : ':' ∉ space.head.toList := by
  cases space with
  | backend kind id bucket =>
    show ':' ∉ kind.text.toList
    cases kind <;> decide
  | remote name =>
    show ':' ∉ "sftp".toList
    decide
  | folder id =>
    show ':' ∉ "folder".toList
    decide

theorem toList_text (space : KeySpace) : space.text.toList = space.head.toList ++ ':' :: space.rest.toList := by
  simp [text]

theorem backend_text_injective {kind kind' : FolderBackend} (h : kind.text = kind'.text) : kind = kind' := by
  cases kind <;> cases kind' <;> first | rfl | exact absurd h (by decide)

/-- A backend's space begins with no word of the other spaces. -/
theorem backend_text_ne {kind : FolderBackend} (h : kind.needsRef = true) : kind.text ≠ "sftp" ∧ kind.text ≠ "folder" := by
  cases kind with
  | sftp => cases h
  | s3 | «local» | nfs | restic => decide

variable {more : List Char} {x y : KeySpace}

theorem text_append (hx : x.Plain) (hy : y.Plain) (hmore : ∀ c ∈ more.head?, c = ':')
    (h : y.text.toList = x.text.toList ++ more) : (more = [] ∧ y = x) ∨ x.extend more = some y := by
  rw [toList_text, toList_text, List.append_assoc, List.cons_append] at h
  obtain ⟨hhead, hrest⟩ := Texts.eq_of_first_separator y.head_noColon x.head_noColon h
  have hhe : y.head = x.head := String.toList_inj.1 hhead
  -- an identifier cannot go on with a colon
  have hid : ∀ {id id' : String}, ':' ∉ id'.toList → id'.toList = id.toList ++ more → more = [] ∧ id' = id := by
    intro id id' hco heq
    cases more with
    | nil => exact ⟨rfl, String.toList_inj.1 (by simpa using heq)⟩
    | cons c more =>
      obtain rfl := hmore c rfl
      exact absurd (heq ▸ List.mem_append_right _ (.head _)) hco
  cases x with
  | backend kind id bucket =>
    cases y with
    | backend kind' id' bucket' =>
      obtain rfl : kind' = kind := backend_text_injective hhe
      cases bucket with
      | none =>
        cases bucket' with
        | none =>
          obtain ⟨rfl, rfl⟩ := hid hy.2.1 (by simpa [rest] using hrest)
          exact .inl ⟨rfl, rfl⟩
        | some b' => exact absurd (hx.2.2.2 (hy.2.2.1 rfl)) (by decide)
      | some b =>
        cases bucket' with
        | none => exact absurd (hy.2.2.2 (hx.2.2.1 rfl)) (by decide)
        | some b' =>
          have hsp : id'.toList ++ ':' :: ("bucket:".toList ++ b'.toList) =
              id.toList ++ ':' :: ("bucket:".toList ++ (b.toList ++ more)) := by
            simpa [rest] using hrest
          obtain ⟨hids, hbu⟩ := Texts.eq_of_first_separator hy.2.1 hx.2.1 hsp
          obtain rfl := String.toList_inj.1 hids
          have hb : b' = b ++ String.ofList more := by
            apply String.toList_inj.1
            rw [String.toList_append, String.toList_ofList]
            exact List.append_cancel_left hbu
          exact .inr (by rw [hb]; rfl)
    | remote name => exact absurd hhe.symm (backend_text_ne hx.1).1
    | folder id' => exact absurd hhe.symm (backend_text_ne hx.1).2
  | remote name =>
    cases y with
    | backend kind' id' bucket' => exact absurd hhe (backend_text_ne hy.1).1
    | remote name' =>
      have hname : name' = name ++ String.ofList more := by
        apply String.toList_inj.1
        rw [String.toList_append, String.toList_ofList]
        exact hrest
      exact .inr (by rw [hname]; rfl)
    | folder id' => exact absurd hhe (by decide : "folder" ≠ "sftp")
  | folder id =>
    cases y with
    | backend kind' id' bucket' => exact absurd hhe (backend_text_ne hy.1).2
    | remote name' => exact absurd hhe (by decide : "sftp" ≠ "folder")
    | folder id' =>
      obtain ⟨rfl, rfl⟩ := hid hy hrest
      exact .inl ⟨rfl, rfl⟩

theorem extend_nil (h : x.extend [] = some y) : y = x := by
  cases x with
  | backend kind id bucket =>
    cases bucket with
    | none => cases h
    | some b =>
      cases h
      simp
  | remote name =>
    cases h
    simp
  | folder id => cases h

theorem text_injective (hx : x.Plain) (hy : y.Plain) (h : x.text = y.text) : x = y := by
  have hch : x.text.toList = y.text.toList ++ [] := by rw [h, List.append_nil]
  rcases text_append hy hx (by simp) hch with ⟨-, hsame⟩ | hex
  · exact hsame
  · exact extend_nil hex

theorem text_of_extend (h : x.extend more = some y) : y.text.toList = x.text.toList ++ more := by
  cases x with
  | backend kind id bucket =>
    cases bucket with
    | none => cases h
    | some b =>
      cases h
      simp [text, head, rest]
  | remote name =>
    cases h
    simp [text, head, rest]
  | folder id => cases h

theorem extend_ne (hne : more ≠ []) (h : x.extend more = some y) :
    ¬ (x.connection = y.connection ∧ x.bucket = y.bucket) := by
  -- a text with more at its end is another text
  have hap : ∀ text : String, text ≠ text ++ String.ofList more := by
    intro text heq
    have hch := congrArg String.toList heq
    rw [String.toList_append, String.toList_ofList] at hch
    exact hne (List.self_eq_append_right.1 hch)
  rintro ⟨hconn, hbuck⟩
  cases x with
  | backend kind id bucket =>
    cases bucket with
    | none => cases h
    | some b =>
      cases h
      exact hap b (Option.some.inj hbuck)
  | remote name =>
    cases h
    exact hap name (Connection.remote.inj hconn)
  | folder id => cases h

theorem text_ne_repository (space : KeySpace) (behind repository : String) :
    space.text ++ behind ≠ "repo:" ++ repository := by
  intro h
  have hch : space.head.toList ++ ':' :: (space.rest.toList ++ behind.toList) =
      "repo".toList ++ ':' :: repository.toList := by
    have hlist := congrArg String.toList h
    rw [String.toList_append, toList_text, List.append_assoc, List.cons_append, String.toList_append] at hlist
    exact hlist
  obtain ⟨hhead, -⟩ := Texts.eq_of_first_separator space.head_noColon (by decide) hch
  have hword : space.head = "repo" := String.toList_inj.1 hhead
  cases space with
  | backend kind id bucket =>
    have hkind : kind.text ≠ "repo" := by cases kind <;> decide
    exact hkind hword
  | remote name => exact absurd hword (by decide : "sftp" ≠ "repo")
  | folder id => exact absurd hword (by decide : "folder" ≠ "repo")

end KeySpace

section Spaces

variable {s : FolderStore}

def StoredPair.space (p : StoredPair s) : KeySpace :=
  match presentText p.folder.backendId with
  | some id => .backend (normalizedBackend p.folder.backend) id ((folderBucket p.folder.lockFolder).map bucketText)
  | none =>
    match presentTrimmed p.assignment.remoteName with
    | some name => .remote name
    | none => .folder p.folder.id

theorem RandomUuid.noColon (id : RandomUuid) : ':' ∉ id.val.toList := by
  intro hco
  exact absurd (id.property.2 _ hco) (by decide)

variable {f : FolderRow} {repository path path' r : String}

theorem FolderRow.Fits.backendId_cases (h : f.Fits s.backends) (hs : s.StoredRows) :
    (∃ b ∈ s.backends, f.backendId = some b.id ∧ presentText f.backendId = some b.id ∧ ':' ∉ b.id.toList ∧
      b.kind.folderBackend = normalizedBackend f.backend ∧ (normalizedBackend f.backend).needsRef = true) ∨
    (f.backendId = none ∧ normalizedBackend f.backend = .sftp) := by
  by_cases hnd : (normalizedBackend f.backend).needsRef = true
  · obtain ⟨b, hb, hid, hkind⟩ := h.reference hnd
    obtain ⟨uuid, huuid⟩ := (hs.complete b hb).id
    refine .inl ⟨b, hb, hid, ?_, ?_, hkind, hnd⟩
    · rw [hid, huuid, presentText_some uuid.ne_empty]
    · rw [huuid]
      exact uuid.noColon
  · refine .inr ⟨h.noReference (by simpa using hnd), ?_⟩
    cases hback : normalizedBackend f.backend with
    | sftp => rfl
    | s3 | «local» | nfs | restic => simp [hback, FolderBackend.needsRef] at hnd

theorem FolderRow.Fits.folderBucket_isSome (h : f.Fits s.backends) :
    (folderBucket f.lockFolder).isSome = true ↔ normalizedBackend f.backend = .s3 := by
  unfold folderBucket FolderRow.lockFolder
  by_cases hs3 : normalizedBackend f.backend = .s3
  · obtain ⟨bucket, hbuck, hne, -⟩ := h.bucket hs3
    simp [hs3, hbuck, presentText, hne]
  · simp [hs3]

variable (hs : s.StoredRows) (p : StoredPair s)

include hs

theorem space_plain : p.space.Plain := by
  have hfits := hs.fits p.folder p.folderStored
  unfold StoredPair.space
  rcases hfits.backendId_cases hs with ⟨b, -, -, hpres, hco, -, hnd⟩ | ⟨hnone, -⟩
  · rw [hpres]
    refine ⟨hnd, hco, ?_⟩
    rw [Option.isSome_map]
    exact hfits.folderBucket_isSome
  rw [hnone]
  dsimp only [presentText, Option.filter]
  split
  · trivial
  obtain ⟨uuid, huuid⟩ := hfits.id
  show ':' ∉ p.folder.id.toList
  rw [huuid]
  exact uuid.noColon

theorem backendIdentity_space : backendIdentity p.folder.lockFolder p.identity = p.space.text := by
  have hfits := hs.fits p.folder p.folderStored
  have hkind : backendKind p.folder.lockFolder = (normalizedBackend p.folder.backend).text := rfl
  unfold backendIdentity StoredPair.space
  rcases hfits.backendId_cases hs with ⟨b, -, -, hpres, -, -, hnd⟩ | ⟨hnone, hsftp⟩
  · have hlock : presentText p.folder.lockFolder.backendId = some b.id := hpres
    rw [hpres, hlock]
    cases hbuck : folderBucket p.folder.lockFolder with
    | none => simp [KeySpace.text, KeySpace.head, KeySpace.rest, hkind]
    | some bucket => simp [KeySpace.text, KeySpace.head, KeySpace.rest, hkind, bucketText, String.append_assoc]
  have hlock : presentText p.folder.lockFolder.backendId = none := by
    show presentText p.folder.backendId = none
    rw [hnone]
    rfl
  have hbuck : folderBucket p.folder.lockFolder = none := by
    have hiff := hfits.folderBucket_isSome
    rw [hsftp] at hiff
    simpa using hiff
  have hrem : presentTrimmed p.identity.remoteName = presentTrimmed p.assignment.remoteName := rfl
  rw [hlock, hbuck, hrem, hnone]
  cases presentTrimmed p.assignment.remoteName with
  | some name => simp [KeySpace.text, KeySpace.head, KeySpace.rest, hkind, hsftp, presentText, FolderBackend.text]
  | none => simp [KeySpace.text, KeySpace.head, KeySpace.rest, presentText, FolderRow.lockFolder]

omit hs in
theorem connection_space : p.connection = p.space.connection := by
  unfold StoredPair.connection StoredPair.space
  cases presentText p.folder.backendId with
  | some id => rfl
  | none =>
    cases presentTrimmed p.assignment.remoteName with
    | some name | none => rfl

theorem bucket_space : (folderBucket p.folder.lockFolder).map bucketText = p.space.bucket := by
  have hfits := hs.fits p.folder p.folderStored
  unfold StoredPair.space
  rcases hfits.backendId_cases hs with ⟨b, -, -, hpres, -⟩ | ⟨hnone, hsftp⟩
  · rw [hpres]
    rfl
  have hbuck : folderBucket p.folder.lockFolder = none := by
    have hiff := hfits.folderBucket_isSome
    rw [hsftp] at hiff
    simpa using hiff
  rw [hbuck, hnone]
  dsimp only [presentText, Option.filter]
  split <;> rfl

variable (x y : StoredPair s)

theorem space_eq_iff (hsp : x.folder.backendId = none →
    (presentTrimmed x.assignment.remoteName).isSome = (presentTrimmed y.assignment.remoteName).isSome) :
    x.space = y.space ↔ x.connection = y.connection ∧
      (folderBucket x.folder.lockFolder).map bucketText = (folderBucket y.folder.lockFolder).map bucketText := by
  constructor
  · intro h
    rw [connection_space, connection_space, bucket_space hs, bucket_space hs, h]
    exact ⟨rfl, rfl⟩
  rintro ⟨hconn, hbuck⟩
  rcases (hs.fits x.folder x.folderStored).backendId_cases hs with ⟨b, hb, hid, hpres, -, hkind, -⟩ | ⟨hnone, -⟩
  · rcases (hs.fits y.folder y.folderStored).backendId_cases hs with ⟨b', hb', -, hpres', -, hkind', -⟩ | ⟨hnone', -⟩
    · unfold StoredPair.connection at hconn
      rw [hpres, hpres'] at hconn
      have hsame : b = b' := List.inj_on_of_nodup_map hs.backendIds hb hb' (Connection.backend.inj hconn)
      unfold StoredPair.space
      rw [hpres, hpres', ← hkind, ← hkind', hsame, hbuck]
    · unfold StoredPair.connection at hconn
      rw [hpres, hnone'] at hconn
      cases hconn
  · rcases (hs.fits y.folder y.folderStored).backendId_cases hs with ⟨b', -, -, hpres', -⟩ | ⟨hnone', -⟩
    · unfold StoredPair.connection at hconn
      rw [hnone, hpres'] at hconn
      cases hconn
    · have hal := hsp hnone
      unfold StoredPair.connection at hconn
      unfold StoredPair.space
      rw [hnone, hnone'] at hconn ⊢
      dsimp only [presentText, Option.filter] at hconn ⊢
      cases hx : presentTrimmed x.assignment.remoteName with
      | some name =>
        cases hy : presentTrimmed y.assignment.remoteName with
        | some name' =>
          rw [hx, hy] at hconn
          exact congrArg KeySpace.remote (Connection.remote.inj hconn)
        | none => simp [hx, hy] at hal
      | none =>
        cases hy : presentTrimmed y.assignment.remoteName with
        | some name' => simp [hx, hy] at hal
        | none =>
          rw [hx, hy] at hconn
          have hids : "lamasync-" ++ x.folder.id = "lamasync-" ++ y.folder.id := Connection.remote.inj hconn
          have hch := congrArg String.toList hids
          rw [String.toList_append, String.toList_append] at hch
          exact congrArg KeySpace.folder (String.toList_inj.1 (List.append_cancel_left hch))

theorem spelled_of_space (h : x.space = y.space) (hnone : x.folder.backendId = none) :
    (presentTrimmed x.assignment.remoteName).isSome = (presentTrimmed y.assignment.remoteName).isSome := by
  unfold StoredPair.space at h
  rw [hnone] at h
  rcases (hs.fits y.folder y.folderStored).backendId_cases hs with ⟨b', -, -, hpres', -⟩ | ⟨hnone', -⟩
  · rw [hpres'] at h
    dsimp only [presentText, Option.filter] at h
    split at h <;> cases h
  rw [hnone'] at h
  dsimp only [presentText, Option.filter] at h
  split at h
  · split at h
    · rename_i hx _ _ hy
      rw [hx, hy]
      rfl
    · cases h
  split at h
  · cases h
  · rename_i hx _ hy
    rw [hx, hy]

theorem space_of_bucket {p : StoredPair s} {bucket : String} (h : folderBucket p.folder.lockFolder = some bucket) :
    ∃ id, p.folder.backendId = some id ∧ p.space = .backend .s3 id (some (bucketText bucket)) := by
  have hfits := hs.fits p.folder p.folderStored
  have hs3 := hfits.folderBucket_isSome.1 (by rw [h]; rfl)
  rcases hfits.backendId_cases hs with ⟨b, -, hid, hpres, -⟩ | ⟨-, hsftp⟩
  · refine ⟨b.id, hid, ?_⟩
    unfold StoredPair.space
    rw [hpres, h, hs3]
    rfl
  · rw [hs3] at hsftp
    cases hsftp

theorem space_of_alias {p : StoredPair s} {name : String} (hsftp : normalizedBackend p.folder.backend = .sftp)
    (h : presentTrimmed p.assignment.remoteName = some name) : p.space = .remote name := by
  have hnone : p.folder.backendId = none := (hs.fits p.folder p.folderStored).noReference (by rw [hsftp]; rfl)
  unfold StoredPair.space
  rw [hnone, h]
  rfl

theorem extend_space_iff {more : List Char} :
    x.space.extend more = some y.space ↔ ∃ a a', FreeTexts x y a a' ∧ a'.toList = a.toList ++ more := by
  constructor
  · intro h
    have hx := hs.fits x.folder x.folderStored
    have hy := hs.fits y.folder y.folderStored
    rcases hx.backendId_cases hs with ⟨b, -, hid, hpres, -⟩ | ⟨hnone, hsftp⟩
    · cases hbuck : folderBucket x.folder.lockFolder with
      | none =>
        unfold StoredPair.space at h
        rw [hpres, hbuck] at h
        cases h
      | some bucket =>
        obtain ⟨id, hidx, hsp⟩ := space_of_bucket hs hbuck
        rw [hsp] at h
        have hys := (Option.some.inj h).symm
        have hyb := bucket_space hs y
        rw [hys] at hyb
        obtain ⟨bucket', hbuck', htext⟩ := Option.map_eq_some_iff.1 hyb
        obtain ⟨id', hidy, hsp'⟩ := space_of_bucket hs hbuck'
        have hids : id = id' := by
          rw [hsp'] at hys
          exact (KeySpace.backend.inj hys).2.1.symm
        refine ⟨_, _, .buckets (by rw [hidx, hidy, hids]) hbuck hbuck', ?_⟩
        rw [htext, String.toList_append, String.toList_ofList]
    · cases hname : presentTrimmed x.assignment.remoteName with
      | none =>
        unfold StoredPair.space at h
        rw [hnone, hname] at h
        cases h
      | some name =>
        rw [space_of_alias hs hsftp hname] at h
        have hys := (Option.some.inj h).symm
        rcases hy.backendId_cases hs with ⟨b', -, -, hpres', -⟩ | ⟨hnone', hsftp'⟩
        · unfold StoredPair.space at hys
          rw [hpres'] at hys
          cases hys
        cases hname' : presentTrimmed y.assignment.remoteName with
        | none =>
          unfold StoredPair.space at hys
          rw [hnone', hname'] at hys
          cases hys
        | some name' =>
          rw [space_of_alias hs hsftp' hname'] at hys
          refine ⟨_, _, .aliases hsftp hsftp' hname hname', ?_⟩
          rw [KeySpace.remote.inj hys, String.toList_append, String.toList_ofList]
  · rintro ⟨a, a', hfree, heq⟩
    have htext : a' = a ++ String.ofList more := by
      apply String.toList_inj.1
      rw [String.toList_append, String.toList_ofList, heq]
    cases hfree with
    | buckets hid hx hy =>
      obtain ⟨id, hidx, hsp⟩ := space_of_bucket hs hx
      obtain ⟨id', hidy, hsp'⟩ := space_of_bucket hs hy
      have hids : id = id' := Option.some.inj (hidx.symm.trans (hid.trans hidy))
      rw [hsp, hsp', htext, hids]
      rfl
    | aliases hx hy hax hay =>
      rw [space_of_alias hs hx hax, space_of_alias hs hy hay, htext]
      rfl

omit hs in
theorem presentText_repository : presentText p.repository = p.repository := by
  unfold StoredPair.repository
  cases hown : presentText p.assignment.resticRepository with
  | some repository =>
    rw [Option.some_or, ← hown, presentText_idem]
  | none =>
    rw [Option.none_or]
    cases p.resticBackend with
    | none => rfl
    | some b => exact presentText_idem _

omit hs in
theorem key_of_repository (h : p.repository = some repository) :
    p.key = .ok ("repo:" ++ repositoryText repository) := by
  have hpres : presentText p.identity.resticRepository = some repository := by
    show presentText p.repository = some repository
    rw [presentText_repository, h]
  unfold StoredPair.key canonicalDestinationKey
  rw [hpres]
  rfl

theorem key_of_path (h : p.repository = none) : p.key = p.path.map fun path => p.space.text ++ ":path:" ++ path := by
  have hnone : presentText p.identity.resticRepository = none := by
    show presentText p.repository = none
    rw [h]
    rfl
  unfold StoredPair.key canonicalDestinationKey
  rw [hnone, backendIdentity_space hs]
  rfl

omit hs in
theorem samePlace_iff (hx : x.path = .ok path) (hy : y.path = .ok path') :
    SameOk x.place y.place ↔ (x.connection = y.connection ∧
      (folderBucket x.folder.lockFolder).map bucketText = (folderBucket y.folder.lockFolder).map bucketText) ∧
      destinationParts path = destinationParts path' := by
  unfold SameOk StoredPair.place
  rw [hx, hy]
  constructor
  · rintro ⟨place, hpl, hpl'⟩
    have hsame := (Except.ok.inj hpl).trans (Except.ok.inj hpl').symm
    exact ⟨⟨congrArg WrittenPlace.connection hsame, congrArg WrittenPlace.bucket hsame⟩, congrArg WrittenPlace.parts hsame⟩
  rintro ⟨⟨hconn, hbuck⟩, hpt⟩
  refine ⟨_, rfl, ?_⟩
  simp only [Except.map, hconn, hbuck, hpt]

theorem sameKey_iff (hx : x.repository = none) (hy : y.repository = none) (hxp : x.path = .ok path)
    (hypath : y.path = .ok path') :
    SameOk x.key y.key ↔ (x.space = y.space ∧ path = path') ∨ RunsOver x y ∨ RunsOver y x := by
  -- a straddled separator is one that the free texts straddle
  have hruns : ∀ (p q : StoredPair s) {path path' : String}, p.path = .ok path → q.path = .ok path' →
      (Texts.Straddles ":path:".toList p.space.text.toList path.toList q.space.text.toList path'.toList ↔ RunsOver p q) := by
    intro p q path path' hp hq
    constructor
    · rintro ⟨more, hne, htext, hbeh⟩
      have hco : ∀ c ∈ more.head?, c = ':' := by
        intro c hc
        cases more with
        | nil => exact absurd rfl hne
        | cons c' more =>
          cases hc
          exact (List.cons.inj hbeh).1.symm
      rcases KeySpace.text_append (space_plain hs p) (space_plain hs q) hco htext with ⟨hnil, -⟩ | hex
      · exact absurd hnil hne
      · obtain ⟨a, a', hfree, ha⟩ := (extend_space_iff hs p q).1 hex
        exact ⟨a, a', path, path', hfree, hp, hq, more, hne, ha, hbeh⟩
    · rintro ⟨a, a', path₁, path₂, hfree, hp', hq', more, hne, ha, hbeh⟩
      obtain rfl := Except.ok.inj (hp.symm.trans hp')
      obtain rfl := Except.ok.inj (hq.symm.trans hq')
      exact ⟨more, hne, KeySpace.text_of_extend ((extend_space_iff hs p q).2 ⟨a, a', hfree, ha⟩), hbeh⟩
  have hsp : x.space.text.toList = y.space.text.toList ↔ x.space = y.space := by
    rw [String.toList_inj]
    exact ⟨KeySpace.text_injective (space_plain hs x) (space_plain hs y), congrArg KeySpace.text⟩
  have hkeys : SameOk x.key y.key ↔ x.space.text.toList ++ (":path:".toList ++ path.toList) =
      y.space.text.toList ++ (":path:".toList ++ path'.toList) := by
    unfold SameOk
    rw [key_of_path hs x hx, key_of_path hs y hy, hxp, hypath]
    constructor
    · rintro ⟨key, hkey, hkey'⟩
      have hsame := congrArg String.toList ((Except.ok.inj hkey).trans (Except.ok.inj hkey').symm)
      simpa [String.toList_append] using hsame
    intro h
    refine ⟨_, rfl, congrArg Except.ok (String.toList_inj.1 ?_)⟩
    simpa [String.toList_append] using h.symm
  rw [hkeys, Texts.append_separator_iff, hsp, String.toList_inj, hruns x y hxp hypath, hruns y x hypath hxp]

/-- The keys of two pairs are one just when their destinations are. -/
def KeysIdentify : Prop := SameOk x.key y.key ↔ SameOk x.destination y.destination

omit hs in
theorem usesRestic_of_none (h : p.repository = none) : p.usesRestic = false := by
  unfold StoredPair.usesRestic
  rw [h, Option.isSome_none, Bool.and_false, Bool.false_and]

omit hs in
theorem destination_of_place (h : p.usesRestic = false) : p.destination = p.place.map .place := by
  unfold StoredPair.destination
  cases p.repository with
  | none => rfl
  | some repository => rw [h]; rfl

omit hs in
theorem destination_of_repository (h : p.repository = some repository) (huses : p.usesRestic = true) :
    p.destination = .ok (.repository (repositoryText repository)) := by
  unfold StoredPair.destination
  rw [h, huses]
  rfl

omit hs in
theorem sameOk_map {α β : Type} {f : α → β} (hf : ∀ a b, f a = f b → a = b) {a b : Except String α} :
    SameOk (a.map f) (b.map f) ↔ SameOk a b := by
  unfold SameOk
  cases a with
  | error e => simp [Except.map]
  | ok v =>
    cases b with
    | error e => simp [Except.map]
    | ok w =>
      constructor
      · rintro ⟨u, hu, hu'⟩
        exact ⟨v, rfl, congrArg Except.ok (hf _ _ ((Except.ok.inj hu').trans (Except.ok.inj hu).symm))⟩
      rintro ⟨u, hu, hu'⟩
      obtain rfl := Except.ok.inj hu
      obtain rfl := Except.ok.inj hu'
      exact ⟨_, rfl, rfl⟩

omit hs in
theorem repository_of_usesRestic (h : p.usesRestic = true) : ∃ r, p.repository = some r := by
  cases hrepo : p.repository with
  | none =>
    rw [usesRestic_of_none p hrepo] at h
    cases h
  | some r => exact ⟨r, rfl⟩

omit hs in
theorem not_sameOk_repository {text : String} {place : Except String WrittenPlace} :
    ¬ SameOk (.ok (.repository text)) (place.map WrittenTarget.place) := by
  rintro ⟨destination, hrepo, hpl⟩
  obtain rfl := Except.ok.inj hrepo
  cases place with
  | error e | ok place => cases hpl

omit hs in
theorem sameDestination_iff : SameOk x.destination y.destination ↔ SamePlace x y ∨
    (x.usesRestic = true ∧ y.usesRestic = true ∧
      ∃ r r', x.repository = some r ∧ y.repository = some r' ∧ repositoryText r = repositoryText r') := by
  unfold SamePlace
  cases hx : x.usesRestic with
  | false =>
    rw [destination_of_place x hx]
    cases hy : y.usesRestic with
    | false =>
      rw [destination_of_place y hy, sameOk_map fun a b h => WrittenTarget.place.inj h]
      simp
    | true =>
      obtain ⟨r, hr⟩ := repository_of_usesRestic y hy
      rw [destination_of_repository y hr hy]
      have hno : ¬ SameOk (x.place.map WrittenTarget.place) (.ok (.repository (repositoryText r))) :=
        fun ⟨v, h, h'⟩ => not_sameOk_repository ⟨v, h', h⟩
      simp [hno]
  | true =>
    obtain ⟨r, hr⟩ := repository_of_usesRestic x hx
    rw [destination_of_repository x hr hx]
    cases hy : y.usesRestic with
    | false =>
      rw [destination_of_place y hy]
      simp [not_sameOk_repository]
    | true =>
      obtain ⟨r', hr'⟩ := repository_of_usesRestic y hy
      rw [destination_of_repository y hr' hy]
      simp [SameOk, hr, hr', eq_comm]

theorem not_samePlace_of_runsOver (h : RunsOver x y) : ¬ SameOk x.place y.place := by
  obtain ⟨a, a', path, path', hfree, hxp, hypath, more, hne, ha, -⟩ := h
  have hex := (extend_space_iff hs x y).2 ⟨a, a', hfree, ha⟩
  intro hsame
  have hpl := ((samePlace_iff x y hxp hypath).1 hsame).1
  rw [connection_space, connection_space, bucket_space hs, bucket_space hs] at hpl
  exact KeySpace.extend_ne hne hex hpl

omit hs in
theorem sameOk_comm {α : Type} {a b : Except String α} : SameOk a b ↔ SameOk b a :=
  ⟨fun ⟨v, ha, hb⟩ => ⟨v, hb, ha⟩, fun ⟨v, hb, ha⟩ => ⟨v, ha, hb⟩⟩

theorem keysIdentify_paths (hx : x.repository = none) (hy : y.repository = none) :
    KeysIdentify x y ↔ ¬ RunsOver x y ∧ ¬ RunsOver y x ∧ (SamePlace x y → SpelledAlike x y) := by
  have huses : x.usesRestic = false ∧ y.usesRestic = false := ⟨usesRestic_of_none x hx, usesRestic_of_none y hy⟩
  have hpla : SamePlace x y ↔ SameOk x.place y.place := ⟨fun h => h.2.2, fun h => ⟨huses.1, huses.2, h⟩⟩
  have hde : SameOk x.destination y.destination ↔ SameOk x.place y.place := by
    rw [sameDestination_iff, hpla]
    simp [hx]
  unfold KeysIdentify
  rw [hde, hpla]
  by_cases hpa : ∃ path path', x.path = .ok path ∧ y.path = .ok path'
  · obtain ⟨path, path', hxp, hypath⟩ := hpa
    have hover : RunsOver x y → ¬ SameOk x.place y.place := not_samePlace_of_runsOver hs x y
    have hback : RunsOver y x → ¬ SameOk x.place y.place := fun h =>
      mt sameOk_comm.1 (not_samePlace_of_runsOver hs y x h)
    rw [sameKey_iff hs x y hx hy hxp hypath]
    constructor
    · intro h
      refine ⟨fun hruns => hover hruns (h.1 (.inr (.inl hruns))), fun hruns => hback hruns (h.1 (.inr (.inr hruns))), ?_⟩
      intro hpl
      rcases h.2 hpl with ⟨hsp, hpath⟩ | hruns | hruns
      · exact ⟨by rw [hxp, hypath, hpath], spelled_of_space hs x y hsp⟩
      · exact absurd hpl (hover hruns)
      · exact absurd hpl (hback hruns)
    · rintro ⟨hno, hno', hspe⟩
      rw [samePlace_iff x y hxp hypath] at hspe ⊢
      constructor
      · rintro (⟨hsp, hpath⟩ | hruns | hruns)
        · exact ⟨(space_eq_iff hs x y (spelled_of_space hs x y hsp)).1 hsp, by rw [hpath]⟩
        · exact absurd hruns hno
        · exact absurd hruns hno'
      intro hpl
      obtain ⟨hpath, hal⟩ := hspe hpl
      rw [hxp, hypath] at hpath
      exact .inl ⟨(space_eq_iff hs x y hal).2 hpl.1, Except.ok.inj hpath⟩
  · -- a pair without a path has no key and no place
    have hkeys : ¬ SameOk x.key y.key := by
      rintro ⟨key, hxkey, hykey⟩
      rw [key_of_path hs x hx] at hxkey
      rw [key_of_path hs y hy] at hykey
      cases hxp : x.path with
      | error e => simp [hxp, Except.map] at hxkey
      | ok path =>
        cases hypath : y.path with
        | error e => simp [hypath, Except.map] at hykey
        | ok path' => exact hpa ⟨path, path', hxp, hypath⟩
    have hpl : ¬ SameOk x.place y.place := by
      rintro ⟨place, hxpl, hyp⟩
      unfold StoredPair.place at hxpl hyp
      cases hxp : x.path with
      | error e => simp [hxp, Except.map] at hxpl
      | ok path =>
        cases hypath : y.path with
        | error e => simp [hypath, Except.map] at hyp
        | ok path' => exact hpa ⟨path, path', hxp, hypath⟩
    have hruns : ∀ p q : StoredPair s, RunsOver p q → ∃ path path', p.path = .ok path ∧ q.path = .ok path' :=
      fun p q ⟨_, _, path, path', _, hp, hq, _⟩ => ⟨path, path', hp, hq⟩
    constructor
    · intro _
      refine ⟨fun h => hpa (hruns x y h), fun h => ?_, fun h => absurd h hpl⟩
      obtain ⟨path, path', hp, hq⟩ := hruns y x h
      exact hpa ⟨path', path, hq, hp⟩
    · intro _
      exact ⟨fun h => absurd h hkeys, fun h => absurd h hpl⟩

omit hs in
theorem keysIdentify_repositories {r' : String} (hx : x.repository = some r) (hy : y.repository = some r') :
    KeysIdentify x y ↔ (x.usesRestic = false ∨ y.usesRestic = false →
      (repositoryText r = repositoryText r' ↔ SamePlace x y)) := by
  have hkeys : SameOk x.key y.key ↔ repositoryText r = repositoryText r' := by
    rw [key_of_repository x hx, key_of_repository y hy]
    constructor
    · rintro ⟨key, hkey, hkey'⟩
      have hch := congrArg String.toList ((Except.ok.inj hkey).trans (Except.ok.inj hkey').symm)
      rw [String.toList_append, String.toList_append] at hch
      exact String.toList_inj.1 (List.append_cancel_left hch)
    · intro h
      exact ⟨_, rfl, by rw [h]⟩
  unfold KeysIdentify
  rw [hkeys, sameDestination_iff]
  by_cases huses : x.usesRestic = true ∧ y.usesRestic = true
  · have hpl : ¬ SamePlace x y := fun h => absurd (h.1.symm.trans huses.1) (by decide)
    simp [huses.1, huses.2, hx, hy, hpl]
  have hone : x.usesRestic = false ∨ y.usesRestic = false := by
    rcases Bool.eq_false_or_eq_true x.usesRestic with hu | hu
    · exact .inr (Bool.eq_false_iff.2 fun hv => huses ⟨hu, hv⟩)
    · exact .inl hu
  have hno : ¬ (x.usesRestic = true ∧ y.usesRestic = true ∧
      ∃ r r', x.repository = some r ∧ y.repository = some r' ∧ repositoryText r = repositoryText r') :=
    fun h => huses ⟨h.1, h.2.1⟩
  rw [or_iff_left hno]
  exact ⟨fun h _ => h, fun h => h hone⟩

theorem keysIdentify_mixed (hx : x.repository = some r) (hy : y.repository = none) :
    (KeysIdentify x y ↔ ¬ SamePlace x y) ∧ (KeysIdentify y x ↔ ¬ SamePlace y x) := by
  have hkeys : ¬ SameOk x.key y.key := by
    rintro ⟨key, hxkey, hykey⟩
    rw [key_of_repository x hx] at hxkey
    rw [key_of_path hs y hy] at hykey
    cases hypath : y.path with
    | error e => simp [hypath, Except.map] at hykey
    | ok path =>
      rw [hypath] at hykey
      refine KeySpace.text_ne_repository y.space (":path:" ++ path) (repositoryText r) ?_
      rw [← String.append_assoc]
      exact (Except.ok.inj hykey).trans (Except.ok.inj hxkey).symm
  unfold KeysIdentify
  constructor
  · rw [sameDestination_iff]
    simp [hkeys, hy]
  · rw [sameDestination_iff]
    simp [mt sameOk_comm.1 hkeys, hy]

/-- The condition, for two pairs of one store with the rows of the routes. -/
theorem keysIdentify_iff_fit : KeysIdentify x y ↔ KeysFit x y := by
  unfold KeysFit
  cases hx : x.repository with
  | none =>
    cases hy : y.repository with
    | none => exact keysIdentify_paths hs x y hx hy
    | some r => exact (keysIdentify_mixed hs y x hy hx).2
  | some r =>
    cases hy : y.repository with
    | none => exact (keysIdentify_mixed hs x y hx hy).1
    | some r' => exact keysIdentify_repositories x y hx hy

end Spaces

def slashedRequests : List FolderRequest :=
  [.addHost "desk", .addHost "lap",
   .createFolder (sampleUuid 1) 0 samplePassword { name := "docs/", type := .sync, backend := some "sftp" },
   .createFolder (sampleUuid 2) 0 samplePassword { name := "notes", type := .sync, backend := some "sftp" },
   .assign (sampleUuid 3) (sampleUuid 1).val { hostId := "desk", role := "bisync", localPath := "/docs", remoteName := some "nas" },
   .patchAssignment (sampleUuid 1).val "desk" { destination := some none },
   .assign (sampleUuid 4) (sampleUuid 2).val
     { hostId := "lap", role := "bisync", localPath := "/notes", remoteName := some "nas", destination := some "docs" }]

def slashedStore : FolderStore := FolderStore.after (fun _ => none) slashedRequests

def slashedPair (i : Fin 2) : StoredPair slashedStore where
  folder := slashedStore.folders.get (i.cast (by decide +kernel))
  assignment := slashedStore.assignments.get (i.cast (by decide +kernel))
  folderStored := List.get_mem ..
  assignmentStored := List.get_mem ..
  assigned := by
    revert i
    decide +kernel

end LamaSync
