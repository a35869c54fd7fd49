import LamaSync.Core.Folders
import LamaSync.Lib.Directory
import LamaSync.Lib.Rows
import LamaSync.Lib.Table
import LamaSync.Lib.Trace
import Mathlib.Data.List.Infix

/-!
# Archives of application snapshots

An upload is staged, its protection is looked at again, the archive is published where the protection then says, and the
row is inserted with that location.  The protection may be disabled or moved while the archive travels; the row has the
location all the same (`snapshots_stored`).  A protection with rows is not deleted, but one whose first archive still
travels may be.

A deletion removes the archive and then the row, so between the two, and after a deletion that could not be confirmed,
there is a row without an archive.
-/

namespace LamaSync

open Rows Trace
open Table (of_put put_of_ne erase_of_ne put_self)

abbrev Uuid := {id : String // id.length = 36}

inductive AppBackend where
  | s3 (complete : Bool)
  | directory (kind : String) (localPath : Option String)
  | other (kind : String)

def AppBackend.kind : AppBackend → String
  | s3 _ => "s3"
  | directory kind _ | other kind => kind

inductive ResolvedAppBackend where
  | s3
  | directory (localPath : String)
  deriving DecidableEq

def AppBackend.resolve : AppBackend → Option ResolvedAppBackend
  | s3 complete => if complete then some .s3 else none
  | directory _ localPath => localPath.map .directory
  | other _ => none

structure SnapshotEnv where
  backupDir : String
  sha256 : Bytes → String
  backends : String → Option AppBackend

def isBucketEdge (c : Char) : Bool := c.isLower || c.isDigit

def isValidAppBucketName (bucket : String) : Bool :=
  let cs := bucket.toList
  3 ≤ cs.length && cs.length ≤ 63 && !cs.any isJsSpace &&
    cs.all (fun c => isBucketEdge c || c == '.' || c == '-') &&
    cs.head?.any isBucketEdge && cs.getLast?.any isBucketEdge &&
    !decide (['.', '.'] <:+: cs) && !decide (['.', '-'] <:+: cs) && !decide (['-', '.'] <:+: cs)

structure ArchiveDestination where
  backendId : Option String
  s3Bucket : Option String
  named : ∀ id ∈ backendId, id ≠ ""
  bucket : ∀ b ∈ s3Bucket, isValidAppBucketName b = true

def serverArchive : ArchiveDestination := ⟨none, none, fun _ h => (nomatch h), fun _ h => (nomatch h)⟩

def nonBlank (text : Option String) : Option String := (text.map trimText).filter (· ≠ "")

theorem ne_of_nonBlank {text : Option String} {t : String} (h : nonBlank text = some t) : t ≠ "" := by
  simpa using (Option.filter_eq_some_iff.1 h).2

def validateBucketForKind (bucket : Option String) (kind : String) :
    Except String {bucket : Option String // ∀ b ∈ bucket, isValidAppBucketName b = true} :=
  match bucket with
  | none => if kind = "s3" then .error "s3 backends require a bucket" else .ok ⟨none, fun _ h => nomatch h⟩
  | some b =>
    if kind ≠ "s3" then .error ("s3Bucket is only valid for s3 backends (selected: " ++ kind ++ ")")
    else if hb : isValidAppBucketName b = true then .ok ⟨some b, fun _ h => Option.some.inj h ▸ hb⟩
    else
      .error ("invalid bucket name: use 3-63 lowercase letters, digits, dots and hyphens, starting and ending with a " ++
        "letter or digit, without '..', '--', '-.' or '.-' segments or control characters")

def validateDestination (env : SnapshotEnv) (backendId s3Bucket : Option String) : Except String ArchiveDestination :=
  match hid : nonBlank backendId with
  | none => if (nonBlank s3Bucket).isSome then .error "s3Bucket is only valid with a backend" else .ok serverArchive
  | some id =>
    match env.backends id with
    | none => .error "backend not found"
    | some (.other kind) =>
      .error ("backend kind '" ++ kind ++ "' is not a valid app backup destination (allowed: s3, local, nfs)")
    | some backend =>
      (validateBucketForKind (nonBlank s3Bucket) backend.kind).map fun bucket =>
        ⟨some id, bucket.val, fun _ h => Option.some.inj h ▸ ne_of_nonBlank hid, bucket.property⟩

inductive SnapshotPlace where
  | file (path : String)
  | object (backendId bucket key : String)
  deriving DecidableEq

def appObjectKey (protectionId : String) (snapshotId : Uuid) : String :=
  "lamasync/apps" ++ "/" ++ protectionId ++ "/" ++ snapshotId.val ++ ".tar.gz"

def localRelPath (protectionId : String) (timestamp : Int) (snapshotId : Uuid) : String :=
  "apps/" ++ protectionId ++ "/" ++ toString timestamp ++ "-" ++ snapshotId.val ++ ".tar.gz"

/-- `join`, of an absolute path and a relative one. -/
def underRoot (root rel : String) : String := root ++ "/" ++ rel

structure PublishResult where
  objectKey : Option String
  localRelPath : Option String

def publishPlace (env : SnapshotEnv) (protectionId : String) (snapshotId : Uuid) (timestamp : Int)
    (destination : ArchiveDestination) : Option (SnapshotPlace × PublishResult) :=
  let rel := localRelPath protectionId timestamp snapshotId
  let key := appObjectKey protectionId snapshotId
  match destination.backendId.filter (· ≠ "") with
  | none => some (.file (underRoot env.backupDir rel), ⟨none, some rel⟩)
  | some id =>
    match (env.backends id).bind AppBackend.resolve with
    | none => none
    | some .s3 =>
      let bucket := trimText (destination.s3Bucket.getD "")
      if bucket = "" || !isValidAppBucketName bucket then none else some (.object id bucket key, ⟨some key, none⟩)
    | some (.directory localPath) => some (.file (underRoot localPath key), ⟨some key, none⟩)

structure AppSnapshotRow where
  id : Uuid
  protectionId : String
  templateId : String
  templateRevision : Int
  sourceHostId : String
  createdAt : Int
  archivePath : String
  sizeBytes : Nat
  checksumSha256 : String
  description : Option String
  capturedSpec : String
  backendId : Option String
  objectKey : Option String
  s3Bucket : Option String

def AppSnapshotRow.place (env : SnapshotEnv) (row : AppSnapshotRow) : Option SnapshotPlace :=
  match row.backendId with
  | none => some (.file (underRoot env.backupDir row.archivePath))
  | some id =>
    match (env.backends id).bind AppBackend.resolve, row.objectKey with
    | some .s3, some key => some (.object id (row.s3Bucket.getD "") key)
    | some (.directory localPath), some key => some (.file (underRoot localPath key))
    | _, _ => none

structure AppProtection where
  templateId : String
  templateRevision : Int
  hostId : String
  enabled : Bool
  destination : ArchiveDestination

/-- How far an upload is. -/
inductive UploadPhase where
  | receiving
  | staged (bytes : Bytes)
  | publishing (bytes : Bytes) (fresh : AppProtection) (place : SnapshotPlace) (result : PublishResult)
  | published (bytes : Bytes) (fresh : AppProtection) (place : SnapshotPlace) (result : PublishResult)
  | recorded (fresh : AppProtection) (place : SnapshotPlace)
  /-- The row could not be inserted. -/
  | compensating (place : SnapshotPlace)
  | ended

structure AppUpload where
  protectionId : String
  capturedSpec : String
  description : Option String
  phase : UploadPhase

structure ArchiveSystem where
  protections : Table String AppProtection
  snapshots : List AppSnapshotRow
  store : Table SnapshotPlace Bytes
  uploads : Table Uuid AppUpload
  deletions : Table Nat AppSnapshotRow
  confirmed : Table Nat AppSnapshotRow
  removed : List Uuid

def ArchiveSystem.new : ArchiveSystem :=
  ⟨fun _ => none, [], fun _ => none, fun _ => none, fun _ => none, fun _ => none, []⟩

inductive ArchiveEvent where
  | enroll (protectionId : String) (protection : AppProtection)
  | setEnabled (protectionId : String) (enabled : Bool)
  | setDestination (protectionId : String) (backendId s3Bucket : Option String)
  | deleteProtection (protectionId : String)
  | upload (snapshotId : Uuid) (protectionId : String) (capturedSpec description : Option String)
  | stage (snapshotId : Uuid) (bytes : Bytes)
  | revalidate (snapshotId : Uuid) (timestamp : Int)
  | land (snapshotId : Uuid)
  /-- The upload fails before the archive is published, and may leave something at the place. -/
  | fail (snapshotId : Uuid) (left : Option Bytes)
  | insert (snapshotId : Uuid) (ok : Bool) (deviceHostId : Option String) (now : Int)
  | compensate (snapshotId : Uuid) (removed : Bool)
  | deleteSnapshot (request : Nat) (snapshotId : Uuid)
  | deleteArchive (request : Nat) (failed removed : Bool)
  | deleteRow (request : Nat)

namespace ArchiveSystem

variable (env : SnapshotEnv) (s : ArchiveSystem)

def snapshotRow (up : AppUpload) (snapshotId : Uuid) (bytes : Bytes) (fresh : AppProtection) (result : PublishResult)
    (deviceHostId : Option String) (now : Int) : AppSnapshotRow where
  id := snapshotId
  protectionId := up.protectionId
  templateId := fresh.templateId
  templateRevision := fresh.templateRevision
  sourceHostId := deviceHostId.getD fresh.hostId
  createdAt := now
  archivePath := (result.objectKey.orElse fun _ => result.localRelPath).getD ""
  sizeBytes := bytes.length
  checksumSha256 := env.sha256 bytes
  description := up.description
  capturedSpec := up.capturedSpec
  backendId := fresh.destination.backendId
  objectKey := result.objectKey
  s3Bucket := fresh.destination.s3Bucket

def setPhase (snapshotId : Uuid) (up : AppUpload) (phase : UploadPhase) : ArchiveSystem :=
  { s with uploads := s.uploads.put snapshotId { up with phase := phase } }

def stepUpload (snapshotId : Uuid) (up : AppUpload) : ArchiveEvent → ArchiveSystem
  | .stage _ bytes => match up.phase with
    | .receiving => s.setPhase snapshotId up (.staged bytes)
    | _ => s
  | .revalidate _ timestamp => match up.phase with
    | .staged bytes => match (s.protections up.protectionId).filter AppProtection.enabled with
      | some fresh => match publishPlace env up.protectionId snapshotId timestamp fresh.destination with
        | some (place, result) => s.setPhase snapshotId up (.publishing bytes fresh place result)
        | none => s.setPhase snapshotId up .ended
      | none => s.setPhase snapshotId up .ended
    | _ => s
  | .land _ => match up.phase with
    | .publishing bytes fresh place result =>
      { s.setPhase snapshotId up (.published bytes fresh place result) with store := s.store.put place bytes }
    | _ => s
  | .fail _ left => match up.phase with
    | .receiving | .staged _ => s.setPhase snapshotId up .ended
    | .publishing _ _ place _ =>
      { s.setPhase snapshotId up .ended with store := left.elim s.store fun bytes => s.store.put place bytes }
    | _ => s
  | .insert _ ok deviceHostId now => match up.phase with
    | .published bytes fresh place result =>
      if ok then
        { s.setPhase snapshotId up (.recorded fresh place) with
          snapshots := s.snapshots ++ [snapshotRow env up snapshotId bytes fresh result deviceHostId now] }
      else s.setPhase snapshotId up (.compensating place)
    | _ => s
  | .compensate _ removed => match up.phase with
    | .compensating place =>
      { s.setPhase snapshotId up .ended with store := if removed then s.store.erase place else s.store }
    | _ => s
  | _ => s

def step (e : ArchiveEvent) : ArchiveSystem :=
  match e with
  | .enroll id protection =>
    if (s.protections id).isSome then s else { s with protections := s.protections.put id protection }
  | .setEnabled id enabled => match s.protections id with
    | some protection => { s with protections := s.protections.put id { protection with enabled := enabled } }
    | none => s
  | .setDestination id backendId s3Bucket => match s.protections id, validateDestination env backendId s3Bucket with
    | some protection, .ok destination =>
      { s with protections := s.protections.put id { protection with destination := destination } }
    | _, _ => s
  | .deleteProtection id =>
    if s.snapshots.any fun row => row.protectionId == id then s
    else { s with protections := s.protections.erase id }
  | .upload snapshotId protectionId capturedSpec description =>
    match (s.protections protectionId).filter AppProtection.enabled, capturedSpec, s.uploads snapshotId with
    | some _, some spec, none =>
      { s with uploads := s.uploads.put snapshotId ⟨protectionId, spec, description, .receiving⟩ }
    | _, _, _ => s
  | .stage snapshotId _ | .revalidate snapshotId _ | .land snapshotId | .fail snapshotId _ | .insert snapshotId ..
  | .compensate snapshotId _ => match s.uploads snapshotId with
    | some up => s.stepUpload env snapshotId up e
    | none => s
  | .deleteSnapshot request snapshotId =>
    { s with deletions := (s.snapshots.find? fun row => row.id == snapshotId).elim s.deletions fun row =>
        s.deletions.put request row }
  | .deleteArchive request failed removed => match s.deletions request with
    | some row =>
      match row.place env with
      | some place =>
        { s with
          store := if failed && !removed then s.store else s.store.erase place
          deletions := s.deletions.erase request
          confirmed := if failed then s.confirmed else s.confirmed.put request row
          removed := if failed && !removed then s.removed else s.removed ++ [row.id] }
      | none => { s with deletions := s.deletions.erase request }
    | none => s
  | .deleteRow request => match s.confirmed request with
    | some row =>
      { s with
        snapshots := s.snapshots.filter fun r => !r.id == row.id
        confirmed := s.confirmed.erase request }
    | none => s

end ArchiveSystem

/-- The last name of a place ends with the id and the extension. -/
def SnapshotPlace.Names (snapshotId : Uuid) : SnapshotPlace → Prop
  | file path => ∃ front, path = front ++ snapshotId.val ++ ".tar.gz"
  | object _ _ key => ∃ front, key = front ++ snapshotId.val ++ ".tar.gz"

private theorem sn_text {a b : String} {i j : Uuid} (h : a ++ i.val ++ ".tar.gz" = b ++ j.val ++ ".tar.gz") : i = j := by
  have hlist := congrArg String.toList h
  simp only [String.toList_append, List.append_cancel_right_eq] at hlist
  have hlen : i.val.toList.length = j.val.toList.length := i.property.trans j.property.symm
  exact Subtype.ext (String.toList_inj.1 (List.append_inj' hlist hlen).2)

theorem SnapshotPlace.Names.unique {place : SnapshotPlace} {i j : Uuid} (hi : place.Names i) (hj : place.Names j) :
    i = j := by
  cases place with
  | file path | object backendId bucket key =>
    obtain ⟨a, rfl⟩ := hi
    obtain ⟨b, hb⟩ := hj
    exact sn_text hb

private theorem sn_under (root front id extension : String) :
    underRoot root (front ++ id ++ extension) = underRoot root front ++ id ++ extension := by
  simp only [underRoot, String.append_assoc]

theorem trimText_of_valid {b : String} (h : isValidAppBucketName b = true) : trimText b = b := by
  have hall : ∀ c ∈ b.toList, isJsSpace c = false := by
    unfold isValidAppBucketName at h
    simp only [Bool.and_eq_true] at h
    have hany := h.1.1.1.1.1.1.2
    intro c hc
    simpa using List.any_eq_false.1 (Bool.not_eq_true' _ ▸ hany) c hc
  have hdrop : ∀ l : List Char, (∀ c ∈ l, isJsSpace c = false) → l.dropWhile isJsSpace = l := by
    intro l hl
    cases l with
    | nil => rfl
    | cons c l => simp [hl c (.head _)]
  unfold trimText trimSpaces
  rw [hdrop _ hall, hdrop _ (by simpa using hall), List.reverse_reverse, String.ofList_toList]

theorem publishPlace_spec {env : SnapshotEnv} {protectionId : String} {snapshotId : Uuid} {timestamp : Int}
    {destination : ArchiveDestination} {place : SnapshotPlace} {result : PublishResult}
    (h : publishPlace env protectionId snapshotId timestamp destination = some (place, result)) :
    place.Names snapshotId ∧ ∀ row : AppSnapshotRow, row.backendId = destination.backendId →
      row.objectKey = result.objectKey → row.s3Bucket = destination.s3Bucket →
      row.archivePath = (result.objectKey.orElse fun _ => result.localRelPath).getD "" → row.place env = some place := by
  unfold publishPlace at h
  simp only at h
  split at h
  · rename_i hback
    obtain ⟨rfl, rfl⟩ := Prod.mk.inj (Option.some.inj h)
    refine ⟨⟨_, sn_under ..⟩, fun row hid _ _ hpath => ?_⟩
    have hnone : destination.backendId = none := by
      cases hid : destination.backendId with
      | none => rfl
      | some id => simp [hid, destination.named id hid] at hback
    simp [AppSnapshotRow.place, hid.trans hnone, hpath]
  · rename_i id hback
    have hid := (Option.filter_eq_some_iff.1 hback).1
    split at h
    · cases h
    · rename_i hres
      split at h
      · cases h
      obtain ⟨rfl, rfl⟩ := Prod.mk.inj (Option.some.inj h)
      refine ⟨⟨"lamasync/apps" ++ "/" ++ protectionId ++ "/", rfl⟩, fun row hrow hkey hbuck _ => ?_⟩
      have htrim : trimText (destination.s3Bucket.getD "") = destination.s3Bucket.getD "" := by
        cases hb : destination.s3Bucket with
        | none => rfl
        | some b => exact trimText_of_valid (destination.bucket b hb)
      simp [AppSnapshotRow.place, hrow, hid, hres, hkey, hbuck, htrim]
    · rename_i localPath hres
      obtain ⟨rfl, rfl⟩ := Prod.mk.inj (Option.some.inj h)
      exact ⟨⟨_, sn_under ..⟩, fun row hrow hkey _ _ => by simp [AppSnapshotRow.place, hrow, hid, hres, hkey]⟩

def UploadPhase.place : UploadPhase → Option SnapshotPlace
  | publishing _ _ place _ | published _ _ place _ | recorded _ place | compensating place => some place
  | _ => none

def RowStored (env : SnapshotEnv) (s : ArchiveSystem) (row : AppSnapshotRow) : Prop :=
  ∃ up fresh place, s.uploads row.id = some up ∧ up.phase = .recorded fresh place ∧ up.protectionId = row.protectionId ∧
    fresh.enabled = true ∧ row.place env = some place ∧
    (row.id ∈ s.removed ∨ ∃ bytes, s.store place = some bytes ∧ row.sizeBytes = bytes.length ∧
      row.checksumSha256 = env.sha256 bytes)

structure ArchiveInv (env : SnapshotEnv) (s : ArchiveSystem) : Prop where
  named : ∀ i up, s.uploads i = some up → ∀ place, up.phase.place = some place → place.Names i
  leads : ∀ i up bytes fresh place result, s.uploads i = some up →
    up.phase = .publishing bytes fresh place result ∨ up.phase = .published bytes fresh place result →
    fresh.enabled = true ∧ ∀ hostId now, (ArchiveSystem.snapshotRow env up i bytes fresh result hostId now).place env =
      some place
  landed : ∀ i up bytes fresh place result, s.uploads i = some up → up.phase = .published bytes fresh place result →
    s.store place = some bytes
  rows : ∀ row ∈ s.snapshots, RowStored env s row
  deletions : ∀ request row, s.deletions request = some row → ∃ up fresh place, s.uploads row.id = some up ∧
    up.phase = .recorded fresh place ∧ row.place env = some place

section Steps

variable {env : SnapshotEnv} {s : ArchiveSystem}

variable {i : Uuid} {up : AppUpload} {phase : UploadPhase}

private theorem sn_moves (hinv : ArchiveInv env s) (hup : s.uploads i = some up)
    {store : Table SnapshotPlace Bytes}
    (hph : ∀ place, phase.place = some place → place.Names i)
    (hle : ∀ bytes fresh place result, phase = .publishing bytes fresh place result ∨
      phase = .published bytes fresh place result → fresh.enabled = true ∧ ∀ hostId now,
        (ArchiveSystem.snapshotRow env { up with phase := phase } i bytes fresh result hostId now).place env = some place)
    (hland : ∀ bytes fresh place result, phase = .published bytes fresh place result → store place = some bytes)
    (hun : ∀ fresh place, up.phase ≠ .recorded fresh place)
    (hst : ∀ place j, place.Names j → j ≠ i → store place = s.store place) :
    ArchiveInv env { s.setPhase i up phase with store := store } where
  named j up' hj place hpl := by
    rcases of_put hj with ⟨rfl, rfl⟩ | ⟨-, hold⟩
    · exact hph place hpl
    · exact hinv.named j up' hold place hpl
  leads j up' bytes fresh place result hj hp := by
    rcases of_put hj with ⟨rfl, rfl⟩ | ⟨-, hold⟩
    · exact hle bytes fresh place result hp
    · exact hinv.leads j up' bytes fresh place result hold hp
  landed j up' bytes fresh place result hj hp := by
    rcases of_put hj with ⟨rfl, rfl⟩ | ⟨hne, hold⟩
    · exact hland bytes fresh place result hp
    · have hna := hinv.named j up' hold place (by rw [hp]; rfl)
      exact (hst place j hna hne).trans (hinv.landed j up' bytes fresh place result hold hp)
  rows row hrow := by
    obtain ⟨up', fresh, place, hup', hp, hrest⟩ := hinv.rows row hrow
    have hne : row.id ≠ i := by
      rintro rfl
      obtain rfl := Option.mem_unique hup hup'
      exact hun fresh place hp
    refine ⟨up', fresh, place, (put_of_ne hne).trans hup', hp, ?_⟩
    have hna := hinv.named row.id up' hup' place (by rw [hp]; rfl)
    show _ ∧ _ ∧ _ ∧ (_ ∨ ∃ bytes, store place = some bytes ∧ _)
    rw [hst place row.id hna hne]
    exact hrest
  deletions request row hrow := by
    obtain ⟨up', fresh, place, hup', hp, hpl⟩ := hinv.deletions request row hrow
    have hne : row.id ≠ i := by
      rintro rfl
      obtain rfl := Option.mem_unique hup hup'
      exact hun fresh place hp
    exact ⟨up', fresh, place, (put_of_ne hne).trans hup', hp, hpl⟩

private theorem sn_plain (hinv : ArchiveInv env s) (hup : s.uploads i = some up)
    (hpl : phase.place = none) (hun : ∀ fresh place, up.phase ≠ .recorded fresh place) :
    ArchiveInv env (s.setPhase i up phase) :=
  sn_moves hinv hup (fun place h => by cases hpl.symm.trans h)
    (fun _ _ _ _ h => by rcases h with rfl | rfl <;> cases hpl) (fun _ _ _ _ h => by cases h; cases hpl) hun
    fun _ _ _ _ => rfl

private theorem sn_upload (hinv : ArchiveInv env s) (hup : s.uploads i = some up)
    (e : ArchiveEvent) : ArchiveInv env (s.stepUpload env i up e) := by
  have ho : ∀ {place place' : SnapshotPlace} {j : Uuid}, place.Names i → place'.Names j → j ≠ i → place' ≠ place :=
    fun hi hj hne heq => hne (SnapshotPlace.Names.unique (heq ▸ hj) hi)
  cases e with
  | stage _ bytes =>
    simp only [ArchiveSystem.stepUpload]
    split
    · rename_i hph
      exact sn_plain hinv hup rfl fun _ _ h => by cases hph.symm.trans h
    · exact hinv
  | revalidate _ timestamp =>
    simp only [ArchiveSystem.stepUpload]
    split
    · rename_i bytes hph
      have hun : ∀ fresh place, up.phase ≠ .recorded fresh place := fun _ _ h => by cases hph.symm.trans h
      split
      · rename_i fresh hfr
        split
        · rename_i place result hpub
          obtain ⟨hna, hle⟩ := publishPlace_spec hpub
          refine sn_moves hinv hup (fun _ h => ?_) (fun _ _ _ _ h => ?_) (fun _ _ _ _ h => by cases h) hun
            fun _ _ _ _ => rfl
          · cases h
            exact hna
          rcases h with h | h
          · cases h
            exact ⟨(Option.filter_eq_some_iff.1 hfr).2, fun _ _ => hle _ rfl rfl rfl rfl⟩
          · cases h
        · exact sn_plain hinv hup rfl hun
      · exact sn_plain hinv hup rfl hun
    · exact hinv
  | land _ =>
    simp only [ArchiveSystem.stepUpload]
    split
    · rename_i bytes fresh place result hph
      have hna := hinv.named i up hup place (by rw [hph]; rfl)
      refine sn_moves hinv hup (fun _ h => ?_) (fun _ _ _ _ h => ?_) (fun _ _ _ _ h => ?_)
        (fun _ _ h => by cases hph.symm.trans h) fun place' j hj hne => put_of_ne (ho hna hj hne)
      · cases h
        exact hna
      · rcases h with h | h
        · cases h
        · cases h
          exact hinv.leads i up bytes fresh place result hup (.inl hph)
      · cases h
        exact put_self
    · exact hinv
  | fail _ left =>
    simp only [ArchiveSystem.stepUpload]
    split
    · rename_i hph
      exact sn_plain hinv hup rfl fun _ _ h => by cases hph.symm.trans h
    · rename_i hph
      exact sn_plain hinv hup rfl fun _ _ h => by cases hph.symm.trans h
    · rename_i bytes fresh place result hph
      have hna := hinv.named i up hup place (by rw [hph]; rfl)
      refine sn_moves hinv hup (fun _ h => by cases h) (fun _ _ _ _ h => by rcases h with h | h <;> cases h)
        (fun _ _ _ _ h => by cases h) (fun _ _ h => by cases hph.symm.trans h) fun place' j hj hne => ?_
      cases left with
      | none => rfl
      | some bytes => exact put_of_ne (ho hna hj hne)
    · exact hinv
  | insert _ ok deviceHostId now =>
    simp only [ArchiveSystem.stepUpload]
    split
    · rename_i bytes fresh place result hph
      have hna := hinv.named i up hup place (by rw [hph]; rfl)
      have hun : ∀ fresh place, up.phase ≠ .recorded fresh place := fun _ _ h => by cases hph.symm.trans h
      have hmv : ∀ {phase : UploadPhase}, phase.place = some place →
          (∀ bytes fresh place result, phase ≠ .publishing bytes fresh place result ∧
            phase ≠ .published bytes fresh place result) → ArchiveInv env (s.setPhase i up phase) := by
        intro phase hpl hnei
        refine sn_moves hinv hup (fun _ h => ?_) (fun _ _ _ _ h => ?_) (fun _ _ _ _ h => ?_) hun fun _ _ _ _ => rfl
        · obtain rfl := Option.mem_unique hpl h
          exact hna
        · rcases h with h | h
          · exact absurd h (hnei _ _ _ _).1
          · exact absurd h (hnei _ _ _ _).2
        · exact absurd h (hnei _ _ _ _).2
      split
      · have hrec : ArchiveInv env (s.setPhase i up (.recorded fresh place)) :=
          hmv rfl fun _ _ _ _ => ⟨fun h => (by cases h), fun h => (by cases h)⟩
        obtain ⟨hen, hle⟩ := hinv.leads i up bytes fresh place result hup (.inr hph)
        refine { hrec with rows := fun row hrow => ?_ }
        rcases List.mem_append.1 hrow with hrow | hrow
        · exact hrec.rows row hrow
        obtain rfl := List.mem_singleton.1 hrow
        exact ⟨_, fresh, place, put_self, rfl, rfl, hen, hle deviceHostId now,
          .inr ⟨bytes, hinv.landed i up bytes fresh place result hup hph, rfl, rfl⟩⟩
      · exact hmv rfl fun _ _ _ _ => ⟨fun h => (by cases h), fun h => (by cases h)⟩
    · exact hinv
  | compensate _ removed =>
    simp only [ArchiveSystem.stepUpload]
    split
    · rename_i place hph
      have hna := hinv.named i up hup place (by rw [hph]; rfl)
      refine sn_moves hinv hup (fun _ h => by cases h) (fun _ _ _ _ h => by rcases h with h | h <;> cases h)
        (fun _ _ _ _ h => by cases h) (fun _ _ h => by cases hph.symm.trans h) fun place' j hj hne => ?_
      split
      · exact erase_of_ne (ho hna hj hne)
      · rfl
    · exact hinv
  | _ => exact hinv

private theorem sn_deleted (hinv : ArchiveInv env s) {request : Nat} {row : AppSnapshotRow} {place : SnapshotPlace}
    (hrow : s.deletions request = some row) (hpl : row.place env = some place) :
    ArchiveInv env { s with
      store := s.store.erase place
      removed := s.removed ++ [row.id] } := by
  obtain ⟨up₀, fresh₀, place₀, hup₀, hp₀, hpl₀⟩ := hinv.deletions request row hrow
  obtain rfl := Option.mem_unique hpl hpl₀
  have hna := hinv.named row.id up₀ hup₀ place (by rw [hp₀]; rfl)
  refine { hinv with landed := fun j up bytes fresh place' result hup hp => ?_, rows := fun row' hrow' => ?_ }
  · have hne : place' ≠ place := by
      rintro rfl
      obtain rfl := SnapshotPlace.Names.unique hna (hinv.named j up hup _ (by rw [hp]; rfl))
      obtain rfl := Option.mem_unique hup₀ hup
      cases hp₀.symm.trans hp
    exact (erase_of_ne hne).trans (hinv.landed j up bytes fresh place' result hup hp)
  · obtain ⟨up, fresh, place', hup, hp, hprot, hen, hpl', hth⟩ := hinv.rows row' hrow'
    refine ⟨up, fresh, place', hup, hp, hprot, hen, hpl', ?_⟩
    rcases hth with hgone | hth
    · exact .inl (List.mem_append_left _ hgone)
    by_cases heq : row'.id = row.id
    · exact .inl (List.mem_append_right _ (heq ▸ .head _))
    · have hne : place' ≠ place := by
        rintro rfl
        exact heq (SnapshotPlace.Names.unique (hinv.named row'.id up hup _ (by rw [hp]; rfl)) hna)
      refine .inr ?_
      show ∃ bytes, s.store.erase place place' = some bytes ∧ _
      rw [erase_of_ne hne]
      exact hth

theorem ArchiveInv.step (hinv : ArchiveInv env s) (e : ArchiveEvent) : ArchiveInv env (s.step env e) := by
  have hpla : ∀ {s' : ArchiveSystem}, s'.uploads = s.uploads → s'.store = s.store → s'.snapshots = s.snapshots →
      s'.deletions = s.deletions → s'.removed = s.removed → ArchiveInv env s' := by
    intro s' hups hst hsn hde hrem
    constructor
    · rw [hups]; exact hinv.named
    · rw [hups]; exact hinv.leads
    · rw [hups, hst]; exact hinv.landed
    · rw [hsn]
      unfold RowStored
      rw [hups, hst, hrem]
      exact hinv.rows
    · rw [hups, hde]; exact hinv.deletions
  have hups : ∀ i e, ArchiveInv env (match s.uploads i with
      | some up => s.stepUpload env i up e
      | none => s) := by
    intro i e
    split
    · rename_i up hup
      exact sn_upload hinv hup e
    · exact hinv
  cases e with
  | enroll id protection | deleteProtection id =>
    simp only [ArchiveSystem.step]
    split
    · exact hinv
    · exact hpla rfl rfl rfl rfl rfl
  | setEnabled id enabled | setDestination id backendId s3Bucket =>
    simp only [ArchiveSystem.step]
    split
    · exact hpla rfl rfl rfl rfl rfl
    · exact hinv
  | upload i protectionId capturedSpec description =>
    simp only [ArchiveSystem.step]
    split
    · rename_i spec _ hnew
      have ho : ∀ {j : Uuid} {up : AppUpload}, s.uploads j = some up → j ≠ i := by
        rintro j up hup rfl
        cases hnew.symm.trans hup
      constructor
      · intro j up hj place hpl
        rcases of_put hj with ⟨rfl, rfl⟩ | ⟨-, hold⟩
        · cases hpl
        · exact hinv.named j up hold place hpl
      · intro j up bytes fresh place result hj hp
        rcases of_put hj with ⟨rfl, rfl⟩ | ⟨-, hold⟩
        · rcases hp with hp | hp <;> cases hp
        · exact hinv.leads j up bytes fresh place result hold hp
      · intro j up bytes fresh place result hj hp
        rcases of_put hj with ⟨rfl, rfl⟩ | ⟨-, hold⟩
        · cases hp
        · exact hinv.landed j up bytes fresh place result hold hp
      · intro row hrow
        obtain ⟨up, fresh, place, hup, hrest⟩ := hinv.rows row hrow
        exact ⟨up, fresh, place, (put_of_ne (ho hup)).trans hup, hrest⟩
      intro request row hrow
      obtain ⟨up, fresh, place, hup, hrest⟩ := hinv.deletions request row hrow
      exact ⟨up, fresh, place, (put_of_ne (ho hup)).trans hup, hrest⟩
    · exact hinv
  | stage i bytes | revalidate i timestamp | land i | fail i left | insert i ok deviceHostId now
  | compensate i removed => exact hups i _
  | deleteSnapshot request i =>
    simp only [ArchiveSystem.step]
    cases hfind : s.snapshots.find? fun row => row.id == i with
    | none => exact hinv
    | some row =>
      refine { hinv with deletions := fun request' row' h => ?_ }
      rcases of_put h with ⟨-, rfl⟩ | ⟨-, hold⟩
      · obtain ⟨up, fresh, place, hup, hp, -, -, hpl, -⟩ := hinv.rows row' (List.mem_of_find?_eq_some hfind)
        exact ⟨up, fresh, place, hup, hp, hpl⟩
      · exact hinv.deletions request' row' hold
  | deleteArchive request failed removed =>
    simp only [ArchiveSystem.step]
    split
    · rename_i row hrow
      have her : ∀ {s' : ArchiveSystem}, ArchiveInv env s' → ∀ confirmed,
          ArchiveInv env { s' with deletions := s'.deletions.erase request, confirmed := confirmed } := by
        intro s' hinv' confirmed
        refine { hinv' with deletions := fun request' row' h => hinv'.deletions request' row' ?_ }
        by_cases heq : request' = request
        · subst heq
          cases Table.erase_self.symm.trans h
        · exact (erase_of_ne heq).symm.trans h
      split
      · rename_i place hpl
        cases hkept : failed && !removed with
        | true => exact her hinv _
        | false => exact her (sn_deleted hinv hrow hpl) _
      · exact her hinv _
    · exact hinv
  | deleteRow request =>
    simp only [ArchiveSystem.step]
    split
    · exact { hinv with rows := fun row hrow => hinv.rows row (List.mem_of_mem_filter hrow) }
    · exact hinv

theorem archiveInv_new : ArchiveInv env .new where
  named _ _ h := by cases h
  leads _ _ _ _ _ _ h := by cases h
  landed _ _ _ _ _ _ h := by cases h
  rows _ h := by cases h
  deletions _ _ h := by cases h

/-- The protection has been looked at again, and the row is not inserted yet. -/
def AppUpload.publishes (up : AppUpload) : Bool :=
  match up.phase with
  | .publishing .. | .published .. => true
  | _ => false

/-- The protection was deleted between the upload's second look at it and the row. -/
def DeletedUnder (env : SnapshotEnv) (events : List ArchiveEvent) (i : Uuid) (protectionId : String) : Prop :=
  ∃ before after up, events = before ++ .deleteProtection protectionId :: after ∧
    (run (ArchiveSystem.step env) .new before).uploads i = some up ∧ up.protectionId = protectionId ∧ up.publishes = true

/-- What a step can do apart from the archives: the protection that an upload goes on with was there when it did, a row
is that of an upload on its way, and a protection with rows stays. -/
private structure LinkStep (s s' : ArchiveSystem) (e : ArchiveEvent) : Prop where
  protections : ∀ p, (s.protections p).isSome = true → (s'.protections p).isSome = true ∨
    (e = .deleteProtection p ∧ ∀ row ∈ s.snapshots, row.protectionId ≠ p)
  uploads : ∀ j up', s'.uploads j = some up' → up'.publishes = true →
    (s'.protections up'.protectionId).isSome = true ∨
      ∃ up, s.uploads j = some up ∧ up.publishes = true ∧ up.protectionId = up'.protectionId
  snapshots : ∀ row ∈ s'.snapshots, row ∈ s.snapshots ∨
    ∃ up, s.uploads row.id = some up ∧ up.publishes = true ∧ up.protectionId = row.protectionId

private theorem sn_same {s' : ArchiveSystem} {e : ArchiveEvent} (hpr : s'.protections = s.protections)
    (hups : s'.uploads = s.uploads) (hsn : ∀ row ∈ s'.snapshots, row ∈ s.snapshots) : LinkStep s s' e where
  protections p hp := .inl (by rw [hpr]; exact hp)
  uploads j up hup hpub := .inr ⟨up, hups ▸ hup, hpub, rfl⟩
  snapshots row hrow := .inl (hsn row hrow)

private theorem sn_moved {e : ArchiveEvent} {store : Table SnapshotPlace Bytes} (hup : s.uploads i = some up)
    (hpub : ({ up with phase := phase } : AppUpload).publishes = true →
      up.publishes = true ∨ (s.protections up.protectionId).isSome = true) :
    LinkStep s { s.setPhase i up phase with store := store } e where
  protections p hp := .inl hp
  uploads j up' hj hnow := by
    rcases of_put hj with ⟨rfl, rfl⟩ | ⟨-, hold⟩
    · rcases hpub hnow with hwas | hp
      · exact .inr ⟨up, hup, hwas, rfl⟩
      · exact .inl hp
    · exact .inr ⟨up', hold, hnow, rfl⟩
  snapshots row hrow := .inl hrow

private theorem sn_link_upload (hup : s.uploads i = some up) (e : ArchiveEvent) :
    LinkStep s (s.stepUpload env i up e) e := by
  have hkept : LinkStep s s e := sn_same rfl rfl fun _ hrow => hrow
  have hnd : ∀ {phase : UploadPhase} {store : Table SnapshotPlace Bytes},
      ({ up with phase := phase } : AppUpload).publishes = false →
      LinkStep s { s.setPhase i up phase with store := store } e :=
    fun hfa => sn_moved hup fun htrue => by cases hfa.symm.trans htrue
  cases e with
  | stage | compensate =>
    simp only [ArchiveSystem.stepUpload]
    split
    · exact hnd rfl
    · exact hkept
  | revalidate _ timestamp =>
    simp only [ArchiveSystem.stepUpload]
    split
    · split
      · rename_i fresh hfr
        have hth : (s.protections up.protectionId).isSome = true := by
          rw [(Option.filter_eq_some_iff.1 hfr).1]
          rfl
        split
        · exact sn_moved hup fun _ => .inr hth
        · exact hnd rfl
      · exact hnd rfl
    · exact hkept
  | land =>
    simp only [ArchiveSystem.stepUpload]
    split
    · rename_i hph
      refine sn_moved hup fun _ => .inl ?_
      rw [AppUpload.publishes, hph]
    · exact hkept
  | fail =>
    simp only [ArchiveSystem.stepUpload]
    split
    · exact hnd rfl
    · exact hnd rfl
    · exact hnd rfl
    · exact hkept
  | insert =>
    simp only [ArchiveSystem.stepUpload]
    split
    · rename_i bytes fresh place result hph
      split
      · have hrec : LinkStep s (s.setPhase i up (.recorded fresh place)) _ := hnd rfl
        refine { hrec with snapshots := fun row hrow => ?_ }
        rcases List.mem_append.1 hrow with hrow | hrow
        · exact .inl hrow
        obtain rfl := List.mem_singleton.1 hrow
        refine .inr ⟨up, hup, ?_, rfl⟩
        rw [AppUpload.publishes, hph]
      · exact hnd rfl
    · exact hkept
  | _ => exact hkept

theorem ArchiveSystem.step_links (s : ArchiveSystem) (e : ArchiveEvent) : LinkStep s (s.step env e) e := by
  have hkept : LinkStep s s e := sn_same rfl rfl fun _ hrow => hrow
  have hput : ∀ {id : String} {protection : AppProtection},
      LinkStep s { s with protections := s.protections.put id protection } e := by
    intro id protection
    refine ⟨fun p hp => .inl ?_, fun j up hup hpub => .inr ⟨up, hup, hpub, rfl⟩, fun row hrow => .inl hrow⟩
    show (s.protections.put id protection p).isSome = true
    rw [Table.put_apply]
    split
    · rfl
    · exact hp
  cases e with
  | enroll id protection =>
    simp only [ArchiveSystem.step]
    split
    · exact hkept
    · exact hput
  | setEnabled id enabled | setDestination id backendId s3Bucket =>
    simp only [ArchiveSystem.step]
    split
    · exact hput
    · exact hkept
  | deleteProtection id =>
    simp only [ArchiveSystem.step]
    split
    · exact hkept
    rename_i hnone
    refine ⟨fun p hp => ?_, fun j up hup hpub => .inr ⟨up, hup, hpub, rfl⟩, fun row hrow => .inl hrow⟩
    by_cases heq : p = id
    · subst heq
      exact .inr ⟨rfl, fun row hrow hid => hnone (List.any_eq_true.2 ⟨row, hrow, beq_iff_eq.2 hid⟩)⟩
    · exact .inl ((congrArg Option.isSome (erase_of_ne heq)).trans hp)
  | upload i protectionId capturedSpec description =>
    simp only [ArchiveSystem.step]
    split
    · refine ⟨fun p hp => .inl hp, fun j up' hj hnow => ?_, fun row hrow => .inl hrow⟩
      rcases of_put hj with ⟨rfl, rfl⟩ | ⟨-, hold⟩
      · cases hnow
      · exact .inr ⟨up', hold, hnow, rfl⟩
    · exact hkept
  | stage i | revalidate i | land i | fail i | insert i | compensate i =>
    simp only [ArchiveSystem.step]
    split
    · rename_i up hup
      exact sn_link_upload hup _
    · exact hkept
  | deleteSnapshot => exact sn_same rfl rfl fun _ hrow => hrow
  | deleteArchive =>
    simp only [ArchiveSystem.step]
    split
    · split
      · exact sn_same rfl rfl fun _ hrow => hrow
      · exact sn_same rfl rfl fun _ hrow => hrow
    · exact hkept
  | deleteRow =>
    simp only [ArchiveSystem.step]
    split
    · exact sn_same rfl rfl fun _ hrow => List.mem_of_mem_filter hrow
    · exact hkept

/-- A protection is there as long as an upload of it is on its way or a row names it, unless it was deleted under the
upload. -/
theorem protections_kept (env : SnapshotEnv) (events : List ArchiveEvent) :
    let s := run (ArchiveSystem.step env) .new events
    (∀ i up, s.uploads i = some up → up.publishes = true →
      (s.protections up.protectionId).isSome = true ∨ DeletedUnder env events i up.protectionId) ∧
    ∀ row ∈ s.snapshots, (s.protections row.protectionId).isSome = true ∨
      DeletedUnder env events row.id row.protectionId := by
  induction events using List.reverseRecOn with
  | nil =>
    refine ⟨fun i up hup => ?_, fun row hrow => ?_⟩
    · cases hup
    · cases hrow
  | append_singleton events e ih =>
    obtain ⟨hups, hsn⟩ := ih
    have hstep : LinkStep _ (ArchiveSystem.step env _ e) e := (run (ArchiveSystem.step env) .new events).step_links e
    rw [run_concat]
    generalize hs : run (ArchiveSystem.step env) .new events = s at hups hsn hstep ⊢
    have hla : ∀ {i : Uuid} {p : String}, DeletedUnder env events i p → DeletedUnder env (events ++ [e]) i p := by
      rintro i p ⟨before, after, up, rfl, hrest⟩
      exact ⟨before, after ++ [e], up, by rw [List.append_assoc, List.cons_append], hrest⟩
    -- an upload that was on its way before the step
    have hwas : ∀ {i : Uuid} {up : AppUpload}, s.uploads i = some up → up.publishes = true →
        ((s.step env e).protections up.protectionId).isSome = true ∨ DeletedUnder env (events ++ [e]) i up.protectionId := by
      intro i up hup hpub
      rcases hups i up hup hpub with hth | hdel
      · rcases hstep.protections _ hth with hsy | ⟨he, -⟩
        · exact .inl hsy
        · exact .inr ⟨events, [], up, by rw [he], hs ▸ hup, rfl, hpub⟩
      · exact .inr (hla hdel)
    refine ⟨fun i up' hup' hpub' => ?_, fun row hrow => ?_⟩
    · rcases hstep.uploads i up' hup' hpub' with hth | ⟨up, hup, hpub, hsame⟩
      · exact .inl hth
      · exact hsame ▸ hwas hup hpub
    rcases hstep.snapshots row hrow with hold | ⟨up, hup, hpub, hsame⟩
    · rcases hsn row hold with hth | hdel
      · rcases hstep.protections _ hth with hsy | ⟨-, hno⟩
        · exact .inl hsy
        · exact absurd rfl (hno row hold)
      · exact .inr (hla hdel)
    · exact hsame ▸ hwas hup hpub

/-- After every run each row leads to the place where its archive was published, for a protection that exists, unless it
was deleted while the upload published; the archive is there as recorded, unless a deletion of the snapshot has removed
it. -/
theorem snapshots_stored (env : SnapshotEnv) (events : List ArchiveEvent) :
    let s := run (ArchiveSystem.step env) .new events
    ∀ row ∈ s.snapshots, RowStored env s row ∧
      ((s.protections row.protectionId).isSome = true ∨ DeletedUnder env events row.id row.protectionId) := by
  intro s row hrow
  have hinv : ArchiveInv env s := run_invariant archiveInv_new fun _ e h => h.step e
  exact ⟨hinv.rows row hrow, (protections_kept env events).2 row hrow⟩

end Steps

def SnapshotStoreHolds (env : SnapshotEnv) (s : ArchiveSystem) : Prop :=
  ∀ row ∈ s.snapshots, (s.protections row.protectionId).isSome = true ∧ ∃ place bytes, row.place env = some place ∧
    s.store place = some bytes ∧ row.sizeBytes = bytes.length ∧ row.checksumSha256 = env.sha256 bytes

def exampleSnapshotEnv : SnapshotEnv where
  backupDir := "/backups"
  sha256 bytes := toString bytes.length
  backends id := if id = "b" then some (.s3 true) else none

def exampleSnapshotId : Uuid := ⟨"00000000-0000-4000-8000-000000000001", by decide⟩

def publishingEvents : List ArchiveEvent := [
  .enroll "p" ⟨"vscode", 1, "h", true, serverArchive⟩, .setDestination "p" (some "b") (some "archives"),
  .upload exampleSnapshotId "p" (some "[]") none, .stage exampleSnapshotId [1, 2, 3], .revalidate exampleSnapshotId 5]

theorem snapshots_stored_published :
    ∃ row ∈ (run (ArchiveSystem.step exampleSnapshotEnv) .new (publishingEvents ++
        [.land exampleSnapshotId, .insert exampleSnapshotId true none 6])).snapshots,
      RowStored exampleSnapshotEnv (run (ArchiveSystem.step exampleSnapshotEnv) .new (publishingEvents ++
        [.land exampleSnapshotId, .insert exampleSnapshotId true none 6])) row ∧
      (((run (ArchiveSystem.step exampleSnapshotEnv) .new (publishingEvents ++
          [.land exampleSnapshotId, .insert exampleSnapshotId true none 6])).protections row.protectionId).isSome = true ∨
        DeletedUnder exampleSnapshotEnv (publishingEvents ++
          [.land exampleSnapshotId, .insert exampleSnapshotId true none 6]) row.id row.protectionId) := by
  have hpub : ((run (ArchiveSystem.step exampleSnapshotEnv) .new (publishingEvents ++
      [.land exampleSnapshotId, .insert exampleSnapshotId true none 6])).snapshots.any fun row => row.sizeBytes = 3) = true := by
    decide +kernel
  obtain ⟨row, hrow, -⟩ := List.any_eq_true.1 hpub
  exact ⟨row, hrow, snapshots_stored exampleSnapshotEnv _ row hrow⟩

def deletingEvents : List ArchiveEvent :=
  publishingEvents ++ [.land exampleSnapshotId, .insert exampleSnapshotId true none 6, .deleteSnapshot 1 exampleSnapshotId,
    .deleteArchive 1 false true]

def orphaningEvents : List ArchiveEvent :=
  publishingEvents ++ [.deleteProtection "p", .land exampleSnapshotId, .insert exampleSnapshotId true none 6]

theorem snapshot_rows_left_alone :
    ¬SnapshotStoreHolds exampleSnapshotEnv (run (ArchiveSystem.step exampleSnapshotEnv) .new deletingEvents) ∧
      ¬SnapshotStoreHolds exampleSnapshotEnv (run (ArchiveSystem.step exampleSnapshotEnv) .new orphaningEvents) := by
  have hev : ((run (ArchiveSystem.step exampleSnapshotEnv) .new deletingEvents).snapshots.any fun row =>
        (row.place exampleSnapshotEnv).all fun place =>
          ((run (ArchiveSystem.step exampleSnapshotEnv) .new deletingEvents).store place).isNone) = true ∧
      ((run (ArchiveSystem.step exampleSnapshotEnv) .new orphaningEvents).snapshots.any fun row =>
        ((run (ArchiveSystem.step exampleSnapshotEnv) .new orphaningEvents).protections row.protectionId).isNone) = true := by
    decide +kernel
  obtain ⟨hdel, hor⟩ := hev
  refine ⟨fun h => ?_, fun h => ?_⟩
  · obtain ⟨row, hrow, hall⟩ := List.any_eq_true.1 hdel
    obtain ⟨-, place, bytes, hpl, hst, -⟩ := h row hrow
    simp [hpl, hst] at hall
  obtain ⟨row, hrow, hnone⟩ := List.any_eq_true.1 hor
  have hsome := (h row hrow).1
  rw [Option.isNone_iff_eq_none.1 hnone] at hsome
  cases hsome

/-- In every run an archive that is published and not yet recorded is at its place, no other upload holds that place, and
no two rows lead to one place. -/
theorem archives_in_flight (env : SnapshotEnv) (events : List ArchiveEvent) :
    let s := run (ArchiveSystem.step env) .new events
    (∀ i up bytes fresh place result, s.uploads i = some up → up.phase = .published bytes fresh place result →
      s.store place = some bytes) ∧
    (∀ i j up up' place, s.uploads i = some up → s.uploads j = some up' → up.phase.place = some place →
      up'.phase.place = some place → i = j) ∧
    ∀ row ∈ s.snapshots, ∀ row' ∈ s.snapshots, row.place env = row'.place env → row.id = row'.id := by
  intro s
  have hinv : ArchiveInv env s := run_invariant archiveInv_new fun _ e h => h.step e
  refine ⟨hinv.landed, fun i j up up' place hi hj hpl hpl' => ?_, fun row hrow row' hrow' hsame => ?_⟩
  · exact SnapshotPlace.Names.unique (hinv.named i up hi place hpl) (hinv.named j up' hj place hpl')
  obtain ⟨up, fresh, place, hup, hph, -, -, hpl, -⟩ := hinv.rows row hrow
  obtain ⟨up', fresh', place', hup', hph', -, -, hpl', -⟩ := hinv.rows row' hrow'
  obtain rfl := Option.some.inj (hpl.symm.trans (hsame.trans hpl'))
  exact SnapshotPlace.Names.unique (hinv.named row.id up hup place (by rw [hph]; rfl))
    (hinv.named row'.id up' hup' place (by rw [hph']; rfl))

end LamaSync
