import LamaSync.Server.Locks
import Mathlib.Data.List.TakeWhile

/-!
# The keys of the server and of the daemon

The server derives the key of a lock from its rows, and the daemon from the folder and the assignment of the configuration
it was sent.  The configuration is another projection of the same rows: a folder without a backend of its own kind loses
the reference to one, and an assignment without a repository gets that of the folder's restic backend.

`keys_agree_iff` says for which rows an acquire with the daemon's key is granted that very row, so that the heartbeats and
the release of the handle find it.
-/

namespace LamaSync

def backendNeedsRef (folder : Folder) : Bool := folder.backend.any fun backend => backend != .sftp

def rowToFolder (row : Folder) : Folder where
  id := row.id
  name := row.name
  type := row.type
  backend := some (row.backend.getD .sftp)
  backendId := if backendNeedsRef row then row.backendId else none
  s3Bucket := if row.backend = some .s3 then row.s3Bucket else none

def LockConfig.resolveFolderResticConfig (config : LockConfig) (folder : Folder) : Option String :=
  match folder.backend, presentText folder.backendId with
  | some .restic, some backendId =>
    match config.backends backendId with
    | none => none
    | some backend =>
      if (presentText backend.resticPassword).isNone then none else presentTrimmed backend.resticRepository
  | _, _ => none

def LockConfig.deliveredAssignment (config : LockConfig) (folder : Folder) (assignment : AssignmentIdentity) :
    AssignmentIdentity :=
  match presentText assignment.resticRepository, config.resolveFolderResticConfig (rowToFolder folder) with
  | none, some repository => { assignment with resticRepository := some repository }
  | _, _ => assignment

def LockConfig.daemonKey (config : LockConfig) (folder : Folder) (assignment : AssignmentIdentity) :
    Except String String :=
  canonicalDestinationKey (rowToFolder folder) (config.deliveredAssignment folder assignment)

def AcquireAddresses (s : LockServer) (folderId hostId key : String) : Prop :=
  match (s.acquire folderId hostId (some key)).2 with
  | .acquired _ _ row => ∀ later : LockConfig, requestKey later folderId hostId (some key) = .ok row
  | .folderLocked .. => True
  | .renewed _ | .released | .refused .. => False

def KeysAgree (config : LockConfig) (folderId hostId : String) : Prop :=
  ∀ folder assignment, config.folders folderId = some folder → config.assignments (folderId, hostId) = some assignment →
    ∃ key, config.daemonKey folder assignment = .ok key ∧
      ∀ s : LockServer, s.config = config → AcquireAddresses s folderId hostId key

def ValidDestination (assignment : AssignmentIdentity) : Prop :=
  ∀ explicit, presentTrimmed assignment.destination = some explicit → normalizeDestination explicit ≠ none

def SftpReferenceFits (folder : Folder) (assignment : AssignmentIdentity) : Prop :=
  backendNeedsRef folder = false → ∀ backendId, presentText folder.backendId = some backendId →
    presentTrimmed assignment.remoteName = some backendId

def KeysMeet (folder : Folder) (assignment : AssignmentIdentity) : Prop :=
  presentText assignment.resticRepository ≠ none ∨
    asksBackend folder assignment = false ∧ ValidDestination assignment ∧ SftpReferenceFits folder assignment

section Keys

variable {config : LockConfig} {folder : Folder} {assignment : AssignmentIdentity} {key : String}

private theorem lk_trimSpaces_ne_nil {cs : List Char} {c : Char} (hmem : c ∈ cs) (hc : isJsSpace c = false) :
    trimSpaces cs ≠ [] := by
  intro hnil
  unfold trimSpaces at hnil
  rw [List.reverse_eq_nil_iff, List.dropWhile_eq_nil_iff] at hnil
  have hkept : c ∈ cs.dropWhile isJsSpace := by
    rw [← List.takeWhile_append_dropWhile (p := isJsSpace) (l := cs), List.mem_append] at hmem
    rcases hmem with htk | hkept
    · rw [List.mem_takeWhile_imp htk] at hc
      cases hc
    · exact hkept
  rw [hnil c (List.mem_reverse.2 hkept)] at hc
  cases hc

private theorem lk_colon (h : canonicalDestinationKey folder assignment = .ok key) : ':' ∈ key.toList := by
  unfold canonicalDestinationKey at h
  cases hrepo : presentText assignment.resticRepository with
  | some repository =>
    rw [hrepo] at h
    obtain rfl := Except.ok.inj h
    simp
  | none =>
    rw [hrepo] at h
    cases hpath : resolveDestination folder assignment with
    | error error =>
      rw [hpath] at h
      cases h
    | ok path =>
      rw [hpath] at h
      obtain rfl := Except.ok.inj h
      simp

theorem requestKey_of_canonical (h : canonicalDestinationKey folder assignment = .ok key) (later : LockConfig)
    (folderId hostId : String) : requestKey later folderId hostId (some key) = .ok key := by
  have hbl : trimText key ≠ "" := by
    intro hem
    unfold trimText at hem
    have hnil := congrArg String.toList hem
    rw [String.toList_ofList] at hnil
    exact lk_trimSpaces_ne_nil (lk_colon h) (by decide) hnil
  unfold requestKey
  rw [Option.filter_some, if_pos (by simpa using hbl)]

theorem resolveDestination_congr (folder folder' : Folder) (hname : folder'.name = folder.name) (htype : folder'.type = folder.type) :
    resolveDestination folder' assignment = resolveDestination folder assignment := by
  unfold resolveDestination defaultDestination
  rw [hname, htype]

theorem resolveDestination_isOk (folder : Folder) :
    (∃ path, resolveDestination folder assignment = .ok path) ↔ ValidDestination assignment := by
  unfold resolveDestination ValidDestination
  cases presentTrimmed assignment.destination with
  | none => simp
  | some explicit =>
    dsimp only
    cases hno : normalizeDestination explicit with
    | none | some normalized => simp [hno]

theorem deliveredAssignment_of_not_asks (hown : presentText assignment.resticRepository = none)
    (hasks : asksBackend folder assignment = false) : config.deliveredAssignment folder assignment = assignment := by
  have hdef : config.resolveFolderResticConfig (rowToFolder folder) = none := by
    unfold LockConfig.resolveFolderResticConfig rowToFolder backendNeedsRef
    unfold asksBackend at hasks
    cases hback : folder.backend with
    | none => rfl
    | some backend =>
      cases backend with
      | restic =>
        have hrefn : presentText folder.backendId = none := by simpa [hown, hback] using hasks
        have hnd : (FolderBackend.restic != FolderBackend.sftp) = true := by decide
        simp [hnd, hrefn]
      | sftp | s3 | «local» | nfs => rfl
  unfold LockConfig.deliveredAssignment
  rw [hown, hdef]

theorem backendIdentity_of_needsRef (h : backendNeedsRef folder = true) :
    backendIdentity (rowToFolder folder) assignment = backendIdentity (folderBackend folder) assignment := by
  have hrefn : (rowToFolder folder).backendId = folder.backendId := if_pos h
  have hbuck : folderBucket (rowToFolder folder) = folderBucket (folderBackend folder) := by
    unfold folderBucket rowToFolder folderBackend
    cases hback : folder.backend with
    | none => rfl
    | some backend => cases backend <;> rfl
  unfold backendIdentity
  rw [hrefn, hbuck]
  rfl

theorem backendIdentity_of_sftp (h : backendNeedsRef folder = false) :
    backendIdentity (rowToFolder folder) assignment = backendIdentity (folderBackend folder) assignment ↔
      ∀ backendId, presentText folder.backendId = some backendId →
        presentTrimmed assignment.remoteName = some backendId := by
  have hsftp : folder.backend.getD .sftp = .sftp := by
    cases hback : folder.backend with
    | none => rfl
    | some backend => simpa [backendNeedsRef, hback] using h
  have hrefn : (rowToFolder folder).backendId = none := if_neg (by rw [h]; exact Bool.false_ne_true)
  have hkind : backendKind (rowToFolder folder) = "sftp" := by
    show (some (folder.backend.getD .sftp)).elim "remote" FolderBackend.text = "sftp"
    rw [hsftp]
    rfl
  have hkind' : backendKind (folderBackend folder) = "sftp" := hkind
  have hbuck : folderBucket (rowToFolder folder) = none := by
    unfold folderBucket rowToFolder
    rw [hsftp]
    rfl
  have hbuck' : folderBucket (folderBackend folder) = none := by
    unfold folderBucket folderBackend
    rw [hsftp]
    rfl
  have hrefn' : (folderBackend folder).backendId = folder.backendId := rfl
  unfold backendIdentity
  rw [hrefn, hkind, hkind', hbuck, hbuck', hrefn']
  cases hbackendId : presentText folder.backendId with
  | none => simp [presentText, rowToFolder, folderBackend]
  | some backendId =>
    cases hrem : presentTrimmed assignment.remoteName with
    | none =>
      refine iff_of_false ?_ (by simp)
      intro heq
      have hli := congrArg String.toList heq
      simp [presentText] at hli
    | some remoteName => simp [presentText]

theorem keysMeet_iff (config : LockConfig) (folder : Folder) (assignment : AssignmentIdentity) :
    (∃ key, config.daemonKey folder assignment = .ok key ∧ assignmentKey folder assignment = .ok key) ↔
      KeysMeet folder assignment := by
  unfold LockConfig.daemonKey assignmentKey KeysMeet
  cases hown : presentText assignment.resticRepository with
  | some repository =>
    have hasks : asksBackend folder assignment = false := by simp [asksBackend, hown]
    have hde : config.deliveredAssignment folder assignment = assignment := by
      unfold LockConfig.deliveredAssignment
      rw [hown]
    rw [hde, hasks]
    refine iff_of_true ?_ (.inl (by simp))
    unfold canonicalDestinationKey
    rw [hown]
    exact ⟨_, rfl, rfl⟩
  | none =>
    cases hasks : asksBackend folder assignment with
    | true =>
      refine iff_of_false ?_ (by simp)
      rintro ⟨key, -, hkey⟩
      cases hkey
    | false =>
      rw [deliveredAssignment_of_not_asks hown hasks, ← resolveDestination_isOk folder]
      simp only [ne_eq, not_true_eq_false, false_or, true_and, if_neg Bool.false_ne_true]
      unfold canonicalDestinationKey
      rw [hown]
      dsimp only
      rw [resolveDestination_congr folder (rowToFolder folder) rfl rfl,
        resolveDestination_congr folder (folderBackend folder) rfl rfl]
      cases hpath : resolveDestination folder assignment with
      | error error =>
        refine iff_of_false ?_ ?_
        · rintro ⟨key, hkey, -⟩
          cases hkey
        · rintro ⟨⟨path, hok⟩, -⟩
          cases hok
      | ok path =>
        have hsame : (∃ key, (Except.ok path : Except String String).map
            (fun path => backendIdentity (rowToFolder folder) assignment ++ ":path:" ++ path) = .ok key ∧
            (Except.ok path : Except String String).map
              (fun path => backendIdentity (folderBackend folder) assignment ++ ":path:" ++ path) = .ok key) ↔
            backendIdentity (rowToFolder folder) assignment = backendIdentity (folderBackend folder) assignment := by
          constructor
          · rintro ⟨key, hda, hse⟩
            have heq := Except.ok.inj (hda.trans hse.symm)
            rwa [String.append_left_inj, String.append_left_inj] at heq
          intro heq
          rw [heq]
          exact ⟨_, rfl, rfl⟩
        rw [hsame]
        unfold SftpReferenceFits
        cases hnd : backendNeedsRef folder with
        | true => simp [backendIdentity_of_needsRef hnd]
        | false => simp [backendIdentity_of_sftp hnd]

theorem canonicalKeyForAcquire_of_rows {folderId hostId : String} (hfol : config.folders folderId = some folder)
    (hasg : config.assignments (folderId, hostId) = some assignment) (requestedKey : Option String) :
    canonicalKeyForAcquire config folderId hostId requestedKey = assignmentKey folder assignment := by
  unfold canonicalKeyForAcquire
  rw [hfol, hasg]

theorem acquireAddresses_iff {folderId hostId : String} (hfol : config.folders folderId = some folder)
    (hasg : config.assignments (folderId, hostId) = some assignment)
    (hkey : config.daemonKey folder assignment = .ok key) :
    (∀ s : LockServer, s.config = config → AcquireAddresses s folderId hostId key) ↔
      assignmentKey folder assignment = .ok key := by
  have hrow := canonicalKeyForAcquire_of_rows hfol hasg (some key)
  have hreq (later : LockConfig) : requestKey later folderId hostId (some key) = .ok key :=
    requestKey_of_canonical hkey later folderId hostId
  constructor
  · intro haddr
    -- a server without locks grants the row of its key
    have hfree := haddr ⟨fun _ => none, config, 0, 0⟩ rfl
    unfold AcquireAddresses LockServer.acquire at hfree
    cases hse : assignmentKey folder assignment with
    | error error =>
      dsimp only at hfree
      rw [hrow, hse] at hfree
      exact hfree.elim
    | ok row =>
      dsimp only at hfree
      rw [hrow, hse] at hfree
      have hsame : requestKey config folderId hostId (some key) = .ok row := hfree config
      rw [hreq config] at hsame
      rw [Except.ok.inj hsame]
  · rintro hse s rfl
    unfold AcquireAddresses LockServer.acquire
    rw [hrow, hse]
    dsimp only
    cases hconf : s.acquireConflict key hostId with
    | none => exact hreq
    | some conflict =>
      unfold LockServer.acquireConflict at hconf
      split at hconf
      · cases hconf
      dsimp only at hconf
      split at hconf
      · split at hconf
        · cases hconf
          trivial
        · cases hconf
      · cases hconf

end Keys

/-- **Lock key agreement.** For a folder and its assignment to a host, the daemon has a key and its acquires address the
row of the server, without an error, exactly when the two projections of the rows meet. -/
theorem keys_agree_iff (config : LockConfig) (folderId hostId : String) :
    KeysAgree config folderId hostId ↔
    ∀ folder assignment, config.folders folderId = some folder →
      config.assignments (folderId, hostId) = some assignment → KeysMeet folder assignment := by
  unfold KeysAgree
  refine forall_congr' fun folder => forall_congr' fun assignment => forall_congr' fun hfol =>
    forall_congr' fun hasg => ?_
  rw [← keysMeet_iff config folder assignment]
  exact exists_congr fun key => and_congr_right fun hkey => acquireAddresses_iff hfol hasg hkey

def exampleResticConfig : LockConfig where
  folders := fun id =>
    if id = "f" then some { id := "f", name := "docs", type := .backup, backend := some .restic, backendId := some "b" }
    else none
  assignments := fun key => if key = ("f", "h") then some ⟨"h", none, none, none⟩ else none
  backends := fun id => if id = "b" then some ⟨some "rest:http://nas/docs", some "secret"⟩ else none

/-- The daemon locks the repository, and the server's query fails. -/
theorem acquire_of_restic_folder_fails :
    let folder : Folder := { id := "f", name := "docs", type := .backup, backend := some .restic, backendId := some "b" }
    (exampleResticConfig.daemonKey folder ⟨"h", none, none, none⟩).toOption = some "repo:rest:http://nas/docs" ∧
      ((⟨fun _ => none, exampleResticConfig, 0, 0⟩ : LockServer).acquire "f" "h" (some "repo:rest:http://nas/docs")).2 =
        .refused 500 "no such column: restic_password" ∧
      ¬KeysAgree exampleResticConfig "f" "h" := by
  refine ⟨by decide +kernel, by decide +kernel, ?_⟩
  intro hag
  obtain ⟨key, -, haddr⟩ := hag _ ⟨"h", none, none, none⟩ rfl rfl
  have href : ((⟨fun _ => none, exampleResticConfig, 0, 0⟩ : LockServer).acquire "f" "h" (some key)).2 =
      .refused 500 "no such column: restic_password" := rfl
  have hrow := haddr ⟨fun _ => none, exampleResticConfig, 0, 0⟩ rfl
  unfold AcquireAddresses at hrow
  rw [href] at hrow
  exact hrow

end LamaSync
