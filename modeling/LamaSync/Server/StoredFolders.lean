import LamaSync.Server.FolderRequests
import Mathlib.Data.List.Nodup

/-!
# What is stored of backends, folders and assignments

A folder with a backend refers to a row of its kind that is still there, and has a bucket when it is an S3 folder; a backend
has what its kind needs.  Every request keeps this, so it holds after any requests (`storedRows_after`).
-/

namespace LamaSync

structure BackendRow.Complete (row : BackendRow) : Prop where
  id : ∃ id : RandomUuid, row.id = id.val
  s3 : row.kind = .s3 → presentTrimmed row.s3Endpoint ≠ none ∧ presentTrimmed row.s3AccessKeyId ≠ none ∧
    presentText row.s3SecretKey ≠ none
  directory : row.kind = .local ∨ row.kind = .nfs →
    ∃ path, row.localPath = some path ∧ trimText path = path ∧ path.startsWith "/" = true
  restic : row.kind = .restic → presentTrimmed row.resticRepository ≠ none ∧ presentText row.resticPassword ≠ none

structure FolderRow.Fits (backends : List BackendRow) (row : FolderRow) : Prop where
  id : ∃ id : RandomUuid, row.id = id.val
  type : ∃ type : FolderType, row.type = type.stored
  reference : (normalizedBackend row.backend).needsRef = true →
    ∃ b ∈ backends, row.backendId = some b.id ∧ b.kind.folderBackend = normalizedBackend row.backend
  noReference : (normalizedBackend row.backend).needsRef = false → row.backendId = none
  bucket : normalizedBackend row.backend = .s3 → ∃ bucket, row.s3Bucket = some bucket ∧ bucket ≠ "" ∧ trimText bucket = bucket
  noBucket : normalizedBackend row.backend ≠ .s3 → row.s3Bucket = none
  password : row.encrypted = some 1 → presentText row.cryptPassword ≠ none

/-- What the requests keep. -/
structure FolderStore.StoredRows (s : FolderStore) : Prop where
  backendIds : (s.backends.map BackendRow.id).Nodup
  folderIds : (s.folders.map FolderRow.id).Nodup
  assigned : s.assignments.Pairwise fun a b => ¬ (a.folderId = b.folderId ∧ a.hostId = b.hostId)
  complete : ∀ b ∈ s.backends, b.Complete
  fits : ∀ f ∈ s.folders, f.Fits s.backends
  owned : ∀ a ∈ s.assignments, ∃ f ∈ s.folders, f.id = a.folderId

section Kept

variable {s s' : FolderStore} {cronError : String → Option String} {id : String}

theorem mem_of_getBackend {b : BackendRow} (h : s.getBackend id = some b) : b ∈ s.backends ∧ b.id = id := by
  refine ⟨List.mem_of_find?_eq_some h, ?_⟩
  simpa using List.find?_some h

theorem presentTrimmed_trimText (text : String) : presentTrimmed (some (trimText text)) = presentText (some (trimText text)) := by
  unfold presentTrimmed
  rw [Option.map_some, trimText_idem]

theorem presentText_some {text : String} (h : text ≠ "") : presentText (some text) = some text := by
  simp [presentText, h]

theorem presentTrimmed_eq_some {text : Option String} {trimmed : String} (h : presentTrimmed text = some trimmed) :
    trimmed ≠ "" ∧ trimText trimmed = trimmed := by
  unfold presentTrimmed presentText at h
  obtain ⟨htext, hne⟩ := Option.filter_eq_some_iff.1 h
  obtain ⟨raw, -, rfl⟩ := Option.map_eq_some_iff.1 htext
  exact ⟨by simpa using hne, trimText_idem raw⟩

theorem presentText_idem (text : Option String) : presentText (presentText text) = presentText text := by
  unfold presentText
  rw [Option.filter_filter]
  simp

theorem presentText_ne_none {text : Option String} (h : text.getD "" ≠ "") : presentText text ≠ none := by
  cases text with
  | none => exact absurd rfl h
  | some t =>
    rw [Option.getD_some] at h
    simp [presentText_some h]

theorem presentTrimmed_patched {old new : Option String} (hold : presentTrimmed old ≠ none)
    (h : (new.map trimText).getD (old.getD "") ≠ "") : presentTrimmed (some ((new.map trimText).getD (old.getD ""))) ≠ none := by
  cases new with
  | none =>
    cases old with
    | none => exact absurd rfl h
    | some text => exact hold
  | some text =>
    rw [Option.map_some, Option.getD_some] at h ⊢
    rw [presentTrimmed_trimText, presentText_some h]
    simp

variable {password : Option String}

theorem validateKindFields_directory {kind : BackendKind} {repository : Option String} {path : String}
    {creating : Bool} (hkind : kind = .local ∨ kind = .nfs)
    (h : validateKindFields kind (some path) repository password creating = none) :
    (trimText path).startsWith "/" = true := by
  rcases hkind with rfl | rfl
  · simp only [validateKindFields, Option.any_some] at h
    split at h
    · cases h
    · simpa using h
  simp only [validateKindFields, Option.any_some] at h
  split at h
  · cases h
  · simpa using h

theorem validateKindFields_restic {path repository : Option String}
    (h : validateKindFields .restic path repository password true = none) :
    trimText (repository.getD "") ≠ "" ∧ password.getD "" ≠ "" := by
  simpa [validateKindFields, not_or] using h

theorem validateKindFields_restic_patch {path : Option String} {repository : String}
    (h : validateKindFields .restic path (some repository) password false = none) : trimText repository ≠ "" := by
  simpa [validateKindFields] using h

theorem newBackend_complete {id : RandomUuid} {body : BackendBody}
    (h : s.newBackendError (FolderStore.newBackend id body) body = none) : (FolderStore.newBackend id body).Complete := by
  simp only [FolderStore.newBackendError, firstError_eq_none, List.forall_mem_cons, refuseIf_eq_none,
    Option.map_eq_none_iff, decide_eq_false_iff_not, not_and, not_or] at h
  obtain ⟨-, hs3, -, hfi, -⟩ := h
  constructor
  · exact ⟨id, rfl⟩
  · intro hkind
    obtain ⟨hend, hkey, hse⟩ := hs3 hkind
    have hrow : (FolderStore.newBackend id body).s3Endpoint = some (trimText (body.s3Endpoint.getD "")) ∧
        (FolderStore.newBackend id body).s3AccessKeyId = some (trimText (body.s3AccessKeyId.getD "")) ∧
        (FolderStore.newBackend id body).s3SecretKey = presentText body.s3SecretAccessKey :=
      ⟨if_pos hkind, if_pos hkind, if_pos hkind⟩
    rw [hrow.1, hrow.2.1, hrow.2.2, presentTrimmed_trimText, presentTrimmed_trimText, presentText_some hend,
      presentText_some hkey, presentText_idem]
    exact ⟨by simp, by simp, presentText_ne_none hse⟩
  · intro hkind
    have hpath := validateKindFields_directory hkind hfi
    rw [trimText_idem] at hpath
    exact ⟨_, if_pos hkind, trimText_idem _, hpath⟩
  · intro hkind
    rw [hkind] at hfi
    obtain ⟨hrepo, hpass⟩ := validateKindFields_restic hfi
    rw [Option.getD_some, trimText_idem] at hrepo
    have hrow : (FolderStore.newBackend id body).resticRepository = some (trimText (body.resticRepository.getD "")) ∧
        (FolderStore.newBackend id body).resticPassword = presentText body.resticPassword :=
      ⟨if_pos hkind, if_pos hkind⟩
    rw [hrow.1, hrow.2, presentTrimmed_trimText, presentText_some hrepo, presentText_idem]
    exact ⟨by simp, presentText_ne_none hpass⟩

theorem patchedBackend_complete {old : BackendRow} {patch : BackendPatch} (hold : old.Complete)
    (h : s.patchedBackendError old (FolderStore.patchedBackend old patch) patch = none) :
    (FolderStore.patchedBackend old patch).Complete := by
  simp only [FolderStore.patchedBackendError, firstError_eq_none, List.forall_mem_cons, refuseIf_eq_none,
    Option.map_eq_none_iff, decide_eq_false_iff_not, not_and, not_or] at h
  obtain ⟨-, -, hs3, -, hfi, -⟩ := h
  constructor
  · exact hold.id
  · intro hkind
    obtain ⟨hend, hkey⟩ := hs3 hkind
    obtain ⟨hold₁, hold₂, hold₃⟩ := hold.s3 hkind
    refine ⟨presentTrimmed_patched hold₁ hend, presentTrimmed_patched hold₂ hkey, ?_⟩
    show presentText ((presentText patch.s3SecretAccessKey).or old.s3SecretKey) ≠ none
    cases hpa : presentText patch.s3SecretAccessKey with
    | none => exact hold₃
    | some secret =>
      rw [Option.some_or, ← hpa, presentText_idem, hpa]
      simp
  · intro hkind
    have hrow : (FolderStore.patchedBackend old patch).localPath = (patch.localPath.map trimText).or old.localPath :=
      if_pos hkind
    rw [hrow]
    cases hpa : patch.localPath with
    | none => exact hold.directory hkind
    | some path =>
      rw [hpa] at hfi
      have hpath := validateKindFields_directory hkind hfi
      rw [trimText_idem] at hpath
      exact ⟨_, rfl, trimText_idem _, hpath⟩
  · intro hkind
    obtain ⟨hrepo, hpass⟩ := hold.restic hkind
    have hrow : (FolderStore.patchedBackend old patch).resticRepository =
          (patch.resticRepository.map trimText).or old.resticRepository ∧
        (FolderStore.patchedBackend old patch).resticPassword = (presentText patch.resticPassword).or old.resticPassword :=
      ⟨if_pos hkind, if_pos hkind⟩
    rw [hrow.1, hrow.2]
    constructor
    · cases hpa : patch.resticRepository with
      | none => exact hrepo
      | some repository =>
        have hold_kind : old.kind = .restic := hkind
        rw [hpa, hold_kind] at hfi
        have hnew := validateKindFields_restic_patch hfi
        rw [trimText_idem] at hnew
        rw [Option.map_some, Option.some_or, presentTrimmed_trimText, presentText_some hnew]
        simp
    · cases hpa : presentText patch.resticPassword with
      | none => exact hpass
      | some password =>
        rw [Option.some_or, ← hpa, presentText_idem, hpa]
        simp

theorem toNat_of_isUuidChar {c : Char} (h : isUuidChar c = true) :
    c.toNat = 45 ∨ (48 ≤ c.toNat ∧ c.toNat ≤ 57) ∨ (97 ≤ c.toNat ∧ c.toNat ≤ 102) := by
  have hval : c.toNat = c.val.toNat := rfl
  simp only [isUuidChar, Char.isDigit, Bool.or_eq_true, Bool.and_eq_true, decide_eq_true_eq, Char.le_def,
    UInt32.le_iff_toNat_le] at h
  rcases h with (hdi | hle) | rfl
  · simp at hdi
    omega
  · simp at hle
    omega
  · exact .inl rfl

theorem RandomUuid.ne_empty (id : RandomUuid) : id.val ≠ "" := by
  intro hem
  have hlen := id.property.1
  rw [hem] at hlen
  exact absurd hlen (by decide)

theorem RandomPassword.ne_empty (password : RandomPassword) : password.val ≠ "" := by
  intro hem
  have hlen := password.property.1
  rw [hem] at hlen
  exact absurd hlen (by decide)

theorem RandomUuid.trimText (id : RandomUuid) : LamaSync.trimText id.val = id.val := by
  have hsp : ∀ c ∈ id.val.toList, isJsSpace c = false := by
    intro c hc
    have hra := toNat_of_isUuidChar (id.property.2 c hc)
    simp only [isJsSpace, Bool.or_eq_false_iff, Bool.and_eq_false_imp, decide_eq_true_eq, decide_eq_false_iff_not,
      beq_eq_false_iff_ne]
    omega
  unfold LamaSync.trimText
  rw [trimSpaces_of_ends]
  · exact String.ofList_toList
  · rw [List.dropWhile_eq_self_iff]
    intro hlen
    simp [hsp _ (List.getElem_mem hlen)]
  rw [List.rdropWhile_eq_self_iff]
  intro hne
  simp [hsp _ (List.getLast_mem hne)]

variable {backendId bucket : Option String}

theorem requireS3Backend_eq_none (h : s.requireS3Backend backendId bucket = none) : presentTrimmed bucket ≠ none ∧
      ∃ id b, presentTrimmed backendId = some id ∧ s.getBackend id = some b ∧ b.kind = .s3 := by
  unfold FolderStore.requireS3Backend at h
  cases hid : presentTrimmed backendId with
  | none => simp [hid] at h
  | some id =>
    rw [hid] at h
    dsimp only at h
    split at h
    · cases h
    rename_i hbuck
    refine ⟨by simpa using hbuck, id, ?_⟩
    cases hb : s.getBackend id with
    | none => simp [hb] at h
    | some b =>
      rw [hb] at h
      exact ⟨b, rfl, rfl, by simpa using h⟩

theorem requireKindBackend_eq_none {kind : BackendKind} (h : s.requireKindBackend kind backendId = none) :
    ∃ id b, presentTrimmed backendId = some id ∧ s.getBackend id = some b ∧ b.kind = kind := by
  unfold FolderStore.requireKindBackend at h
  cases hid : presentTrimmed backendId with
  | none => simp [hid] at h
  | some id =>
    refine ⟨id, ?_⟩
    cases hb : s.getBackend id with
    | none => simp [hid, hb] at h
    | some b =>
      simp only [hid, hb] at h
      exact ⟨b, rfl, rfl, by simpa using h⟩

theorem backendError_eq_none {backend : FolderBackend} (h : s.backendError backend backendId bucket = none) :
    (backend.needsRef = true → ∃ id b, presentTrimmed backendId = some id ∧ s.getBackend id = some b ∧
      b.kind.folderBackend = backend) ∧ (backend = .s3 → presentTrimmed bucket ≠ none) := by
  unfold FolderStore.backendError at h
  rw [Option.map_eq_none_iff] at h
  have hki : ∀ kind : BackendKind, s.requireKindBackend kind backendId = none → kind.folderBackend = backend →
      ∃ id b, presentTrimmed backendId = some id ∧ s.getBackend id = some b ∧ b.kind.folderBackend = backend := by
    rintro kind hkind rfl
    obtain ⟨id, b, hid, hb, rfl⟩ := requireKindBackend_eq_none hkind
    exact ⟨id, b, hid, hb, rfl⟩
  cases backend with
  | sftp => exact ⟨nofun, nofun⟩
  | s3 =>
    obtain ⟨hbuck, id, b, hid, hb, hkind⟩ := requireS3Backend_eq_none h
    exact ⟨fun _ => ⟨id, b, hid, hb, by rw [hkind]; rfl⟩, fun _ => hbuck⟩
  | «local» => exact ⟨fun _ => hki .local h rfl, nofun⟩
  | nfs => exact ⟨fun _ => hki .nfs h rfl, nofun⟩
  | restic => exact ⟨fun _ => hki .restic h rfl, nofun⟩

private theorem fr_reference {backend : FolderBackend} {backendId : String}
    (h : s.backendError backend (some backendId) bucket = none) (htrim : trimText backendId = backendId)
    (hnd : backend.needsRef = true) : ∃ b ∈ s.backends, some backendId = some b.id ∧ b.kind.folderBackend = backend := by
  obtain ⟨id, b, hid, hb, hkind⟩ := (backendError_eq_none h).1 hnd
  unfold presentTrimmed presentText at hid
  rw [Option.map_some, htrim, Option.filter_eq_some_iff] at hid
  obtain ⟨hmem, hrow⟩ := mem_of_getBackend hb
  exact ⟨b, hmem, by rw [hrow, hid.1], hkind⟩

variable {randomPassword : RandomPassword}

theorem newFolder_fits {id : RandomUuid} {now : Int} {body : FolderBody}
    {backend : FolderBackend × String} (hids : ∀ b ∈ s.backends, b.Complete) (hback : s.backendOfBody body = some backend)
    (h : s.backendError backend.1 (some backend.2) body.s3Bucket = none) :
    (FolderStore.newFolder id now randomPassword body backend).Fits s.backends := by
  have htrim : trimText backend.2 = backend.2 := by
    unfold FolderStore.backendOfBody at hback
    split at hback
    · cases hback
      exact trimText_idem _
    obtain ⟨first, hfi, rfl⟩ := Option.map_eq_some_iff.1 hback
    obtain ⟨uuid, hid⟩ := (hids first (List.mem_of_mem_head? hfi)).id
    dsimp only
    rw [hid, uuid.trimText]
  have hrow : normalizedBackend (FolderStore.newFolder id now randomPassword body backend).backend = backend.1 :=
    normalizedBackend_text backend.1
  constructor
  · exact ⟨id, rfl⟩
  · exact ⟨body.type, rfl⟩
  · rw [hrow]
    intro hnd
    have hid : (FolderStore.newFolder id now randomPassword body backend).backendId = some backend.2 := if_pos hnd
    rw [hid]
    exact fr_reference h htrim hnd
  · rw [hrow]
    intro hnd
    exact if_neg (by rw [hnd]; decide)
  · rw [hrow]
    intro hs3
    have hbuck := (backendError_eq_none h).2 hs3
    refine ⟨trimText (body.s3Bucket.getD ""), if_pos hs3, ?_, trimText_idem _⟩
    cases hbody : body.s3Bucket with
    | none =>
      rw [hbody] at hbuck
      exact absurd rfl hbuck
    | some bucket =>
      rw [hbody] at hbuck
      simpa [presentTrimmed, presentText] using hbuck
  · rw [hrow]
    intro hs3
    exact if_neg hs3
  · intro henc
    have hbody : body.encrypted = true := by
      by_contra hpl
      have hzero : (FolderStore.newFolder id now randomPassword body backend).encrypted = some 0 :=
        congrArg some (if_neg hpl)
      rw [hzero] at henc
      cases henc
    show presentText (if body.encrypted ∧ presentText body.cryptPassword = none then some randomPassword.val
      else body.cryptPassword) ≠ none
    by_cases hpass : presentText body.cryptPassword = none
    · rw [if_pos ⟨hbody, hpass⟩, presentText_some randomPassword.ne_empty]
      simp
    · rw [if_neg fun hboth => hpass hboth.2]
      exact hpass

private theorem fr_patchedType {old : FolderRow} {type : Option FolderType} (h : ∃ t : FolderType, old.type = t.stored) :
    ∃ t : FolderType, (type.map FolderType.stored).getD old.type = t.stored := by
  cases type with
  | none => exact h
  | some t => exact ⟨t, rfl⟩

theorem patchedFolder_fits {old : FolderRow} {patch : FolderPatch}
    (hids : ∀ b ∈ s.backends, b.Complete) (hold : old.Fits s.backends)
    (hpass : refuseIf ((FolderStore.patchedFolder old randomPassword patch).encrypted = some 1 ∧
      presentText (FolderStore.patchedFolder old randomPassword patch).cryptPassword = none) 500
        "Failed to generate crypt password" = none)
    (h : s.backendError (normalizedBackend (FolderStore.patchedFolder old randomPassword patch).backend)
      (FolderStore.patchedFolder old randomPassword patch).backendId
      (FolderStore.patchedFolder old randomPassword patch).s3Bucket = none) :
    (FolderStore.patchedFolder old randomPassword patch).Fits s.backends := by
  generalize hback : (patch.backend.map normalizeBackend).getD (normalizedBackend old.backend) = backend
  have hrow : normalizedBackend (FolderStore.patchedFolder old randomPassword patch).backend = backend := by
    rw [← hback]
    exact normalizedBackend_text _
  rw [hrow] at h
  constructor
  · exact hold.id
  · exact fr_patchedType hold.type
  · rw [hrow]
    intro hnd
    have hid : (FolderStore.patchedFolder old randomPassword patch).backendId =
        (presentTrimmed patch.backendId).or old.backendId := by
      rw [← hback] at hnd
      exact if_pos hnd
    rw [hid] at h ⊢
    cases hpa : presentTrimmed patch.backendId with
    | some id =>
      rw [hpa] at h
      exact fr_reference h (presentTrimmed_eq_some hpa).2 hnd
    | none =>
      rw [hpa, Option.none_or] at h
      by_cases holdNeeds : (normalizedBackend old.backend).needsRef = true
      · obtain ⟨b, hb, holdId, -⟩ := hold.reference holdNeeds
        obtain ⟨uuid, hbid⟩ := (hids b hb).id
        rw [holdId] at h
        rw [Option.none_or, holdId]
        exact fr_reference h (by rw [hbid, uuid.trimText]) hnd
      rw [hold.noReference (by simpa using holdNeeds)] at h
      obtain ⟨id, b, hnone, -⟩ := (backendError_eq_none h).1 hnd
      cases hnone
  · rw [hrow]
    intro hnd
    rw [← hback] at hnd
    exact if_neg (by rw [hnd]; decide)
  · rw [hrow]
    intro hs3
    have hbuck := (backendError_eq_none h).2 hs3
    have hrowBucket : (FolderStore.patchedFolder old randomPassword patch).s3Bucket =
        patch.s3Bucket.elim old.s3Bucket fun bucket => presentTrimmed (some bucket) := by
      rw [← hback] at hs3
      refine (if_neg (not_not_intro hs3)).trans ?_
      cases patch.s3Bucket <;> rfl
    rw [hrowBucket] at hbuck ⊢
    cases hpa : patch.s3Bucket with
    | some bucket =>
      rw [hpa, Option.elim_some] at hbuck
      rw [Option.elim_some]
      cases htrim : presentTrimmed (some bucket) with
      | none =>
        rw [htrim] at hbuck
        exact absurd rfl hbuck
      | some text => exact ⟨text, rfl, presentTrimmed_eq_some htrim⟩
    | none =>
      rw [hpa] at hbuck
      by_cases holdS3 : normalizedBackend old.backend = .s3
      · exact hold.bucket holdS3
      · rw [hold.noBucket holdS3] at hbuck
        exact absurd rfl hbuck
  · rw [hrow]
    intro hs3
    rw [← hback] at hs3
    exact if_pos hs3
  · intro henc
    rw [refuseIf_eq_none, decide_eq_false_iff_not, not_and] at hpass
    exact hpass henc

theorem FolderRow.Fits.mono {backends backends' : List BackendRow} {row : FolderRow} (h : row.Fits backends)
    (hkept : ∀ b ∈ backends, row.backendId = some b.id → ∃ b' ∈ backends', b'.id = b.id ∧ b'.kind = b.kind) :
    row.Fits backends' where
  id := h.id
  type := h.type
  reference hnd := by
    obtain ⟨b, hb, hid, hkind⟩ := h.reference hnd
    obtain ⟨b', hb', hid', hkind'⟩ := hkept b hb hid
    exact ⟨b', hb', by rw [hid, hid'], by rw [hkind', hkind]⟩
  noReference := h.noReference
  bucket := h.bucket
  noBucket := h.noBucket
  password := h.password

theorem FolderStore.StoredRows.createBackend {id : RandomUuid} {body : BackendBody} (h : s.StoredRows)
    (hsv : s.createBackend id body = .ok s') : s'.StoredRows := by
  unfold FolderStore.createBackend at hsv
  dsimp only at hsv
  split at hsv
  · cases hsv
  rename_i her
  obtain rfl := Except.ok.inj hsv
  have hcomp := newBackend_complete her
  have hnew : s.getBackend id.val = none := by
    simp only [FolderStore.newBackendError, firstError_eq_none, List.forall_mem_cons, refuseIf_eq_none] at her
    obtain ⟨-, -, -, -, -, huniq, -⟩ := her
    exact Option.isSome_eq_false_iff.1 huniq |> Option.isNone_iff_eq_none.1
  constructor
  · rw [List.map_append, List.nodup_append]
    refine ⟨h.backendIds, by simp, ?_⟩
    rintro _ hold _ hid rfl
    obtain ⟨b, hb, rfl⟩ := List.mem_map.1 hold
    have hne := List.find?_eq_none.1 hnew b hb
    simp only [List.map_singleton, List.mem_singleton] at hid
    exact hne (by rw [hid]; simp [FolderStore.newBackend])
  · exact h.folderIds
  · exact h.assigned
  · exact List.forall_mem_append.2 ⟨h.complete, List.forall_mem_singleton.2 hcomp⟩
  · intro f hf
    exact (h.fits f hf).mono fun b hb _ => ⟨b, List.mem_append_left _ hb, rfl, rfl⟩
  · exact h.owned

theorem FolderStore.StoredRows.updateBackend {patch : BackendPatch} (h : s.StoredRows)
    (hsv : s.updateBackend id patch = .ok s') : s'.StoredRows := by
  unfold FolderStore.updateBackend at hsv
  split at hsv
  · cases hsv
  rename_i old hold
  split at hsv
  · cases hsv
  rename_i her
  obtain rfl := Except.ok.inj hsv
  obtain ⟨hmem, hid⟩ := mem_of_getBackend hold
  have hcomp := patchedBackend_complete (h.complete old hmem) her
  have hids : (s.backends.map fun b => if b.id = id then FolderStore.patchedBackend old patch else b).map BackendRow.id =
      s.backends.map BackendRow.id := by
    rw [List.map_map]
    apply List.map_congr_left
    intro b _
    show (if b.id = id then FolderStore.patchedBackend old patch else b).id = b.id
    split
    · rename_i hb
      rw [hb]
      exact hid
    · rfl
  constructor
  · dsimp only
    rw [hids]
    exact h.backendIds
  · exact h.folderIds
  · exact h.assigned
  · intro b hb
    obtain ⟨b', hb', rfl⟩ := List.mem_map.1 hb
    split
    · exact hcomp
    · exact h.complete b' hb'
  · intro f hf
    refine (h.fits f hf).mono fun b hb _ => ⟨_, List.mem_map_of_mem hb, ?_, ?_⟩
    · split
      · rename_i hb'
        rw [hb']
        exact hid
      · rfl
    split
    · rename_i hb'
      have hsame : b = old := List.inj_on_of_nodup_map h.backendIds hb hmem (hb'.trans hid.symm)
      rw [hsame]
      rfl
    · rfl
  · exact h.owned

theorem FolderStore.StoredRows.deleteBackend {protections snapshots : Nat} (h : s.StoredRows)
    (hsv : s.deleteBackend id protections snapshots = .ok s') : s'.StoredRows := by
  unfold FolderStore.deleteBackend at hsv
  split at hsv
  · cases hsv
  split at hsv
  · cases hsv
  · rename_i hc
    split at hsv
    · cases hsv
    split at hsv
    · cases hsv
    · obtain rfl := Except.ok.inj hsv
      have hun : ∀ f ∈ s.folders, f.backendId ≠ some id := by
        intro f hf hid
        apply hc
        unfold FolderStore.folderCount
        rw [List.countP_pos_iff]
        exact ⟨f, hf, by simpa using hid⟩
      constructor
      · exact h.backendIds.sublist (List.filter_sublist.map _)
      · exact h.folderIds
      · exact h.assigned
      · intro b hb
        exact h.complete b (List.mem_filter.1 hb).1
      · intro f hf
        refine (h.fits f hf).mono fun b hb hid => ⟨b, List.mem_filter.2 ⟨hb, ?_⟩, rfl, rfl⟩
        have hne : b.id ≠ id := fun hsame => hun f hf (hsame ▸ hid)
        simpa using hne
      · exact h.owned

theorem FolderStore.StoredRows.createFolder {id : RandomUuid} {now : Int} {body : FolderBody}
    (h : s.StoredRows) (hsv : s.createFolder id now randomPassword body = .ok s') : s'.StoredRows := by
  unfold FolderStore.createFolder at hsv
  split at hsv
  · cases hsv
  rename_i backend hback
  split at hsv
  · cases hsv
  rename_i her
  obtain rfl := Except.ok.inj hsv
  simp only [firstError_eq_none, List.forall_mem_cons, refuseIf_eq_none, List.any_eq_false] at her
  obtain ⟨hbackendError, -, huniq, -⟩ := her
  constructor
  · exact h.backendIds
  · rw [List.map_append, List.nodup_append]
    refine ⟨h.folderIds, by simp, ?_⟩
    rintro _ hold _ hid rfl
    obtain ⟨f, hf, rfl⟩ := List.mem_map.1 hold
    simp only [List.map_singleton, List.mem_singleton] at hid
    exact huniq f hf (by simpa [FolderStore.newFolder] using hid)
  · exact h.assigned
  · exact h.complete
  · refine List.forall_mem_append.2 ⟨h.fits, List.forall_mem_singleton.2 ?_⟩
    exact newFolder_fits h.complete hback hbackendError
  · intro a ha
    obtain ⟨f, hf, hid⟩ := h.owned a ha
    exact ⟨f, List.mem_append_left _ hf, hid⟩

theorem FolderStore.StoredRows.updateFolder {patch : FolderPatch}
    (h : s.StoredRows) (hsv : s.updateFolder id randomPassword patch = .ok s') : s'.StoredRows := by
  unfold FolderStore.updateFolder at hsv
  split at hsv
  · cases hsv
  rename_i old hold
  dsimp only at hsv
  split at hsv
  · cases hsv
  rename_i her
  obtain rfl := Except.ok.inj hsv
  have hmem : old ∈ s.folders := List.mem_of_find?_eq_some hold
  have hid : old.id = id := by simpa using List.find?_some hold
  simp only [firstError_eq_none, List.forall_mem_cons] at her
  obtain ⟨hpass, -, hback, -⟩ := her
  have hfits := patchedFolder_fits h.complete (h.fits old hmem) hpass hback
  have hids : ∀ f ∈ s.folders, (if f.id = id then FolderStore.patchedFolder old randomPassword patch else f).id = f.id := by
    intro f _
    split
    · rename_i hf
      exact hid.trans hf.symm
    · rfl
  constructor
  · exact h.backendIds
  · have hmap : (s.folders.map fun f => if f.id = id then FolderStore.patchedFolder old randomPassword patch else f).map
        FolderRow.id = s.folders.map FolderRow.id := by
      rw [List.map_map]
      exact List.map_congr_left hids
    dsimp only
    rw [hmap]
    exact h.folderIds
  · exact h.assigned
  · exact h.complete
  · intro f hf
    obtain ⟨f', hf', rfl⟩ := List.mem_map.1 hf
    split
    · exact hfits
    · exact h.fits f' hf'
  · intro a ha
    obtain ⟨f, hf, hfol⟩ := h.owned a ha
    exact ⟨_, List.mem_map_of_mem hf, (hids f hf).trans hfol⟩

theorem FolderStore.StoredRows.deleteFolder (h : s.StoredRows) (hsv : s.deleteFolder id = .ok s') :
    s'.StoredRows := by
  unfold FolderStore.deleteFolder at hsv
  split at hsv
  · obtain rfl := Except.ok.inj hsv
    constructor
    · exact h.backendIds
    · exact h.folderIds.sublist (List.filter_sublist.map _)
    · exact h.assigned.sublist List.filter_sublist
    · exact h.complete
    · intro f hf
      exact h.fits f (List.mem_filter.1 hf).1
    intro a ha
    obtain ⟨ha, hne⟩ := List.mem_filter.1 ha
    obtain ⟨f, hf, hfol⟩ := h.owned a ha
    exact ⟨f, List.mem_filter.2 ⟨hf, by rw [hfol]; exact hne⟩, hfol⟩
  · cases hsv

variable {folderId : String}

theorem FolderStore.StoredRows.assign {id : RandomUuid} {body : AssignBody} (h : s.StoredRows)
    (hsv : s.assign cronError id folderId body = .ok s') : s'.StoredRows := by
  unfold FolderStore.assign at hsv
  split at hsv
  · cases hsv
  rename_i folder hfol
  split at hsv
  · cases hsv
  rename_i her
  split at hsv
  · cases hsv
  rename_i destination _
  obtain rfl := Except.ok.inj hsv
  simp only [firstError_eq_none, List.forall_mem_cons, refuseIf_eq_none, List.any_eq_false] at her
  obtain ⟨-, -, -, -, -, -, huniq, -⟩ := her
  constructor
  · exact h.backendIds
  · exact h.folderIds
  · rw [List.pairwise_append]
    refine ⟨h.assigned, List.pairwise_singleton _ _, ?_⟩
    intro a ha b hb hsame
    obtain rfl := List.mem_singleton.1 hb
    exact huniq a ha (by simp [FolderStore.newAssignment] at hsame; simp [hsame])
  · exact h.complete
  · exact h.fits
  intro a ha
  have hid : folder.id = folderId := by simpa using List.find?_some hfol
  refine List.forall_mem_append.2 ⟨h.owned, List.forall_mem_singleton.2 ?_⟩ a ha
  exact ⟨folder, List.mem_of_find?_eq_some hfol, hid⟩

theorem FolderStore.StoredRows.unassign {hostId : String} (h : s.StoredRows)
    (hsv : s.unassign folderId hostId = .ok s') : s'.StoredRows := by
  unfold FolderStore.unassign at hsv
  split at hsv
  · obtain rfl := Except.ok.inj hsv
    exact ⟨h.backendIds, h.folderIds, h.assigned.sublist List.filter_sublist, h.complete, h.fits,
      fun a ha => h.owned a (List.mem_filter.1 ha).1⟩
  · cases hsv

theorem FolderStore.StoredRows.patchAssignment {hostId : String} {patch : AssignPatch} (h : s.StoredRows)
    (hsv : s.patchAssignment cronError folderId hostId patch = .ok s') : s'.StoredRows := by
  unfold FolderStore.patchAssignment at hsv
  dsimp only at hsv
  split at hsv
  · cases hsv
  obtain rfl := Except.ok.inj hsv
  have hkeys : ∀ a : AssignmentRow,
      (if a.folderId = folderId ∧ a.hostId = hostId then FolderStore.patchedAssignment a patch else a).folderId = a.folderId ∧
      (if a.folderId = folderId ∧ a.hostId = hostId then FolderStore.patchedAssignment a patch else a).hostId = a.hostId := by
    intro a
    split <;> exact ⟨rfl, rfl⟩
  constructor
  · exact h.backendIds
  · exact h.folderIds
  · rw [List.pairwise_map]
    refine h.assigned.imp fun {a b} hne => ?_
    rw [(hkeys a).1, (hkeys a).2, (hkeys b).1, (hkeys b).2]
    exact hne
  · exact h.complete
  · exact h.fits
  intro a ha
  obtain ⟨a', ha', rfl⟩ := List.mem_map.1 ha
  rw [(hkeys a').1]
  exact h.owned a' ha'

theorem FolderStore.StoredRows.step {request : FolderRequest} (h : s.StoredRows) : (s.step cronError request).StoredRows := by
  unfold FolderStore.step
  cases hsv : s.serve cronError request with
  | error error => exact h
  | ok s' =>
    show s'.StoredRows
    cases request with
    | addHost hostId =>
      obtain rfl := Except.ok.inj hsv
      exact ⟨h.backendIds, h.folderIds, h.assigned, h.complete, h.fits, h.owned⟩
    | createBackend id body => exact h.createBackend hsv
    | updateBackend id patch => exact h.updateBackend hsv
    | deleteBackend id protections snapshots => exact h.deleteBackend hsv
    | createFolder id now randomPassword body => exact h.createFolder hsv
    | updateFolder id randomPassword patch => exact h.updateFolder hsv
    | deleteFolder id => exact h.deleteFolder hsv
    | assign id folderId body => exact h.assign hsv
    | unassign folderId hostId => exact h.unassign hsv
    | patchAssignment folderId hostId patch => exact h.patchAssignment hsv

theorem storedRows_empty : FolderStore.StoredRows {} where
  backendIds := List.nodup_nil
  folderIds := List.nodup_nil
  assigned := List.Pairwise.nil
  complete _ hb := absurd hb List.not_mem_nil
  fits _ hf := absurd hf List.not_mem_nil
  owned _ ha := absurd ha List.not_mem_nil

theorem storedRows_after (cronError : String → Option String) (requests : List FolderRequest) :
    (FolderStore.after cronError requests).StoredRows := by
  have hrun : ∀ (requests : List FolderRequest) (s : FolderStore), s.StoredRows →
      (requests.foldl (FolderStore.step cronError) s).StoredRows := by
    intro requests
    induction requests with
    | nil => exact fun _ h => h
    | cons request requests ih => exact fun s h => ih _ h.step
  exact hrun requests {} storedRows_empty

end Kept

end LamaSync
