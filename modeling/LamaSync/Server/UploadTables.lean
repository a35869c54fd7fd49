import LamaSync.Server.UploadMoves

/-!
# The tables of mobile uploads

What the keys and the reserved names of the upload tables guarantee in every state the server can reach: an id names one
upload, a path is reserved by one upload, and a running relay belongs to an upload with a target folder.
-/

namespace LamaSync

open Faults Relation Trace

/-- A path below the landing directory of a registration, whose id is one segment. -/
def PathOf (registrationId path : String) : Prop :=
  '/' ∉ registrationId.toList ∧ ∃ rest, path = "Mobile/" ++ registrationId ++ "/" ++ rest

structure SoundTables (destinations : List MobileUploadDestinationRow) (uploads : List MobileUploadRow)
    (relays : Table Nat FolderRelay) (suspended : Table String Nat) : Prop where
  ids : (uploads.map MobileUploadRow.id).Nodup
  paths : (uploads.map MobileUploadRow.finalRelPath).Nodup
  destinationPaths : ∀ row ∈ destinations, PathOf row.registrationId row.relPath
  uploadPaths : ∀ row ∈ uploads, PathOf row.registrationId row.finalRelPath
  suspended : ∀ id pid, suspended id = some pid → ∃ relay, relays pid = some relay ∧ relay.row.id = id
  relays : ∀ pid relay, relays pid = some relay →
    relay.row.targetFolderId.isSome = true ∧ ∃ row ∈ uploads, SameUpload relay.row row

def UploadServer.Sound (s : UploadServer) : Prop := SoundTables s.destinations s.uploads s.relays s.suspended

section Sound

variable {env : UploadEnv} {s s₀ t t' : UploadServer} {ev : UploadEvent} {id : String} {row row' : MobileUploadRow}

private theorem ut_segment {a b r r' : List Char} (ha : '/' ∉ a) (hb : '/' ∉ b) (h : a ++ '/' :: r = b ++ '/' :: r') :
    a = b := by
  induction a generalizing b with
  | nil =>
    cases b with
    | nil => rfl
    | cons c b =>
      simp only [List.nil_append, List.cons_append, List.cons.injEq] at h
      exact absurd (h.1 ▸ .head _) hb
  | cons c a ih =>
    cases b with
    | nil =>
      simp only [List.nil_append, List.cons_append, List.cons.injEq] at h
      exact absurd (h.1.symm ▸ .head _) ha
    | cons d b =>
      simp only [List.cons_append, List.cons.injEq] at h
      rw [h.1, ih (fun hmem => ha (.tail _ hmem)) (fun hmem => hb (.tail _ hmem)) h.2]

theorem PathOf.unique {a b path : String} (ha : PathOf a path) (hb : PathOf b path) : a = b := by
  obtain ⟨hsl, rest, rfl⟩ := ha
  obtain ⟨hsl', rest', heq⟩ := hb
  have hlist := congrArg String.toList heq
  simp only [String.toList_append, List.append_assoc, List.append_cancel_left_eq] at hlist
  exact String.toList_inj.1 (ut_segment hsl hsl' hlist)

theorem PathOf.below {registrationId path : String} (h : PathOf registrationId path) (name : String) :
    PathOf registrationId (path ++ "/" ++ name) := by
  obtain ⟨hsl, rest, rfl⟩ := h
  exact ⟨hsl, rest ++ "/" ++ name, by simp only [String.append_assoc]⟩

private theorem ut_noSlash {value : String} (h : isSafeSegment value = true) : '/' ∉ value.toList := by
  unfold isSafeSegment at h
  simp only [Bool.and_eq_true, Bool.not_eq_true', beq_iff_eq] at h
  obtain ⟨⟨⟨⟨⟨_, htrim⟩, hcl⟩, _⟩, _⟩, _⟩ := h
  intro hmem
  rw [htrim, List.any_eq_false] at hcl
  have hno := hcl '/' hmem
  simp at hno

theorem chunkRefused_none {call : ChunkCall} (h : chunkRefused env call row = none) :
    (row.status = .created ∨ row.status = .uploading) ∧ call.data ≠ [] ∧
      ∀ size, row.sizeBytes = some size → row.bytesReceived + call.data.length ≤ size := by
  simp only [chunkRefused, ite_eq_iff, reduceCtorEq, and_false, false_or] at h
  obtain ⟨-, hst, hdata, -, -, -, hsize⟩ := h
  refine ⟨?_, hdata, ?_⟩
  · by_cases hcre : row.status = .created
    · exact .inl hcre
    · by_cases hup : row.status = .uploading
      · exact .inr hup
      · exact absurd ⟨hcre, hup⟩ hst
  intro size hdecl
  rw [hdecl] at hsize
  simpa using hsize

theorem UploadServer.Sound.found (h : s.Sound) (hrow : row ∈ s.uploads) : s.findUploadById row.id = some row :=
  Rows.find_unique h.ids hrow

theorem UploadServer.Sound.unique (h : s.Sound) (hrow : row ∈ s.uploads) (hrow' : row' ∈ s.uploads) (hid : row.id = row'.id) :
    row = row' := Rows.eq_of_key h.ids hrow hrow' hid

theorem UploadServer.Sound.reserved (h : s.Sound) (hrow : row ∈ s.uploads) (hrow' : row' ∈ s.uploads)
    (hpath : row.finalRelPath = row'.finalRelPath) : row = row' := Rows.eq_of_key h.paths hrow hrow' hpath

private theorem ut_updateUpload {set : MobileUploadRow → MobileUploadRow} (h : s.Sound)
    (hset : ∀ r, SameUpload r (set r)) : (s.updateUpload id set).Sound where
  ids := Rows.nodup_update (fun r => (hset r).id) h.ids
  paths := Rows.nodup_update (fun r => (hset r).finalRelPath) h.paths
  destinationPaths := h.destinationPaths
  uploadPaths := by
    refine Rows.forall_update h.uploadPaths ?_
    intro r _ _ hr
    rw [(hset r).registrationId, (hset r).finalRelPath]
    exact hr
  suspended := h.suspended
  relays := by
    intro pid relay hrl
    obtain ⟨htgt, r, hr, hsame⟩ := h.relays pid relay hrl
    refine ⟨htgt, _, Rows.mem_update_of_mem hr, ?_⟩
    split
    · exact hsame.trans (hset r)
    · exact hsame

variable {call : CreateUploadCall} {destination : MobileUploadDestinationRow}

private theorem ut_createRefused (h : createRefused env s call destination = none) :
    (∀ row ∈ s.uploads, row.registrationId = call.registrationId →
      row.finalRelPath ≠ computeFinalRelPath destination call.fileName) ∧
    (destination.folderId = none → s.landing (computeFinalRelPath destination call.fileName) = none) := by
  simp only [createRefused, ite_eq_iff, reduceCtorEq, and_false, false_or] at h
  obtain ⟨-, -, -, hnew, hva, -⟩ := h
  constructor
  · intro row hrow hw hpath
    refine hnew (List.any_eq_true.2 ⟨row, hrow, ?_⟩)
    simp only [hw, hpath, beq_self_eq_true, Bool.and_self]
  intro hlo
  rw [hlo] at hva
  simpa using hva

theorem vacant_of_createRefused
    (h : createRefused env s call destination = none) (hlo : destination.folderId = none) :
    s.landing (call.row destination).finalRelPath = none := (ut_createRefused h).2 hlo

theorem insertUpload_some (h : s.insertUpload row = some t) :
    (∀ r ∈ s.uploads, r.id ≠ row.id) ∧ t = { s with uploads := s.uploads ++ [row] } := by
  unfold UploadServer.insertUpload at h
  split at h
  · cases h
  rename_i hnew
  refine ⟨?_, (Option.some.inj h).symm⟩
  intro r hr hid
  refine hnew (List.any_eq_true.2 ⟨r, hr, ?_⟩)
  simp only [hid, beq_self_eq_true, Bool.true_or]

private theorem ut_creates (h : s.Sound)
    (hdest : destination ∈ s.destinations) (hw : destination.registrationId = call.registrationId)
    (hok : createRefused env s call destination = none) (htx : s.insertUpload (call.row destination) = some t) :
    t.Sound := by
  obtain ⟨hnew, rfl⟩ := insertUpload_some htx
  have hpath : PathOf call.registrationId (call.row destination).finalRelPath := by
    have hbe := (h.destinationPaths destination hdest).below call.fileName
    rwa [hw] at hbe
  exact {
    ids := Rows.nodup_concat h.ids hnew
    paths := by
      refine Rows.nodup_concat h.paths ?_
      intro r hr heq
      have hr' := h.uploadPaths r hr
      rw [heq] at hr'
      exact (ut_createRefused hok).1 r hr (hr'.unique hpath) heq
    destinationPaths := h.destinationPaths
    uploadPaths := by
      exact List.forall_mem_append.2 ⟨h.uploadPaths, List.forall_mem_singleton.2 hpath⟩
    suspended := h.suspended
    relays := by
      intro pid relay hrl
      obtain ⟨htgt, r, hr, hsame⟩ := h.relays pid relay hrl
      exact ⟨htgt, r, List.mem_append_left _ hr, hsame⟩ }

theorem insertDestination_some {row : MobileUploadDestinationRow} (h : s.insertDestination row = some t) :
    t = { s with destinations := s.destinations ++ [row] } := by
  unfold UploadServer.insertDestination at h
  split at h
  · cases h
  · exact (Option.some.inj h).symm

variable {pid : Nat} {relay : FolderRelay}

theorem spawn_some (h : s.spawn pid relay = some t) : s.relays pid = none ∧
      t = { s with relays := s.relays.put pid relay, suspended := s.suspended.put relay.row.id pid } := by
  unfold UploadServer.spawn at h
  split at h
  · cases h
  rename_i hfree
  exact ⟨by simpa using hfree, (Option.some.inj h).symm⟩

private theorem ut_spawns (h : s.Sound) (htgt : relay.row.targetFolderId.isSome = true)
    (hrow : ∃ row ∈ s.uploads, SameUpload relay.row row) (hfree : s.relays pid = none) :
    SoundTables s.destinations s.uploads (s.relays.put pid relay) (s.suspended.put relay.row.id pid) where
  ids := h.ids
  paths := h.paths
  destinationPaths := h.destinationPaths
  uploadPaths := h.uploadPaths
  suspended := by
    intro id pid' hid
    rcases Table.of_put hid with ⟨rfl, rfl⟩ | ⟨-, hid⟩
    · exact ⟨relay, Table.put_self, rfl⟩
    obtain ⟨relay', hrl', hid'⟩ := h.suspended id pid' hid
    have hne : pid' ≠ pid := by
      rintro rfl
      cases hfree.symm.trans hrl'
    exact ⟨relay', (Table.put_of_ne hne).trans hrl', hid'⟩
  relays := by
    intro pid' relay' hrl'
    rcases Table.of_put hrl' with ⟨-, rfl⟩ | ⟨-, hold⟩
    · exact ⟨htgt, hrow⟩
    · exact h.relays pid' relay' hold

private theorem ut_putRelay {relay' : FolderRelay} (h : s.Sound) (hrl : s.relays pid = some relay)
    (hrow : relay'.row = relay.row) : SoundTables s.destinations s.uploads (s.relays.put pid relay') s.suspended where
  ids := h.ids
  paths := h.paths
  destinationPaths := h.destinationPaths
  uploadPaths := h.uploadPaths
  suspended := by
    intro id pid' hid
    obtain ⟨r, hr, hid'⟩ := h.suspended id pid' hid
    by_cases hpid : pid' = pid
    · subst hpid
      refine ⟨relay', Table.put_self, ?_⟩
      rw [hrow, ← hid', Table.unique hr hrl]
    · exact ⟨r, (Table.put_of_ne hpid).trans hr, hid'⟩
  relays := by
    intro pid' r hr
    rcases Table.of_put hr with ⟨-, rfl⟩ | ⟨-, hold⟩
    · exact hrow ▸ h.relays pid relay hrl
    · exact h.relays pid' r hold

private theorem ut_releases (h : s.Sound) (hrl : s.relays pid = some relay) :
    (s.release pid relay).Sound where
  ids := h.ids
  paths := h.paths
  destinationPaths := h.destinationPaths
  uploadPaths := h.uploadPaths
  suspended := by
    intro id pid' hid
    have hid' : s.suspended id = some pid' ∧ (relay.row.id = id → pid' ≠ pid) := by
      unfold UploadServer.release at hid
      dsimp only at hid
      split at hid
      · obtain ⟨hne, hold⟩ := Table.of_erase hid
        exact ⟨hold, fun hsame => absurd hsame.symm hne⟩
      · rename_i hwt
        exact ⟨hid, fun hsame hpid => hwt (hsame ▸ hpid ▸ hid)⟩
    obtain ⟨r, hr, hrid⟩ := h.suspended id pid' hid'.1
    have hne : pid' ≠ pid := by
      rintro rfl
      exact hid'.2 (Table.unique hrl hr ▸ hrid) rfl
    exact ⟨r, (Table.erase_of_ne hne).trans hr, hrid⟩
  relays := fun pid' r hr => h.relays pid' r (Table.of_erase hr).2

theorem UploadMove.sound (h : t.Sound) (hmove : UploadMove env s₀ ev t t') : t'.Sound := by
  cases hmove with
  | seeds | removes _ _ | lands _ _ _ _ _ _ _ _ _ _ _ | sweeps | administers | truncates _ _ => exact h
  | creates hev hdest hw hok htx => exact ut_creates h hdest hw hok htx
  | verifies _ _ _ => exact ut_updateUpload h fun _ => sameUpload_verify
  | publishes _ _ _ _ _ => exact ut_updateUpload h fun _ => sameUpload_publish
  | cancels _ _ _ _ _ _ _ => exact ut_updateUpload h fun _ => sameUpload_cancel
  | fails _ _ _ _ _ _ _ htx =>
    obtain ⟨-, rfl⟩ := insertOperationLogRow_some htx
    exact ut_updateUpload h fun _ => sameUpload_fail
  | completes _ _ _ _ _ _ _ htx | delivers _ _ _ _ htx =>
    obtain ⟨-, rfl⟩ := insertOperationLogRow_some htx
    exact ut_updateUpload h fun _ => sameUpload_complete
  | spawns _ _ htgt _ hr hkept _ _ _ htx =>
    obtain ⟨hfree, rfl⟩ := spawn_some htx
    exact ut_spawns h htgt ⟨_, mem_of_findUploadById hr, hkept⟩ hfree
  | reads _ hrl _ => exact ut_putRelay h hrl rfl
  | puts _ hrl _ =>
    unfold relayPut
    dsimp only
    split
    · exact ut_putRelay h hrl rfl
    split
    · exact ut_putRelay h hrl rfl
    · exact h
  | releases _ hrl => exact ut_releases h hrl
  | repairs _ _ htx =>
    obtain ⟨-, rfl⟩ := insertOperationLogRow_some htx
    exact h
  | insertsDestination hsafe hpath htx =>
    obtain rfl := insertDestination_some htx
    refine { h with destinationPaths := ?_ }
    exact List.forall_mem_append.2 ⟨h.destinationPaths, List.forall_mem_singleton.2 ⟨ut_noSlash hsafe, _, hpath⟩⟩
  | updatesDestinations hset =>
    refine { h with destinationPaths := ?_ }
    refine Rows.forall_update h.destinationPaths ?_
    intro r _ _ hr
    rw [(hset r).1, (hset r).2]
    exact hr

theorem UploadServer.Sound.restart (h : s.Sound) : s.restart.Sound := { h with suspended := nofun }

theorem UploadRun.sound (h : UploadRun env s ev t) (hs : s.Sound) : t.Sound := by
  refine h.invariant hs (fun _ _ ha hmove => hmove.sound ha) (fun _ ha => ha.restart) ?_
  intro call fates dead t _ hend
  have ht : t.Sound := by
    cases hend with
    | untouched | seeded | opened _ | short _ _ _ | torn _ | unrecorded _ => exact hs
    | recorded _ => exact ut_updateUpload hs fun _ => sameUpload_record
  cases dead with
  | false => exact ht
  | true => exact ht.restart

theorem UploadServer.Fresh.sound (h : s.Fresh) : s.Sound where
  ids := by rw [h.uploads]; exact List.nodup_nil
  paths := by rw [h.uploads]; exact List.nodup_nil
  destinationPaths := by
    intro row hrow
    rw [h.destinations] at hrow
    cases hrow
  uploadPaths := by
    intro row hrow
    rw [h.uploads] at hrow
    cases hrow
  suspended := by
    intro id pid hwt
    rw [h.suspended] at hwt
    cases hwt
  relays := by
    intro pid relay hrl
    rw [h.relays] at hrl
    cases hrl

theorem UploadServer.Sound.step (h : s.Sound) (ev : UploadEvent) :
    UploadRun env s ev (mobileUploadStep env s ev) ∧ (mobileUploadStep env s ev).Sound := by
  have hrun := @mobileUploadStep_runs env s h.ids ev
  exact ⟨hrun, hrun.sound h⟩

end Sound

/-- In every run of the upload store no two uploads have an id or a path in common, each lies in the directory of its own
registration, and none lies in the destination of another registration. -/
theorem uploads_keep_apart (env : UploadEnv) (start : UploadServer) (hfresh : start.Fresh) (es : List UploadEvent) :
    let s := run (mobileUploadStep env) start es
    (s.uploads.map MobileUploadRow.id).Nodup ∧ (s.uploads.map MobileUploadRow.finalRelPath).Nodup ∧
    ∀ row ∈ s.uploads, PathOf row.registrationId row.finalRelPath ∧ ∀ destination ∈ s.destinations, ∀ name,
      row.finalRelPath = destination.relPath ++ "/" ++ name → row.registrationId = destination.registrationId := by
  intro s
  have hs : s.Sound := run_invariant hfresh.sound fun t ev ht => (@UploadServer.Sound.step env t ht ev).2
  refine ⟨hs.ids, hs.paths, fun row hrow => ⟨hs.uploadPaths row hrow, fun destination hdest name heq => ?_⟩⟩
  exact (heq ▸ hs.uploadPaths row hrow).unique ((hs.destinationPaths destination hdest).below name)

theorem uploads_keep_apart_created :
    let s := run (mobileUploadStep exampleUploadEnv) exampleUploadServer (exampleUploadCreated none)
    s.uploads.length = 1 ∧ ∀ row ∈ s.uploads, PathOf row.registrationId row.finalRelPath :=
  ⟨by decide +kernel, fun row hrow =>
    ((uploads_keep_apart _ _ exampleUploadServer_fresh (exampleUploadCreated none)).2.2 row hrow).1⟩

end LamaSync
