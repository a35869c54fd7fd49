import LamaSync.Server.UploadHistory

/-!
# What a finalized upload has published

The offset of an upload is in the database and its bytes are in a staging file, and the two are written one after the
other.  The acknowledged bytes of an upload are those of the chunks whose offset was recorded.  A staging file always
agrees with them as far as both go, as long as no chunk is written behind the end of a file that has lost some; what is
published is the acknowledged bytes when the file is as long as they are.
-/

namespace LamaSync

open Faults Relation Trace

/-- An acknowledgement, or the end of a relay that a finalize waited for. -/
inductive UploadOutput where
  | accepted (uploadId : String) (data : Bytes)
  | delivered (uploadId : String) (target : MobileFolderTarget) (path : String) (content : Bytes)
  deriving DecidableEq

def UploadServer.offsetOf (s : UploadServer) (id : String) : Option Nat := (s.findUploadById id).map MobileUploadRow.bytesReceived

/-- A chunk is acknowledged when its offset is recorded, also when the response is lost: the client reads the offset
back. -/
def uploadOutputs (env : UploadEnv) (s : UploadServer) (ev : UploadEvent) : List UploadOutput :=
  match ev with
  | .appends call _ =>
    if (mobileUploadStep env s ev).offsetOf call.uploadId = s.offsetOf call.uploadId then []
    else [.accepted call.uploadId call.data]
  | .relayExits pid true _ =>
    match s.relays pid with
    | none => []
    | some relay =>
      if relay.copied = true ∧ s.suspended relay.row.id = some pid then
        [.delivered relay.row.id relay.target relay.row.finalRelPath (relay.opened.getD [])]
      else []
  | _ => []

theorem uploadOutputs_appends (env : UploadEnv) (s : UploadServer) (call : ChunkCall) (fates : List Fate) :
    uploadOutputs env s (.appends call fates) =
      if (mobileUploadStep env s (.appends call fates)).offsetOf call.uploadId = s.offsetOf call.uploadId then []
      else [.accepted call.uploadId call.data] := rfl

theorem uploadOutputs_relayExits (env : UploadEnv) (s : UploadServer) (pid : Nat) (fates : List Fate) :
    uploadOutputs env s (.relayExits pid true fates) =
      match s.relays pid with
      | none => []
      | some relay =>
        if relay.copied = true ∧ s.suspended relay.row.id = some pid then
          [.delivered relay.row.id relay.target relay.row.finalRelPath (relay.opened.getD [])]
        else [] := rfl

def acknowledgedBytes (written : List UploadOutput) (id : String) : Bytes :=
  written.flatMap fun
    | .accepted uploadId data => if uploadId = id then data else []
    | .delivered .. => []

theorem acknowledgedBytes_append (written new : List UploadOutput) (id : String) :
    acknowledgedBytes (written ++ new) id = acknowledgedBytes written id ++ acknowledgedBytes new id := by
  exact List.flatMap_append

/-- Chunks may still come. -/
def MobileUploadStatus.isReceiving : MobileUploadStatus → Bool
  | .created | .uploading | .ready => true
  | .verifying | .publishing | .finalized | .failed | .cancelled => false

def MobileUploadStatus.isSized : MobileUploadStatus → Bool
  | .verifying | .publishing | .finalized => true
  | .created | .uploading | .ready | .failed | .cancelled => false

def PublishedAs (written : List UploadOutput) (s : UploadServer) (row : MobileUploadRow) (content : Bytes) : Prop :=
  match row.targetFolderId with
  | none => s.landing row.finalRelPath = some content
  | some _ => ∃ target, .delivered row.id target row.finalRelPath content ∈ written ∧
      s.objects (target, row.finalRelPath) = some content

structure RowContent (written : List UploadOutput) (s : UploadServer) (row : MobileUploadRow) : Prop where
  length : (acknowledgedBytes written row.id).length = row.bytesReceived
  staged : ∀ file, s.staged row.id = some file → Agrees file (acknowledgedBytes written row.id)
  fits : ∀ size, row.sizeBytes = some size → row.bytesReceived ≤ size
  sized : row.status.isSized = true → ∀ size, row.sizeBytes = some size → row.bytesReceived = size
  landed : row.targetFolderId = none → ∀ content, s.landing row.finalRelPath = some content →
    content = acknowledgedBytes written row.id ∧ row.status.isReceiving = false
  published : row.status = .finalized → PublishedAs written s row (acknowledgedBytes written row.id)

theorem PublishedAs.mono {written written' : List UploadOutput} {s : UploadServer} {row : MobileUploadRow} {content : Bytes}
    (h : PublishedAs written s row content) (hsub : ∀ o ∈ written, o ∈ written') : PublishedAs written' s row content := by
  unfold PublishedAs at h ⊢
  cases hfol : row.targetFolderId with
  | none => rw [hfol] at h; exact h
  | some folderId =>
    rw [hfol] at h
    obtain ⟨target, hmem, hobj⟩ := h
    exact ⟨target, hsub _ hmem, hobj⟩

structure RelayContent (written : List UploadOutput) (s : UploadServer) (relay : FolderRelay) : Prop where
  length : (acknowledgedBytes written relay.row.id).length = relay.row.bytesReceived
  sized : ∀ size, relay.row.sizeBytes = some size → relay.row.bytesReceived = size
  opened : ∀ content, relay.opened = some content → Agrees content (acknowledgedBytes written relay.row.id)
  copied : relay.copied = true → ∃ content, relay.opened = some content ∧
    s.objects (relay.target, relay.row.finalRelPath) = some content
  closed : ∀ row ∈ s.uploads, row.id = relay.row.id → row.status.isReceiving = false

structure ContentInv (written : List UploadOutput) (s : UploadServer) : Prop where
  rows : ∀ row ∈ s.uploads, RowContent written s row
  relays : ∀ pid relay, s.relays pid = some relay → RelayContent written s relay
  known : ∀ id, s.findUploadById id = none → acknowledgedBytes written id = []

def ContentCondition (env : UploadEnv) (s : UploadServer) (ev : UploadEvent) : Prop :=
  match ev with
  | .appends call _ => ∀ row, ChunkAllowed env s call row →
      row.bytesReceived ≤ ((s.staged call.uploadId).getD []).length
  | .finalizes call _ => ∀ row, FinalizeAdmitted s call row →
      (row.targetFolderId = none → s.landing row.finalRelPath = none → ∀ file, s.staged row.id = some file →
        (∀ declared, row.sha256 = some declared → declared.toLower = env.sha256 file) → file.length = row.bytesReceived) ∧
      (row.targetFolderId.isSome = true → ∀ landed, ¬ CompletesFromLanding env s row landed)
  | .relayExits pid true _ => ∀ relay content, s.relays pid = some relay → s.suspended relay.row.id = some pid →
      relay.copied = true → relay.opened = some content → content.length = relay.row.bytesReceived
  | _ => True

section Content

variable {env : UploadEnv} {s s₀ s' t t' : UploadServer} {ev : UploadEvent} {id : String} {row r : MobileUploadRow}
  {set : MobileUploadRow → MobileUploadRow} {written : List UploadOutput}

private theorem uc_frame (h : ContentInv written s) (hups : s'.uploads = s.uploads)
    (hre : ∀ pid relay, s'.relays pid = some relay → s.relays pid = some relay)
    (hland : s'.landing = s.landing) (hobjs : s'.objects = s.objects)
    (hstg : ∀ row ∈ s.uploads, ∀ file, s'.staged row.id = some file → Agrees file (acknowledgedBytes written row.id)) :
    ContentInv written s' where
  rows := by
    intro row hrow
    rw [hups] at hrow
    have hold := h.rows row hrow
    refine ⟨hold.length, hstg row hrow, hold.fits, hold.sized, ?_, ?_⟩
    · rw [hland]
      exact hold.landed
    intro hfin
    have hpub := hold.published hfin
    unfold PublishedAs at hpub ⊢
    rw [hland, hobjs]
    exact hpub
  relays := by
    intro pid relay hrl
    have hold := h.relays pid relay (hre pid relay hrl)
    refine ⟨hold.length, hold.sized, hold.opened, ?_, ?_⟩
    · rw [hobjs]
      exact hold.copied
    · rw [hups]
      exact hold.closed
  known := by
    intro id hid
    refine h.known id ?_
    unfold UploadServer.findUploadById at hid ⊢
    rw [← hups]
    exact hid

private theorem uc_update (h : ContentInv written s) (hsd : s.Sound) (hset : ∀ r, SameUpload r (set r))
    (hr : s.findUploadById id = some r) (hrow : RowContent written s (set r)) (hcl : (set r).status.isReceiving = false) :
    ContentInv written (s.updateUpload id set) where
  rows := by
    refine Rows.forall_update (fun row hrow => ?_) ?_
    · have hold := h.rows row hrow
      exact ⟨hold.length, hold.staged, hold.fits, hold.sized, hold.landed, hold.published⟩
    intro row hmem hid _
    have hf := hsd.found hmem
    rw [beq_iff_eq.1 hid, hr] at hf
    cases hf
    exact ⟨hrow.length, hrow.staged, hrow.fits, hrow.sized, hrow.landed, hrow.published⟩
  relays := by
    intro pid relay hrl
    have hold := h.relays pid relay hrl
    refine ⟨hold.length, hold.sized, hold.opened, hold.copied, ?_⟩
    refine Rows.forall_update hold.closed ?_
    intro row hmem hid _ _
    have hf := hsd.found hmem
    rw [beq_iff_eq.1 hid, hr] at hf
    cases hf
    exact hcl
  known := by
    intro id' hid'
    rw [find_updateUpload hset] at hid'
    refine h.known id' ?_
    split at hid'
    · rw [hr] at hid'
      cases hid'
    · exact hid'

private theorem uc_status (h : RowContent written s r) (hset : SameUpload r (set r))
    (hb : (set r).bytesReceived = r.bytesReceived) (hsi : (set r).status.isSized = true →
      ∀ size, r.sizeBytes = some size → r.bytesReceived = size) (hfin : (set r).status ≠ .finalized)
    (hcl : (set r).status.isReceiving = false) : RowContent written s (set r) where
  length := by rw [hset.id, hb]; exact h.length
  staged := by rw [hset.id]; exact h.staged
  fits := by rw [hset.sizeBytes, hb]; exact h.fits
  sized := by rw [hset.sizeBytes, hb]; exact hsi
  landed := by
    rw [hset.targetFolderId, hset.finalRelPath, hset.id]
    intro htgt content hcont
    exact ⟨(h.landed htgt content hcont).1, hcl⟩
  published := fun hnd => absurd hnd hfin

private theorem uc_same (h : ContentInv written s) : ∀ row ∈ s.uploads, ∀ file, s.staged row.id = some file →
    Agrees file (acknowledgedBytes written row.id) := fun row hrow => (h.rows row hrow).staged

private theorem uc_erased {name : String} (h : ContentInv written s) : ∀ row ∈ s.uploads, ∀ file,
    (s.staging.erase name).lookup (stagingPath row.id) = some file → Agrees file (acknowledgedBytes written row.id) := by
  intro row hrow file hfile
  by_cases hname : stagingPath row.id = name
  · rw [hname, AList.lookup_erase] at hfile
    cases hfile
  · rw [AList.lookup_erase_ne hname] at hfile
    exact (h.rows row hrow).staged file hfile

variable {destination : MobileUploadDestinationRow} {call : ChunkCall}

private theorem uc_creates {call : CreateUploadCall} (h : ContentInv written s)
    (hsd : s.Sound) (hok : createRefused env s call destination = none)
    (htx : s.insertUpload (call.row destination) = some t) : ContentInv written t := by
  obtain ⟨hnew, rfl⟩ := insertUpload_some htx
  have hnone : s.findUploadById call.id = none := by
    unfold UploadServer.findUploadById
    rw [List.find?_eq_none]
    intro r hr hid
    exact hnew r hr (beq_iff_eq.1 hid)
  have hem := h.known call.id hnone
  constructor
  · intro row hrow
    rcases List.mem_append.1 hrow with hold | hmine
    · have hrow := h.rows row hold
      exact ⟨hrow.length, hrow.staged, hrow.fits, hrow.sized, hrow.landed, hrow.published⟩
    rw [List.mem_singleton.1 hmine]
    have hid : (call.row destination).id = call.id := rfl
    refine ⟨?_, ?_, fun _ _ => Nat.zero_le _, nofun, ?_, nofun⟩
    · rw [hid, hem]
      rfl
    · intro file _
      rw [hid, hem]
      exact agrees_nil
    intro htgt content hcont
    have hva := vacant_of_createRefused hok htgt
    rw [show ({ s with uploads := s.uploads ++ [call.row destination] } : UploadServer).landing = s.landing from rfl,
      hva] at hcont
    cases hcont
  · intro pid relay hrl
    have hold := h.relays pid relay hrl
    refine ⟨hold.length, hold.sized, hold.opened, hold.copied, ?_⟩
    intro row hrow hid
    rcases List.mem_append.1 hrow with hmem | hmine
    · exact hold.closed row hmem hid
    -- a relay's upload is in the table, so it is not the new one
    rw [List.mem_singleton.1 hmine] at hid
    obtain ⟨-, row', hrow', hkept⟩ := hsd.relays pid relay hrl
    exact absurd (hkept.id.trans hid.symm) (hnew row' hrow')
  · intro id hid
    refine h.known id ?_
    have hid' : (s.uploads ++ [call.row destination]).find? (fun r => r.id == id) = none := hid
    rw [Rows.find_concat hnew] at hid'
    split at hid'
    · cases hid'
    · exact hid'

private theorem uc_lands {content : Bytes} {bytes : Nat} {seeded : Bool} {staging : Directory} (h : ContentInv written t)
    (hsd : t.Sound) (hstag : staging = t.staging.erase (stagingPath id)) (hr : t.findUploadById id = some r)
    (htgt : r.targetFolderId = none) (hst : r.status = .publishing)
    (hcont : content = acknowledgedBytes written r.id) :
    ContentInv written { t with
      landing := t.landing.put r.finalRelPath content
      staging := staging
      stagedUsageBytes := bytes
      stagedUsageSeeded := seeded } := by
  have hmem := mem_of_findUploadById hr
  constructor
  · intro row hrow
    have hold := h.rows row hrow
    have hland : ∀ c, t.landing.put r.finalRelPath content row.finalRelPath = some c →
        row = r ∧ c = content ∨ t.landing row.finalRelPath = some c := by
      intro c hc
      rcases Table.of_put hc with ⟨hpath, rfl⟩ | ⟨-, hold⟩
      · exact .inl ⟨hsd.reserved hrow hmem hpath, rfl⟩
      · exact .inr hold
    refine ⟨hold.length, ?_, hold.fits, hold.sized, ?_, ?_⟩
    · rw [hstag]
      exact uc_erased h row hrow
    · intro hlo c hc
      rcases hland c hc with ⟨rfl, rfl⟩ | hbef
      · exact ⟨hcont, by rw [hst]; rfl⟩
      · exact hold.landed hlo c hbef
    intro hfin
    have hpub := hold.published hfin
    unfold PublishedAs at hpub ⊢
    cases hfol : row.targetFolderId with
    | some folderId => rw [hfol] at hpub; exact hpub
    | none =>
      rw [hfol] at hpub
      have hne : row.finalRelPath ≠ r.finalRelPath := by
        intro hpath
        rw [hsd.reserved hrow hmem hpath, hst] at hfin
        cases hfin
      show t.landing.put r.finalRelPath content row.finalRelPath = _
      rw [Table.put_of_ne hne]
      exact hpub
  · intro pid relay hrl
    have hold := h.relays pid relay hrl
    exact ⟨hold.length, hold.sized, hold.opened, hold.copied, hold.closed⟩
  · exact h.known

private theorem uc_finalized {digest : String} {size : Nat} {now : Int} {log : List UploadLogRow} (h : ContentInv written t)
    (hsd : t.Sound) (hr : t.findUploadById id = some r) (hsize : size = r.bytesReceived)
    (hsi : ∀ n, r.sizeBytes = some n → r.bytesReceived = n)
    (hpub : PublishedAs written t r (acknowledgedBytes written r.id))
    (hland : r.targetFolderId = none → ∀ content, t.landing r.finalRelPath = some content →
      content = acknowledgedBytes written r.id) :
    ContentInv written { t.updateUpload id (MobileUploadRow.complete digest size now) with operationLog := log } := by
  have hold := h.rows r (mem_of_findUploadById hr)
  have hrow : RowContent written t (r.complete digest size now) := by
    refine ⟨hold.length.trans hsize.symm, hold.staged, ?_, ?_, ?_, fun _ => hpub⟩
    · intro n hn
      rw [hsize]
      exact hold.fits n hn
    · intro _ n hn
      rw [hsize]
      exact hsi n hn
    · intro htgt content hcont
      exact ⟨hland htgt content hcont, rfl⟩
  have hupd := uc_update h hsd (fun _ => sameUpload_complete) hr hrow rfl
  exact uc_frame hupd rfl (fun _ _ hr => hr) rfl rfl (uc_same hupd)

private theorem uc_putRelay {pid : Nat} {relay' : FolderRelay}
    {objects : Table (MobileFolderTarget × String) Bytes} (h : ContentInv written s) (hobjs : Table.Extends s.objects objects)
    (hrl : RelayContent written { s with objects := objects } relay') :
    ContentInv written { s with objects := objects, relays := s.relays.put pid relay' } := by
  constructor
  · intro row hrow
    have hold := h.rows row hrow
    refine ⟨hold.length, hold.staged, hold.fits, hold.sized, hold.landed, ?_⟩
    intro hfin
    have hpub := hold.published hfin
    unfold PublishedAs at hpub ⊢
    cases hfol : row.targetFolderId with
    | none => rw [hfol] at hpub; exact hpub
    | some folderId =>
      rw [hfol] at hpub
      obtain ⟨target, hmem, hobj⟩ := hpub
      exact ⟨target, hmem, hobjs _ _ hobj⟩
  · intro pid' r hr
    rcases Table.of_put hr with ⟨-, rfl⟩ | ⟨-, hr'⟩
    · exact ⟨hrl.length, hrl.sized, hrl.opened, hrl.copied, hrl.closed⟩
    have hold := h.relays pid' r hr'
    refine ⟨hold.length, hold.sized, hold.opened, ?_, hold.closed⟩
    intro hcop
    obtain ⟨content, hopen, hobj⟩ := hold.copied hcop
    exact ⟨content, hopen, hobjs _ _ hobj⟩
  · exact h.known

private theorem uc_whole {file : Bytes} (h : ContentInv written s) (hrow : row ∈ s.uploads) (hstg : s.staged row.id = some file)
    (hlen : file.length = row.bytesReceived) : file = acknowledgedBytes written row.id :=
  ((h.rows row hrow).staged file hstg).eq_of_length (hlen.trans (h.rows row hrow).length.symm)

theorem UploadMove.content (hcond : ContentCondition env s₀ ev) (h₀ : ContentInv written s₀) (hsd₀ : s₀.Sound)
    (hout : ∀ o ∈ uploadOutputs env s₀ ev, o ∈ written) (h : ContentInv written t) (hsd : t.Sound)
    (hmove : UploadMove env s₀ ev t t') : ContentInv written t' := by
  cases hmove with
  | seeds | administers | updatesDestinations _ => exact uc_frame h rfl (fun _ _ hr => hr) rfl rfl (uc_same h)
  | insertsDestination _ _ htx =>
    obtain rfl := insertDestination_some htx
    exact uc_frame h rfl (fun _ _ hr => hr) rfl rfl (uc_same h)
  | repairs _ _ htx =>
    obtain ⟨-, rfl⟩ := insertOperationLogRow_some htx
    exact uc_frame h rfl (fun _ _ hr => hr) rfl rfl (uc_same h)
  | removes _ _ | sweeps => exact uc_frame h rfl (fun _ _ hr => hr) rfl rfl (uc_erased h)
  | @truncates name bytes length hstg _ =>
    refine uc_frame h rfl (fun _ _ hr => hr) rfl rfl ?_
    intro row hrow file hfile
    have hfile' : (s₀.staging.insert name (bytes.take length)).lookup (stagingPath row.id) = some file := hfile
    by_cases hname : stagingPath row.id = name
    · rw [hname, AList.lookup_insert] at hfile'
      cases hfile'
      refine ((h.rows row hrow).staged bytes ?_).take
      unfold UploadServer.staged
      rw [hname]
      exact hstg
    · rw [AList.lookup_insert_ne hname] at hfile'
      exact (h.rows row hrow).staged file hfile'
  | creates _ _ _ hok htx => exact uc_creates h hsd hok htx
  | @verifies row now hrow hst hsize =>
    have hold := h.rows row (mem_of_findUploadById hrow)
    refine uc_update h hsd (fun _ => sameUpload_verify) hrow (uc_status hold sameUpload_verify rfl ?_ nofun rfl) rfl
    intro _ size hdecl
    exact Nat.le_antisymm (hold.fits size hdecl) (hsize size hdecl)
  | @publishes _ _ row _ now _ _ hrow hst _ =>
    have hold := h.rows row (mem_of_findUploadById hrow)
    refine uc_update h hsd (fun _ => sameUpload_publish) hrow (uc_status hold sameUpload_publish rfl ?_ nofun rfl) rfl
    intro _
    refine hold.sized ?_
    rcases hst with hs | hs <;> rw [hs] <;> rfl
  | @cancels row call _ _ _ _ hrow _ _ _ =>
    have hold := h.rows row (mem_of_findUploadById hrow)
    exact uc_update h hsd (fun _ => sameUpload_cancel) hrow (uc_status hold sameUpload_cancel rfl nofun nofun rfl) rfl
  | @fails _ _ _ row r error now _ _ _ hr _ _ _ htx =>
    obtain ⟨-, rfl⟩ := insertOperationLogRow_some htx
    have hold := h.rows r (mem_of_findUploadById hr)
    have hupd := uc_update h hsd (fun _ => @sameUpload_fail _ error now) hr
      (uc_status hold sameUpload_fail rfl nofun nofun rfl) rfl
    exact uc_frame hupd rfl (fun _ _ hr => hr) rfl rfl (uc_same hupd)
  | @lands _ row r content hev hdecl htgt hsame hstg hr hkept hst hdig hla hva =>
    have hmem := mem_of_findUploadById hev.found
    have hcont : content = acknowledgedBytes written r.id := by
      obtain ⟨call, fates, rfl, hadm⟩ := hev
      rw [hla] at hva
      have hstg₀ : s₀.staged row.id = some content := (UploadServer.staged_congr hsame row.id).symm.trans hstg
      rw [hkept.id]
      exact uc_whole h₀ hmem hstg₀ ((hcond row hadm).1 htgt hva content hstg₀ hdecl)
    rw [← hkept.finalRelPath]
    exact uc_lands h hsd rfl hr (hkept.targetFolderId.trans htgt) hst hcont
  | @completes _ _ row r content now hev hr hkept hst hland hrcv _ htx =>
    obtain ⟨-, rfl⟩ := insertOperationLogRow_some htx
    have htgt : row.targetFolderId = none := by
      rcases hrcv with hlo | hfrom
      · exact hlo
      obtain ⟨call, fates, rfl, hadm⟩ := hev
      cases hfol : row.targetFolderId with
      | none => rfl
      | some folderId => exact absurd hfrom ((hcond row hadm).2 (by rw [hfol]; rfl) content)
    have hold := h.rows r (mem_of_findUploadById hr)
    have htgt' : r.targetFolderId = none := hkept.targetFolderId.trans htgt
    have hland' : t.landing r.finalRelPath = some content := by rw [hkept.finalRelPath]; exact hland
    obtain ⟨hcont, -⟩ := hold.landed htgt' content hland'
    have hlen : content.length = r.bytesReceived := by rw [hcont]; exact hold.length
    refine uc_finalized h hsd hr hlen (hold.sized (by rw [hst]; rfl)) ?_ ?_
    · unfold PublishedAs
      rw [htgt', ← hcont]
      exact hland'
    · intro _ c hc
      exact (hold.landed htgt' c hc).1
  | @spawns _ _ row r content call fates target hev hadm htgt hstg hr hkept hst hdig _ htx =>
    obtain ⟨-, rfl⟩ := spawn_some htx
    have hrl : RelayContent written t ⟨row, env.sha256 content, call.now, target, none, false⟩ := by
      have hold := h.rows r (mem_of_findUploadById hr)
      have hlen := (h₀.rows row (mem_of_findUploadById hadm.found)).length
      refine ⟨hlen, ?_, nofun, nofun, ?_⟩
      · intro size hdecl
        rw [← hkept.id, hold.length] at hlen
        rw [← hkept.sizeBytes] at hdecl
        exact hlen.symm.trans (hold.sized (by rw [hst]; rfl) size hdecl)
      intro row' hrow' hid'
      have hf := hsd.found hrow'
      rw [hid', hr] at hf
      cases hf
      rw [hst]
      rfl
    have hput := @uc_putRelay _ written call.pid _ t.objects h (Table.Extends.refl _) hrl
    exact uc_frame hput rfl (fun _ _ hr => hr) rfl rfl (uc_same hput)
  | @reads pid relay hev hrl hcop =>
    have hold := h.relays pid relay hrl
    obtain ⟨-, row, hrow, hkept⟩ := hsd.relays pid relay hrl
    refine uc_putRelay h (Table.Extends.refl _) ⟨hold.length, hold.sized, ?_, ?_, hold.closed⟩
    · intro content hopen
      have hstg : s₀.staged row.id = some content := by rw [hkept.id]; exact hopen
      have hag := (h.rows row hrow).staged content hstg
      rw [hkept.id] at hag
      exact hag
    intro hc
    have hc' : relay.copied = true := hc
    rw [hcop] at hc'
    cases hc'
  | @puts pid relay bytes hev hrl hopen =>
    have hold := h.relays pid relay hrl
    unfold relayPut
    dsimp only
    cases hobj : s₀.objects (relay.target, relay.row.finalRelPath) with
    | none =>
      refine uc_putRelay h ?_ ⟨hold.length, hold.sized, hold.opened, fun _ => ⟨bytes, hopen, Table.put_self⟩, hold.closed⟩
      intro key stored hstor
      have hne : key ≠ (relay.target, relay.row.finalRelPath) := by
        rintro rfl
        cases hobj.symm.trans hstor
      exact (Table.put_of_ne hne).trans hstor
    | some stored =>
      dsimp only
      split
      · rename_i hsame
        exact uc_putRelay h (Table.Extends.refl _)
          ⟨hold.length, hold.sized, hold.opened, fun _ => ⟨bytes, hopen, hsame ▸ hobj⟩, hold.closed⟩
      · exact h
  | @releases pid _ _ relay _ hrl =>
    exact uc_frame h rfl (fun _ _ hr => (Table.of_erase hr).2) rfl rfl (uc_same h)
  | @delivers pid fates relay _ hev hrl hwt hcop htx =>
    obtain ⟨-, rfl⟩ := insertOperationLogRow_some htx
    have hold := h₀.relays pid relay hrl
    obtain ⟨htgt, row, hrow, hkept⟩ := hsd₀.relays pid relay hrl
    obtain ⟨content, hopen, hobj⟩ := hold.copied hcop
    have hcont : content = acknowledgedBytes written relay.row.id := by
      subst hev
      have hlen := hcond relay content hrl hwt hcop hopen
      exact (hold.opened content hopen).eq_of_length (hlen.trans hold.length.symm)
    have hrowContent := h₀.rows row hrow
    have hr : (s₀.release pid relay).findUploadById relay.row.id = some row := by
      rw [← hkept.id]
      exact hsd.found hrow
    have hde : UploadOutput.delivered relay.row.id relay.target relay.row.finalRelPath content ∈ written := by
      refine hout _ ?_
      subst hev
      rw [uploadOutputs_relayExits]
      simp only [hrl, hcop, hwt, and_self, if_true, hopen, Option.getD_some, List.mem_singleton]
    have hsize : relay.row.bytesReceived = row.bytesReceived := by
      rw [← hold.length, ← hrowContent.length, hkept.id]
    obtain ⟨folderId, hfol⟩ := Option.isSome_iff_exists.1 htgt
    have hfol' : row.targetFolderId = some folderId := hkept.targetFolderId.trans hfol
    refine uc_finalized h hsd hr hsize ?_ ?_ ?_
    · intro size hdecl
      rw [← hsize]
      exact hold.sized size (hkept.sizeBytes.symm.trans hdecl)
    · unfold PublishedAs
      rw [hfol', hkept.id, hkept.finalRelPath]
      exact ⟨relay.target, hcont ▸ hde, hcont ▸ hobj⟩
    intro hlo
    rw [hfol'] at hlo
    cases hlo

theorem stagingPath_inj {a b : String} (h : stagingPath a = stagingPath b) : a = b := by
  have hlist := congrArg String.toList h
  unfold stagingPath at hlist
  simp only [String.toList_append, List.append_cancel_right_eq] at hlist
  exact String.toList_inj.1 hlist

private theorem uc_writes {position n : Nat} {data : Bytes} (h : ContentInv written s) (hrow : row ∈ s.uploads)
    (hpo : position = row.bytesReceived) (hw : row.bytesReceived ≤ ((s.staged row.id).getD []).length) :
    acknowledgedBytes written row.id ++ data.take n <+: writeAt ((s.staged row.id).getD []) position (data.take n) := by
  have hlen := (h.rows row hrow).length
  have hst : acknowledgedBytes written row.id <+: (s.staged row.id).getD [] := by
    cases hstg : s.staged row.id with
    | none =>
      rw [hstg] at hw
      have hzero : (acknowledgedBytes written row.id).length = 0 := hlen.trans (Nat.le_zero.1 hw)
      rw [List.length_eq_zero_iff.1 hzero]
      exact List.nil_prefix
    | some file =>
      rw [hstg] at hw
      exact ((h.rows row hrow).staged file hstg).prefix_of_length (hlen.le.trans hw)
  rw [hpo, ← hlen]
  exact prefix_writeAt hst

private theorem uc_unrecorded (n : Nat) (data : Bytes) (h : ContentInv written s) (hrow : row ∈ s.uploads)
    (hw : row.bytesReceived ≤ ((s.staged row.id).getD []).length) (hups : s'.uploads = s.uploads)
    (hre : s'.relays = s.relays) (hland : s'.landing = s.landing) (hobjs : s'.objects = s.objects)
    (hstag : s'.staging = (s.write row.id row.bytesReceived data n).staging) : ContentInv written s' := by
  refine uc_frame h hups (fun _ _ hr => hre ▸ hr) hland hobjs ?_
  intro row' hrow' file hfile
  unfold UploadServer.staged at hfile
  rw [hstag] at hfile
  have hfile' : (s.staging.insert (stagingPath row.id) _).lookup (stagingPath row'.id) = some file := hfile
  by_cases hid : row'.id = row.id
  · rw [hid, AList.lookup_insert] at hfile'
    cases hfile'
    have hwr := @uc_writes s row written row.bytesReceived n data h hrow rfl hw
    rw [hid]
    exact .inr ((List.prefix_append _ _).trans hwr)
  · rw [AList.lookup_insert_ne fun heq => hid (stagingPath_inj heq)] at hfile'
    exact (h.rows row' hrow').staged file hfile'

private theorem uc_recorded (h : ContentInv written s) (hsd : s.Sound) (hck : ChunkAllowed env s call row)
    (hw : row.bytesReceived ≤ ((s.staged row.id).getD []).length) :
    ContentInv (written ++ [.accepted call.uploadId call.data])
      ((chunkStaged s call row).updateUpload call.uploadId
        (MobileUploadRow.record (row.bytesReceived + call.data.length) call.now)) := by
  have hmem := mem_of_findUploadById hck.found
  have hid : row.id = call.uploadId := findUploadById_id hck.found
  obtain ⟨hst, -, hfits⟩ := chunkRefused_none hck.allowed
  have hmine : acknowledgedBytes (written ++ [.accepted call.uploadId call.data]) call.uploadId =
      acknowledgedBytes written call.uploadId ++ call.data := by
    simp [acknowledgedBytes]
  have ho : ∀ id, id ≠ call.uploadId →
      acknowledgedBytes (written ++ [.accepted call.uploadId call.data]) id = acknowledgedBytes written id := by
    intro id hne
    have hne' : ¬ call.uploadId = id := fun heq => hne heq.symm
    simp [acknowledgedBytes, hne']
  have hre : row.status.isReceiving = true := by
    rcases hst with hs | hs <;> rw [hs] <;> rfl
  have hstagedOther : ∀ id, id ≠ call.uploadId → (chunkStaged s call row).staged id = s.staged id := by
    intro id hne
    exact AList.lookup_insert_ne fun heq => hne (stagingPath_inj heq)
  constructor
  · intro row' hrow'
    rcases Rows.mem_update_key hrow' with ⟨old, hold, hkey, rfl⟩ | ⟨hold, hne⟩
    · -- the upload the chunk belongs to
      obtain rfl := hsd.unique hold hmem (hkey.trans hid.symm)
      have hrow := h.rows old hmem
      refine ⟨?_, ?_, ?_, nofun, ?_, nofun⟩
      · show (acknowledgedBytes _ old.id).length = old.bytesReceived + call.data.length
        rw [hid, hmine, List.length_append, ← hid, hrow.length]
      · intro file hfile
        have hfile' : (s.staging.insert (stagingPath call.uploadId) _).lookup (stagingPath old.id) = some file := hfile
        rw [hid, AList.lookup_insert] at hfile'
        cases hfile'
        show Agrees _ (acknowledgedBytes _ old.id)
        have hwr := @uc_writes s old written old.bytesReceived call.data.length call.data h hmem rfl hw
        rw [hid, List.take_length] at hwr
        rw [hid, hmine, List.take_length]
        exact .inr hwr
      · intro size hdecl
        exact hfits size hdecl
      · intro htgt content hcont
        have hcl := (hrow.landed htgt content hcont).2
        rw [hre] at hcl
        cases hcl
    · have hrow := h.rows row' hold
      refine ⟨?_, ?_, hrow.fits, hrow.sized, ?_, ?_⟩
      · rw [ho row'.id hne]
        exact hrow.length
      · rw [ho row'.id hne]
        intro file hfile
        exact hrow.staged file ((hstagedOther row'.id hne).symm.trans hfile)
      · rw [ho row'.id hne]
        exact hrow.landed
      rw [ho row'.id hne]
      intro hfin
      exact (hrow.published hfin).mono fun _ hmem => List.mem_append_left _ hmem
  · intro pid relay hrl
    have hold := h.relays pid relay hrl
    -- an upload with a relay does not take chunks
    have hne : relay.row.id ≠ call.uploadId := by
      intro heq
      have hcl := hold.closed row hmem (hid.trans heq.symm)
      rw [hre] at hcl
      cases hcl
    refine ⟨?_, hold.sized, ?_, hold.copied, ?_⟩
    · rw [ho _ hne]
      exact hold.length
    · rw [ho _ hne]
      exact hold.opened
    intro row' hrow' hid'
    rcases Rows.mem_update_key hrow' with ⟨old, _, hkey, rfl⟩ | ⟨hmem', _⟩
    · exact absurd (hid'.symm.trans hkey) hne
    · exact hold.closed row' hmem' hid'
  · intro id hnone
    have hnone' : (s.updateUpload call.uploadId (MobileUploadRow.record (row.bytesReceived + call.data.length)
        call.now)).findUploadById id = none := hnone
    rw [find_updateUpload fun _ => sameUpload_record] at hnone'
    split at hnone'
    · rw [hck.found] at hnone'
      cases hnone'
    rename_i hne
    rw [ho id hne]
    exact h.known id hnone'

private theorem uc_extend {new : List UploadOutput} (h : ContentInv written s) (hnew : ∀ id, acknowledgedBytes new id = []) :
    ContentInv (written ++ new) s := by
  have hsame : ∀ id, acknowledgedBytes (written ++ new) id = acknowledgedBytes written id := by
    intro id
    rw [acknowledgedBytes_append, hnew, List.append_nil]
  constructor
  · intro row hrow
    have hold := h.rows row hrow
    refine ⟨?_, ?_, hold.fits, hold.sized, ?_, ?_⟩ <;> rw [hsame]
    · exact hold.length
    · exact hold.staged
    · exact hold.landed
    · intro hfin
      exact (hold.published hfin).mono fun _ hmem => List.mem_append_left _ hmem
  · intro pid relay hrl
    have hold := h.relays pid relay hrl
    refine ⟨?_, hold.sized, ?_, hold.copied, hold.closed⟩ <;> rw [hsame]
    · exact hold.length
    · exact hold.opened
  · intro id hid
    rw [hsame]
    exact h.known id hid

private theorem uc_outputs (hev : ∀ call fates, ev ≠ .appends call fates) (id : String) :
    acknowledgedBytes (uploadOutputs env s ev) id = [] := by
  cases ev with
  | appends call fates => exact absurd rfl (hev call fates)
  | relayExits pid succeeded fates =>
    cases succeeded with
    | false => rfl
    | true =>
      rw [uploadOutputs_relayExits]
      cases s.relays pid with
      | none => rfl
      | some relay =>
        dsimp only
        by_cases hde : relay.copied = true ∧ s.suspended relay.row.id = some pid
        · rw [if_pos hde]
          rfl
        · rw [if_neg hde]
          rfl
  | _ => rfl

private theorem uc_chunk {fates : List Fate} {allowed : Fate → Prop} {dead : Bool}
    (h : ContentInv written s) (hsd : s.Sound) (hcond : ContentCondition env s (.appends call fates))
    (hend : ChunkEnd env s call allowed dead t) (ht : afterwards dead t = mobileUploadStep env s (.appends call fates)) :
    ContentInv (written ++ uploadOutputs env s (.appends call fates)) (afterwards dead t) := by
  have hsil : (afterwards dead t).uploads = s.uploads → uploadOutputs env s (.appends call fates) = [] := by
    intro hups
    rw [uploadOutputs_appends, ← ht, if_pos]
    unfold UploadServer.offsetOf UploadServer.findUploadById
    rw [hups]
  -- what a restart changes does not matter
  have hre : ∀ {written} {t : UploadServer}, ContentInv written t → ContentInv written (afterwards dead t) := by
    intro written t hinv
    cases dead with
    | false => exact hinv
    | true => exact uc_frame hinv rfl (fun _ _ hr => hr) rfl rfl (uc_same hinv)
  have hups : ∀ {t : UploadServer}, t.uploads = s.uploads → (afterwards dead t).uploads = s.uploads := by
    intro t heq
    cases dead with
    | false | true => exact heq
  have hwr : ∀ {row : MobileUploadRow}, ChunkAllowed env s call row → row ∈ s.uploads ∧ row.id = call.uploadId ∧
      row.bytesReceived ≤ ((s.staged row.id).getD []).length := by
    intro row hck
    have hid := findUploadById_id hck.found
    refine ⟨mem_of_findUploadById hck.found, hid, ?_⟩
    rw [hid]
    exact hcond row hck
  cases hend with
  | untouched =>
    rw [hsil (hups rfl), List.append_nil]
    exact hre h
  | seeded =>
    rw [hsil (hups rfl), List.append_nil]
    exact hre (uc_frame h rfl (fun _ _ hr => hr) rfl rfl (uc_same h))
  | opened hnone =>
    rw [hsil (hups rfl), List.append_nil]
    refine hre (uc_frame h rfl (fun _ _ hr => hr) rfl rfl ?_)
    intro row hrow file hfile
    have hfile' : (s.staging.insert (stagingPath call.uploadId) []).lookup (stagingPath row.id) = some file := hfile
    by_cases hid : stagingPath row.id = stagingPath call.uploadId
    · rw [hid, AList.lookup_insert] at hfile'
      cases hfile'
      exact .inl List.nil_prefix
    · rw [AList.lookup_insert_ne hid] at hfile'
      exact (h.rows row hrow).staged file hfile'
  | @short _ n hck _ _ | @torn _ n hck =>
    obtain ⟨hmem, hid, hw⟩ := hwr hck
    rw [hsil (hups rfl), List.append_nil]
    refine hre (uc_unrecorded n call.data h hmem hw rfl rfl rfl rfl ?_)
    rw [hid]
    rfl
  | unrecorded hck =>
    obtain ⟨hmem, hid, hw⟩ := hwr hck
    rw [hsil (hups rfl), List.append_nil]
    refine hre (uc_unrecorded call.data.length call.data h hmem hw rfl rfl rfl rfl ?_)
    rw [hid]
    rfl
  | @recorded row hck =>
    obtain ⟨hmem, hid, hw⟩ := hwr hck
    obtain ⟨-, hdata, -⟩ := chunkRefused_none hck.allowed
    have hacc : uploadOutputs env s (.appends call fates) = [.accepted call.uploadId call.data] := by
      rw [uploadOutputs_appends, ← ht, if_neg]
      have hnew : (afterwards false ((chunkStaged s call row).updateUpload call.uploadId
          (MobileUploadRow.record (row.bytesReceived + call.data.length) call.now))).offsetOf call.uploadId =
          some (row.bytesReceived + call.data.length) := by
        show Option.map _ (((chunkStaged s call row).updateUpload _ _).findUploadById _) = _
        rw [find_updateUpload_self (fun _ => sameUpload_record) (show (chunkStaged s call row).findUploadById _ = _ from hck.found)]
        rfl
      have hold : s.offsetOf call.uploadId = some row.bytesReceived := by
        unfold UploadServer.offsetOf
        rw [hck.found]
        rfl
      have hpo := List.length_pos_of_ne_nil hdata
      rw [hnew, hold]
      intro heq
      have heq' := Option.some.inj heq
      omega
    rw [hacc]
    exact uc_recorded h hsd hck hw

theorem UploadRun.content (hrun : UploadRun env s ev t) (ht : t = mobileUploadStep env s ev)
    (hcond : ContentCondition env s ev) (h : ContentInv written s) (hsd : s.Sound) :
    ContentInv (written ++ uploadOutputs env s ev) t := by
  by_cases hck : ∃ call fates, ev = .appends call fates
  · obtain ⟨call, fates, rfl⟩ := hck
    cases hrun with
    | moves hno _ _ | died hno _ => exact absurd rfl (hno call fates)
    | chunk hend => exact uc_chunk h hsd hcond hend ht
  have hev : ∀ call fates, ev ≠ .appends call fates := fun call fates heq => hck ⟨call, fates, heq⟩
  have hbef := @uc_extend s written (uploadOutputs env s ev) h (uc_outputs hev)
  refine (@UploadRun.invariant env s ev (fun t => ContentInv (written ++ uploadOutputs env s ev) t ∧ t.Sound) t hrun
    ⟨hbef, hsd⟩ ?_ ?_ ?_).1
  · rintro a b ⟨ha, hasound⟩ hmove
    exact ⟨hmove.content hcond hbef hsd (fun _ ho => List.mem_append_right _ ho) ha hasound, hmove.sound hasound⟩
  · rintro a ⟨ha, hasound⟩
    exact ⟨uc_frame ha rfl (fun _ _ hr => hr) rfl rfl (uc_same ha), hasound.restart⟩
  · intro call fates _ _ heq _
    exact absurd heq (hev call fates)

theorem UploadServer.Fresh.content (h : s.Fresh) : ContentInv [] s where
  rows := by
    intro row hrow
    rw [h.uploads] at hrow
    cases hrow
  relays := by
    intro pid relay hrl
    rw [h.relays] at hrl
    cases hrl
  known := fun _ _ => rfl

end Content

/-- In every run whose steps keep the bytes in order, an upload that is finalized has published the bytes of its
acknowledged chunks, in order; they are as many as its row says, and as were declared. -/
theorem finalized_publishes_acknowledged (env : UploadEnv) (start : UploadServer) (hfresh : start.Fresh)
    (es : List UploadEvent) (hcondition : Always (mobileUploadStep env) (ContentCondition env) start es) :
    let s := run (mobileUploadStep env) start es
    let written := outputs (mobileUploadStep env) (uploadOutputs env) start es
    ∀ row ∈ s.uploads, row.status = .finalized →
      PublishedAs written s row (acknowledgedBytes written row.id) ∧
      (acknowledgedBytes written row.id).length = row.bytesReceived ∧
      ∀ size, row.sizeBytes = some size → row.bytesReceived = size := by
  intro s written row hrow hfin
  have hall : ContentInv written s ∧ s.Sound := by
    refine @Always.outputs_invariant _ _ (mobileUploadStep env) (ContentCondition env) start es _ (uploadOutputs env)
      (fun s written => ContentInv written s ∧ s.Sound) [] hcondition ⟨hfresh.content, hfresh.sound⟩ ?_
    rintro s ev written ⟨hcont, hsd⟩ hev
    obtain ⟨hrun, hsd'⟩ := @UploadServer.Sound.step env s hsd ev
    exact ⟨hrun.content rfl hev hcont hsd, hsd'⟩
  have hcont := hall.1.rows row hrow
  exact ⟨hcont.published hfin, hcont.length, hcont.sized (by rw [hfin]; rfl)⟩

private theorem uc_chunkInOrder {env : UploadEnv} {s : UploadServer} {call : ChunkCall} {fates : List Fate} {n : Nat}
    (hof : s.offsetOf call.uploadId = some n) (hw : n ≤ ((s.staged call.uploadId).getD []).length) :
    ContentCondition env s (.appends call fates) := by
  intro row hck
  unfold UploadServer.offsetOf at hof
  rw [hck.found] at hof
  cases hof
  exact hw

private theorem uc_landingInOrder {env : UploadEnv} {s : UploadServer} {call : FinalizeCall} {fates : List Fate} {n : Nat}
    (hof : s.offsetOf call.uploadId = some n) (hw : (s.staged call.uploadId).map List.length = some n)
    (hlo : ∀ row ∈ s.uploads, row.targetFolderId = none) : ContentCondition env s (.finalizes call fates) := by
  intro row hadm
  have hrow := hadm.found
  constructor
  · intro _ _ file hfile _
    rw [← hadm.id] at hrow hfile
    unfold UploadServer.offsetOf at hof
    rw [hrow] at hof
    rw [hfile] at hw
    exact (Option.some.inj hw).trans (Option.some.inj hof).symm
  · intro hfol
    rw [hlo row (mem_of_findUploadById hrow)] at hfol
    cases hfol

/-- Chunks fail before, in and after the write, the process dies, and the upload is finalized with the bytes that were
acknowledged. -/
theorem finalized_publishes_acknowledged_retried :
    let es := exampleUploadCreated none ++
      [.appends ⟨"mob-1", "up-1", 0, [1, 2, 3], 3⟩ [.done, .short 2], .appends ⟨"mob-1", "up-1", 0, [1, 2, 3], 4⟩ [],
        .appends ⟨"mob-1", "up-1", 3, [4], 5⟩ [.done, .done, .crashes], .appends ⟨"mob-1", "up-1", 3, [4], 6⟩ [],
        .finalizes ⟨"mob-1", "up-1", 7, 7⟩ []]
    let s := run (mobileUploadStep exampleUploadEnv) exampleUploadServer es
    let written := outputs (mobileUploadStep exampleUploadEnv) (uploadOutputs exampleUploadEnv) exampleUploadServer es
    s.uploads ≠ [] ∧ ∀ row ∈ s.uploads, PublishedAs written s row [1, 2, 3, 4] ∧ row.bytesReceived = 4 := by
  intro es s written
  have hcond : Always (mobileUploadStep exampleUploadEnv) (ContentCondition exampleUploadEnv) exampleUploadServer es := by
    refine ⟨trivial, trivial, ?_, ?_, ?_, ?_, ?_, trivial⟩
    · exact @uc_chunkInOrder _ _ _ _ 0 (by decide +kernel) (by decide +kernel)
    · exact @uc_chunkInOrder _ _ _ _ 0 (by decide +kernel) (by decide +kernel)
    · exact @uc_chunkInOrder _ _ _ _ 3 (by decide +kernel) (by decide +kernel)
    · exact @uc_chunkInOrder _ _ _ _ 3 (by decide +kernel) (by decide +kernel)
    · exact @uc_landingInOrder _ _ _ _ 4 (by decide +kernel) (by decide +kernel) (by decide +kernel)
  have hall := finalized_publishes_acknowledged exampleUploadEnv exampleUploadServer exampleUploadServer_fresh es hcond
  have hrows : ∀ row ∈ s.uploads, row.id = "up-1" ∧ row.status = .finalized := by decide +kernel
  have hb : acknowledgedBytes written "up-1" = [1, 2, 3, 4] := by decide +kernel
  refine ⟨by decide +kernel, ?_⟩
  intro row hrow
  obtain ⟨hid, hfin⟩ := hrows row hrow
  obtain ⟨hpub, hlen, -⟩ := hall row hrow hfin
  rw [hid, hb] at hpub hlen
  exact ⟨hpub, hlen.symm⟩

/-- What finalize publishes when the offset and the staging file are out of step: a chunk that was not recorded, and
less than was acknowledged when the staging file has lost its end. -/
theorem finalize_publishes_unacknowledged :
    let start := exampleUploadCreated none
    let finalize := UploadEvent.finalizes ⟨"mob-1", "up-1", 9, 7⟩ []
    let unrecorded := start ++ [.appends ⟨"mob-1", "up-1", 0, [1, 2, 3], 3⟩ [.done, .done, .fails], finalize]
    let truncated := start ++ [.appends ⟨"mob-1", "up-1", 0, [1, 2, 3], 3⟩ [], .stagingTruncated (stagingPath "up-1") 2, finalize]
    let ends es := run (mobileUploadStep exampleUploadEnv) exampleUploadServer es
    let acknowledged es :=
      acknowledgedBytes (outputs (mobileUploadStep exampleUploadEnv) (uploadOutputs exampleUploadEnv) exampleUploadServer es) "up-1"
    (∃ row ∈ (ends unrecorded).uploads, row.status = .finalized ∧
      (ends unrecorded).landing row.finalRelPath = some [1, 2, 3] ∧ acknowledged unrecorded = []) ∧
    ∃ row ∈ (ends truncated).uploads, row.status = .finalized ∧
      (ends truncated).landing row.finalRelPath = some [1, 2] ∧ acknowledged truncated = [1, 2, 3] := by
  decide +kernel

end LamaSync
