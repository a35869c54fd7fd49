import LamaSync.Server.UploadTables

/-!
# Publications against revocations, cancels and sweeps

A finalize of a folder upload waits for its relay.  While it waits a revocation or a sweep may fail the upload (they do not
take its lock), and the relay goes on; when the process has died, so may a cancel.  As long as they only meet uploads
under whose path nothing has appeared, and no relay puts its object after them, an upload that ended without success has
published nothing, and nothing is published for a revoked registration.
-/

namespace LamaSync

open Faults Relation Trace

/-- Something has appeared under the path, in the landing area or in a folder. -/
def PublishedSince (start s : UploadServer) (path : String) : Prop :=
  s.landing path ≠ start.landing path ∨ ∃ target, s.objects (target, path) ≠ start.objects (target, path)

def RegistrationRevoked (s : UploadServer) (hostId : String) : Prop :=
  ∃ registration, findRegistrationByHostId s.mobile hostId = some registration ∧ isRowRevoked registration.revokedAt = true

def MobileUploadStatus.mayBePublished : MobileUploadStatus → Bool
  | .publishing | .finalized => true
  | .created | .uploading | .ready | .verifying | .failed | .cancelled => false

def PublishCondition (env : UploadEnv) (start s : UploadServer) (ev : UploadEvent) : Prop :=
  match ev with
  | .finalizes call _ => ∀ row, FinalizeAdmitted s call row → row.status = .publishing →
      PublishedSince start s row.finalRelPath → ¬ FinalizeDooms env s row
  | .relayPuts pid => ∀ relay, s.relays pid = some relay → relay.opened.isSome = true →
      s.objects (relay.target, relay.row.finalRelPath) = none → ∀ row ∈ s.uploads, row.id = relay.row.id →
        row.status.mayBePublished = true ∧ ¬ RegistrationRevoked s row.registrationId
  | .cancels call _ => ∀ row, s.findUploadById call.uploadId = some row → row.registrationId = call.registrationId →
      s.suspended row.id = none → row.status = .publishing → ¬ PublishedSince start s row.finalRelPath
  | .revokes hostId _ _ _ => (findRegistrationByHostId s.mobile hostId).isSome = true → ∀ row ∈ s.uploads,
      row.registrationId = hostId → row.status = .publishing → ¬ PublishedSince start s row.finalRelPath
  | .reconciles _ now _ => ∀ row ∈ s.uploads, row.updatedAt < now - env.abandonedTtlMs → row.status = .publishing →
      ¬ PublishedSince start s row.finalRelPath
  | _ => True

def PublishInv (start s : UploadServer) : Prop :=
  ∀ path, PublishedSince start s path → ∃ row ∈ s.uploads, row.finalRelPath = path ∧ row.status.mayBePublished = true

/-- What appears between two states is of uploads whose registration is not revoked in the first. -/
def PublishedLive (s t : UploadServer) : Prop :=
  ∀ path, PublishedSince s t path → ∃ row ∈ s.uploads, row.finalRelPath = path ∧ ¬ RegistrationRevoked s row.registrationId

section Interleaving

variable {env : UploadEnv} {start s s₀ t t' : UploadServer} {ev : UploadEvent} {id path : String}
  {row row₀ r : MobileUploadRow} {set : MobileUploadRow → MobileUploadRow}

theorem SamePublished.since (h : SamePublished t t') : PublishedSince s t' path ↔ PublishedSince s t path := by
  unfold PublishedSince
  rw [h.1, h.2]

theorem publishedSince_refl : ¬ PublishedSince s s path := by
  rintro (hland | ⟨target, hobj⟩)
  · exact hland rfl
  · exact hobj rfl

private theorem ui_live (h : PublishedLive s t) (hsame : SamePublished t t') : PublishedLive s t' := fun path hsi =>
  h path (hsame.since.1 hsi)

theorem PublishInv.status (h : PublishInv start s) (hsd : s.Sound) (hrow : row ∈ s.uploads)
    (hsi : PublishedSince start s row.finalRelPath) : row.status.mayBePublished = true := by
  obtain ⟨row', hrow', hpath, hst⟩ := h row.finalRelPath hsi
  rw [hsd.reserved hrow hrow' hpath.symm]
  exact hst

private theorem ui_publishing (h : row.status.mayBePublished = true) (hrun : row.status.isTerminal = false) :
    row.status = .publishing := by
  cases hst : row.status with
  | publishing => rfl
  | finalized => rw [hst] at hrun; cases hrun
  | created | uploading | ready | verifying | failed | cancelled => rw [hst] at h; cases h

private theorem ui_update (h : PublishInv start t) (hsd : t.Sound) (hset : ∀ r, SameUpload r (set r))
    (hr : t.findUploadById id = some r)
    (hst : PublishedSince start t r.finalRelPath → (set r).status.mayBePublished = true) :
    PublishInv start (t.updateUpload id set) := by
  intro path hsi
  have hsi' : PublishedSince start t path := hsi
  obtain ⟨row, hrow, hpath, hkept⟩ := h path hsi'
  have hmem : (if row.id == id then set row else row) ∈ (t.updateUpload id set).uploads := Rows.mem_update_of_mem hrow
  by_cases hid : row.id = id
  · obtain rfl := hsd.unique hrow (mem_of_findUploadById hr) (hid.trans (findUploadById_id hr).symm)
    rw [if_pos (beq_iff_eq.2 hid)] at hmem
    refine ⟨set row, hmem, (hset row).finalRelPath.trans hpath, hst ?_⟩
    rw [hpath]
    exact hsi'
  · rw [if_neg (fun heq => hid (beq_iff_eq.1 heq))] at hmem
    exact ⟨row, hmem, hpath, hkept⟩

private theorem ui_open (h : PublishInv start t) (hsd : t.Sound) (hr : t.findUploadById id = some r)
    (hopen : r.status.mayBePublished = false) : ¬ PublishedSince start t r.finalRelPath := by
  intro hsi
  rw [h.status hsd (mem_of_findUploadById hr) hsi] at hopen
  cases hopen

private theorem ui_doomed (hcond : PublishCondition env start s₀ ev) (h₀ : PublishInv start s₀) (hsd₀ : s₀.Sound)
    (hrow₀ : s₀.findUploadById row₀.id = some row₀) (hdoom : Doomed env s₀ ev row₀) :
    ¬ PublishedSince start s₀ row₀.finalRelPath := by
  intro hsi
  have hmem := mem_of_findUploadById hrow₀
  have hst := h₀.status hsd₀ hmem hsi
  cases hdoom with
  | finalizes hadm hdo =>
    have hpub := ui_publishing hst hadm.running
    exact hcond row₀ hadm hpub hsi (hdo hpub)
  | revokes hreg hhost hrun =>
    exact hcond hreg row₀ hmem hhost (ui_publishing hst hrun) hsi
  | reconciles hold hrun => exact hcond row₀ hmem hold (ui_publishing hst hrun) hsi

private theorem ui_authorized (h : finalizeRefused s row = none) : ¬ RegistrationRevoked s row.registrationId := by
  rintro ⟨registration, hf, hrev⟩
  unfold finalizeRefused at h
  rw [hf] at h
  dsimp only at h
  rw [if_pos hrev] at h
  cases h

theorem UploadMove.interleaving (hcond : PublishCondition env start s₀ ev) (h₀ : PublishInv start s₀) (hsd₀ : s₀.Sound)
    (h : PublishInv start t) (hlive : PublishedLive s₀ t) (hsd : t.Sound) (hmove : UploadMove env s₀ ev t t') :
    PublishInv start t' ∧ PublishedLive s₀ t' := by
  cases hmove with
  | seeds | removes _ _ | sweeps | administers | truncates _ _ | reads _ _ _ | updatesDestinations _
  | releases _ _ => exact ⟨h, hlive⟩
  | insertsDestination _ _ htx =>
    obtain rfl := insertDestination_some htx
    exact ⟨h, hlive⟩
  | spawns _ _ _ _ _ _ _ _ _ htx =>
    obtain ⟨-, rfl⟩ := spawn_some htx
    exact ⟨h, hlive⟩
  | repairs _ _ htx =>
    obtain ⟨-, rfl⟩ := insertOperationLogRow_some htx
    exact ⟨h, hlive⟩
  | creates _ _ _ _ htx =>
    obtain ⟨-, rfl⟩ := insertUpload_some htx
    refine ⟨?_, hlive⟩
    intro path hsi
    obtain ⟨row, hrow, hkept⟩ := h path hsi
    exact ⟨row, List.mem_append_left _ hrow, hkept⟩
  | @verifies row now hrow hst _ =>
    refine ⟨ui_update h hsd (fun _ => sameUpload_verify) hrow ?_, hlive⟩
    intro hsi
    refine absurd hsi (ui_open h hsd hrow ?_)
    rcases hst with hs | hs | hs <;> rw [hs] <;> rfl
  | @publishes _ _ row content now _ _ hrow _ _ =>
    exact ⟨ui_update h hsd (fun _ => sameUpload_publish) hrow fun _ => rfl, hlive⟩
  | @cancels row call _ hev hid hw hrow hfin hfail hfree =>
    subst hev
    refine ⟨ui_update h hsd (fun _ => sameUpload_cancel) hrow ?_, hlive⟩
    intro hsi
    have hst := h.status hsd (mem_of_findUploadById hrow) hsi
    -- only an upload in `publishing` could have been published, and it has not
    have hrun : row.status.isTerminal = false := by
      cases hs : row.status with
      | finalized => exact absurd hs hfin
      | failed => exact absurd hs hfail
      | cancelled => rw [hs] at hst; cases hst
      | created | uploading | ready | verifying | publishing => rfl
    exact absurd hsi (hcond row (by rw [hid]; exact hrow) hw hfree (ui_publishing hst hrun))
  | @fails _ _ row₀ row r _ _ hid hrow₀ hdoom hr hkept _ hpub htx =>
    obtain ⟨-, rfl⟩ := insertOperationLogRow_some htx
    refine ⟨ui_update h hsd (fun _ => sameUpload_fail) hr ?_, hlive⟩
    intro hsi
    rw [hpub.since, hkept.finalRelPath] at hsi
    exact absurd hsi (ui_doomed hcond h₀ hsd₀ hrow₀ hdoom)
  | @lands _ row r content hev _ _ _ _ hr hkept hst _ _ _ =>
    have hla : ∀ start path, PublishedSince start (recordStagedBytes (-row.bytesReceived) { t with
        landing := t.landing.put row.finalRelPath content
        staging := t.staging.erase (stagingPath row.id) }) path → path = row.finalRelPath ∨ PublishedSince start t path := by
      rintro start path (hland | hobj)
      · by_cases hpath : path = row.finalRelPath
        · exact .inl hpath
        · exact .inr (.inl fun heq => hland ((Table.put_of_ne hpath).trans heq))
      · exact .inr (.inr hobj)
    constructor
    · intro path hsi
      rcases hla start path hsi with rfl | hold
      · exact ⟨r, mem_of_findUploadById hr, hkept.finalRelPath, by rw [hst]; rfl⟩
      · exact h path hold
    intro path hsi
    rcases hla s₀ path hsi with rfl | hold
    · obtain ⟨call, fates, rfl, hadm⟩ := hev
      exact ⟨row, mem_of_findUploadById hadm.found, rfl, ui_authorized hadm.authorized⟩
    · exact hlive path hold
  | @completes _ _ row r content now _ hr _ _ _ _ _ htx =>
    obtain ⟨-, rfl⟩ := insertOperationLogRow_some htx
    exact ⟨ui_update h hsd (fun _ => sameUpload_complete) hr fun _ => rfl, hlive⟩
  | @delivers pid _ relay _ _ hrl _ _ htx =>
    obtain ⟨-, rfl⟩ := insertOperationLogRow_some htx
    obtain ⟨-, row, hrow, hkept⟩ := hsd₀.relays pid relay hrl
    have hr : (s₀.release pid relay).findUploadById relay.row.id = some row := by
      rw [← hkept.id]
      exact hsd.found hrow
    exact ⟨ui_update h hsd (fun _ => sameUpload_complete) hr fun _ => rfl, hlive⟩
  | @puts pid relay bytes hev hrl hopen =>
    subst hev
    obtain ⟨-, row, hrow, hkept⟩ := hsd₀.relays pid relay hrl
    unfold relayPut
    dsimp only
    cases hobj : s₀.objects (relay.target, relay.row.finalRelPath) with
    | some stored =>
      dsimp only
      split <;> exact ⟨h, hlive⟩
    | none =>
      obtain ⟨hst, hreg⟩ := hcond relay hrl (by rw [hopen]; rfl) hobj row hrow hkept.id
      have hput : ∀ start path, PublishedSince start { s₀ with
          objects := s₀.objects.put (relay.target, relay.row.finalRelPath) bytes
          relays := s₀.relays.put pid { relay with copied := true } } path →
          path = row.finalRelPath ∨ PublishedSince start s₀ path := by
        rintro start path (hland | ⟨target, hnew⟩)
        · exact .inr (.inl hland)
        by_cases hpath : path = relay.row.finalRelPath
        · exact .inl (hpath.trans hkept.finalRelPath.symm)
        · have hne : (target, path) ≠ (relay.target, relay.row.finalRelPath) := fun heq => hpath (congrArg Prod.snd heq)
          exact .inr (.inr ⟨target, fun heq => hnew ((Table.put_of_ne hne).trans heq)⟩)
      constructor
      · intro path hsi
        rcases hput start path hsi with rfl | hold
        · exact ⟨row, hrow, rfl, hst⟩
        · exact h path hold
      intro path hsi
      rcases hput s₀ path hsi with rfl | hold
      · exact ⟨row, hrow, rfl, hreg⟩
      · exact hlive path hold

private theorem ui_chunk {call : ChunkCall} {allowed : Fate → Prop} {dead : Bool} (h : PublishInv start s) (hsd : s.Sound)
    (hend : ChunkEnd env s call allowed dead t) : PublishInv start (afterwards dead t) ∧ PublishedLive s (afterwards dead t) := by
  have hno : PublishedLive s s := fun path hsi => absurd hsi publishedSince_refl
  have haf : ∀ {t : UploadServer}, PublishInv start t → SamePublished s t →
      PublishInv start (afterwards dead t) ∧ PublishedLive s (afterwards dead t) := by
    intro t ht hsame
    cases dead with
    | false | true => exact ⟨ht, ui_live hno hsame⟩
  cases hend with
  | untouched | seeded | opened _ | short _ _ _ | torn _ | unrecorded _ => exact haf h ⟨rfl, rfl⟩
  | @recorded row hck =>
    obtain ⟨hst, -⟩ := chunkRefused_none hck.allowed
    have hstg : PublishInv start (chunkStaged s call row) := h
    have hrow : (chunkStaged s call row).findUploadById call.uploadId = some row := hck.found
    refine ⟨ui_update hstg hsd (fun _ => sameUpload_record) hrow ?_, ui_live hno ⟨rfl, rfl⟩⟩
    intro hsi
    refine absurd hsi (ui_open hstg hsd hrow ?_)
    rcases hst with hs | hs <;> rw [hs] <;> rfl

theorem UploadRun.interleaving (hrun : UploadRun env s ev t) (hcond : PublishCondition env start s ev)
    (h : PublishInv start s) (hsd : s.Sound) : PublishInv start t ∧ PublishedLive s t := by
  have hall := @UploadRun.invariant env s ev (fun t => (PublishInv start t ∧ PublishedLive s t) ∧ t.Sound) t hrun
    ⟨⟨h, fun path hsi => absurd hsi publishedSince_refl⟩, hsd⟩ ?_ ?_ ?_
  · exact hall.1
  · rintro a b ⟨⟨ha, hlive⟩, hasound⟩ hmove
    exact ⟨hmove.interleaving hcond h hsd ha hlive hasound, hmove.sound hasound⟩
  · rintro a ⟨⟨ha, hlive⟩, hasound⟩
    exact ⟨⟨ha, hlive⟩, hasound.restart⟩
  intro call fates dead t' hev hend
  refine ⟨ui_chunk h hsd hend, ?_⟩
  subst hev
  exact UploadRun.sound (.chunk hend) hsd

end Interleaving

/-- In every run whose steps keep to each other, no upload that failed or was cancelled has published anything, and whatever
appears is of an upload whose registration is not revoked. -/
theorem publications_keep_to_endings (env : UploadEnv) (start : UploadServer) (hfresh : start.Fresh)
    (es : List UploadEvent) (hcondition : Always (mobileUploadStep env) (PublishCondition env start) start es) :
    let s := run (mobileUploadStep env) start es
    (∀ row ∈ s.uploads, row.status = .failed ∨ row.status = .cancelled → ¬ PublishedSince start s row.finalRelPath) ∧
    Always (mobileUploadStep env) (fun s ev => PublishedLive s (mobileUploadStep env s ev)) start es := by
  intro s
  have hsta : PublishInv start start ∧ start.Sound := ⟨fun path hsi => absurd hsi publishedSince_refl, hfresh.sound⟩
  have hstep : ∀ t ev, PublishInv start t ∧ t.Sound → PublishCondition env start t ev →
      (PublishInv start (mobileUploadStep env t ev) ∧ (mobileUploadStep env t ev).Sound) ∧
        PublishedLive t (mobileUploadStep env t ev) := by
    rintro t ev ⟨hinv, hsd⟩ hev
    obtain ⟨hrun, hsd'⟩ := @UploadServer.Sound.step env t hsd ev
    obtain ⟨hinv', hlive⟩ := hrun.interleaving hev hinv hsd
    exact ⟨⟨hinv', hsd'⟩, hlive⟩
  constructor
  · have hs := hcondition.invariant hsta fun t ev ht hev => (hstep t ev ht hev).1
    intro row hrow hnd hsi
    have hst := hs.1.status hs.2 hrow hsi
    rcases hnd with he | he <;> rw [he] at hst <;> cases hst
  · exact hcondition.of_invariant hsta (fun t ev ht hev => (hstep t ev ht hev).1) fun t ev ht hev => (hstep t ev ht hev).2

private theorem ui_quiet {env : UploadEnv} {start s : UploadServer} {ev : UploadEvent}
    (hno : ∀ row ∈ s.uploads, row.status ≠ .publishing) (hev : ∀ pid, ev ≠ .relayPuts pid) : PublishCondition env start s ev := by
  cases ev with
  | finalizes call fates => exact fun row hadm hp => absurd hp (hno row (mem_of_findUploadById hadm.found))
  | cancels call fates => exact fun row hrow _ _ hp => absurd hp (hno row (mem_of_findUploadById hrow))
  | revokes hostId reason now fates => exact fun _ row hrow _ hp => absurd hp (hno row hrow)
  | reconciles mtimeMs now fates => exact fun row hrow _ hp => absurd hp (hno row hrow)
  | relayPuts pid => exact absurd rfl (hev pid)
  | _ => trivial

/-- Of two uploads one is relayed and finalized, then the registration is revoked: the other fails unpublished. -/
theorem publications_keep_to_endings_revoked :
    let es := exampleUploadCreated (some "photos") ++
      [.creates ⟨"up-2", "mob-1", "inbox-id", "b.jpg", none, none, "other", 3⟩ [],
        .appends ⟨"mob-1", "up-1", 0, [1, 2, 3], 3⟩ [], .finalizes ⟨"mob-1", "up-1", 4, 7⟩ [], .relayReads 7, .relayPuts 7,
        .relayExits 7 true [], .revokes "mob-1" none ⟨5, by decide⟩ []]
    let s := run (mobileUploadStep exampleUploadEnv) exampleUploadServer es
    s.uploads.map MobileUploadRow.status = [.finalized, .failed] ∧
    (∀ row ∈ s.uploads, row.status = .failed → ¬ PublishedSince exampleUploadServer s row.finalRelPath) := by
  intro es s
  have hcond : Always (mobileUploadStep exampleUploadEnv) (PublishCondition exampleUploadEnv exampleUploadServer)
      exampleUploadServer es := by
    refine ⟨trivial, trivial, trivial, trivial, ui_quiet (by decide +kernel) nofun, trivial, ?_, trivial,
      ui_quiet (by decide +kernel) nofun, trivial⟩
    let t := run (mobileUploadStep exampleUploadEnv) exampleUploadServer (es.take 6)
    intro relay hrl _ _ row hrow hid
    have hids : (t.relays 7).all (fun relay => relay.row.id = "up-1") = true := by decide +kernel
    have hlive : ∀ row ∈ t.uploads, (row.id = "up-1" → row.status.mayBePublished = true) ∧
        (findRegistrationByHostId t.mobile row.registrationId).all (fun r => !isRowRevoked r.revokedAt) = true := by decide +kernel
    have hrl' : t.relays 7 = some relay := hrl
    rw [hrl'] at hids
    obtain ⟨hst, hreg⟩ := hlive row hrow
    refine ⟨hst (hid.trans (of_decide_eq_true hids)), ?_⟩
    rintro ⟨registration, hf, hrev⟩
    have hf' : findRegistrationByHostId t.mobile row.registrationId = some registration := hf
    rw [hf', Option.all_some, hrev] at hreg
    cases hreg
  have hall := publications_keep_to_endings exampleUploadEnv exampleUploadServer exampleUploadServer_fresh es hcond
  exact ⟨by decide +kernel, fun row hrow hfail => hall.1 row hrow (.inl hfail)⟩

/-- The registration is revoked while the relay of its upload runs: the upload has failed, and then its content appears in
the folder. -/
theorem revoked_upload_is_published :
    let es := exampleUploadCreated (some "photos") ++
      [.appends ⟨"mob-1", "up-1", 0, [1, 2, 3], 3⟩ [], .finalizes ⟨"mob-1", "up-1", 4, 7⟩ [], .relayReads 7,
        .revokes "mob-1" none ⟨5, by decide⟩ []]
    let s := run (mobileUploadStep exampleUploadEnv) exampleUploadServer es
    let t := run (mobileUploadStep exampleUploadEnv) exampleUploadServer (es ++ [.relayPuts 7, .relayExits 7 true []])
    RegistrationRevoked s "mob-1" ∧
    (∃ row ∈ s.uploads, row.registrationId = "mob-1" ∧ row.status = .failed ∧
      s.objects (⟨"minio", "bucket"⟩, row.finalRelPath) = none) ∧
    ∃ row ∈ t.uploads, row.registrationId = "mob-1" ∧ row.status = .failed ∧
      t.objects (⟨"minio", "bucket"⟩, row.finalRelPath) = some [1, 2, 3] := by
  intro es s t
  have hrev : (findRegistrationByHostId s.mobile "mob-1").any (fun r => isRowRevoked r.revokedAt) = true := by
    decide +kernel
  exact ⟨(Option.any_eq_true _ _).1 hrev, by decide +kernel, by decide +kernel⟩

end LamaSync
