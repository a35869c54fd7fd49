import LamaSync.Server.UploadContent

/-!
# Finalized means delivered

An upload with a target folder is finalized in two places.  The finalize that waited for the relay does it when the
relay has exited with success.  The recovery of an upload found in `publishing` does it when the landing area has a file
of the recorded digest under the upload's path, which says nothing about the folder.
-/

namespace LamaSync

open Faults Relation Trace

def DeliveredToFolder (env : UploadEnv) (written : List UploadOutput) (row : MobileUploadRow) : Prop :=
  row.status = .finalized → row.targetFolderId.isSome = true →
    ∃ target content, .delivered row.id target row.finalRelPath content ∈ written ∧
      row.sha256 = some (env.sha256 content)

def DeliveryCondition (env : UploadEnv) (s : UploadServer) (ev : UploadEvent) : Prop :=
  match ev with
  | .finalizes call _ => ∀ row, FinalizeAdmitted s call row → row.targetFolderId.isSome = true →
      ∀ landed, ¬ CompletesFromLanding env s row landed
  | .relayExits pid true _ => ∀ relay, s.relays pid = some relay → s.suspended relay.row.id = some pid →
      relay.copied = true → env.sha256 (relay.opened.getD []) = relay.digest
  | _ => True

section Delivery

variable {env : UploadEnv} {s s₀ t t' : UploadServer} {ev : UploadEvent} {id : String} {row : MobileUploadRow}
  {set : MobileUploadRow → MobileUploadRow} {written new : List UploadOutput}

theorem DeliveredToFolder.mono (h : DeliveredToFolder env written row) (hsub : ∀ o ∈ written, o ∈ new) :
    DeliveredToFolder env new row := by
  intro hfin hfol
  obtain ⟨target, content, hmem, hdig⟩ := h hfin hfol
  exact ⟨target, content, hsub _ hmem, hdig⟩

private theorem ud_update (h : ∀ row ∈ s.uploads, DeliveredToFolder env written row)
    (hst : ∀ row, (set row).status ≠ .finalized) :
    ∀ row ∈ (s.updateUpload id set).uploads, DeliveredToFolder env written row := by
  refine Rows.forall_update h ?_
  intro row _ _ _ hfin
  exact absurd hfin (hst row)

theorem relayPut_uploads {pid : Nat} {relay : FolderRelay} {bytes : Bytes} : (relayPut s pid relay bytes).uploads = s.uploads := by
  unfold relayPut
  dsimp only
  split
  · rfl
  · split <;> rfl

theorem UploadMove.delivery (hcond : DeliveryCondition env s₀ ev) (hsd₀ : s₀.Sound)
    (hout : ∀ o ∈ uploadOutputs env s₀ ev, o ∈ written) (h : ∀ row ∈ t.uploads, DeliveredToFolder env written row)
    (hsd : t.Sound) (hmove : UploadMove env s₀ ev t t') : ∀ row ∈ t'.uploads, DeliveredToFolder env written row := by
  cases hmove with
  | seeds | removes _ _ | lands _ _ _ _ _ _ _ _ _ _ _ | sweeps | administers | truncates _ _ | reads _ _ _
  | updatesDestinations _ | releases _ _ => exact h
  | puts _ _ _ =>
    rw [relayPut_uploads]
    exact h
  | insertsDestination _ _ htx =>
    obtain rfl := insertDestination_some htx
    exact h
  | spawns _ _ _ _ _ _ _ _ _ htx =>
    obtain ⟨-, rfl⟩ := spawn_some htx
    exact h
  | repairs _ _ htx =>
    obtain ⟨-, rfl⟩ := insertOperationLogRow_some htx
    exact h
  | creates _ _ _ _ htx =>
    obtain ⟨-, rfl⟩ := insertUpload_some htx
    exact List.forall_mem_append.2 ⟨h, List.forall_mem_singleton.2 nofun⟩
  | verifies _ _ _ | publishes _ _ _ _ _ | cancels _ _ _ _ _ _ _ => exact ud_update h fun _ => nofun
  | fails _ _ _ _ _ _ _ htx =>
    obtain ⟨-, rfl⟩ := insertOperationLogRow_some htx
    exact ud_update h fun _ => nofun
  | @completes _ _ row r content now hev hr hkept _ _ hrcv _ htx =>
    obtain ⟨-, rfl⟩ := insertOperationLogRow_some htx
    -- an upload with a target folder is not completed here
    have hlo : row.targetFolderId = none := by
      rcases hrcv with hlo | hfrom
      · exact hlo
      obtain ⟨call, fates, rfl, hadm⟩ := hev
      cases hfol : row.targetFolderId with
      | none => rfl
      | some folderId => exact absurd hfrom (hcond row hadm (by rw [hfol]; rfl) content)
    refine Rows.forall_update h ?_
    intro r' hr' hid _ _ hfol
    have hf := hsd.found hr'
    rw [beq_iff_eq.1 hid, hr] at hf
    cases hf
    have hfol' : r.targetFolderId.isSome = true := hfol
    rw [hkept.targetFolderId, hlo] at hfol'
    cases hfol'
  | @delivers pid fates relay _ hev hrl hwt hcop htx =>
    obtain ⟨-, rfl⟩ := insertOperationLogRow_some htx
    subst hev
    obtain ⟨-, row, hrow, hkept⟩ := hsd₀.relays pid relay hrl
    have hde : UploadOutput.delivered relay.row.id relay.target relay.row.finalRelPath (relay.opened.getD []) ∈
        written := by
      refine hout _ ?_
      rw [uploadOutputs_relayExits]
      simp only [hrl, hcop, hwt, and_self, if_true, List.mem_singleton]
    refine Rows.forall_update h ?_
    intro r' hr' hid _ _ _
    have hsame : r' = row := hsd₀.unique hr' hrow ((beq_iff_eq.1 hid).trans hkept.id.symm)
    subst hsame
    refine ⟨relay.target, relay.opened.getD [], ?_, congrArg some (hcond relay hrl hwt hcop).symm⟩
    show UploadOutput.delivered r'.id relay.target r'.finalRelPath _ ∈ written
    rw [hkept.id, hkept.finalRelPath]
    exact hde

private theorem ud_chunk {call : ChunkCall} {allowed : Fate → Prop} {dead : Bool}
    (h : ∀ row ∈ s.uploads, DeliveredToFolder env written row) (hend : ChunkEnd env s call allowed dead t) :
    ∀ row ∈ (afterwards dead t).uploads, DeliveredToFolder env written row := by
  have haf : (afterwards dead t).uploads = t.uploads := by cases dead <;> rfl
  rw [haf]
  cases hend with
  | untouched | seeded | opened _ | short _ _ _ | torn _ | unrecorded _ => exact h
  | @recorded row _ =>
    have hstg : ∀ row ∈ (chunkStaged s call row).uploads, DeliveredToFolder env written row := h
    exact ud_update hstg fun _ => nofun

theorem UploadRun.delivery (hrun : UploadRun env s ev t) (hcond : DeliveryCondition env s ev)
    (h : ∀ row ∈ s.uploads, DeliveredToFolder env written row) (hsd : s.Sound) :
    ∀ row ∈ t.uploads, DeliveredToFolder env (written ++ uploadOutputs env s ev) row := by
  have hbef : ∀ row ∈ s.uploads, DeliveredToFolder env (written ++ uploadOutputs env s ev) row := fun row hrow =>
    (h row hrow).mono fun _ ho => List.mem_append_left _ ho
  have hall := @UploadRun.invariant env s ev
    (fun t => (∀ row ∈ t.uploads, DeliveredToFolder env (written ++ uploadOutputs env s ev) row) ∧ t.Sound) t hrun
    ⟨hbef, hsd⟩ ?_ ?_ ?_
  · exact hall.1
  · rintro a b ⟨ha, hasound⟩ hmove
    exact ⟨hmove.delivery hcond hsd (fun _ ho => List.mem_append_right _ ho) ha hasound, hmove.sound hasound⟩
  · rintro a ⟨ha, hasound⟩
    exact ⟨ha, hasound.restart⟩
  intro call fates dead t' hev hend
  refine ⟨ud_chunk hbef hend, ?_⟩
  subst hev
  exact UploadRun.sound (.chunk hend) hsd

end Delivery

/-- In every run in which no folder upload is completed from the landing area, and no staging file changes between its
verification and its relay, a finalized upload with a target folder was delivered there with the verified content. -/
theorem finalized_was_delivered (env : UploadEnv) (start : UploadServer) (hfresh : start.Fresh)
    (es : List UploadEvent) (hcondition : Always (mobileUploadStep env) (DeliveryCondition env) start es) :
    ∀ row ∈ (run (mobileUploadStep env) start es).uploads,
      DeliveredToFolder env (outputs (mobileUploadStep env) (uploadOutputs env) start es) row := by
  have hall := @Always.outputs_invariant _ _ (mobileUploadStep env) (DeliveryCondition env) start es _ (uploadOutputs env)
    (fun s written => (∀ row ∈ s.uploads, DeliveredToFolder env written row) ∧ s.Sound) [] hcondition
    ⟨?_, hfresh.sound⟩ ?_
  · exact hall.1
  · intro row hrow
    rw [hfresh.uploads] at hrow
    cases hrow
  rintro s ev written ⟨hde, hsd⟩ hev
  obtain ⟨hrun, hsd'⟩ := @UploadServer.Sound.step env s hsd ev
  exact ⟨hrun.delivery hev hde hsd, hsd'⟩

/-- The process dies while the relay runs, and the finalize after the restart relays the upload again. -/
theorem finalized_was_delivered_relayed :
    let es := exampleUploadCreated (some "photos") ++
      [.appends ⟨"mob-1", "up-1", 0, [1, 2, 3], 3⟩ [], .finalizes ⟨"mob-1", "up-1", 4, 7⟩ [], .restarts,
        .finalizes ⟨"mob-1", "up-1", 5, 8⟩ [], .relayReads 8, .relayPuts 8, .relayExits 8 true []]
    let written := outputs (mobileUploadStep exampleUploadEnv) (uploadOutputs exampleUploadEnv) exampleUploadServer es
    ∃ row ∈ (run (mobileUploadStep exampleUploadEnv) exampleUploadServer es).uploads, row.status = .finalized ∧
      ∃ target content, .delivered row.id target row.finalRelPath content ∈ written ∧
        row.sha256 = some (exampleUploadEnv.sha256 content) := by
  intro es written
  have hva : ∀ {s : UploadServer} {call : FinalizeCall} {fates : List Fate},
      (∀ row ∈ s.uploads, s.landing row.finalRelPath = none) → DeliveryCondition exampleUploadEnv s (.finalizes call fates) := by
    intro s call fates hnone row hadm _ landed hfrom
    have hth := hfrom.there
    rw [hnone row (mem_of_findUploadById hadm.found)] at hth
    cases hth
  have hcond : Always (mobileUploadStep exampleUploadEnv) (DeliveryCondition exampleUploadEnv) exampleUploadServer es := by
    refine ⟨trivial, trivial, trivial, hva (by decide +kernel), trivial, hva (by decide +kernel), trivial, trivial,
      ?_, trivial⟩
    intro relay hrl _ _
    have hdig : ((run (mobileUploadStep exampleUploadEnv) exampleUploadServer (es.take 8)).relays 8).all
        (fun relay => exampleUploadEnv.sha256 (relay.opened.getD []) = relay.digest) = true := by decide +kernel
    have hrl' : (run (mobileUploadStep exampleUploadEnv) exampleUploadServer (es.take 8)).relays 8 = some relay := hrl
    rw [hrl'] at hdig
    exact of_decide_eq_true hdig
  have hall := finalized_was_delivered exampleUploadEnv exampleUploadServer exampleUploadServer_fresh es hcond
  have hfin : ∃ row ∈ (run (mobileUploadStep exampleUploadEnv) exampleUploadServer es).uploads,
      row.status = .finalized ∧ row.targetFolderId.isSome = true := by decide +kernel
  obtain ⟨row, hrow, hst, hfol⟩ := hfin
  exact ⟨row, hrow, hst, hall row hrow hst hfol⟩

/-- The process dies while the relay of a folder upload runs, and the landing area happens to hold the same file under the
upload's path: the next finalize completes the upload, although nothing has reached the folder. -/
theorem finalized_without_delivery :
    let start := { exampleUploadServer with landing := exampleUploadServer.landing.put "Mobile/mob-1/inbox/a.jpg" [1, 2, 3] }
    let es := exampleUploadCreated (some "photos") ++
      [.appends ⟨"mob-1", "up-1", 0, [1, 2, 3], 3⟩ [], .finalizes ⟨"mob-1", "up-1", 4, 7⟩ [], .restarts,
        .finalizes ⟨"mob-1", "up-1", 5, 8⟩ []]
    let s := run (mobileUploadStep exampleUploadEnv) start es
    start.Fresh ∧
      (∃ row ∈ s.uploads, row.status = .finalized ∧ row.targetFolderId = some "photos" ∧
        s.objects (⟨"minio", "bucket"⟩, row.finalRelPath) = none) ∧
      outputs (mobileUploadStep exampleUploadEnv) (uploadOutputs exampleUploadEnv) start es =
        [.accepted "up-1" [1, 2, 3]] := by
  refine ⟨⟨rfl, rfl, rfl, rfl, rfl⟩, ?_⟩
  decide +kernel

end LamaSync
