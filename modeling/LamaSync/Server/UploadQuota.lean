import LamaSync.Lib.Trace
import LamaSync.Server.UploadTables

/-!
# The staging quota

The server keeps the bytes of the staging area in a counter, charged before the offset is recorded and released when a
staging file is removed or landed.  The quota is checked against the counter, so it holds of the disk as long as the
counter covers the disk.  Three things make the counter fall short: a chunk whose write stops early, a file that is
shorter than its recorded offset, and a removal by a process that has not counted the disk yet (it then counts the disk
without the file, and releases the file).
-/

namespace LamaSync

open Faults Relation Trace

/-- Releasing the staging file of an upload takes nothing off that is still there: the file is empty, or the only one. -/
def ReleasedExactly (d : Directory) (id : String) : Prop :=
  fileSize d (stagingPath id) = 0 ∨ fileSize d (stagingPath id) = totalSize d

/-- A process that has not counted the disk releases no other file than the only one. -/
def CountedBeforeRemoval (env : UploadEnv) (s : UploadServer) (ev : UploadEvent) : Prop :=
  s.stagedUsageSeeded = false → ∀ id, MayRemove env s ev id → ReleasedExactly s.staging id

/-- The steps that keep the counter over the disk. -/
def QuotaCondition (env : UploadEnv) (s : UploadServer) (ev : UploadEvent) : Prop :=
  match ev with
  | .appends call fates => ∀ row, ChunkAllowed env s call row →
      row.bytesReceived ≤ ((s.staged call.uploadId).getD []).length ∧
      ∀ n, .short n ∈ fates → n < call.data.length → row.bytesReceived + n ≤ ((s.staged call.uploadId).getD []).length
  | .finalizes call _ => CountedBeforeRemoval env s ev ∧ ∀ row, FinalizeAdmitted s call row → row.targetFolderId = none →
      s.landing row.finalRelPath = none → ∀ file, s.staged row.id = some file →
        (∀ declared, row.sha256 = some declared → declared.toLower = env.sha256 file) → row.bytesReceived ≤ file.length
  | .reconciles _ _ _ => True
  | _ => CountedBeforeRemoval env s ev

/-- The counter covers the disk. -/
def Counted (s : UploadServer) : Prop := totalSize s.staging ≤ currentStagedUsage s

section Quota

variable {env : UploadEnv} {s s₀ t t' : UploadServer} {ev : UploadEvent} {id : String} {row : MobileUploadRow} {name : String}

theorem currentStagedUsage_seeded (h : s.stagedUsageSeeded = true) : currentStagedUsage s = s.stagedUsageBytes := by
  unfold currentStagedUsage
  rw [if_pos h]

theorem currentStagedUsage_unseeded (h : s.stagedUsageSeeded = false) : currentStagedUsage s = totalSize s.staging := by
  unfold currentStagedUsage
  rw [h]
  rfl

private theorem uq_shrinks {d : Directory} (h : Counted s) (hd : totalSize d ≤ totalSize s.staging) :
    Counted { s with staging := d } := by
  show totalSize d ≤ currentStagedUsage { s with staging := d }
  by_cases hse : s.stagedUsageSeeded = true
  · have hus : currentStagedUsage { s with staging := d } = s.stagedUsageBytes := currentStagedUsage_seeded hse
    unfold Counted at h
    rw [currentStagedUsage_seeded hse] at h
    omega
  have hus : currentStagedUsage { s with staging := d } = totalSize d :=
    currentStagedUsage_unseeded (by simpa using hse)
  omega

theorem counted_restart : Counted s.restart := by
  unfold Counted
  rw [currentStagedUsage_unseeded rfl]

private theorem uq_erase : totalSize (s.staging.erase name) ≤ totalSize s.staging := by
  have her := @totalSize_erase s.staging name
  omega

private theorem uq_release {n : Nat} {landing : Table String Bytes} (h : Counted t) (hn : n ≤ fileSize t.staging name)
    (hex : t.stagedUsageSeeded = false → fileSize t.staging name = 0 ∨ fileSize t.staging name = totalSize t.staging) :
    Counted (recordStagedBytes (-n) { t with landing := landing, staging := t.staging.erase name }) := by
  have her := @totalSize_erase t.staging name
  show totalSize (t.staging.erase name) ≤
    ((currentStagedUsage { t with landing := landing, staging := t.staging.erase name } : Int) + -n).toNat
  unfold Counted at h
  by_cases hse : t.stagedUsageSeeded = true
  · have hus : currentStagedUsage { t with landing := landing, staging := t.staging.erase name } = currentStagedUsage t := by
      rw [currentStagedUsage_seeded (s := t) hse]
      exact currentStagedUsage_seeded hse
    rw [hus]
    omega
  have hun : t.stagedUsageSeeded = false := by simpa using hse
  have hus : currentStagedUsage { t with landing := landing, staging := t.staging.erase name } =
      totalSize (t.staging.erase name) := currentStagedUsage_unseeded hun
  rw [hus]
  rcases hex hun with hem | honly
  · omega
  · omega

private theorem uq_exact (h : ReleasedExactly s.staging id) : ReleasedExactly (s.staging.erase name) id := by
  have her := @totalSize_erase s.staging name
  unfold ReleasedExactly at h ⊢
  by_cases hname : stagingPath id = name
  · left
    rw [hname]
    exact fileSize_of_none (AList.lookup_erase _ _)
  have hsame : fileSize (s.staging.erase name) (stagingPath id) = fileSize s.staging (stagingPath id) := by
    unfold fileSize
    rw [AList.lookup_erase_ne hname]
  rw [hsame]
  have hle := @fileSize_le (s.staging.erase name) (stagingPath id)
  rw [hsame] at hle
  rcases h with hem | honly
  · exact .inl hem
  · right
    omega

theorem UploadMove.totalSize_le (hmove : UploadMove env s₀ ev t t') : totalSize t'.staging ≤ totalSize t.staging := by
  cases hmove with
  | removes _ _ | lands _ _ _ _ _ _ _ _ _ _ _ | sweeps => exact uq_erase
  | @truncates name bytes length hstg _ =>
    have hin := @totalSize_insert s₀.staging name (bytes.take length)
    have hfile := fileSize_of_lookup hstg
    have hle := List.length_take_le' length bytes
    show totalSize (s₀.staging.insert name (bytes.take length)) ≤ _
    omega
  | creates _ _ _ _ htx =>
    obtain ⟨-, rfl⟩ := insertUpload_some htx
    exact le_rfl
  | fails _ _ _ _ _ _ _ htx | completes _ _ _ _ _ _ _ htx | delivers _ _ _ _ htx | repairs _ _ htx =>
    obtain ⟨-, rfl⟩ := insertOperationLogRow_some htx
    exact le_rfl
  | spawns _ _ _ _ _ _ _ _ _ htx =>
    obtain ⟨-, rfl⟩ := spawn_some htx
    exact le_rfl
  | insertsDestination _ _ htx =>
    obtain rfl := insertDestination_some htx
    exact le_rfl
  | puts _ _ _ =>
    unfold relayPut
    dsimp only
    split
    · exact le_rfl
    · split <;> exact le_rfl
  | seeds | verifies _ _ _ | publishes _ _ _ _ _ | reads _ _ _ | releases _ _ | cancels _ _ _ _ _ _ _ | administers
  | updatesDestinations _ => exact le_rfl

private def uq_Inv (env : UploadEnv) (s₀ : UploadServer) (ev : UploadEvent) (t : UploadServer) : Prop :=
  Counted t ∧ (t.stagedUsageSeeded = false → ∀ id, MayRemove env s₀ ev id → ReleasedExactly t.staging id)

private theorem uq_seeded (h : Counted t) (hse : t.stagedUsageSeeded = true) : uq_Inv env s₀ ev t := by
  refine ⟨h, ?_⟩
  intro hno
  rw [hse] at hno
  cases hno

private theorem uq_landing (hcond : QuotaCondition env s₀ ev) (hev : ev.Finalizes s₀ row) (htgt : row.targetFolderId = none)
    (hva : s₀.landing row.finalRelPath = none) {content : Bytes} (hstg : s₀.staged row.id = some content)
    (hdecl : ∀ declared, row.sha256 = some declared → declared.toLower = env.sha256 content) :
    row.bytesReceived ≤ content.length := by
  obtain ⟨call, fates, rfl, hadm⟩ := hev
  exact hcond.2 row hadm htgt hva content hstg hdecl

private theorem uq_move (hcond : QuotaCondition env s₀ ev) (h : uq_Inv env s₀ ev t) (hmove : UploadMove env s₀ ev t t') :
    uq_Inv env s₀ ev t' := by
  have hsame : ∀ {t' : UploadServer}, t'.staging = t.staging → t'.stagedUsageBytes = t.stagedUsageBytes →
      t'.stagedUsageSeeded = t.stagedUsageSeeded → uq_Inv env s₀ ev t' := by
    intro t' hstag hb hse
    unfold uq_Inv Counted currentStagedUsage
    rw [hstag, hb, hse]
    exact h
  cases hmove with
  | seeds => exact uq_seeded le_rfl rfl
  | @removes _ id bytes hrem hstg =>
    have hsize : fileSize t.staging (stagingPath id) = bytes.length := fileSize_of_lookup hstg
    have hcnt := @uq_release t (stagingPath id) bytes.length t.landing h.1 hsize.ge fun hno => h.2 hno id hrem
    exact uq_seeded hcnt rfl
  | @lands _ row r content hev hdecl htgt hstag hstg hr hkept _ _ hland hva =>
    have hstg₀ : s₀.staged row.id = some content := (UploadServer.staged_congr hstag row.id).symm.trans hstg
    rw [hland] at hva
    have hb := uq_landing hcond hev htgt hva hstg₀ hdecl
    have hsize : fileSize t.staging (stagingPath row.id) = content.length := fileSize_of_lookup hstg
    have hcnt := @uq_release t (stagingPath row.id) row.bytesReceived (t.landing.put row.finalRelPath content) h.1
      (by omega) fun hno => h.2 hno row.id hev.mayRemove
    exact uq_seeded hcnt rfl
  | sweeps => exact ⟨uq_shrinks h.1 uq_erase, fun hno id hrem => uq_exact (h.2 hno id hrem)⟩
  | @truncates name bytes length hstg hev =>
    have htr : UploadMove env s₀ ev s₀ { s₀ with staging := s₀.staging.insert name (bytes.take length) } :=
      .truncates hstg hev
    have hle := htr.totalSize_le
    refine ⟨uq_shrinks h.1 hle, ?_⟩
    intro _ id hrem
    subst hev
    cases hrem with
    | dooms hdoom => cases hdoom
  | creates _ _ _ _ htx =>
    obtain ⟨-, rfl⟩ := insertUpload_some htx
    exact hsame rfl rfl rfl
  | fails _ _ _ _ _ _ _ htx | completes _ _ _ _ _ _ _ htx | delivers _ _ _ _ htx | repairs _ _ htx =>
    obtain ⟨-, rfl⟩ := insertOperationLogRow_some htx
    exact hsame rfl rfl rfl
  | spawns _ _ _ _ _ _ _ _ _ htx =>
    obtain ⟨-, rfl⟩ := spawn_some htx
    exact hsame rfl rfl rfl
  | insertsDestination _ _ htx =>
    obtain rfl := insertDestination_some htx
    exact hsame rfl rfl rfl
  | puts _ _ _ =>
    unfold relayPut
    dsimp only
    split
    · exact hsame rfl rfl rfl
    · split <;> exact hsame rfl rfl rfl
  | verifies _ _ _ | publishes _ _ _ _ _ | reads _ _ _ | releases _ _ | cancels _ _ _ _ _ _ _ | administers
  | updatesDestinations _ => exact hsame rfl rfl rfl

private theorem uq_written {call : ChunkCall} {n : Nat}
    (hw : row.bytesReceived ≤ ((s.staged call.uploadId).getD []).length) :
    totalSize (s.write call.uploadId row.bytesReceived call.data n).staging + ((s.staged call.uploadId).getD []).length =
      totalSize s.staging +
        max ((s.staged call.uploadId).getD []).length (row.bytesReceived + min n call.data.length) := by
  have hlen := @length_writeAt ((s.staged call.uploadId).getD []) (call.data.take n) row.bytesReceived hw
  rw [List.length_take] at hlen
  rw [← hlen]
  exact totalSize_insert

private theorem uq_chunk {call : ChunkCall} {fates : List Fate} {dead : Bool}
    (hcond : QuotaCondition env s (.appends call fates)) (h : Counted s) (hqu : totalSize s.staging ≤ env.stagingQuotaBytes)
    (hend : ChunkEnd env s call (fun fate => fate = .done ∨ fate ∈ fates) dead t) :
    Counted (afterwards dead t) ∧ totalSize (afterwards dead t).staging ≤ env.stagingQuotaBytes := by
  have haf : ∀ {t : UploadServer}, Counted t → totalSize t.staging ≤ env.stagingQuotaBytes →
      Counted (afterwards dead t) ∧ totalSize (afterwards dead t).staging ≤ env.stagingQuotaBytes := by
    intro t ht hbd
    cases dead with
    | false => exact ⟨ht, hbd⟩
    | true => exact ⟨counted_restart, hbd⟩
  -- a chunk within the quota fits on the disk, because the counter covers it
  have hfits : ∀ {row : MobileUploadRow}, ChunkAllowed env s call row →
      row.bytesReceived ≤ ((s.staged call.uploadId).getD []).length ∧
        currentStagedUsage s + call.data.length ≤ env.stagingQuotaBytes := by
    intro row hck
    have hw := (hcond row hck).1
    have hfile : ((s.staged call.uploadId).getD []).length ≤ totalSize s.staging := fileSize_le
    have hok := hck.quota
    unfold Counted at h
    exact ⟨hw, by omega⟩
  unfold Counted at h
  cases hend with
  | untouched | seeded => exact haf h hqu
  | opened hnone =>
    have hin := @totalSize_insert s.staging (stagingPath call.uploadId) []
    have hem : ([] : Bytes).length = 0 := rfl
    refine haf ?_ ?_
    · show totalSize (s.staging.insert (stagingPath call.uploadId) []) ≤ currentStagedUsage s
      omega
    · show totalSize (s.staging.insert (stagingPath call.uploadId) []) ≤ env.stagingQuotaBytes
      omega
  | @short row n hck hfate hsh =>
    have hn : .short n ∈ fates := by
      rcases hfate with hdone | hmem
      · cases hdone
      · exact hmem
    obtain ⟨hw, hwi⟩ := hcond row hck
    have hwr := @uq_written s row call n hw
    have hbef := hwi n hn hsh
    refine haf ?_ ?_
    · show totalSize (s.write call.uploadId row.bytesReceived call.data n).staging ≤ currentStagedUsage s
      omega
    · show totalSize (s.write call.uploadId row.bytesReceived call.data n).staging ≤ env.stagingQuotaBytes
      omega
  | @torn row n hck =>
    obtain ⟨hw, hroom⟩ := hfits hck
    have hwr := @uq_written s row call n hw
    refine ⟨counted_restart, ?_⟩
    show totalSize (s.write call.uploadId row.bytesReceived call.data n).staging ≤ env.stagingQuotaBytes
    omega
  | @unrecorded _ row hck | @recorded row hck =>
    obtain ⟨hw, hroom⟩ := hfits hck
    have hwr := @uq_written s row call call.data.length hw
    refine haf ?_ ?_
    · show totalSize (s.write call.uploadId row.bytesReceived call.data call.data.length).staging ≤
        ((currentStagedUsage s : Int) + call.data.length).toNat
      omega
    · show totalSize (s.write call.uploadId row.bytesReceived call.data call.data.length).staging ≤ env.stagingQuotaBytes
      omega

private theorem uq_total (h : UploadMoves env s ev s t) : totalSize t.staging ≤ totalSize s.staging := by
  induction h with
  | refl => exact le_rfl
  | tail _ hlast ih => exact hlast.totalSize_le.trans ih

private theorem uq_start (hcond : QuotaCondition env s ev) (hck : ∀ call fates, ev ≠ .appends call fates)
    (hrc : ∀ mtimeMs now fates, ev ≠ .reconciles mtimeMs now fates) (h : Counted s) : uq_Inv env s ev s := by
  refine ⟨h, ?_⟩
  cases ev with
  | appends call fates => exact absurd rfl (hck call fates)
  | reconciles mtimeMs now fates => exact absurd rfl (hrc mtimeMs now fates)
  | finalizes call fates => exact hcond.1
  | _ => exact hcond

theorem UploadRun.quota (hrun : UploadRun env s ev t) (hcond : QuotaCondition env s ev) (h : Counted s)
    (hqu : totalSize s.staging ≤ env.stagingQuotaBytes) :
    Counted t ∧ totalSize t.staging ≤ env.stagingQuotaBytes := by
  cases hrun with
  | moves hck hrc hmv =>
    refine ⟨?_, (uq_total hmv).trans hqu⟩
    have hinv : uq_Inv env s ev t := by
      induction hmv with
      | refl => exact uq_start hcond hck hrc h
      | tail _ hlast ih => exact uq_move hcond ih hlast
    exact hinv.1
  | chunk hend => exact uq_chunk hcond h hqu hend
  | reconciled hre =>
    obtain ⟨hmv, hse, hb⟩ := hre
    refine ⟨?_, (uq_total hmv).trans hqu⟩
    unfold Counted
    rw [currentStagedUsage_seeded hse, hb]
  | died _ hmv => exact ⟨counted_restart, (uq_total hmv).trans hqu⟩

end Quota

/-- In every run whose steps keep the counter over the disk, the staged bytes are at most what the counter says, and within
the quota. -/
theorem staged_bytes_are_counted (env : UploadEnv) (start : UploadServer) (hfresh : start.Fresh)
    (hunseeded : start.stagedUsageSeeded = false) (hquota : totalSize start.staging ≤ env.stagingQuotaBytes)
    (es : List UploadEvent) (hcondition : Always (mobileUploadStep env) (QuotaCondition env) start es) :
    let s := run (mobileUploadStep env) start es
    totalSize s.staging ≤ currentStagedUsage s ∧ totalSize s.staging ≤ env.stagingQuotaBytes := by
  intro s
  have hst : Counted start := by
    unfold Counted
    rw [currentStagedUsage_unseeded hunseeded]
  have hall : (Counted s ∧ totalSize s.staging ≤ env.stagingQuotaBytes) ∧ s.Sound := by
    refine @Always.invariant _ _ (mobileUploadStep env) (QuotaCondition env) start es
      (fun s => (Counted s ∧ totalSize s.staging ≤ env.stagingQuotaBytes) ∧ s.Sound) hcondition
      ⟨⟨hst, hquota⟩, hfresh.sound⟩ ?_
    rintro t ev ⟨⟨hcnt, hbd⟩, hsd⟩ hev
    obtain ⟨hrun, hsd'⟩ := @UploadServer.Sound.step env t hsd ev
    exact ⟨hrun.quota hev hcnt hbd, hsd'⟩
  exact hall.1

private theorem uq_appends {env : UploadEnv} {s : UploadServer} {call : ChunkCall} {fates : List Fate}
    (hw : ∀ row ∈ s.uploads, row.bytesReceived ≤ ((s.staged call.uploadId).getD []).length)
    (hft : ∀ n, .short n ∉ fates) : QuotaCondition env s (.appends call fates) := by
  intro row hck
  exact ⟨hw row (mem_of_findUploadById hck.found), fun n hn => absurd hn (hft n)⟩

/-- The database does not take an offset, the chunk comes again, the process dies and counts the disk in its boot
reconcile: the counter covers the disk. -/
theorem staged_bytes_are_counted_restarted :
    let es := exampleUploadCreated none ++
      [.appends ⟨"mob-1", "up-1", 0, [1, 2, 3], 3⟩ [.done, .done, .fails], .appends ⟨"mob-1", "up-1", 0, [1, 2, 3], 4⟩ [],
        .restarts, .reconciles (fun _ => 0) 5 [], .appends ⟨"mob-1", "up-1", 3, [4], 6⟩ [.done, .tears 1]]
    let s := run (mobileUploadStep exampleUploadEnv) exampleUploadServer es
    totalSize s.staging = 4 ∧ totalSize s.staging ≤ currentStagedUsage s ∧
      totalSize s.staging ≤ exampleUploadEnv.stagingQuotaBytes := by
  intro es s
  have hcond : Always (mobileUploadStep exampleUploadEnv) (QuotaCondition exampleUploadEnv) exampleUploadServer es := by
    refine ⟨?_, ?_, ?_, ?_, ?_, trivial, ?_, trivial⟩
    · intro _ id hrem
      cases hrem with
      | dooms hdoom => cases hdoom
    · intro _ id hrem
      cases hrem with
      | dooms hdoom => cases hdoom
    · exact uq_appends (by decide +kernel) (by simp)
    · exact uq_appends (by decide +kernel) (by simp)
    · intro _ id hrem
      cases hrem with
      | dooms hdoom => cases hdoom
    · exact uq_appends (by decide +kernel) (by simp)
  have hall := staged_bytes_are_counted exampleUploadEnv exampleUploadServer exampleUploadServer_fresh rfl (by decide +kernel) es
    hcond
  exact ⟨by decide +kernel, hall⟩

/-- A write stops after three bytes and is not counted: with the two chunks of another upload the staging area is over the
quota. -/
theorem short_write_is_not_counted :
    let es := exampleUploadCreated none ++
      [.creates ⟨"up-2", "mob-1", "inbox-id", "b.jpg", none, none, "other", 3⟩ [],
        .appends ⟨"mob-1", "up-1", 0, [1, 2, 3, 4], 4⟩ [.done, .short 3], .appends ⟨"mob-1", "up-2", 0, [5, 6, 7, 8], 5⟩ [],
        .appends ⟨"mob-1", "up-2", 4, [5, 6, 7, 8], 6⟩ []]
    let s := run (mobileUploadStep exampleUploadEnv) exampleUploadServer es
    s.stagedUsageSeeded = true ∧ s.stagedUsageBytes = 8 ∧ totalSize s.staging = 11 ∧
      exampleUploadEnv.stagingQuotaBytes = 10 := by
  decide +kernel

end LamaSync
