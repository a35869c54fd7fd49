import LamaSync.Lib.Trace
import LamaSync.Server.UploadTables

/-!
# How mobile uploads end

Five operations can end an upload.  Whatever they interleave with and wherever they stop, the history of an upload is
the one its status asks for, and an upload that has ended stays as it ended.  What makes it so is that a status and its
history row are written in one transaction, that the dedupe key refuses a second row, and that a cancel does not pass the
lock of a finalize that waits for its relay.
-/

namespace LamaSync

open Faults Relation Trace

def UploadServer.statusOf (s : UploadServer) (id : String) : Option MobileUploadStatus :=
  (s.findUploadById id).map MobileUploadRow.status

def UploadServer.historyOf (s : UploadServer) (id : String) : List UploadLogStatus :=
  (s.operationLog.filter fun row => row.details.uploadId == id).map UploadLogRow.status

def expectedHistory : Option MobileUploadStatus → List UploadLogStatus
  | some .finalized => [.success]
  | some .failed => [.failed]
  | _ => []

structure HistoryInv (s : UploadServer) : Prop where
  history : ∀ id, s.historyOf id = expectedHistory (s.statusOf id)
  keys : ∀ row ∈ s.operationLog, row.dedupeKey = uploadHistoryDedupeKey row.details.uploadId
  waiting : ∀ id, (s.suspended id).isSome = true → s.statusOf id = some .publishing ∨ s.statusOf id = some .failed

def StaysEnded (s t : UploadServer) : Prop :=
  ∀ id status, s.statusOf id = some status → status.isTerminal = true → t.statusOf id = some status

theorem StaysEnded.refl (s : UploadServer) : StaysEnded s s := fun _ _ h _ => h

theorem StaysEnded.trans {a b c : UploadServer} (h : StaysEnded a b) (h' : StaysEnded b c) : StaysEnded a c :=
  fun id status hst hnd => h' id status (h id status hst hnd) hnd

section History

variable {env : UploadEnv} {s s₀ t t' : UploadServer} {ev : UploadEvent} {id : String} {row r : MobileUploadRow}
  {set : MobileUploadRow → MobileUploadRow} {status : UploadLogStatus} {now : Int}

theorem statusOf_updateUpload (hset : ∀ r, SameUpload r (set r)) (hr : s.findUploadById id = some r) (id' : String) :
    (s.updateUpload id set).statusOf id' = if id' = id then some (set r).status else s.statusOf id' := by
  unfold UploadServer.statusOf
  rw [find_updateUpload hset]
  split
  · rw [hr]
    rfl
  · rfl

theorem statusOf_of_find (hr : s.findUploadById id = some r) : s.statusOf id = some r.status := by
  unfold UploadServer.statusOf
  rw [hr]
  rfl

private theorem uh_marks (h : HistoryInv s) (hset : ∀ r, SameUpload r (set r)) (hr : s.findUploadById id = some r)
    (hbef : expectedHistory (some r.status) = []) (haf : expectedHistory (some (set r).status) = [])
    (hwait : (s.suspended id).isSome = true → (set r).status = .publishing) : HistoryInv (s.updateUpload id set) where
  history := by
    intro id'
    rw [statusOf_updateUpload hset hr]
    split
    · rename_i hid
      rw [hid, haf]
      have hhist := h.history id
      rw [statusOf_of_find hr, hbef] at hhist
      exact hhist
    · exact h.history id'
  keys := h.keys
  waiting := by
    intro id' hwt
    rw [statusOf_updateUpload hset hr]
    split
    · rename_i hid
      rw [hid] at hwt
      exact .inl (congrArg some (hwait hwt))
    · exact h.waiting id' hwt

private theorem uh_staysEnded (hset : ∀ r, SameUpload r (set r)) (hr : s.findUploadById id = some r)
    (hnd : r.status.isTerminal = true → (set r).status = r.status) : StaysEnded s (s.updateUpload id set) := by
  intro id' status hst hterm
  rw [statusOf_updateUpload hset hr]
  split
  · rename_i hid
    rw [hid, statusOf_of_find hr] at hst
    cases hst
    rw [hnd hterm]
  · exact hst

private theorem uh_noHistory (h : HistoryInv s) (hnew : s.uploadHistoryExists id = false) : s.historyOf id = [] := by
  unfold UploadServer.uploadHistoryExists at hnew
  rw [List.any_eq_false] at hnew
  unfold UploadServer.historyOf
  rw [List.map_eq_nil_iff, List.filter_eq_nil_iff]
  intro row hrow hid
  have hkey := h.keys row hrow
  rw [beq_iff_eq.1 hid] at hkey
  exact hnew row hrow (beq_iff_eq.2 hkey)

private theorem uh_open (h : HistoryInv s) (hnew : s.uploadHistoryExists id = false) (hr : s.findUploadById id = some r)
    (hcan : r.status ≠ .cancelled) : r.status.isTerminal = false := by
  have hhist := h.history id
  rw [uh_noHistory h hnew, statusOf_of_find hr] at hhist
  cases hst : r.status with
  | finalized | failed => rw [hst] at hhist; cases hhist
  | cancelled => exact absurd hst hcan
  | created | uploading | ready | verifying | publishing => rfl

private theorem uh_ends (h : HistoryInv s) (hset : ∀ r, SameUpload r (set r)) (hr : s.findUploadById row.id = some r)
    (hnew : s.uploadHistoryExists row.id = false) (haf : expectedHistory (some (set r).status) = [status])
    (hwait : (s.suspended row.id).isSome = true → (set r).status = .failed) :
    HistoryInv { s.updateUpload row.id set with
      operationLog := s.operationLog ++ [uploadLogRow row status now] } where
  history := by
    intro id'
    show ((s.operationLog ++ [uploadLogRow row status now]).filter fun l => l.details.uploadId == id').map _ =
      expectedHistory ((s.updateUpload row.id set).statusOf id')
    rw [statusOf_updateUpload hset hr, List.filter_append, List.map_append]
    have hold : (s.operationLog.filter fun l => l.details.uploadId == id').map UploadLogRow.status = s.historyOf id' := rfl
    rw [hold]
    split
    · rename_i hid
      have hmine : [uploadLogRow row status now].filter (fun l => l.details.uploadId == id') =
          [uploadLogRow row status now] := by
        rw [hid]
        simp [uploadLogRow]
      rw [hmine, hid, uh_noHistory h hnew, haf]
      rfl
    · rename_i hid
      have ho : [uploadLogRow row status now].filter (fun l => l.details.uploadId == id') = [] := by
        have hne : ¬ row.id = id' := fun heq => hid heq.symm
        simp [uploadLogRow, hne]
      rw [ho, h.history id']
      exact List.append_nil _
  keys := by
    exact List.forall_mem_append.2 ⟨h.keys, List.forall_mem_singleton.2 rfl⟩
  waiting := by
    intro id' hwt
    show (s.updateUpload row.id set).statusOf id' = _ ∨ (s.updateUpload row.id set).statusOf id' = _
    rw [statusOf_updateUpload hset hr]
    split
    · rename_i hid
      rw [hid] at hwt
      exact .inr (congrArg some (hwait hwt))
    · exact h.waiting id' hwt

private theorem uh_creates {call : CreateUploadCall} {destination : MobileUploadDestinationRow} (h : HistoryInv s)
    (htx : s.insertUpload (call.row destination) = some t) : HistoryInv t ∧ StaysEnded s t := by
  obtain ⟨hnew, rfl⟩ := insertUpload_some htx
  have hnone : s.findUploadById call.id = none := by
    unfold UploadServer.findUploadById
    rw [List.find?_eq_none]
    intro r hr hid
    exact hnew r hr (beq_iff_eq.1 hid)
  have hst : ∀ id', ({ s with uploads := s.uploads ++ [call.row destination] } : UploadServer).statusOf id' =
      if id' = call.id then some .created else s.statusOf id' := by
    intro id'
    show ((s.uploads ++ [call.row destination]).find? fun r => r.id == id').map MobileUploadRow.status = _
    rw [Rows.find_concat hnew]
    have hcall : (call.row destination).id = call.id := rfl
    rw [hcall]
    split <;> rfl
  constructor
  · refine ⟨?_, h.keys, ?_⟩
    · intro id'
      rw [hst]
      split
      · rename_i hid
        have hhist := h.history call.id
        unfold UploadServer.statusOf at hhist
        rw [hnone] at hhist
        rw [hid]
        exact hhist
      · exact h.history id'
    · intro id' hwt
      rw [hst]
      have hwait := h.waiting id' hwt
      split
      · rename_i hid
        unfold UploadServer.statusOf at hwait
        rw [hid, hnone] at hwait
        rcases hwait with hw | hw <;> cases hw
      · exact hwait
  · intro id' status hnd hterm
    rw [hst]
    split
    · rename_i hid
      unfold UploadServer.statusOf at hnd
      rw [hid, hnone] at hnd
      cases hnd
    · exact hnd

private theorem uh_transaction (h : HistoryInv s) (hset : ∀ r, SameUpload r (set r)) (hr : s.findUploadById row.id = some r)
    (hcan : r.status ≠ .cancelled) (hid : (set row).id = row.id)
    (haf : ∀ r, expectedHistory (some (set r).status) = [status])
    (hwait : (s.suspended row.id).isSome = true → (set r).status = .failed)
    (htx : insertOperationLogRow (set row) status now (s.updateUpload row.id set) = some t) :
    HistoryInv t ∧ StaysEnded s t := by
  obtain ⟨hnew, rfl⟩ := insertOperationLogRow_some htx
  have hnew' : s.uploadHistoryExists (set row).id = false := hnew
  rw [hid] at hnew'
  refine ⟨?_, ?_⟩
  · have hends := @uh_ends s (set row) r set status now h hset (by rw [hid]; exact hr) (by rw [hid]; exact hnew') (haf r)
      (by rw [hid]; exact hwait)
    rw [hid] at hends
    exact hends
  refine uh_staysEnded hset hr ?_
  intro hnd
  rw [uh_open h hnew' hr hcan] at hnd
  cases hnd

private theorem uh_release {pid : Nat} {relay : FolderRelay} {pid' : Nat}
    (h : (s.release pid relay).suspended id = some pid') : s.suspended id = some pid' := by
  unfold UploadServer.release at h
  dsimp only at h
  split at h
  · by_cases hid : id = relay.row.id
    · subst hid
      rw [Table.erase_self] at h
      cases h
    · rwa [Table.erase_of_ne hid] at h
  · exact h

theorem release_free {pid : Nat} {relay : FolderRelay} (h : s.suspended relay.row.id = some pid) :
    (s.release pid relay).suspended relay.row.id = none := by
  unfold UploadServer.release
  dsimp only
  rw [if_pos h]
  exact Table.erase_self

theorem UploadMove.history (h₀ : HistoryInv s₀) (hsd₀ : s₀.Sound) (h : HistoryInv t) (hsd : t.Sound)
    (hmove : UploadMove env s₀ ev t t') :
    HistoryInv t' ∧ StaysEnded t t' := by
  have hsame := StaysEnded.refl t
  cases hmove with
  | seeds | removes _ _ | lands _ _ _ _ _ _ _ _ _ _ _ | sweeps | administers | truncates _ _ | reads _ _ _
  | updatesDestinations _ => exact ⟨⟨h.history, h.keys, h.waiting⟩, hsame⟩
  | puts _ _ _ =>
    unfold relayPut
    dsimp only
    split
    · exact ⟨⟨h.history, h.keys, h.waiting⟩, hsame⟩
    split
    · exact ⟨⟨h.history, h.keys, h.waiting⟩, hsame⟩
    · exact ⟨h, hsame⟩
  | insertsDestination _ _ htx =>
    obtain rfl := insertDestination_some htx
    exact ⟨⟨h.history, h.keys, h.waiting⟩, hsame⟩
  | creates _ _ _ _ htx => exact uh_creates h htx
  | @verifies row _ hrow hst _ =>
    have hopen : expectedHistory (some row.status) = [] ∧ row.status.isTerminal = false := by
      rcases hst with hs | hs | hs <;> rw [hs] <;> exact ⟨rfl, rfl⟩
    refine ⟨uh_marks h (fun _ => sameUpload_verify) hrow hopen.1 rfl ?_, uh_staysEnded (fun _ => sameUpload_verify) hrow ?_⟩
    · intro hw
      have hwait := h.waiting row.id hw
      rw [statusOf_of_find hrow] at hwait
      rcases hwait with hp | hp <;> rcases hst with hs | hs | hs <;> rw [hs] at hp <;> cases hp
    intro hnd
    rw [hopen.2] at hnd
    cases hnd
  | @publishes _ _ row _ _ _ _ hrow hst _ =>
    have hopen : expectedHistory (some row.status) = [] ∧ row.status.isTerminal = false := by
      rcases hst with hs | hs <;> rw [hs] <;> exact ⟨rfl, rfl⟩
    refine ⟨uh_marks h (fun _ => sameUpload_publish) hrow hopen.1 rfl fun _ => rfl,
      uh_staysEnded (fun _ => sameUpload_publish) hrow ?_⟩
    intro hnd
    rw [hopen.2] at hnd
    cases hnd
  | @cancels row call _ _ _ _ hrow hfin hfail hfree =>
    have hst : row.status.isTerminal = true → row.status = .cancelled := by
      intro hnd
      cases hs : row.status with
      | finalized => exact absurd hs hfin
      | failed => exact absurd hs hfail
      | cancelled => rfl
      | created | uploading | ready | verifying | publishing => rw [hs] at hnd; cases hnd
    have hbef : expectedHistory (some row.status) = [] := by
      cases hs : row.status with
      | finalized => exact absurd hs hfin
      | failed => exact absurd hs hfail
      | created | uploading | ready | verifying | publishing | cancelled => rfl
    refine ⟨uh_marks h (fun _ => sameUpload_cancel) hrow hbef rfl ?_,
      uh_staysEnded (fun _ => sameUpload_cancel) hrow fun hnd => (hst hnd).symm⟩
    intro hw
    rw [hfree] at hw
    cases hw
  | fails hid _ _ hr _ hcan _ htx =>
    exact uh_transaction h (fun _ => sameUpload_fail) hr hcan rfl (fun _ => rfl) (fun _ => rfl) htx
  | completes _ hr _ hst _ _ hfree htx =>
    refine uh_transaction h (fun _ => sameUpload_complete) hr (by rw [hst]; rintro ⟨⟩) rfl (fun _ => rfl) ?_ htx
    intro hw
    rw [hfree] at hw
    cases hw
  | @delivers pid _ relay _ _ hrl hwt _ htx =>
    obtain ⟨-, row, hrow, hkept⟩ := hsd₀.relays pid relay hrl
    have hr : s₀.findUploadById relay.row.id = some row := by
      rw [← hkept.id]
      exact hsd₀.found hrow
    have hcan : row.status ≠ .cancelled := by
      have hwait := h₀.waiting relay.row.id (by rw [hwt]; rfl)
      rw [statusOf_of_find hr] at hwait
      intro hc
      rw [hc] at hwait
      rcases hwait with hw | hw <;> cases hw
    have hfree := release_free hwt
    refine uh_transaction h (fun _ => sameUpload_complete) hr hcan rfl (fun _ => rfl) ?_ htx
    intro hw
    rw [hfree] at hw
    cases hw
  | @spawns _ _ row _ _ call _ target _ _ _ _ hr _ hst _ _ htx =>
    obtain ⟨-, rfl⟩ := spawn_some htx
    refine ⟨⟨h.history, h.keys, ?_⟩, hsame⟩
    intro id' hw
    by_cases hid : id' = row.id
    · rw [hid]
      left
      exact (statusOf_of_find hr).trans (congrArg some hst)
    refine h.waiting id' ?_
    have hw' : (t.suspended.put row.id call.pid id').isSome = true := hw
    rwa [Table.put_of_ne hid] at hw'
  | releases _ _ =>
    refine ⟨⟨h.history, h.keys, ?_⟩, hsame⟩
    intro id' hw
    obtain ⟨pid', hpid'⟩ := Option.isSome_iff_exists.1 hw
    exact h.waiting id' (by rw [uh_release hpid']; rfl)
  | repairs hrow hst htx =>
    -- a finalized upload has its row, so its key is taken
    obtain ⟨hnew, -⟩ := insertOperationLogRow_some htx
    have hopen := uh_open h hnew (hsd.found hrow) (by rw [hst]; rintro ⟨⟩)
    rw [hst] at hopen
    cases hopen

private theorem uh_chunk {call : ChunkCall} {allowed : Fate → Prop} {dead : Bool} (h : HistoryInv s)
    (hend : ChunkEnd env s call allowed dead t) : HistoryInv t ∧ StaysEnded s t := by
  cases hend with
  | untouched | seeded | opened _ | short _ _ _ | torn _ | unrecorded _ =>
    exact ⟨⟨h.history, h.keys, h.waiting⟩, StaysEnded.refl s⟩
  | @recorded row hck =>
    obtain ⟨hst, -⟩ := chunkRefused_none hck.allowed
    have hopen : expectedHistory (some row.status) = [] ∧ row.status.isTerminal = false := by
      rcases hst with hs | hs <;> rw [hs] <;> exact ⟨rfl, rfl⟩
    have hstg : HistoryInv (chunkStaged s call row) := ⟨h.history, h.keys, h.waiting⟩
    have hrow : (chunkStaged s call row).findUploadById call.uploadId = some row := hck.found
    refine ⟨uh_marks hstg (fun _ => sameUpload_record) hrow hopen.1 rfl ?_,
      uh_staysEnded (fun _ => sameUpload_record) hrow ?_⟩
    · intro hw
      have hwait := h.waiting call.uploadId hw
      rw [statusOf_of_find hck.found] at hwait
      rcases hwait with hp | hp <;> rcases hst with hs | hs <;> rw [hs] at hp <;> cases hp
    intro hnd
    rw [hopen.2] at hnd
    cases hnd

theorem HistoryInv.restart (h : HistoryInv s) : HistoryInv s.restart := ⟨h.history, h.keys, nofun⟩

theorem UploadRun.history (h : UploadRun env s ev t) (hs : HistoryInv s) (hsd : s.Sound) :
    HistoryInv t ∧ StaysEnded s t := by
  have hall : (HistoryInv t ∧ t.Sound) ∧ StaysEnded s t := by
    refine @UploadRun.invariant env s ev (fun t => (HistoryInv t ∧ t.Sound) ∧ StaysEnded s t) t h
      ⟨⟨hs, hsd⟩, StaysEnded.refl s⟩ ?_ ?_ ?_
    · rintro a b ⟨⟨ha, hasound⟩, hsy⟩ hmove
      obtain ⟨hb, hsy'⟩ := hmove.history hs hsd ha hasound
      exact ⟨⟨hb, hmove.sound hasound⟩, hsy.trans hsy'⟩
    · rintro a ⟨⟨ha, hasound⟩, hsy⟩
      exact ⟨⟨ha.restart, hasound.restart⟩, hsy⟩
    intro call fates dead t' _ hend
    obtain ⟨ht, hsy⟩ := uh_chunk hs hend
    have hsd' : (afterwards dead t').Sound := by
      subst ‹ev = _›
      exact UploadRun.sound (.chunk hend) hsd
    cases dead with
    | false => exact ⟨⟨ht, hsd'⟩, hsy⟩
    | true => exact ⟨⟨ht.restart, hsd'⟩, hsy⟩
  exact ⟨hall.1.1, hall.2⟩

theorem UploadServer.Fresh.history (h : s.Fresh) : HistoryInv s where
  history := by
    intro id
    unfold UploadServer.historyOf UploadServer.statusOf UploadServer.findUploadById
    rw [h.operationLog, h.uploads]
    rfl
  keys := by
    intro row hrow
    rw [h.operationLog] at hrow
    cases hrow
  waiting := by
    intro id hwt
    rw [h.suspended] at hwt
    cases hwt

end History

/-- In every state the server can reach, whatever fails and wherever it dies, an upload has the history of its status (one
success row when it is finalized, one failed row when it failed, none otherwise), no upload has two rows, and an
upload that has ended stays as it ended. -/
theorem upload_endings_recorded_once (env : UploadEnv) (start : UploadServer) (hfresh : start.Fresh)
    (before after : List UploadEvent) :
    let s := run (mobileUploadStep env) start before
    (∀ row ∈ s.uploads, s.historyOf row.id = expectedHistory (some row.status)) ∧
    (∀ id, (s.historyOf id).length ≤ 1) ∧
    ∀ row ∈ s.uploads, row.status.isTerminal = true →
      ∃ row' ∈ (run (mobileUploadStep env) s after).uploads, row'.id = row.id ∧ row'.status = row.status := by
  intro s
  have hkept : ∀ (s : UploadServer) ev, HistoryInv s ∧ s.Sound →
      HistoryInv (mobileUploadStep env s ev) ∧ (mobileUploadStep env s ev).Sound := by
    rintro s ev ⟨hs, hsd⟩
    obtain ⟨hrun, hsd'⟩ := @UploadServer.Sound.step env s hsd ev
    exact ⟨(hrun.history hs hsd).1, hsd'⟩
  have hs : HistoryInv s ∧ s.Sound := run_invariant ⟨hfresh.history, hfresh.sound⟩ hkept
  refine ⟨?_, ?_, ?_⟩
  · intro row hrow
    rw [hs.1.history, statusOf_of_find (hs.2.found hrow)]
  · intro id
    rw [hs.1.history]
    cases hst : s.statusOf id with
    | none => exact Nat.zero_le 1
    | some status => cases status <;> decide
  intro row hrow hnd
  have hsy : StaysEnded s (run (mobileUploadStep env) s after) := by
    refine @Always.rel _ _ (mobileUploadStep env) (fun _ _ => True) s after (fun t => HistoryInv t ∧ t.Sound) StaysEnded
      always_true hs ?_ StaysEnded.refl fun _ _ _ => StaysEnded.trans
    intro t ev ht _
    exact ⟨hkept t ev ht, ((@UploadServer.Sound.step env t ht.2 ev).1.history ht.1 ht.2).2⟩
  have hst := hsy row.id row.status (statusOf_of_find (hs.2.found hrow)) hnd
  obtain ⟨row', hrow', hsame⟩ := Option.map_eq_some_iff.1 hst
  exact ⟨row', mem_of_findUploadById hrow', findUploadById_id hrow', hsame⟩

/-- A history insert fails, the process dies while the finalize waits for its relay, and the upload is failed by a sweep:
it has one failed row. -/
theorem upload_endings_recorded_once_swept :
    let es := exampleUploadCreated (some "photos") ++
      [.appends ⟨"mob-1", "up-1", 0, [1, 2, 3], 3⟩ [], .finalizes ⟨"mob-1", "up-1", 4, 7⟩ [], .restarts,
        .reconciles (fun _ => 0) 5000 [.fails], .reconciles (fun _ => 0) 6000 []]
    let s := run (mobileUploadStep exampleUploadEnv) exampleUploadServer es
    s.historyOf "up-1" = [.failed] ∧ (∀ row ∈ s.uploads, row.id = "up-1" ∧ row.status = .failed) ∧
      ∃ row ∈ (run (mobileUploadStep exampleUploadEnv) s [.cancels ⟨"mob-1", "up-1", 7000⟩ []]).uploads,
        row.id = "up-1" ∧ row.status = .failed := by
  intro es s
  have hall := upload_endings_recorded_once exampleUploadEnv exampleUploadServer exampleUploadServer_fresh es
    [.cancels ⟨"mob-1", "up-1", 7000⟩ []]
  have hrows : ∀ row ∈ s.uploads, row.id = "up-1" ∧ row.status = .failed := by decide +kernel
  have hone : s.uploads ≠ [] := by decide +kernel
  obtain ⟨row, hrow⟩ := List.exists_mem_of_ne_nil _ hone
  obtain ⟨hid, hst⟩ := hrows row hrow
  have hhist := hall.1 row hrow
  rw [hid, hst] at hhist
  obtain ⟨row', hrow', hid', hst'⟩ := hall.2.2 row hrow (by rw [hst]; rfl)
  exact ⟨hhist, hrows, row', hrow', hid'.trans hid, hst'.trans hst⟩

end LamaSync
