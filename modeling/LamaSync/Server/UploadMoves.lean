import Mathlib.Logic.Relation
import LamaSync.Server.MobileUploads

/-!
# What the handlers of mobile uploads do

A handler is a sequence of moves: single statements that took effect, together with the counter adjustment that goes with
them.  `UploadMove` lists the moves with what the code has checked when it makes them, relative to the state `s₀` in
which the event began.  `mobileUploadStep_runs` is the only place where the handlers are unfolded: every event but a
chunk is a path of moves, and a chunk ends in one of six ways.
-/

namespace LamaSync

open Faults Relation

/-! ### Rows after updates -/

/-- What no statement changes of an upload. -/
structure SameUpload (row row' : MobileUploadRow) : Prop where
  id : row'.id = row.id
  registrationId : row'.registrationId = row.registrationId
  finalRelPath : row'.finalRelPath = row.finalRelPath
  targetFolderId : row'.targetFolderId = row.targetFolderId
  sizeBytes : row'.sizeBytes = row.sizeBytes

theorem SameUpload.refl (row : MobileUploadRow) : SameUpload row row := ⟨rfl, rfl, rfl, rfl, rfl⟩

theorem SameUpload.trans {a b c : MobileUploadRow} (h : SameUpload a b) (h' : SameUpload b c) : SameUpload a c where
  id := h'.id.trans h.id
  registrationId := h'.registrationId.trans h.registrationId
  finalRelPath := h'.finalRelPath.trans h.finalRelPath
  targetFolderId := h'.targetFolderId.trans h.targetFolderId
  sizeBytes := h'.sizeBytes.trans h.sizeBytes

section Updates

variable {s : UploadServer} {id id' : String} {set : MobileUploadRow → MobileUploadRow} {row r : MobileUploadRow}
  {now : Int}

theorem sameUpload_record {next : Nat} : SameUpload row (row.record next now) := ⟨rfl, rfl, rfl, rfl, rfl⟩

theorem sameUpload_verify : SameUpload row (row.verify now) := ⟨rfl, rfl, rfl, rfl, rfl⟩

theorem sameUpload_publish {digest : String} : SameUpload row (row.publish digest now) :=
  ⟨rfl, rfl, rfl, rfl, rfl⟩

theorem sameUpload_complete {digest : String} {size : Nat} : SameUpload row (row.complete digest size now) :=
  ⟨rfl, rfl, rfl, rfl, rfl⟩

theorem sameUpload_fail {error : String} {now : Int} : SameUpload row (row.fail error now) := ⟨rfl, rfl, rfl, rfl, rfl⟩

theorem sameUpload_cancel : SameUpload row (row.cancel now) := ⟨rfl, rfl, rfl, rfl, rfl⟩

theorem findUploadById_id (h : s.findUploadById id = some row) : row.id = id := (Rows.find_some h).2

theorem mem_of_findUploadById (h : s.findUploadById id = some row) : row ∈ s.uploads := (Rows.find_some h).1

theorem find_updateUpload (hset : ∀ r, SameUpload r (set r)) :
    (s.updateUpload id set).findUploadById id' =
      if id' = id then (s.findUploadById id).map set else s.findUploadById id' := by
  show (Rows.update s.uploads (fun row => row.id == id) set).find? (fun row => row.id == id') = _
  unfold UploadServer.findUploadById
  rw [Rows.find_update fun r => (hset r).id]

theorem find_updateUpload_self (hset : ∀ r, SameUpload r (set r)) (h : s.findUploadById id = some row) :
    (s.updateUpload id set).findUploadById id = some (set row) := by
  rw [find_updateUpload hset, if_pos rfl, h]
  rfl

end Updates

section Moves

variable (env : UploadEnv)

/-- A finalize that gets past its checks, to the staging file or the landing area of this upload. -/
structure FinalizeAdmitted (s : UploadServer) (call : FinalizeCall) (row : MobileUploadRow) : Prop where
  id : call.uploadId = row.id
  found : s.findUploadById row.id = some row
  owner : row.registrationId = call.registrationId
  free : s.suspended row.id = none
  running : row.status.isTerminal = false
  authorized : finalizeRefused s row = none
  sized : row.status ≠ .verifying → row.status ≠ .publishing → ∀ size, row.sizeBytes = some size → size ≤ row.bytesReceived

def UploadEvent.Finalizes (ev : UploadEvent) (s : UploadServer) (row : MobileUploadRow) : Prop :=
  ∃ call fates, ev = .finalizes call fates ∧ FinalizeAdmitted s call row

variable {s : UploadServer}

theorem UploadEvent.Finalizes.found {ev : UploadEvent} {row : MobileUploadRow} (h : ev.Finalizes s row) :
    s.findUploadById row.id = some row := by
  obtain ⟨_, _, _, hadm⟩ := h
  exact hadm.found

structure CompletesFromLanding (s : UploadServer) (row : MobileUploadRow) (landed : Bytes) : Prop where
  publishing : row.status = .publishing
  there : s.landing row.finalRelPath = some landed
  digest : ∀ recorded, row.sha256 = some recorded → env.sha256 landed = recorded.toLower

/-- A finalize that finds the upload in `publishing` may fail it: what is under its reserved name is something else, its
staging file is lost or changed, or its folder does not resolve. -/
def FinalizeDooms (s : UploadServer) (row : MobileUploadRow) : Prop :=
  match s.landing row.finalRelPath with
  | some landed => ∃ recorded, row.sha256 = some recorded ∧ env.sha256 landed ≠ recorded.toLower
  | none =>
    match row.targetFolderId, s.staged row.id with
    | none, _ => True
    | some _, none => True
    | some folderId, some staged =>
      (∃ recorded, row.sha256 = some recorded ∧ recorded.toLower ≠ env.sha256 staged) ∨ s.folderTargets folderId = none

theorem UploadServer.staged_congr {t : UploadServer} (h : t.staging = s.staging) (id : String) : t.staged id =
    s.staged id := by
  unfold staged
  rw [h]

/-- Nothing has been published between the two states. -/
def SamePublished (s t : UploadServer) : Prop := t.landing = s.landing ∧ t.objects = s.objects

theorem SamePublished.refl (s : UploadServer) : SamePublished s s := ⟨rfl, rfl⟩

theorem SamePublished.trans {a b c : UploadServer} (h : SamePublished a b) (h' : SamePublished b c) : SamePublished a c :=
  ⟨h'.1.trans h.1, h'.2.trans h.2⟩

inductive Doomed (s : UploadServer) : UploadEvent → MobileUploadRow → Prop where
  | finalizes {call fates row} (hadmitted : FinalizeAdmitted s call row) (h : row.status = .publishing → FinalizeDooms env s row) :
      Doomed s (.finalizes call fates) row
  | revokes {hostId reason now fates row} (hregistered : (findRegistrationByHostId s.mobile hostId).isSome = true)
      (h : row.registrationId = hostId) (hrunning : row.status.isTerminal = false) :
      Doomed s (.revokes hostId reason now fates) row
  | reconciles {mtimeMs now fates row} (h : row.updatedAt < now - env.abandonedTtlMs)
      (hrunning : row.status.isTerminal = false) : Doomed s (.reconciles mtimeMs now fates) row

inductive MayRemove (s : UploadServer) : UploadEvent → String → Prop where
  | dooms {ev row} (h : Doomed env s ev row) : MayRemove s ev row.id
  | finalizes {call fates row} (hadmitted : FinalizeAdmitted s call row) : MayRemove s (.finalizes call fates) row.id
  | cancels {call fates row} (hid : call.uploadId = row.id) (howner : row.registrationId = call.registrationId)
      (hrow : s.findUploadById row.id = some row) (hfinalized : row.status ≠ .finalized) (hfailed : row.status ≠ .failed) :
      MayRemove s (.cancels call fates) row.id
  | delivers {pid fates relay} (hrelay : s.relays pid = some relay) (hwaits : s.suspended relay.row.id = some pid)
      (hcopied : relay.copied = true) : MayRemove s (.relayExits pid true fates) relay.row.id

theorem UploadEvent.Finalizes.mayRemove {env : UploadEnv} {ev : UploadEvent} {row : MobileUploadRow}
    (h : ev.Finalizes s row) : MayRemove env s ev row.id := by
  obtain ⟨call, fates, rfl, hadm⟩ := h
  exact .finalizes hadm

/-- One statement that took effect during the event that began in `s₀`. -/
inductive UploadMove (s₀ : UploadServer) (ev : UploadEvent) : UploadServer → UploadServer → Prop where
  | seeds {t} : UploadMove s₀ ev t (seedStagingUsage t)
  | creates {call fates destination t'} (hev : ev = .creates call fates) (hdestination : destination ∈ s₀.destinations)
      (howner : destination.registrationId = call.registrationId)
      (hallowed : createRefused env s₀ call destination = none)
      (htx : s₀.insertUpload (call.row destination) = some t') : UploadMove s₀ ev s₀ t'
  | verifies {row now} (hrow : s₀.findUploadById row.id = some row)
      (hstatus : row.status = .created ∨ row.status = .uploading ∨ row.status = .ready)
      (hsize : ∀ size, row.sizeBytes = some size → size ≤ row.bytesReceived) :
      UploadMove s₀ ev s₀ (s₀.updateUpload row.id (MobileUploadRow.verify now))
  | publishes {t row₀ row content now} (hev : ev.Finalizes s₀ row₀) (hkept : SameUpload row₀ row)
      (hrow : t.findUploadById row.id = some row)
      (hstatus : row.status = .verifying ∨ row.status = .publishing) (hstaged : t.staged row.id = some content) :
      UploadMove s₀ ev t (t.updateUpload row.id (MobileUploadRow.publish (env.sha256 content) now))
  | fails {t t' row₀ row r error now} (hid : row.id = row₀.id) (hrow₀ : s₀.findUploadById row₀.id = some row₀)
      (hdoomed : Doomed env s₀ ev row₀) (hr : t.findUploadById row.id = some r) (hkept : SameUpload row₀ r)
      (hstatus : r.status ≠ .cancelled) (hpublished : SamePublished s₀ t)
      (htx : failTransaction row error now t = some t') : UploadMove s₀ ev t t'
  | removes {t id bytes} (hremove : MayRemove env s₀ ev id) (hstaged : t.staged id = some bytes) :
      UploadMove s₀ ev t
        (recordStagedBytes (-bytes.length) { t with staging := t.staging.erase (stagingPath id) })
  | lands {t row r content} (hev : ev.Finalizes s₀ row)
      (hdeclared : ∀ declared, row.sha256 = some declared → declared.toLower = env.sha256 content) (htarget : row.targetFolderId = none)
      (hsame : t.staging = s₀.staging) (hstaged : t.staged row.id = some content)
      (hr : t.findUploadById row.id = some r) (hkept : SameUpload row r) (hstatus : r.status = .publishing)
      (hdigest : r.sha256 = some (env.sha256 content)) (hlanding : t.landing = s₀.landing)
      (hvacant : t.landing row.finalRelPath = none) :
      UploadMove s₀ ev t (recordStagedBytes (-row.bytesReceived) { t with
        landing := t.landing.put row.finalRelPath content
        staging := t.staging.erase (stagingPath row.id) })
  | completes {t t' row r content now} (hev : ev.Finalizes s₀ row)
      (hr : t.findUploadById row.id = some r) (hkept : SameUpload row r) (hstatus : r.status = .publishing)
      (hlanded : t.landing row.finalRelPath = some content)
      (hrecovered : row.targetFolderId = none ∨ CompletesFromLanding env s₀ row content)
      (hfree : t.suspended row.id = none)
      (htx : completeTransaction row (env.sha256 content) content.length now t = some t') : UploadMove s₀ ev t t'
  | spawns {t t' row r content call fates target} (hev : ev = .finalizes call fates)
      (hadmitted : FinalizeAdmitted s₀ call row) (htarget : row.targetFolderId.isSome = true)
      (hstaged : t.staged row.id = some content) (hr : t.findUploadById row.id = some r) (hkept : SameUpload row r)
      (hstatus : r.status = .publishing) (hdigest : r.sha256 = some (env.sha256 content))
      (hfree : t.suspended row.id = none)
      (htx : t.spawn call.pid ⟨row, env.sha256 content, call.now, target, none, false⟩ = some t') : UploadMove s₀ ev t t'
  | reads {pid relay} (hev : ev = .relayReads pid) (hrelay : s₀.relays pid = some relay) (hcopied : relay.copied = false) :
      UploadMove s₀ ev s₀ { s₀ with relays := s₀.relays.put pid { relay with opened := s₀.staged relay.row.id } }
  | puts {pid relay bytes} (hev : ev = .relayPuts pid) (hrelay : s₀.relays pid = some relay)
      (hopened : relay.opened = some bytes) : UploadMove s₀ ev s₀ (relayPut s₀ pid relay bytes)
  | releases {pid succeeded fates relay} (hev : ev = .relayExits pid succeeded fates)
      (hrelay : s₀.relays pid = some relay) : UploadMove s₀ ev s₀ (s₀.release pid relay)
  | delivers {pid fates relay t'} (hev : ev = .relayExits pid true fates) (hrelay : s₀.relays pid = some relay)
      (hwaits : s₀.suspended relay.row.id = some pid) (hcopied : relay.copied = true)
      (htx : completeTransaction relay.row relay.digest relay.row.bytesReceived relay.now (s₀.release pid relay) = some t') :
      UploadMove s₀ ev (s₀.release pid relay) t'
  | cancels {row call fates} (hev : ev = .cancels call fates) (hid : call.uploadId = row.id)
      (howner : row.registrationId = call.registrationId) (hrow : s₀.findUploadById row.id = some row)
      (hfinalized : row.status ≠ .finalized) (hfailed : row.status ≠ .failed)
      (hfree : s₀.suspended row.id = none) :
      UploadMove s₀ ev s₀ (s₀.updateUpload row.id (MobileUploadRow.cancel call.now))
  | repairs {t t' row now} (hrow : row ∈ t.uploads) (hstatus : row.status = .finalized)
      (htx : insertOperationLogRow row .success now t = some t') : UploadMove s₀ ev t t'
  | sweeps {t name} : UploadMove s₀ ev t { t with staging := t.staging.erase name }
  | administers {t mobile targets} : UploadMove s₀ ev t { t with mobile := mobile, folderTargets := targets }
  | insertsDestination {row slug t'} (hsafe : isSafeSegment row.registrationId = true)
      (hpath : row.relPath = "Mobile/" ++ row.registrationId ++ "/" ++ slug)
      (htx : s₀.insertDestination row = some t') : UploadMove s₀ ev s₀ t'
  | updatesDestinations {t guard set}
      (hset : ∀ row, (set row).registrationId = row.registrationId ∧ (set row).relPath = row.relPath) :
      UploadMove s₀ ev t (t.updateDestinations guard set)
  | truncates {name bytes length} (hstaged : s₀.staging.lookup name = some bytes) (hev : ev = .stagingTruncated name length) :
      UploadMove s₀ ev s₀ { s₀ with staging := s₀.staging.insert name (bytes.take length) }

abbrev UploadMoves (s₀ : UploadServer) (ev : UploadEvent) : UploadServer → UploadServer → Prop :=
  ReflTransGen (UploadMove env s₀ ev)

structure ChunkAllowed (s : UploadServer) (call : ChunkCall) (row : MobileUploadRow) : Prop where
  found : s.findUploadById call.uploadId = some row
  allowed : chunkRefused env call row = none
  quota : (currentStagedUsage s - row.bytesReceived) + (row.bytesReceived + call.data.length) ≤ env.stagingQuotaBytes

/-- The state with a whole chunk on disk and on the counter. -/
def chunkStaged (s : UploadServer) (call : ChunkCall) (row : MobileUploadRow) : UploadServer :=
  recordStagedBytes call.data.length
    ((ensureSeeded s).write call.uploadId row.bytesReceived call.data call.data.length)

/-- How a chunk can end, in terms of the state it found; `dead` says that the process did not survive it. -/
inductive ChunkEnd (s : UploadServer) (call : ChunkCall) (allowed : Fate → Prop) : (dead : Bool) → UploadServer → Prop where
  | untouched {dead} : ChunkEnd s call allowed dead s
  | seeded {dead} : ChunkEnd s call allowed dead (ensureSeeded s)
  | opened {dead} (h : s.staged call.uploadId = none) :
      ChunkEnd s call allowed dead { ensureSeeded s with staging := s.staging.insert (stagingPath call.uploadId) [] }
  /-- The write stopped early and the server goes on. -/
  | short {row n} (h : ChunkAllowed env s call row) (hfate : allowed (.short n)) (hshort : n < call.data.length) :
      ChunkEnd s call allowed false ((ensureSeeded s).write call.uploadId row.bytesReceived call.data n)
  /-- The process died in the write. -/
  | torn {row n} (h : ChunkAllowed env s call row) :
      ChunkEnd s call allowed true ((ensureSeeded s).write call.uploadId row.bytesReceived call.data n)
  /-- The database did not take the new offset. -/
  | unrecorded {dead row} (h : ChunkAllowed env s call row) : ChunkEnd s call allowed dead (chunkStaged s call row)
  | recorded {row} (h : ChunkAllowed env s call row) :
      ChunkEnd s call allowed false ((chunkStaged s call row).updateUpload call.uploadId
        (MobileUploadRow.record (row.bytesReceived + call.data.length) call.now))

/-- The state after a process may have died. -/
def afterwards (dead : Bool) (s : UploadServer) : UploadServer := if dead then s.restart else s

end Moves

/-! ### Running statements -/

section Run

variable {allowed : Fate → Prop} {s : UploadServer} {stopped : Stop UploadError → UploadServer → Prop}

theorem wp_statement {α : Type} {effect : UploadServer → Option (α × UploadServer)} {post : α → UploadServer → Prop}
    (hok : allowed .done) (hdone : ∀ a s', effect s = some (a, s') → post a s')
    (hfl : stopped (.threw .failed) s) (hcr : stopped .crashed s) :
    wp allowed (statement effect) post stopped s := by
  refine wp_attempt hok ?_
  intro fate _ rest hrest
  cases fate with
  | done =>
    cases hef : effect s with
    | none => exact ⟨hfl, hrest⟩
    | some result =>
      obtain ⟨a, s'⟩ := result
      exact ⟨hdone a s' hef, hrest⟩
  | fails | escapes | short _ => exact ⟨hfl, hrest⟩
  | tears _ | crashes => exact ⟨hcr, hrest⟩

theorem wp_execute {effect : UploadServer → Option UploadServer} {post : Unit → UploadServer → Prop}
    (hok : allowed .done) (hdone : ∀ s', effect s = some s' → post () s')
    (hfl : stopped (.threw .failed) s) (hcr : stopped .crashed s) :
    wp allowed (execute effect) post stopped s := by
  refine wp_statement hok ?_ hfl hcr
  intro _ s' hef
  obtain ⟨s'', hef', heq⟩ := Option.map_eq_some_iff.1 hef
  cases heq
  exact hdone s' hef'

theorem wp_withUploadLock {α : Type} {fn : UploadProg α} {id : String} {post : α → UploadServer → Prop}
    (hbusy : stopped (.threw .busy) s) (h : s.suspended id = none → wp allowed fn post stopped s) :
    wp allowed (withUploadLock id fn) post stopped s := by
  apply wp_bind
  apply wp_get
  split
  · exact wp_throw hbusy
  · rename_i hfree
    exact h (by simpa using hfree)

end Run

section Chunks

variable {env : UploadEnv} {allowed : Fate → Prop} {s : UploadServer} {call : ChunkCall} {row : MobileUploadRow}

def ChunkStops (env : UploadEnv) (s : UploadServer) (call : ChunkCall) (allowed : Fate → Prop)
    (stop : Stop UploadError) (s' : UploadServer) : Prop :=
  match stop with
  | .threw _ => ChunkEnd env s call allowed false s'
  | .crashed => ChunkEnd env s call allowed true s'

private theorem um_write_write {id : String} {position n : Nat} {data : Bytes} (h : s.staged id = none) :
    UploadServer.write { s with staging := s.staging.insert (stagingPath id) [] } id position data n =
      s.write id position data n := by
  have hopen : UploadServer.staged { s with staging := s.staging.insert (stagingPath id) [] } id = some [] :=
    AList.lookup_insert _
  unfold UploadServer.write
  rw [hopen, h]
  simp only [AList.insert_insert, Option.getD_some, Option.getD_none]

private theorem um_write_all {id : String} {position n : Nat} {data : Bytes} (h : data.length ≤ n) :
    s.write id position data n = s.write id position data data.length := by
  unfold UploadServer.write
  rw [List.take_of_length_le h, List.take_length]

private def um_Opened (s t : UploadServer) (id : String) : Prop :=
  t = ensureSeeded s ∨
    s.staged id = none ∧ t = { ensureSeeded s with staging := s.staging.insert (stagingPath id) [] }

private theorem um_Opened.write {t : UploadServer} {id : String} (h : um_Opened s t id) (position n : Nat) (data : Bytes) :
    t.write id position data n = (ensureSeeded s).write id position data n := by
  rcases h with rfl | ⟨hnone, rfl⟩
  · rfl
  · exact um_write_write (s := ensureSeeded s) hnone

private theorem um_Opened.ends {t : UploadServer} {dead : Bool} (h : um_Opened s t call.uploadId) :
    ChunkEnd env s call allowed dead t := by
  rcases h with rfl | ⟨hnone, rfl⟩
  · exact .seeded
  · exact .opened hnone

private theorem um_writeChunk (hok : allowed .done) (h : ChunkAllowed env s call row) :
    wp allowed (Prog.tryCatch (do
        openStagingForWrite call.uploadId
        let written ← writeStaging call.uploadId row.bytesReceived call.data
        pure (written == call.data.length))
      fun _ => pure false)
      (fun complete t =>
        if complete then t = (ensureSeeded s).write call.uploadId row.bytesReceived call.data call.data.length
        else ChunkEnd env s call allowed false t)
      (fun stop t => stop = .crashed ∧ ChunkEnd env s call allowed true t) (ensureSeeded s) := by
  apply wp_tryCatch
  apply wp_bind
  refine wp_execute hok ?_ (wp_pure ChunkEnd.seeded) ⟨rfl, ChunkEnd.seeded⟩
  intro t ht
  have hopen : um_Opened s t call.uploadId := by
    have hstg : (ensureSeeded s).staged call.uploadId = s.staged call.uploadId := rfl
    rw [hstg] at ht
    cases hfile : s.staged call.uploadId with
    | some _ => rw [hfile] at ht; exact .inl (Option.some.inj ht).symm
    | none => rw [hfile] at ht; exact .inr ⟨hfile, (Option.some.inj ht).symm⟩
  apply wp_bind
  refine wp_attempt hok ?_
  intro fate hfate rest hrest
  cases fate with
  | done =>
    refine ⟨wp_pure ?_, hrest⟩
    simp only [beq_self_eq_true, if_true]
    exact hopen.write _ _ _
  | short n =>
    refine ⟨wp_pure ?_, hrest⟩
    by_cases hn : call.data.length ≤ n
    · simp only [Nat.min_eq_right hn, beq_self_eq_true, if_true]
      rw [um_write_all hn]
      exact hopen.write _ _ _
    have hne : (min n call.data.length == call.data.length) = false := by
      simp only [beq_eq_false_iff_ne, ne_eq]
      omega
    simp only [hne, Bool.false_eq_true, if_false]
    rw [hopen.write]
    exact .short h hfate (by omega)
  | tears n =>
    refine ⟨⟨rfl, ?_⟩, hrest⟩
    show ChunkEnd env s call allowed true (t.write _ _ _ _)
    rw [hopen.write]
    exact .torn h
  | fails | escapes => exact ⟨wp_pure hopen.ends, hrest⟩
  | crashes => exact ⟨⟨rfl, hopen.ends⟩, hrest⟩

theorem appendMobileUploadChunk_ends (hok : allowed .done) :
    wp allowed (appendMobileUploadChunk env call) (fun _ t => ChunkEnd env s call allowed false t)
      (ChunkStops env s call allowed) s := by
  apply wp_tryCatch
  apply wp_withUploadLock
  · exact wp_throw (show ChunkEnd env s call allowed false s from .untouched)
  intro _
  apply wp_bind
  apply wp_get
  cases hrow : s.findUploadById call.uploadId with
  | none => exact wp_pure .untouched
  | some row =>
    cases href : chunkRefused env call row with
    | some refusal => simp only [href]; exact wp_pure .untouched
    | none =>
      simp only [href]
      apply wp_bind
      apply wp_modify
      split
      · exact wp_pure .seeded
      have h : ChunkAllowed env s call row := ⟨hrow, href, by omega⟩
      apply wp_bind
      refine wp_mono (um_writeChunk hok h) ?_ ?_
      · intro complete t ht
        cases complete with
        | false => exact wp_pure ht
        | true =>
          subst ht
          apply wp_bind
          apply wp_modify
          apply wp_bind
          refine wp_execute hok ?_ (wp_pure (.unrecorded h)) (ChunkEnd.unrecorded h)
          intro t ht
          cases ht
          exact wp_pure (.recorded h)
      · rintro _ t ⟨rfl, ht⟩
        exact ht

end Chunks

/-! ### Failing and removing -/

section Paths

variable {env : UploadEnv} {s₀ s : UploadServer} {ev : UploadEvent} {id : String} {row : MobileUploadRow}

/-- Statements meet any fate. -/
abbrev anyFate : Fate → Prop := fun _ => True

/-- Wherever a program of the event returns, it has made moves. -/
abbrev Moving {α : Type} (env : UploadEnv) (s₀ : UploadServer) (ev : UploadEvent) (p : UploadProg α)
    (stopped : Stop UploadError → UploadServer → Prop) (s : UploadServer) : Prop :=
  wp anyFate p (fun _ t => UploadMoves env s₀ ev s₀ t) stopped s

/-- A program that does not throw may only stop in a crash. -/
def Dies (env : UploadEnv) (s₀ : UploadServer) (ev : UploadEvent) (stop : Stop UploadError) (t : UploadServer) : Prop :=
  stop = .crashed ∧ UploadMoves env s₀ ev s₀ t

/-- The state differs in its staging files and their counter only. -/
def OnlyStaging (s t : UploadServer) : Prop :=
  ∃ staging bytes seeded,
    t = { s with staging := staging, stagedUsageBytes := bytes, stagedUsageSeeded := seeded }

def CanFail (env : UploadEnv) (s₀ : UploadServer) (ev : UploadEvent) (t : UploadServer) (id : String) : Prop :=
  SamePublished s₀ t ∧ ∃ row₀ r, s₀.findUploadById id = some row₀ ∧ Doomed env s₀ ev row₀ ∧ t.findUploadById id = some r ∧
    SameUpload row₀ r ∧ r.status ≠ .cancelled

theorem insertOperationLogRow_some {status : UploadLogStatus} {now : Int} {t : UploadServer}
    (h : insertOperationLogRow row status now s = some t) :
    s.uploadHistoryExists row.id = false ∧ t = { s with operationLog := s.operationLog ++ [uploadLogRow row status now] } := by
  unfold insertOperationLogRow at h
  split at h
  · cases h
  · rename_i hnew
    exact ⟨by simpa using hnew, (Option.some.inj h).symm⟩

structure NoneCancelled (s t : UploadServer) : Prop where
  kept : ∀ id r, s.findUploadById id = some r →
    ∃ r', t.findUploadById id = some r' ∧ SameUpload r r' ∧ (r'.status = .cancelled → r.status = .cancelled)
  published : SamePublished s t

theorem NoneCancelled.refl (s : UploadServer) : NoneCancelled s s := ⟨fun _ r h => ⟨r, h, .refl r, id⟩, .refl s⟩

theorem NoneCancelled.trans {a b c : UploadServer} (h : NoneCancelled a b) (h' : NoneCancelled b c) : NoneCancelled a c where
  kept := by
    intro id r hr
    obtain ⟨r', hr', hsame, hcan⟩ := h.kept id r hr
    obtain ⟨r'', hr'', hsame', hcan'⟩ := h'.kept id r' hr'
    exact ⟨r'', hr'', hsame.trans hsame', fun hc => hcan (hcan' hc)⟩
  published := h.published.trans h'.published

private theorem um_failTransaction {error : String} {now : Int} {t : UploadServer} (h : failTransaction row error now s = some t) :
    NoneCancelled s t := by
  obtain ⟨-, rfl⟩ := insertOperationLogRow_some h
  refine ⟨?_, rfl, rfl⟩
  intro id r hr
  show ∃ r', (s.updateUpload row.id (MobileUploadRow.fail error now)).findUploadById id = some r' ∧ _
  rw [find_updateUpload fun _ => sameUpload_fail]
  split
  · rename_i hid
    rw [hid] at hr
    exact ⟨r.fail error now, by rw [hr]; rfl, sameUpload_fail, nofun⟩
  · exact ⟨r, hr, .refl r, fun hc => hc⟩

section Failing

-- these programs do not throw: they may only stop in a crash
variable {stopped : Stop UploadError → UploadServer → Prop} (hcrash : ∀ t, UploadMoves env s₀ ev s₀ t → stopped .crashed t)

include hcrash

theorem removeStaging_moves (h : UploadMoves env s₀ ev s₀ s) (hrem : MayRemove env s₀ ev id) :
    wp anyFate (removeStaging id) (fun _ t => UploadMoves env s₀ ev s₀ t ∧ OnlyStaging s t) stopped s := by
  have hsame : OnlyStaging s s := ⟨s.staging, s.stagedUsageBytes, s.stagedUsageSeeded, rfl⟩
  apply wp_tryCatch
  apply wp_bind
  apply wp_get
  cases hstg : s.staged id with
  | none => exact wp_pure ⟨h, hsame⟩
  | some bytes =>
    apply wp_bind
    refine wp_execute trivial ?_ (wp_pure ⟨h, hsame⟩) (hcrash s h)
    intro t ht
    cases ht
    apply wp_modify
    exact ⟨h.tail (.removes hrem hstg), ⟨_, _, _, rfl⟩⟩

variable {error : String} {now : Int}

theorem failUpload_moves (h : UploadMoves env s₀ ev s₀ s) (hfail : CanFail env s₀ ev s row.id) :
    wp anyFate (failUpload row error now) (fun _ t => UploadMoves env s₀ ev s₀ t ∧ NoneCancelled s t) stopped s := by
  obtain ⟨hpub, row₀, r, hrow₀, hdoom, hr, hkept, hst⟩ := hfail
  have hid : row.id = row₀.id := (findUploadById_id hrow₀).symm
  have hrem : ∀ t, UploadMoves env s₀ ev s₀ t → NoneCancelled s t →
      wp anyFate (removeStaging row.id) (fun _ t => UploadMoves env s₀ ev s₀ t ∧ NoneCancelled s t) stopped t := by
    intro t ht hnone
    refine wp_mono (removeStaging_moves hcrash ht (hid ▸ .dooms hdoom)) ?_ fun _ _ hstop => hstop
    rintro _ _ ⟨hmv, staging, bytes, seeded, rfl⟩
    exact ⟨hmv, hnone.kept, hnone.published⟩
  apply wp_bind
  apply wp_tryCatch
  refine wp_execute trivial ?_ (wp_pure (hrem s h (NoneCancelled.refl s))) (hcrash s h)
  intro t htx
  exact hrem t (h.tail (.fails hid (hid ▸ hrow₀) hdoom hr hkept hst hpub htx)) (um_failTransaction htx)

private theorem um_failAnd {α : Type} {a : α} (h : UploadMoves env s₀ ev s₀ s) (hfail : CanFail env s₀ ev s row.id) :
    wp anyFate (do failUpload row error now; pure a) (fun b t => b = a ∧ UploadMoves env s₀ ev s₀ t) stopped s :=
  wp_seq (failUpload_moves hcrash h hfail) fun _ _ ht => wp_pure ⟨rfl, ht.1⟩

private theorem um_fails {α : Type} {a : α} (h : UploadMoves env s₀ ev s₀ s)
    (hfail : CanFail env s₀ ev s row.id) : Moving env s₀ ev (do failUpload row error now; pure a) stopped s :=
  wp_mono (um_failAnd hcrash h hfail) (fun _ _ ht => ht.2) fun _ _ hstop => hstop

theorem appendUploadOperationLog_moves {status : UploadLogStatus} (h : UploadMoves env s₀ ev s₀ s)
    (hst : status = .success) (hrow : row ∈ s.uploads) (hfin : row.status = .finalized) :
    wp anyFate (appendUploadOperationLog row status now)
      (fun _ t => UploadMoves env s₀ ev s₀ t ∧ ∃ log, t = { s with operationLog := log }) stopped s := by
  subst hst
  apply wp_bind
  apply wp_get
  by_cases hex : s.uploadHistoryExists row.id = true
  · rw [if_pos hex]
    exact wp_pure ⟨h, s.operationLog, rfl⟩
  rw [if_neg hex]
  apply wp_tryCatch
  refine wp_execute trivial ?_ (wp_pure ⟨h, s.operationLog, rfl⟩) (hcrash s h)
  intro t htx
  obtain ⟨-, rfl⟩ := insertOperationLogRow_some htx
  exact ⟨h.tail (.repairs hrow hfin htx), _, rfl⟩

end Failing

/-! ### Finalize -/

def FinalizeStops (env : UploadEnv) (s₀ : UploadServer) (ev : UploadEvent) (id : String) (stop : Stop UploadError)
    (t : UploadServer) : Prop :=
  match stop with
  | .threw .pathEscape => UploadMoves env s₀ ev s₀ t ∧ CanFail env s₀ ev t id
  | .threw _ | .crashed => UploadMoves env s₀ ev s₀ t

variable {call : FinalizeCall} {fates : List Fate} {r : MobileUploadRow} {content : Bytes} {now : Int}

structure Verifies (s₀ : UploadServer) (ev : UploadEvent) (call : FinalizeCall) (row : MobileUploadRow) : Prop where
  event : ∃ fates, ev = .finalizes call fates
  admitted : FinalizeAdmitted s₀ call row
  vacant : row.status = .publishing → s₀.landing row.finalRelPath = none

theorem Verifies.finalizes (h : Verifies s₀ ev call row) : ev.Finalizes s₀ row := by
  obtain ⟨fates, rfl⟩ := h.event
  exact ⟨call, fates, rfl, h.admitted⟩

structure Publishing (env : UploadEnv) (s₀ : UploadServer) (ev : UploadEvent) (row : MobileUploadRow) (content : Bytes)
    (t : UploadServer) : Prop where
  moves : UploadMoves env s₀ ev s₀ t
  staging : t.staging = s₀.staging
  published : SamePublished s₀ t
  suspended : t.suspended = s₀.suspended
  folderTargets : t.folderTargets = s₀.folderTargets
  staged : t.staged row.id = some content
  declared : ∀ declared, row.sha256 = some declared → declared.toLower = env.sha256 content
  row : ∃ r, t.findUploadById row.id = some r ∧ SameUpload row r ∧ r.status = .publishing ∧
    r.sha256 = some (env.sha256 content)

theorem FinalizeAdmitted.canFail {t : UploadServer} (h : FinalizeAdmitted s₀ call row) (hev : ∃ fates, ev = .finalizes call fates)
    (hdo : row.status = .publishing → FinalizeDooms env s₀ row) (hpub : SamePublished s₀ t)
    (hr : t.findUploadById row.id = some r) (hkept : SameUpload row r) (hst : r.status = .verifying ∨ r.status = .publishing) :
    CanFail env s₀ ev t row.id := by
  obtain ⟨fates, rfl⟩ := hev
  refine ⟨hpub, row, r, h.found, .finalizes h hdo, hr, hkept, ?_⟩
  rcases hst with hs | hs <;> rw [hs] <;> exact nofun

theorem Publishing.canFail {t : UploadServer} (h : Publishing env s₀ ev row content t) (hv : Verifies s₀ ev call row)
    (hdo : row.status = .publishing → FinalizeDooms env s₀ row) : CanFail env s₀ ev t row.id := by
  obtain ⟨r, hr, hkept, hst, -⟩ := h.row
  exact hv.admitted.canFail hv.event hdo h.published hr hkept (.inr hst)

variable {stopped : Stop UploadError → UploadServer → Prop}

/-- The digest of a file that is there. -/
private theorem um_sha256OfFile {file : UploadServer → Option Bytes} {post : String → UploadServer → Prop}
    (hfile : file s = some content) (hdone : post (env.sha256 content) s)
    (hfl : stopped (.threw .failed) s) (hcr : stopped .crashed s) :
    wp anyFate (sha256OfFile env file) post stopped s := by
  refine wp_statement trivial ?_ hfl hcr
  intro digest t ht
  simp only [hfile, Option.map_some, Option.some.injEq, Prod.mk.injEq] at ht
  obtain ⟨rfl, rfl⟩ := ht
  exact hdone

theorem completePublication_moves (h : UploadMoves env s₀ ev s₀ s) (hev : ev.Finalizes s₀ row)
    (hr : s.findUploadById row.id = some r) (hkept : SameUpload row r)
    (hst : r.status = .publishing) (hland : s.landing row.finalRelPath = some content)
    (hrcv : row.targetFolderId = none ∨ CompletesFromLanding env s₀ row content)
    (hfree : s.suspended row.id = none) :
    Moving env s₀ ev (completePublication env row now) (FinalizeStops env s₀ ev id) s := by
  apply wp_bind
  refine um_sha256OfFile hland ?_ h h
  apply wp_bind
  apply wp_get
  rw [hland]
  apply wp_bind
  refine wp_execute trivial ?_ h h
  intro t htx
  exact wp_pure (h.tail (.completes hev hr hkept hst hland hrcv hfree htx))

/-- After the attempt to rename: refused, or the content lies under the final name and the row is as it was. -/
private def Landed (env : UploadEnv) (s₀ : UploadServer) (ev : UploadEvent) (row r : MobileUploadRow) (content : Bytes) :
    Option FinalizeOutcome → UploadServer → Prop
  | some _, t => UploadMoves env s₀ ev s₀ t
  | none, t => UploadMoves env s₀ ev s₀ t ∧ t.findUploadById row.id = some r ∧
      t.landing row.finalRelPath = some content ∧ t.suspended row.id = none

theorem publishToLanding_moves (hv : Verifies s₀ ev call row) (hp : Publishing env s₀ ev row content s)
    (htgt : row.targetFolderId = none) :
    Moving env s₀ ev (publishToLanding env row now) (FinalizeStops env s₀ ev row.id) s := by
  -- a landing-area upload that was in `publishing` is doomed as long as nothing is under its name
  have hdo : row.status = .publishing → FinalizeDooms env s₀ row := by
    intro hpub
    unfold FinalizeDooms
    rw [hv.vacant hpub, htgt]
    trivial
  have hcan := hp.canFail hv hdo
  obtain ⟨r, hr, hkept, hst, hdig⟩ := hp.row
  have hfail : wp anyFate (do failUpload row "publication failed" now; pure (some FinalizeOutcome.verificationError))
      (Landed env s₀ ev row r content) (FinalizeStops env s₀ ev row.id) s := by
    refine wp_mono (um_failAnd (fun _ ht => ht) hp.moves hcan) ?_ fun _ _ hstop => hstop
    rintro _ t ⟨rfl, ht⟩
    exact ht
  refine wp_seq (R := Landed env s₀ ev row r content) ?_ ?_
  · apply wp_tryCatch
    apply wp_bind
    refine wp_attempt trivial ?_
    intro fate _ rest hrest
    cases fate with
    | fails | short _ => exact ⟨hfail, hrest⟩
    | escapes => exact ⟨wp_throw ⟨hp.moves, hcan⟩, hrest⟩
    | tears _ | crashes => exact ⟨hp.moves, hrest⟩
    | done =>
      refine ⟨?_, hrest⟩
      apply wp_bind
      apply wp_get
      by_cases hocc : (s.landing row.finalRelPath).isSome = true
      · rw [if_pos hocc]
        refine wp_seq (removeStaging_moves (fun _ ht => ht) hp.moves hv.finalizes.mayRemove) ?_
        rintro _ t ⟨hmv, staging, bytes, seeded, rfl⟩
        exact wp_seq (um_fails (fun _ ht => ht) hmv hcan) fun _ _ ht => wp_pure ht
      · rw [if_neg hocc]
        have hfree : s.landing row.finalRelPath = none := by simpa using hocc
        apply wp_bind
        refine wp_execute trivial ?_ hfail hp.moves
        intro t ht
        unfold UploadServer.rename at ht
        rw [hp.staged] at ht
        cases ht
        apply wp_bind
        apply wp_modify
        have hfree' : s.suspended row.id = none := by rw [hp.suspended]; exact hv.admitted.free
        have hla : UploadMoves env s₀ ev s₀ _ :=
          hp.moves.tail
            (.lands hv.finalizes hp.declared htgt hp.staging hp.staged hr hkept hst hdig hp.published.1 hfree)
        exact wp_pure ⟨hla, hr, Table.put_self, hfree'⟩
  · intro ended t ht
    cases ended with
    | some outcome => exact wp_pure ht
    | none => exact completePublication_moves ht.1 hv.finalizes ht.2.1 hkept hst ht.2.2.1 (.inl htgt) ht.2.2.2

theorem publishToFolder_moves {folderId : String} (hv : Verifies s₀ ev call row)
    (hp : Publishing env s₀ ev row content s) (htgt : row.targetFolderId = some folderId) :
    Moving env s₀ ev (publishToFolder env row folderId (env.sha256 content) call) (FinalizeStops env s₀ ev row.id) s := by
  obtain ⟨r, hr, hkept, hst, hdig⟩ := hp.row
  apply wp_bind
  apply wp_get
  cases hres : s.folderTargets folderId with
  | none =>
    have hdo : row.status = .publishing → FinalizeDooms env s₀ row := by
      intro hpub
      unfold FinalizeDooms
      rw [hv.vacant hpub, htgt, ← UploadServer.staged_congr hp.staging, hp.staged]
      rw [hp.folderTargets] at hres
      exact .inr hres
    exact um_fails (fun _ ht => ht) hp.moves (hp.canFail hv hdo)
  | some target =>
    by_cases hkey : (!env.isValidAppObjectKey row.finalRelPath) = true
    · simp only [hkey, if_true]
      exact wp_pure hp.moves
    simp only [hkey]
    apply wp_tryCatch
    apply wp_bind
    refine wp_execute trivial ?_ (wp_pure hp.moves) hp.moves
    intro t htx
    obtain ⟨fates, hev⟩ := hv.event
    have hfree : s.suspended row.id = none := by rw [hp.suspended]; exact hv.admitted.free
    have hsome : row.targetFolderId.isSome = true := by rw [htgt]; rfl
    exact wp_pure (hp.moves.tail (.spawns hev hv.admitted hsome hp.staged hr hkept hst hdig hfree htx))

theorem verifyAndPublish_moves (hv : Verifies s₀ ev call row) (hmv : UploadMoves env s₀ ev s₀ s)
    (hstag : s.staging = s₀.staging) (hpu : SamePublished s₀ s) (hsu : s.suspended = s₀.suspended)
    (hfols : s.folderTargets = s₀.folderTargets) (hr : s.findUploadById row.id = some r) (hkept : SameUpload row r)
    (hst : r.status = .verifying ∨ r.status = .publishing) :
    Moving env s₀ ev (verifyAndPublish env row call) (FinalizeStops env s₀ ev row.id) s := by
  have hid : r.id = row.id := findUploadById_id hr
  apply wp_bind
  apply wp_get
  cases hstg : s.staged row.id with
  | none =>
    simp only [Option.isNone_none, if_true]
    exact wp_pure hmv
  | some content =>
    simp only [Option.isNone_some, Bool.false_eq_true, if_false]
    refine wp_seq (R := fun checked t => t = s ∧ ∀ digest, checked = some digest → digest = env.sha256 content) ?_ ?_
    · apply wp_tryCatch
      apply wp_bind
      refine um_sha256OfFile hstg (wp_pure ⟨rfl, ?_⟩) (wp_pure ⟨rfl, nofun⟩) hmv
      exact fun digest hdig => (Option.some.inj hdig).symm
    rintro checked t ⟨heq, hchk⟩
    rw [heq]
    cases checked with
    | none => exact wp_pure hmv
    | some digest =>
      obtain rfl := hchk digest rfl
      dsimp only
      split
      · rename_i hmis
        obtain ⟨recorded, hrec, hdiff⟩ := (Option.any_eq_true _ _).1 hmis
        have hdo : row.status = .publishing → FinalizeDooms env s₀ row := by
          intro hpublishing
          unfold FinalizeDooms
          rw [hv.vacant hpublishing, ← UploadServer.staged_congr hstag, hstg]
          cases row.targetFolderId with
          | none => trivial
          | some _ => exact .inl ⟨recorded, hrec, by simpa using hdiff⟩
        exact um_fails (fun _ ht => ht) hmv (hv.admitted.canFail hv.event hdo hpu hr hkept hst)
      · rename_i hm
        have hdecl : ∀ declared, row.sha256 = some declared → declared.toLower = env.sha256 content := by
          intro declared hdecl
          rw [hdecl] at hm
          simpa using hm
        apply wp_bind
        refine wp_execute trivial ?_ hmv hmv
        intro t ht
        cases ht
        have hpub : UploadMove env s₀ ev s (s.updateUpload row.id (MobileUploadRow.publish (env.sha256 content) call.now)) := by
          have hmove := @UploadMove.publishes env s₀ ev s row r content call.now hv.finalizes hkept (by rw [hid]; exact hr) hst
            (by rw [hid]; exact hstg)
          rwa [hid] at hmove
        have hp : Publishing env s₀ ev row content
            (s.updateUpload row.id (MobileUploadRow.publish (env.sha256 content) call.now)) :=
          ⟨hmv.tail hpub, hstag, ⟨hpu.1, hpu.2⟩, hsu, hfols, hstg, hdecl, _,
            find_updateUpload_self (fun _ => sameUpload_publish) hr, hkept.trans sameUpload_publish, rfl, rfl⟩
        cases htgt : row.targetFolderId with
        | some folderId => exact publishToFolder_moves hv hp htgt
        | none =>
          show wp anyFate (some <$> publishToLanding env row call.now) _ _ _
          exact wp_seq (publishToLanding_moves hv hp htgt) fun _ _ ht => wp_pure ht

private theorem um_landedDiffers (hland : s₀.landing row.finalRelPath = some content) :
    wp anyFate (landedDiffers env row) (fun differs t => t = s₀ ∧ (differs = true → FinalizeDooms env s₀ row) ∧
        (differs = false → ∀ recorded, row.sha256 = some recorded → env.sha256 content = recorded.toLower))
      (FinalizeStops env s₀ ev id) s₀ := by
  unfold landedDiffers
  cases hrec : row.sha256 with
  | none => exact wp_pure ⟨rfl, nofun, fun _ => nofun⟩
  | some recorded =>
    apply wp_bind
    have hrefl : UploadMoves env s₀ ev s₀ s₀ := .refl
    refine um_sha256OfFile hland (wp_pure ⟨rfl, ?_, ?_⟩) hrefl hrefl
    · intro hdiff
      unfold FinalizeDooms
      rw [hland]
      exact ⟨recorded, hrec, by simpa using hdiff⟩
    intro hsame recorded' hrec'
    cases hrec'
    simpa using hsame

theorem recoverPublishing_moves (hev : ∃ fates, ev = .finalizes call fates) (hadm : FinalizeAdmitted s₀ call row)
    (hst : row.status = .publishing) :
    Moving env s₀ ev (recoverPublishing env row call) (FinalizeStops env s₀ ev row.id) s₀ := by
  have hcan : FinalizeDooms env s₀ row → CanFail env s₀ ev s₀ row.id := fun hdo =>
    hadm.canFail hev (fun _ => hdo) (.refl s₀) hadm.found (.refl row) (.inr hst)
  have hfi : ev.Finalizes s₀ row := by
    obtain ⟨fates, rfl⟩ := hev
    exact ⟨call, fates, rfl, hadm⟩
  apply wp_bind
  apply wp_get
  cases hland : s₀.landing row.finalRelPath with
  | some content =>
    simp only [Option.isSome_some, if_true]
    refine wp_seq (um_landedDiffers hland) ?_
    rintro differs t ⟨heq, hdiff, hsame⟩
    rw [heq]
    cases differs with
    | true =>
      show wp anyFate (some <$> collisionOutcome row call.now) _ _ _
      exact wp_seq (um_fails (fun _ ht => ht) .refl (hcan (hdiff rfl))) fun _ _ ht => wp_pure ht
    | false =>
      show wp anyFate (some <$> completePublication env row call.now) _ _ _
      exact wp_seq (completePublication_moves .refl hfi hadm.found (.refl row) hst hland
        (.inr ⟨hst, hland, hsame rfl⟩) hadm.free) fun _ _ ht => wp_pure ht
  | none =>
    simp only [Option.isSome_none, Bool.false_eq_true, if_false]
    cases hstg : s₀.staged row.id with
    | none =>
      simp only [Option.isNone_none, if_true]
      have hdo : FinalizeDooms env s₀ row := by
        unfold FinalizeDooms
        rw [hland, hstg]
        cases row.targetFolderId <;> trivial
      exact um_fails (fun _ ht => ht) .refl (hcan hdo)
    | some content =>
      simp only [Option.isNone_some, Bool.false_eq_true, if_false]
      exact verifyAndPublish_moves ⟨hev, hadm, fun _ => hland⟩ .refl rfl (.refl s₀) rfl rfl hadm.found
        (.refl row) (.inr hst)

theorem finalizeLocked_moves (hev : ∃ fates, ev = .finalizes call fates) (hfree : s₀.suspended call.uploadId = none) :
    Moving env s₀ ev (finalizeLocked env call) (FinalizeStops env s₀ ev call.uploadId) s₀ := by
  have hrefl : UploadMoves env s₀ ev s₀ s₀ := .refl
  apply wp_bind
  apply wp_get
  cases hf : s₀.findUploadById call.uploadId with
  | none => exact wp_pure hrefl
  | some row =>
    have hid : call.uploadId = row.id := (findUploadById_id hf).symm
    rw [hid] at hf hfree ⊢
    by_cases hw : row.registrationId ≠ call.registrationId
    · simp only [hw, if_true, ne_eq, not_false_eq_true]
      exact wp_pure hrefl
    simp only [hw, if_false]
    by_cases hfin : row.status = .finalized
    · simp only [hfin, if_true]
      exact wp_seq (appendUploadOperationLog_moves (fun _ ht => ht) hrefl rfl (mem_of_findUploadById hf) hfin)
        fun _ _ ht => wp_pure ht.1
    simp only [hfin, if_false]
    by_cases hnd : row.status = .failed ∨ row.status = .cancelled
    · simp only [hnd, if_true]
      exact wp_pure hrefl
    simp only [hnd, if_false]
    cases href : finalizeRefused s₀ row with
    | some refusal => exact wp_pure hrefl
    | none =>
      have hrun : row.status.isTerminal = false := by
        cases hst : row.status with
        | finalized => exact absurd hst hfin
        | failed => exact absurd (.inl hst) hnd
        | cancelled => exact absurd (.inr hst) hnd
        | created | uploading | ready | verifying | publishing => rfl
      have hadm := FinalizeAdmitted.mk hid hf (not_not.1 hw) hfree hrun href
      dsimp only
      by_cases hpub : row.status = .publishing
      · rw [if_pos hpub]
        exact recoverPublishing_moves hev (hadm fun _ hno => absurd hpub hno) hpub
      rw [if_neg hpub]
      by_cases hver : row.status = .verifying
      · rw [if_pos hver]
        have hv : Verifies s₀ ev call row :=
          ⟨hev, hadm fun hno => absurd hver hno, fun h => absurd h hpub⟩
        exact verifyAndPublish_moves hv hrefl rfl (.refl s₀) rfl rfl hf (.refl row) (.inl hver)
      rw [if_neg hver]
      by_cases hsize : (row.sizeBytes.any fun size => decide (row.bytesReceived < size)) = true
      · rw [if_pos hsize]
        exact wp_pure hrefl
      rw [if_neg hsize]
      apply wp_bind
      refine wp_execute trivial ?_ hrefl hrefl
      intro t ht
      cases ht
      have hea : row.status = .created ∨ row.status = .uploading ∨ row.status = .ready := by
        cases hst : row.status with
        | created => exact .inl rfl
        | uploading => exact .inr (.inl rfl)
        | ready => exact .inr (.inr rfl)
        | verifying => exact absurd hst hver
        | publishing => exact absurd hst hpub
        | finalized | failed | cancelled => rw [hst] at hrun; cases hrun
      have hen : ∀ size, row.sizeBytes = some size → size ≤ row.bytesReceived := by
        intro size hdecl
        rw [hdecl] at hsize
        simpa using hsize
      have hv : Verifies s₀ ev call row := ⟨hev, hadm fun _ _ => hen, fun h => absurd h hpub⟩
      have hve := ReflTransGen.single (@UploadMove.verifies env s₀ ev row call.now hf hea hen)
      exact verifyAndPublish_moves hv hve rfl ⟨rfl, rfl⟩ rfl rfl
        (find_updateUpload_self (fun _ => sameUpload_verify) hf) sameUpload_verify (.inl rfl)

/-- Wherever a handler stops, it has made moves. -/
def Stops (env : UploadEnv) (s₀ : UploadServer) (ev : UploadEvent) (_ : Stop UploadError) (t : UploadServer) : Prop :=
  UploadMoves env s₀ ev s₀ t

theorem finalizeMobileUpload_moves (hev : ∃ fates, ev = .finalizes call fates) :
    Moving env s₀ ev (finalizeMobileUpload env call) (Stops env s₀ ev) s₀ := by
  apply wp_tryCatch
  apply wp_withUploadLock
  · exact wp_throw (show UploadMoves env s₀ ev s₀ s₀ from .refl)
  intro hfree
  refine wp_mono (finalizeLocked_moves hev hfree) (fun _ _ h => h) ?_
  intro stop t hstop
  cases stop with
  | crashed => exact hstop
  | threw e =>
    cases e with
    | busy => exact wp_throw hstop
    | failed => exact wp_pure hstop
    | pathEscape =>
      obtain ⟨hmv, hcan⟩ := hstop
      apply wp_bind
      apply wp_get
      cases hf : t.findUploadById call.uploadId with
      | none => exact wp_pure hmv
      | some row =>
        have hid := findUploadById_id hf
        exact um_fails (fun _ ht => ht) hmv (hid ▸ hcan)

/-! ### The other handlers -/

private theorem um_raced {call : CreateUploadCall} (e : UploadError) : wp anyFate (do
      let s ← Prog.get
      match s.findUploadByIdempotency call.registrationId call.idempotencyKey with
      | some raced => pure (.ok raced)
      | none => Prog.throw e) (fun (_ : CreateUploadOutcome) t => UploadMoves env s₀ ev s₀ t) (Stops env s₀ ev) s₀ := by
  have hrefl : UploadMoves env s₀ ev s₀ s₀ := .refl
  apply wp_bind
  apply wp_get
  cases s₀.findUploadByIdempotency call.registrationId call.idempotencyKey with
  | some raced => exact wp_pure hrefl
  | none => exact wp_throw hrefl

theorem createMobileUpload_moves {call : CreateUploadCall} (hev : ev = .creates call fates) :
    Moving env s₀ ev (createMobileUpload env call) (Stops env s₀ ev) s₀ := by
  have hrefl : UploadMoves env s₀ ev s₀ s₀ := .refl
  apply wp_bind
  apply wp_get
  cases s₀.findUploadByIdempotency call.registrationId call.idempotencyKey with
  | some prior => exact wp_pure hrefl
  | none =>
    dsimp only
    cases hdest : (s₀.findDestinationById call.destinationId).filter
        fun row => row.registrationId == call.registrationId with
    | none => exact wp_pure hrefl
    | some destination =>
      cases href : createRefused env s₀ call destination with
      | some refusal => simp only [href]; exact wp_pure hrefl
      | none =>
        simp only [href]
        obtain ⟨hf, hw⟩ := Option.filter_eq_some_iff.1 hdest
        apply wp_tryCatch
        apply wp_bind
        refine wp_execute trivial ?_ (um_raced _) hrefl
        intro t htx
        exact wp_pure (ReflTransGen.single
          (.creates hev (Rows.find_some hf).1 (by simpa using hw) href htx))

theorem createMobileUploadDestination_moves {call : CreateDestinationCall} :
    Moving env s₀ ev (createMobileUploadDestination call) (Stops env s₀ ev) s₀ := by
  have hrefl : UploadMoves env s₀ ev s₀ s₀ := .refl
  apply wp_bind
  apply wp_get
  dsimp only
  split
  · exact wp_pure hrefl
  cases hslug : destinationSlug call (trimSpaces call.label.toList) with
  | none => exact wp_pure hrefl
  | some slug =>
    dsimp only
    by_cases hreg : (!isSafeSegment call.registrationId ||
        (findRegistrationByHostId s₀.mobile call.registrationId).isNone) = true
    · rw [if_pos hreg]
      exact wp_pure hrefl
    rw [if_neg hreg]
    split
    · exact wp_pure hrefl
    split
    · exact wp_pure hrefl
    apply wp_bind
    refine wp_execute trivial ?_ hrefl hrefl
    intro t htx
    have hsafe : isSafeSegment call.registrationId = true := by
      simp only [Bool.or_eq_true, Bool.not_eq_true', not_or, Bool.not_eq_false] at hreg
      exact hreg.1
    exact wp_pure (ReflTransGen.single (@UploadMove.insertsDestination env s₀ ev ⟨_, _, _, _, _, _, _⟩ slug t hsafe rfl htx))

private theorem um_updateDestinations {α : Type} {answer : α} {guard : MobileUploadDestinationRow → Bool}
    {set : MobileUploadDestinationRow → MobileUploadDestinationRow}
    (hset : ∀ row, (set row).registrationId = row.registrationId ∧ (set row).relPath = row.relPath) :
    Moving env s₀ ev (do execute fun s => some (s.updateDestinations guard set); pure answer) (Stops env s₀ ev) s₀ := by
  apply wp_bind
  refine wp_execute trivial ?_ .refl .refl
  intro t ht
  cases ht
  exact wp_pure (ReflTransGen.single (.updatesDestinations hset))

theorem updateMobileUploadDestinationFolder_moves {registrationId : String} {folderId : Option String} :
    Moving env s₀ ev (updateMobileUploadDestinationFolder registrationId id folderId) (Stops env s₀ ev) s₀ := by
  have hrefl : UploadMoves env s₀ ev s₀ s₀ := .refl
  apply wp_bind
  apply wp_get
  cases (s₀.findDestinationById id).filter fun row => row.registrationId == registrationId with
  | none => exact wp_pure hrefl
  | some row =>
    dsimp only
    split
    · exact wp_pure hrefl
    · exact um_updateDestinations fun _ => ⟨rfl, rfl⟩

theorem revokeMobileUploadDestination_moves {registrationId : String} :
    Moving env s₀ ev (revokeMobileUploadDestination registrationId id now) (Stops env s₀ ev) s₀ := by
  have hrefl : UploadMoves env s₀ ev s₀ s₀ := .refl
  apply wp_bind
  apply wp_get
  cases (s₀.findDestinationById id).filter fun row => row.registrationId == registrationId with
  | none => exact wp_pure hrefl
  | some row =>
    dsimp only
    split
    · exact wp_pure hrefl
    · exact um_updateDestinations fun _ => ⟨rfl, rfl⟩

theorem cancelMobileUpload_moves {call : CancelCall} (hev : ev = .cancels call fates) :
    Moving env s₀ ev (cancelMobileUpload call) (Stops env s₀ ev) s₀ := by
  have hrefl : UploadMoves env s₀ ev s₀ s₀ := .refl
  apply wp_tryCatch
  apply wp_withUploadLock
  · exact wp_throw hrefl
  intro hfree
  apply wp_bind
  apply wp_get
  cases hf : s₀.findUploadById call.uploadId with
  | none => exact wp_pure hrefl
  | some row =>
    have hid : call.uploadId = row.id := (findUploadById_id hf).symm
    rw [hid] at hf hfree
    dsimp only
    by_cases hw : row.registrationId ≠ call.registrationId
    · rw [if_pos hw]
      exact wp_pure hrefl
    rw [if_neg hw]
    by_cases hfin : row.status = .finalized
    · rw [if_pos hfin]
      exact wp_pure hrefl
    rw [if_neg hfin]
    by_cases hfail : row.status = .failed
    · rw [if_pos hfail]
      exact wp_pure hrefl
    rw [if_neg hfail]
    apply wp_bind
    refine wp_execute trivial ?_ (wp_pure hrefl) hrefl
    intro t ht
    cases ht
    have hcan : UploadMoves env s₀ ev s₀ _ := ReflTransGen.single (.cancels hev hid (not_not.1 hw) hf hfin hfail hfree)
    have hrem : MayRemove env s₀ ev row.id := by
      subst hev
      exact .cancels hid (not_not.1 hw) hf hfin hfail
    exact wp_seq (removeStaging_moves (fun _ ht => ht) hcan hrem) fun _ _ ht => wp_pure ht.1

private theorem um_failEach {error : String} {rows : List MobileUploadRow}
    (hcrash : ∀ t, UploadMoves env s₀ ev s₀ t → stopped .crashed t)
    (hrows : ∀ row ∈ rows, s₀.findUploadById row.id = some row ∧ row.status.isTerminal = false ∧ Doomed env s₀ ev row)
    (h : UploadMoves env s₀ ev s₀ s) (hnone : NoneCancelled s₀ s) :
    Moving env s₀ ev (Prog.forEach (fun row => failUpload row error now) rows) stopped s := by
  refine wp_mono (@wp_forEach _ _ _ _ _ _ _ (fun t => UploadMoves env s₀ ev s₀ t ∧ NoneCancelled s₀ t) rows s
    ⟨h, hnone⟩ ?_) (fun _ _ ht => ht.1) fun _ _ hstop => hstop
  rintro row hrow t ⟨hmv, hkept⟩
  obtain ⟨hf, hopen, hdoom⟩ := hrows row hrow
  obtain ⟨r, hr, hsame, hcan⟩ := hkept.kept row.id row hf
  have hst : r.status ≠ .cancelled := by
    intro hc
    rw [hcan hc] at hopen
    cases hopen
  refine wp_mono (failUpload_moves hcrash hmv ⟨hkept.published, row, r, hf, hdoom, hr, hsame, hst⟩) ?_ fun _ _ hstop => hstop
  intro _ t' ht'
  exact ⟨ht'.1, hkept.trans ht'.2⟩

private theorem um_found {guard : MobileUploadRow → Bool} (hids : (s₀.uploads.map MobileUploadRow.id).Nodup)
    (hrow : row ∈ s₀.uploads.filter guard) : s₀.findUploadById row.id = some row :=
  Rows.find_unique hids (List.mem_filter.1 hrow).1

theorem revokeRegistrationRoute_moves {hostId : String} {reason : Option String} {now : EpochMs}
    (hids : (s₀.uploads.map MobileUploadRow.id).Nodup) (hev : ev = .revokes hostId reason now fates) :
    Moving env s₀ ev (revokeRegistrationRoute hostId reason now) (Stops env s₀ ev) s₀ := by
  have hrefl : UploadMoves env s₀ ev s₀ s₀ := .refl
  apply wp_bind
  apply wp_get
  split
  · exact wp_pure hrefl
  rename_i hreg
  apply wp_bind
  refine wp_execute trivial ?_ hrefl hrefl
  intro t ht
  cases ht
  have hrev : UploadMoves env s₀ ev s₀ _ := ReflTransGen.single
    (@UploadMove.administers env s₀ ev s₀ (revokeMobileRegistration s₀.mobile hostId reason now).1 s₀.folderTargets)
  apply wp_bind
  apply wp_bind
  apply wp_get
  refine wp_seq (um_failEach (fun _ ht => ht) ?_ hrev ⟨(NoneCancelled.refl s₀).kept, rfl, rfl⟩) ?_
  · intro row hrow
    have hfilt := (List.mem_filter.1 hrow).2
    simp only [Bool.and_eq_true, beq_iff_eq, Bool.not_eq_true'] at hfilt
    subst hev
    have hsome : (findRegistrationByHostId s₀.mobile hostId).isSome = true := by
      rw [Option.isNone_iff_eq_none] at hreg
      exact Option.isSome_iff_ne_none.2 hreg
    exact ⟨um_found hids hrow, hfilt.2, .revokes hsome hfilt.1 hfilt.2⟩
  · intro _ t ht
    refine wp_execute trivial ?_ ht ht
    intro t' ht'
    cases ht'
    exact wp_pure (ht.tail (.updatesDestinations fun _ => ⟨rfl, rfl⟩))

theorem resumeFinalize_moves {pid : Nat} {succeeded : Bool} {relay : FolderRelay} (hev : ev = .relayExits pid succeeded fates)
    (hrl : s₀.relays pid = some relay) (hwt : s₀.suspended relay.row.id = some pid) :
    Moving env s₀ ev (resumeFinalize relay (succeeded && relay.copied)) (Stops env s₀ ev)
      (s₀.release pid relay) := by
  have hrel : UploadMoves env s₀ ev s₀ (s₀.release pid relay) := ReflTransGen.single (.releases hev hrl)
  apply wp_tryCatch
  cases hsucc : succeeded && relay.copied with
  | false => exact wp_throw (wp_pure hrel)
  | true =>
    obtain ⟨rfl, hcop⟩ := Bool.and_eq_true_iff.1 hsucc
    apply wp_bind
    refine wp_execute trivial ?_ (wp_pure hrel) hrel
    intro t htx
    have hrem : MayRemove env s₀ ev relay.row.id := by
      subst hev
      exact .delivers hrl hwt hcop
    exact wp_seq (removeStaging_moves (fun _ ht => ht) (hrel.tail (.delivers hev hrl hwt hcop htx)) hrem)
      fun _ _ ht => wp_bind (wp_get (wp_pure ht.1))

/-- The last part of a reconcile: the counter is the disk's, whatever the sweep removed. -/
def Reseeded (env : UploadEnv) (s₀ : UploadServer) (ev : UploadEvent) (t : UploadServer) : Prop :=
  UploadMoves env s₀ ev s₀ t ∧ t.stagedUsageSeeded = true ∧ t.stagedUsageBytes = totalSize t.staging

theorem reconcileUploadHistory_moves (h : Reseeded env s₀ ev s) :
    wp anyFate (reconcileUploadHistory now) (fun _ t => Reseeded env s₀ ev t) (Dies env s₀ ev) s := by
  apply wp_bind
  apply wp_get
  refine wp_mono (@wp_forEach _ _ _ _ _ _ _ (fun t => Reseeded env s₀ ev t ∧ t.uploads = s.uploads) _ s ⟨h, rfl⟩ ?_)
    (fun _ _ ht => ht.1) fun _ _ hstop => hstop
  rintro row hrow t ⟨⟨hmv, hse, hb⟩, hups⟩
  obtain ⟨hmem, hfin⟩ := List.mem_filter.1 hrow
  have hfin : row.status = .finalized := by simpa using hfin
  have hrow' : row ∈ t.uploads := by rw [hups]; exact hmem
  refine wp_mono (appendUploadOperationLog_moves (fun _ ht => ⟨rfl, ht⟩) hmv rfl hrow' hfin) ?_ fun _ _ hstop => hstop
  rintro _ _ ⟨hmv', log, rfl⟩
  exact ⟨⟨hmv', hse, hb⟩, hups⟩

theorem reconcileAbandonedMobileUploads_moves {mtimeMs : String → Int} (hids : (s₀.uploads.map MobileUploadRow.id).Nodup)
    (hev : ev = .reconciles mtimeMs now fates) :
    wp anyFate (reconcileAbandonedMobileUploads env mtimeMs now) (fun _ t => Reseeded env s₀ ev t) (Dies env s₀ ev) s₀ := by
  apply wp_bind
  apply wp_get
  refine wp_seq (um_failEach (fun _ ht => ⟨rfl, ht⟩) ?_ .refl (NoneCancelled.refl s₀)) ?_
  · intro row hrow
    have hfilt := (List.mem_filter.1 hrow).2
    simp only [Bool.and_eq_true, Bool.not_eq_true', decide_eq_true_eq] at hfilt
    subst hev
    exact ⟨um_found hids hrow, hfilt.1, .reconciles hfilt.2 hfilt.1⟩
  intro _ t ht
  apply wp_bind
  apply wp_get
  refine wp_seq (@wp_forEach _ _ _ _ _ _ _ (fun t => UploadMoves env s₀ ev s₀ t) _ t ht ?_) ?_
  · intro name _ t ht
    apply wp_bind
    apply wp_get
    dsimp only
    split
    · apply wp_tryCatch
      refine wp_execute trivial ?_ (wp_pure ht) ⟨rfl, ht⟩
      intro t' ht'
      cases ht'
      exact ht.tail .sweeps
    · exact wp_pure ht
  · intro _ t ht
    apply wp_bind
    apply wp_modify
    exact reconcileUploadHistory_moves ⟨ht.tail .seeds, rfl, rfl⟩

/-- What an event does, for those who ask what states it can pass through.  When the process dies a new one begins. -/
inductive UploadRun (env : UploadEnv) (s : UploadServer) : UploadEvent → UploadServer → Prop where
  | moves {ev t} (hchunk : ∀ call fates, ev ≠ .appends call fates) (hreconcile : ∀ mtimeMs now fates, ev ≠ .reconciles mtimeMs now fates)
      (h : UploadMoves env s ev s t) : UploadRun env s ev t
  | chunk {call fates dead t} (h : ChunkEnd env s call (fun fate => fate = .done ∨ fate ∈ fates) dead t) :
      UploadRun env s (.appends call fates) (afterwards dead t)
  | reconciled {mtimeMs now fates} {t : UploadServer} (h : Reseeded env s (.reconciles mtimeMs now fates) t) :
      UploadRun env s (.reconciles mtimeMs now fates) t
  | died {ev t} (hchunk : ∀ call fates, ev ≠ .appends call fates) (h : UploadMoves env s ev s t) :
      UploadRun env s ev t.restart

/-- The state after a handler is the one it returned or threw in, or a new process after the one it died in. -/
theorem settle_ends {α : Type} {allowed : Fate → Prop} {p : UploadProg α} {post : α → UploadServer → Prop}
    {I : UploadServer → Prop} {fates : List Fate}
    (h : wp allowed p post stopped s) (hft : ∀ fate ∈ fates, allowed fate) (hpost : ∀ a t, post a t → I t)
    (hth : ∀ e t, stopped (.threw e) t → I t) (hcr : ∀ t, stopped .crashed t → I t.restart) :
    I (settle (p s fates)) := by
  have hme := h fates hft
  cases hran : p s fates with
  | mk result t rest =>
    rw [hran] at hme
    cases result with
    | ok a => exact hpost a t hme.1
    | error stop =>
      cases stop with
      | threw e => exact hth e t hme.1
      | crashed => exact hcr t hme.1

private def um_plain : UploadEvent → Bool
  | .appends _ _ | .reconciles _ _ _ => false
  | _ => true

private theorem um_plain_chunk (h : um_plain ev = true) (call : ChunkCall) (fates : List Fate) : ev ≠ .appends call fates := by
  rintro rfl
  cases h

private theorem um_plain_reconcile (h : um_plain ev = true) (mtimeMs : String → Int) (now : Int) (fates : List Fate) :
    ev ≠ .reconciles mtimeMs now fates := by
  rintro rfl
  cases h

private theorem um_moves {s' : UploadServer} (h : um_plain ev = true) (hmv : UploadMoves env s₀ ev s₀ s') :
    UploadRun env s₀ ev s' :=
  .moves (um_plain_chunk h) (um_plain_reconcile h) hmv

private theorem um_settle {α : Type} {p : UploadProg α} {s' : UploadServer} (hpl : um_plain ev = true)
    (h : Moving env s₀ ev p (Stops env s₀ ev) s') {fates : List Fate} :
    UploadRun env s₀ ev (settle (p s' fates)) :=
  settle_ends h (fun _ _ => trivial) (fun _ _ ht => um_moves hpl ht) (fun _ _ ht => um_moves hpl ht)
    fun _ ht => .died (um_plain_chunk hpl) ht

theorem mobileUploadStep_runs (hids : (s.uploads.map MobileUploadRow.id).Nodup) (ev : UploadEvent) :
    UploadRun env s ev (mobileUploadStep env s ev) := by
  cases ev with
  | mobile event =>
    exact um_moves rfl (ReflTransGen.single
      (@UploadMove.administers env s _ s (mobileStep env.mobile s.mobile event) s.folderTargets))
  | folders targets => exact um_moves rfl (ReflTransGen.single (@UploadMove.administers env s _ s s.mobile targets))
  | createsDestination call fates => exact um_settle rfl createMobileUploadDestination_moves
  | updatesDestination registrationId id folderId fates =>
    exact um_settle rfl updateMobileUploadDestinationFolder_moves
  | revokesDestination registrationId id now fates => exact um_settle rfl revokeMobileUploadDestination_moves
  | creates call fates => exact um_settle rfl (createMobileUpload_moves rfl)
  | appends call fates =>
    have hends := @appendMobileUploadChunk_ends env (fun fate => fate = .done ∨ fate ∈ fates) s call (.inl rfl)
    exact settle_ends hends (fun _ hfate => .inr hfate) (fun _ _ ht => .chunk ht) (fun _ _ ht => .chunk ht)
      fun _ ht => .chunk ht
  | finalizes call fates => exact um_settle rfl (finalizeMobileUpload_moves ⟨fates, rfl⟩)
  | relayReads pid =>
    refine um_moves rfl ?_
    cases hrl : s.relays pid with
    | none =>
      simp only [mobileUploadStep, hrl]
      exact .refl
    | some relay =>
      simp only [mobileUploadStep, hrl]
      split
      · exact .refl
      · rename_i hcop
        exact ReflTransGen.single (.reads rfl hrl (by simpa using hcop))
  | relayPuts pid =>
    refine um_moves rfl ?_
    cases hrl : s.relays pid with
    | none =>
      simp only [mobileUploadStep, hrl]
      exact .refl
    | some relay =>
      simp only [mobileUploadStep, hrl]
      cases hopen : relay.opened with
      | none => exact .refl
      | some bytes => exact ReflTransGen.single (.puts rfl hrl hopen)
  | relayExits pid succeeded fates =>
    cases hrl : s.relays pid with
    | none =>
      simp only [mobileUploadStep, hrl]
      exact um_moves rfl .refl
    | some relay =>
      simp only [mobileUploadStep, hrl]
      split
      · rename_i hwt
        exact um_settle rfl (resumeFinalize_moves rfl hrl hwt)
      · exact um_moves rfl (ReflTransGen.single (.releases rfl hrl))
  | cancels call fates => exact um_settle rfl (cancelMobileUpload_moves rfl)
  | revokes hostId reason now fates => exact um_settle rfl (revokeRegistrationRoute_moves hids rfl)
  | reconciles mtimeMs now fates =>
    have hends := @reconcileAbandonedMobileUploads_moves env s _ fates now mtimeMs hids rfl
    exact settle_ends hends (fun _ _ => trivial) (fun _ _ ht => .reconciled ht) (fun _ _ ht => by cases ht.1)
      fun _ ht => .died (by rintro _ _ ⟨⟩) ht.2
  | stagingLost name => exact um_moves rfl (ReflTransGen.single .sweeps)
  | stagingTruncated name length =>
    refine um_moves rfl ?_
    cases hstg : s.staging.lookup name with
    | none =>
      simp only [mobileUploadStep, hstg]
      exact .refl
    | some bytes =>
      simp only [mobileUploadStep, hstg]
      exact ReflTransGen.single (.truncates hstg rfl)
  | restarts => exact .died (um_plain_chunk rfl) .refl

theorem UploadRun.invariant {I : UploadServer → Prop} {t : UploadServer} (h : UploadRun env s ev t) (hs : I s)
    (hmove : ∀ a b, I a → UploadMove env s ev a b → I b) (hre : ∀ a, I a → I a.restart)
    (hck : ∀ call fates dead t, ev = .appends call fates →
      ChunkEnd env s call (fun fate => fate = .done ∨ fate ∈ fates) dead t → I (afterwards dead t)) : I t := by
  have hmv : ∀ t, UploadMoves env s ev s t → I t := by
    intro t ht
    induction ht with
    | refl => exact hs
    | tail _ hlast ih => exact hmove _ _ ih hlast
  cases h with
  | moves _ _ h => exact hmv _ h
  | chunk h => exact hck _ _ _ _ rfl h
  | reconciled h => exact hmv _ h.1
  | died _ h => exact hre _ (hmv _ h)

end Paths

end LamaSync
