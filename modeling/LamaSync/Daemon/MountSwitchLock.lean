import LamaSync.Daemon.MountSwitch

/-!
# The lock and the final run of a mount switch

A mount switch takes the lock of its folder without a key, awaits the final run, sets the contents of the local path aside
and awaits the mount.  Meanwhile everything else goes on: the final run has a lock of its own on the same row of the
server, other runs and other hosts send their requests, and time passes.  The final run tells its failures by its report,
which the switch does not read.

`switches_safe_iff` says in which runs no switch sets anything aside behind a final run that was no success, and every
switch holds its row from before the final run until the mount is up.
-/

namespace LamaSync

open Trace

variable {τ : Type}

inductive SwitchPhase where
  | locking
  /-- The final run is awaited. -/
  | syncing (lock : LockHandle)
  | mounting (lock : LockHandle)
  | ended
  deriving DecidableEq

def SwitchPhase.lock : SwitchPhase → Option LockHandle
  | .syncing lock | .mounting lock => some lock
  | .locking | .ended => none

/-- A call of `switchToMount` that awaits something.  `aside` is the outcome of the final run behind which something was
moved out of the local path. -/
structure MountSwitch where
  folder : Folder
  assignment : FolderAssignment
  phase : SwitchPhase
  aside : Option (Except String (Option ReportStatus))

structure SwitchSystem where
  locks : LockSystem
  switches : Table Nat MountSwitch

inductive SwitchEvent (τ : Type) where
  /-- What the final runs, the other runs, the other hosts and the clock do to the locks. -/
  | lock (e : LockEvent)
  | call (hostConfig : Option (List Folder × List FolderAssignment)) (folderId : String)
  | finalRunEnds (call : Nat) (outcome : Except String (Option ReportStatus)) (faults : SwitchFaults)
      (contents : Entries τ)
  | mountEnds (call : Nat) (error : Option String)

/-- Something was moved out of the local path. -/
def setsAside (faults : SwitchFaults) (contents : Entries τ) (outcome : Except String (Option ReportStatus)) : Bool :=
  contents.keys.any fun name => ((setAside faults ⟨contents, none⟩ outcome).2.2.contents.lookup name).isNone

def mountRequestFault (faults : SwitchFaults) (folder : Folder) (assignment : FolderAssignment) : Option String :=
  (faults .writeRcloneConfig).or
    (match resolveDestination folder assignment.identity with
      | .error error => some error
      | .ok _ => none)

def LockAcquireResult.phase : LockAcquireResult → SwitchPhase
  | .acquired handle => .syncing handle
  | .contended .. | .unreachable _ => .ended

namespace SwitchSystem

variable (hostId : String) (s : SwitchSystem)

def lockReturns (call : Nat) (lost : Bool) : Table Nat MountSwitch :=
  match s.switches call, s.locks.acquires.find? fun c => c.id == call with
  | some sw, some c =>
    if sw.phase = .locking then s.switches.put call { sw with phase := (s.locks.acquireResult c lost).phase }
    else s.switches
  | _, _ => s.switches

def lockStep (e : LockEvent) : SwitchSystem where
  locks := s.locks.step hostId e
  switches :=
    match e with
    | .acquireEnds call lost => s.lockReturns call lost
    | _ => s.switches

def enter (hostConfig : Option (List Folder × List FolderAssignment)) (folderId : String) : SwitchSystem :=
  match switchGate hostConfig folderId with
  | .error _ => s
  | .ok (folder, assignment) =>
    if (s.locks.activeLocks (localKey folderId none)).isSome then s
    else {
      locks := s.locks.acquire folderId none
      switches := s.switches.put s.locks.nextCall ⟨folder, assignment, .locking, none⟩ }

def finalRunEnds (call : Nat) (outcome : Except String (Option ReportStatus)) (faults : SwitchFaults)
    (contents : Entries τ) : SwitchSystem :=
  match s.switches call with
  | none => s
  | some sw =>
    match sw.phase with
    | .syncing lock =>
      let aside := if setsAside faults contents outcome then some outcome else none
      let failed := (setAside faults ⟨contents, none⟩ outcome).1.or (mountRequestFault faults sw.folder sw.assignment)
      { locks := if failed.isSome then s.locks.release sw.folder.id none none else s.locks
        switches := s.switches.put call
          { sw with aside := aside, phase := if failed.isSome then .ended else .mounting lock } }
    | .locking | .mounting _ | .ended => s

def mountEnds (call : Nat) : SwitchSystem :=
  match s.switches call with
  | none => s
  | some sw =>
    match sw.phase with
    | .mounting _ => {
        locks := s.locks.release sw.folder.id none none
        switches := s.switches.put call { sw with phase := .ended } }
    | .locking | .syncing _ | .ended => s

def step : SwitchEvent τ → SwitchSystem
  | .lock e => s.lockStep hostId e
  | .call hostConfig folderId => s.enter hostConfig folderId
  | .finalRunEnds call outcome faults contents => s.finalRunEnds call outcome faults contents
  | .mountEnds call _ => s.mountEnds call

end SwitchSystem

def newSwitchSystem (server : LockServer) : SwitchSystem where
  locks := newLockSystem server
  switches := fun _ => none

def MountSwitch.Safe (sw : MountSwitch) (server : LockServer) (hostId : String) : Prop :=
  (∀ outcome, sw.aside = some outcome → outcome = .ok (some .success)) ∧
    ∀ lock, sw.phase.lock = some lock → server.HeldBy hostId lock.row

def SwitchSystem.Safe (hostId : String) (s : SwitchSystem) : Prop :=
  ∀ call sw, s.switches call = some sw → sw.Safe s.locks.server hostId

def SwitchSystem.CountsOn (s : SwitchSystem) (key : String) : Prop :=
  ∃ call sw lock, s.switches call = some sw ∧ sw.phase.lock = some lock ∧ lock.row = key

/-- Nothing gets out of the local path: a listing or the trash fails, or the path is empty, or the first rename fails. -/
def MovesNothing (faults : SwitchFaults) (contents : Entries τ) : Prop :=
  faults .listContents ≠ none ∨ faults .makeTrash ≠ none ∨ faults .listMoved ≠ none ∨
    ∀ name, contents.keys.head? = some name → faults (.moveOut name) ≠ none

def SwitchSystem.GuardHolds (hostId : String) (s : SwitchSystem) : SwitchEvent τ → Prop
  | .lock (.acquireEnds call lost) => ∀ sw c handle, s.switches call = some sw → sw.phase = .locking →
      s.locks.acquires.find? (fun c => c.id == call) = some c → s.locks.acquireResult c lost = .acquired handle →
      s.locks.server.HeldBy hostId handle.row
  | .lock (.serveRelease call principal) => ∀ c, s.locks.releases.find? (fun c => c.id == call) = some c →
      ∀ key, s.CountsOn key → ¬s.locks.server.Releases principal key
        (.release c.folderId hostId (c.handle.map LockHandle.lockId) c.requestKey)
  | .lock (.request principal request) => ∀ key, s.CountsOn key → ¬s.locks.server.Releases principal key request
  | .lock (.elapse ms) => ∀ key, s.CountsOn key → ∀ row lockedAt, s.locks.server.rows key = some row →
      row.lockedAt = some lockedAt →
      s.locks.server.now + ms - lockedAt < row.lockTtl.getD defaultLockTtl * 1000
  | .finalRunEnds call outcome faults contents => ∀ sw lock status, s.switches call = some sw →
      sw.phase = .syncing lock → outcome = .ok status → status ≠ some .success → MovesNothing faults contents
  | .lock (.acquire ..) | .lock (.serveAcquire ..) | .lock (.release ..) | .lock (.releaseEnds _) | .lock (.heartbeat ..)
  | .lock .reap | .lock (.configure _) | .call .. | .mountEnds .. => True

section Moved

variable {faults : SwitchFaults} {contents : Entries τ} {outcome : Except String (Option ReportStatus)}

private theorem sl_untouched (h : (setAside faults ⟨contents, none⟩ outcome).2.2.contents = contents) :
    setsAside faults contents outcome = false := by
  unfold setsAside
  rw [h, List.any_eq_false]
  intro name hname
  have hth := AList.lookup_isSome.2 (AList.mem_keys.2 hname)
  cases hlo : contents.lookup name with
  | none =>
    rw [hlo] at hth
    cases hth
  | some tree => simp

private theorem sl_movesNothing (h : MovesNothing faults contents) :
    (setAside faults ⟨contents, none⟩ outcome).2.2.contents = contents := by
  rcases setAside_cases faults ⟨contents, none⟩ outcome with hnone | ⟨status, -, hli, hents, hmv⟩
  · rw [hnone]
  rw [hmv]
  show (moveContentsToTrash faults ⟨contents, none⟩).2.contents = contents
  unfold moveContentsToTrash
  cases hmake : faults .makeTrash with
  | some error => rfl
  | none =>
    dsimp only
    cases hlist : faults .listMoved with
    | some error => simp [listLocalEntries, moveUntil]
    | none =>
      rcases h with h | h | h | h
      · exact absurd hli h
      · exact absurd hmake h
      · exact absurd hlist h
      obtain ⟨name, names, hkeys⟩ := List.exists_cons_of_ne_nil hents
      have hkeys' : contents.keys = name :: names := hkeys
      have hfl := h name (by rw [hkeys']; rfl)
      obtain ⟨error, her⟩ := Option.ne_none_iff_exists'.1 hfl
      simp [listLocalEntries, hkeys', moveUntil, her]

theorem setsAside_iff : setsAside faults contents outcome = true ↔
    (∃ status, outcome = .ok status) ∧ ¬MovesNothing faults contents := by
  constructor
  · intro hasi
    constructor
    · cases outcome with
      | ok status => exact ⟨status, rfl⟩
      | error error =>
        rw [sl_untouched rfl] at hasi
        cases hasi
    intro hno
    rw [sl_untouched (sl_movesNothing hno)] at hasi
    cases hasi
  · rintro ⟨⟨status, rfl⟩, hmo⟩
    unfold MovesNothing at hmo
    push Not at hmo
    obtain ⟨hli, hmake, hlist, name, hfi, hren⟩ := hmo
    obtain ⟨names, hkeys⟩ : ∃ names, contents.keys = name :: names := by
      cases hcont : contents.keys with
      | nil => simp [hcont] at hfi
      | cons first names =>
        rw [hcont] at hfi
        exact ⟨names, by rw [Option.some.inj hfi]⟩
    unfold setsAside
    rw [List.any_eq_true]
    refine ⟨name, by rw [hkeys]; exact .head _, ?_⟩
    -- the first entry is out of the local path, whatever happens to the others
    have hgone : (moveContentsToTrash faults ⟨contents, none⟩).2.contents.lookup name = none := by
      obtain ⟨moved, hmv⟩ := moveUntil_moves (fun name => faults (.moveOut name)) names
        ((⟨contents, ∅⟩ : Move τ).entry name)
      have hcont : (moveContentsToTrash faults ⟨contents, none⟩).2.contents =
          (moveEach (fun _ => true) moved ((⟨contents, ∅⟩ : Move τ).entry name)).source := by
        rw [← hmv]
        simp [moveContentsToTrash, hmake, hlist, listLocalEntries, hkeys, moveUntil, hren]
      rw [hcont, lookup_moveEach_source, lookup_entry_source, if_pos rfl, ite_self]
    rcases setAside_cases faults ⟨contents, none⟩ (.ok status) with hnone | ⟨-, -, -, -, hmv⟩
    · exfalso
      unfold setAside at hnone
      have hents : ¬(listLocalEntries (faults .listContents) contents).isEmpty = true := by
        simp [listLocalEntries, hli, hkeys]
      dsimp only at hnone
      rw [if_neg hents] at hnone
      have hcont : (moveContentsToTrash faults (⟨contents, none⟩ : SwitchFiles τ)).2 = ⟨contents, none⟩ := by
        cases hmove : moveContentsToTrash faults (⟨contents, none⟩ : SwitchFiles τ) with
        | mk error s' =>
          rw [hmove] at hnone
          cases error with
          | some error | none => exact congrArg Prod.snd hnone
      rw [hcont] at hgone
      exact absurd (AList.mem_keys.2 (by rw [hkeys]; exact .head _)) (AList.lookup_eq_none.1 hgone)
    · rw [hmv, hgone]
      rfl

end Moved

section Steps

variable {hostId : String} {s : SwitchSystem} {call : Nat}

theorem SwitchSystem.Safe.of_server (h : s.Safe hostId) (s' : SwitchSystem) (hswi : s'.switches = s.switches)
    {G : String → Prop} (hrow : ∀ key, s.locks.server.HeldBy hostId key → (s'.locks.server.HeldBy hostId key ↔ G key)) :
    (∀ key, s.CountsOn key → G key) ↔ s'.Safe hostId := by
  constructor
  · intro hkept call sw hsw
    rw [hswi] at hsw
    obtain ⟨hasi, hheld⟩ := h call sw hsw
    refine ⟨hasi, ?_⟩
    intro lock hlock
    exact (hrow lock.row (hheld lock hlock)).2 (hkept lock.row ⟨call, sw, lock, hsw, hlock, rfl⟩)
  · rintro hsafe key ⟨call, sw, lock, hsw, hlock, rfl⟩
    have hbef := (h call sw hsw).2 lock hlock
    rw [← hswi] at hsw
    exact (hrow lock.row hbef).1 ((hsafe call sw hsw).2 lock hlock)

theorem SwitchSystem.Safe.of_row (h : s.Safe hostId) {s' : SwitchSystem} (hswi : s'.switches = s.switches)
    (hrow : ∀ key, s.locks.server.HeldBy hostId key → s'.locks.server.HeldBy hostId key) : s'.Safe hostId := by
  intro call sw hsw
  rw [hswi] at hsw
  obtain ⟨hasi, hheld⟩ := h call sw hsw
  exact ⟨hasi, fun lock hlock => hrow lock.row (hheld lock hlock)⟩

theorem SwitchSystem.Safe.put_iff (h : s.Safe hostId) (call : Nat) {s' : SwitchSystem} {sw : MountSwitch}
    (hse : s'.locks.server = s.locks.server) (hswi : s'.switches = s.switches.put call sw) :
    s'.Safe hostId ↔ sw.Safe s.locks.server hostId := by
  unfold SwitchSystem.Safe
  rw [hse, hswi]
  constructor
  · intro hsafe
    exact hsafe call sw Table.put_self
  intro hsw other sw' hsw'
  by_cases ho : other = call
  · subst ho
    obtain rfl := Option.some.inj (Table.put_self.symm.trans hsw')
    exact hsw
  · rw [Table.put_of_ne ho] at hsw'
    exact h other sw' hsw'

theorem SwitchSystem.Safe.acquireEnds (h : s.Safe hostId) (lost : Bool) :
    s.GuardHolds hostId (.lock (.acquireEnds call lost) : SwitchEvent τ) ↔
      (s.lockStep hostId (.acquireEnds call lost)).Safe hostId := by
  have hse : (s.lockStep hostId (.acquireEnds call lost)).locks.server = s.locks.server :=
    s.locks.acquireEnds_server call lost
  have hswi : (s.lockStep hostId (.acquireEnds call lost)).switches = s.lockReturns call lost := rfl
  have hsame (hkept : s.lockReturns call lost = s.switches) : (s.lockStep hostId (.acquireEnds call lost)).Safe hostId := by
    rw [hkept] at hswi
    refine h.of_row hswi fun key hheld => ?_
    rwa [hse]
  unfold SwitchSystem.lockReturns at hswi hsame
  cases hsw : s.switches call with
  | none =>
    rw [hsw] at hsame
    refine iff_of_true ?_ (hsame rfl)
    intro sw c handle hf
    cases hsw.symm.trans hf
  | some sw =>
    cases hfind : s.locks.acquires.find? fun c => c.id == call with
    | none =>
      rw [hsw, hfind] at hsame
      refine iff_of_true ?_ (hsame rfl)
      intro sw' c handle _ _ hf
      cases hfind.symm.trans hf
    | some c =>
      rw [hsw, hfind] at hsame hswi
      dsimp only at hsame hswi
      by_cases hph : sw.phase = .locking
      · rw [if_pos hph] at hswi
        rw [h.put_iff call hse hswi]
        constructor
        · intro hg
          refine ⟨(h call sw hsw).1, ?_⟩
          intro lock hlock
          cases hres : s.locks.acquireResult c lost with
          | acquired handle =>
            rw [hres] at hlock
            obtain rfl : handle = lock := Option.some.inj hlock
            exact hg sw c handle hsw hph hfind hres
          | contended | unreachable =>
            rw [hres] at hlock
            cases hlock
        · rintro ⟨-, hheld⟩ sw' c' handle hsw' - hfind' hres
          cases hfind.symm.trans hfind'
          apply hheld handle
          rw [hres]
          rfl
      · rw [if_neg hph] at hsame
        refine iff_of_true ?_ (hsame rfl)
        intro sw' c' handle hsw' hph'
        cases hsw.symm.trans hsw'
        exact absurd hph' hph

theorem SwitchSystem.Safe.keepsRows (h : s.Safe hostId) (e : LockEvent)
    (hsw : (s.lockStep hostId e).switches = s.switches) :
    (∀ key, s.CountsOn key → s.locks.KeepsRow hostId key e) ↔ (s.lockStep hostId e).Safe hostId :=
  h.of_server (s.lockStep hostId e) hsw fun _ hheld => (hheld.lockStep_iff e).symm

theorem SwitchSystem.Safe.lockStep (h : s.Safe hostId) (e : LockEvent) :
    s.GuardHolds hostId (.lock e : SwitchEvent τ) ↔ (s.lockStep hostId e).Safe hostId := by
  cases e with
  | acquireEnds call lost => exact h.acquireEnds lost
  | serveRelease call principal =>
    rw [← h.keepsRows _ rfl]
    constructor
    · intro hg key hco c hfind
      exact hg c hfind key hco
    · intro hkept c hfind key hco
      exact hkept key hco c hfind
  | request principal request => exact h.keepsRows (.request principal request) rfl
  | elapse ms => exact h.keepsRows (.elapse ms) rfl
  | acquire | serveAcquire | release | releaseEnds | heartbeat | reap | configure =>
    exact iff_of_true trivial ((h.keepsRows _ rfl).1 fun _ _ => trivial)

theorem SwitchSystem.Safe.enter (h : s.Safe hostId) (hostConfig : Option (List Folder × List FolderAssignment))
    (folderId : String) : (s.enter hostConfig folderId).Safe hostId := by
  unfold SwitchSystem.enter
  cases switchGate hostConfig folderId with
  | error error => exact h
  | ok found =>
    obtain ⟨folder, assignment⟩ := found
    dsimp only
    split
    · exact h
    refine (h.put_iff s.locks.nextCall (s.locks.acquire_server folderId none) rfl).2 ⟨?_, ?_⟩
    · intro outcome hasi
      cases hasi
    · intro lock hlock
      cases hlock

theorem SwitchSystem.Safe.finalRunEnds (h : s.Safe hostId) (outcome : Except String (Option ReportStatus))
    (faults : SwitchFaults) (contents : Entries τ) :
    s.GuardHolds hostId (.finalRunEnds call outcome faults contents) ↔
      (s.finalRunEnds call outcome faults contents).Safe hostId := by
  unfold SwitchSystem.finalRunEnds
  cases hsw : s.switches call with
  | none =>
    refine iff_of_true ?_ h
    intro sw lock status hf
    cases hsw.symm.trans hf
  | some sw =>
    dsimp only
    have ho (hph : ∀ lock, sw.phase ≠ .syncing lock) :
        s.GuardHolds hostId (.finalRunEnds call outcome faults contents) := by
      intro sw' lock status hf hsy
      cases hsw.symm.trans hf
      exact absurd hsy (hph lock)
    cases hph : sw.phase with
    | locking | mounting lock | ended => exact iff_of_true (ho (by simp [hph])) h
    | syncing lock =>
      dsimp only
      have hheld : s.locks.server.HeldBy hostId lock.row := (h call sw hsw).2 lock (by rw [hph]; rfl)
      rw [h.put_iff call (by dsimp only; split <;> rfl) rfl]
      unfold MountSwitch.Safe
      have hlock : ∀ held, (if ((setAside faults ⟨contents, none⟩ outcome).1.or
          (mountRequestFault faults sw.folder sw.assignment)).isSome then SwitchPhase.ended else .mounting lock).lock =
          some held → s.locks.server.HeldBy hostId held.row := by
        intro held hph'
        split at hph'
        · cases hph'
        · cases hph'
          exact hheld
      constructor
      · intro hg
        refine ⟨?_, hlock⟩
        intro moved hmv
        dsimp only at hmv
        split at hmv
        · rename_i hasi
          cases hmv
          obtain ⟨⟨status, rfl⟩, hmo⟩ := setsAside_iff.1 hasi
          by_contra hne
          apply hmo
          apply hg sw lock status hsw hph rfl
          rintro rfl
          exact hne rfl
        · cases hmv
      · rintro ⟨hsyn, -⟩ sw' lock' status hf - rfl hne
        cases hsw.symm.trans hf
        by_contra hmo
        have hasi : setsAside faults contents (.ok status) = true := setsAside_iff.2 ⟨⟨status, rfl⟩, hmo⟩
        have hsu := hsyn (.ok status) (by rw [hasi]; rfl)
        cases hsu
        exact hne rfl

theorem SwitchSystem.Safe.mountEnds (h : s.Safe hostId) : (s.mountEnds call).Safe hostId := by
  unfold SwitchSystem.mountEnds
  cases hsw : s.switches call with
  | none => exact h
  | some sw =>
    dsimp only
    split
    · have hnd : MountSwitch.Safe { sw with phase := .ended } s.locks.server hostId := by
        refine ⟨(h call sw hsw).1, ?_⟩
        intro lock hlock
        cases hlock
      refine (h.put_iff call ?_ ?_).2 hnd
      · rfl
      · rfl
    all_goals exact h

theorem SwitchSystem.Safe.step (h : s.Safe hostId) (e : SwitchEvent τ) :
    s.GuardHolds hostId e ↔ (s.step hostId e).Safe hostId := by
  cases e with
  | lock e => exact h.lockStep e
  | call hostConfig folderId => exact iff_of_true trivial (h.enter hostConfig folderId)
  | finalRunEnds call outcome faults contents => exact h.finalRunEnds outcome faults contents
  | mountEnds call error => exact iff_of_true trivial h.mountEnds

end Steps

/-- **Switches set aside synced data under their lock.** In every state of a run of the daemon and the server the switches
are safe — they moved the contents of a local path only behind a final run that was a success, and each holds its row from
before the final run until its mount is up — exactly when every step of the run meets the condition. -/
theorem switches_safe_iff (hostId : String) (server : LockServer) (es : List (SwitchEvent τ)) :
    (∀ before after, es = before ++ after →
      (run (SwitchSystem.step hostId) (newSwitchSystem server) before).Safe hostId) ↔
    Always (SwitchSystem.step hostId) (fun s e => s.GuardHolds hostId e) (newSwitchSystem server) es := by
  have hnew : (newSwitchSystem server).Safe hostId := by
    intro call sw hsw
    cases hsw
  exact (always_iff_invariant hnew fun s e h => h.step e).symm

def exampleSwitchConfig : Option (List Folder × List FolderAssignment) :=
  some ([{ id := "f", name := "docs", type := .sync, backend := some .s3, backendId := some "b" }],
    [{ id := "a", folderId := "f", hostId := "h", localPath := "/docs" }])

def exampleSwitchLocked : List (SwitchEvent Nat) :=
  [.call exampleSwitchConfig "f", .lock (.serveAcquire 0 (some (.device "k" "h"))), .lock (.acquireEnds 0 false)]

def exampleSwitchDeferred : List (SwitchEvent Nat) :=
  exampleSwitchLocked ++ [.finalRunEnds 0 (.ok (some .deferred)) (fun _ => none) exampleContents]

def exampleSwitchSynced : List (SwitchEvent Nat) :=
  let handle : LockHandle := ⟨"f", exampleLockKey, 1, 1200, 0, exampleLockKey⟩
  exampleSwitchLocked ++ (exampleAcquire 1 "f" (some exampleLockKey)).map .lock ++
    [.lock (.release "f" (some handle) none), .lock (.serveRelease 2 (some (.device "k" "h"))), .lock (.releaseEnds 2),
      .finalRunEnds 0 (.ok (some .success)) (fun _ => none) exampleContents]

/-- The first switch has set unsynced contents aside, and the second one awaits its mount when the row of the destination
is gone. -/
theorem switch_after_final_run :
    let run := run (SwitchSystem.step "h") (newSwitchSystem exampleLockServer)
    ((run exampleSwitchDeferred).switches 0).map (fun sw => (sw.aside.map Except.toOption)) =
        some (some (some (some .deferred))) ∧ ¬(run exampleSwitchDeferred).Safe "h" ∧
      ((run exampleSwitchSynced).switches 0).map (fun sw => sw.phase.lock.map LockHandle.row) =
        some (some exampleLockKey) ∧
      (run exampleSwitchSynced).locks.server.rows exampleLockKey = none ∧ ¬(run exampleSwitchSynced).Safe "h" := by
  have hde : ((run (SwitchSystem.step "h") (newSwitchSystem exampleLockServer) exampleSwitchDeferred).switches 0).map
      (fun sw => (sw.aside.map Except.toOption)) = some (some (some (some .deferred))) := by decide +kernel
  have hsy : ((run (SwitchSystem.step "h") (newSwitchSystem exampleLockServer) exampleSwitchSynced).switches 0).map
      (fun sw => sw.phase.lock.map LockHandle.row) = some (some exampleLockKey) := by decide +kernel
  have hgone : (run (SwitchSystem.step "h") (newSwitchSystem exampleLockServer) exampleSwitchSynced).locks.server.rows
      exampleLockKey = none := by decide +kernel
  refine ⟨hde, ?_, hsy, hgone, ?_⟩
  · intro hsafe
    obtain ⟨sw, hsw, hasi⟩ := Option.map_eq_some_iff.1 hde
    obtain ⟨outcome, hout, hst⟩ := Option.map_eq_some_iff.1 hasi
    rw [(hsafe 0 sw hsw).1 outcome hout] at hst
    cases hst
  intro hsafe
  obtain ⟨sw, hsw, hlock⟩ := Option.map_eq_some_iff.1 hsy
  obtain ⟨lock, hco, hrow⟩ := Option.map_eq_some_iff.1 hlock
  obtain ⟨row, -, hheld, -⟩ := (hsafe 0 sw hsw).2 lock hco
  rw [hrow, hgone] at hheld
  cases hheld

end LamaSync
