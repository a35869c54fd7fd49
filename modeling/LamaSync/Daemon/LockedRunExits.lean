import LamaSync.Daemon.Locks
import LamaSync.Lib.Faults

/-!
# The exits of a run that holds a lock

A run enters itself in the map of the active runs and starts a timer that renews its lock, and only the statements behind
the writing of the rclone config are in a `try`.  `locked_run_gives_up_iff` says which runs give everything up before they
settle.
-/

namespace LamaSync

open Faults

/-- A report of a run, as far as the run looks at it. -/
structure LockedReport where
  hostId : String
  folderId : String
  operation : String
  status : String
  summary : Option String
  durationMs : Nat
  deriving DecidableEq

structure DaemonRuns where
  activeLocks : Table String LockHandle
  activeRuns : Table String Nat
  timers : List Nat
  configDirs : Table Nat (Option String)
  created : Nat
  releaseRequests : List (LockHandle × String × Option String)
  /-- The phases shown of the live run. -/
  progress : List (String × Option String)
  operations : List LockedReport
  reportQueue : List LockedReport

inductive RunFate where
  | returns (status : String) (summary : Option String)
  | throws (message : String)

instance : Inhabited RunFate := ⟨.returns "success" none⟩

def RunFate.Returns : RunFate → Prop
  | .returns _ _ => True
  | .throws _ => False

structure LockedCall where
  hostId : String
  folderId : String
  operation : String
  rcloneConfig : String
  usesLiveProgress : Bool
  attachOrigin : LockedReport → LockedReport

abbrev RunProg (α : Type) := Prog RunFate DaemonRuns String α

namespace RunProg

def call (effect : DaemonRuns → DaemonRuns) : RunProg Unit :=
  Prog.attempt fun fate s => match fate with
    | .returns _ _ => (.ok (), effect s)
    | .throws message => (.error (.threw message), s)

/-- A call whose exception is caught. -/
def bestEffort (p handler : RunProg Unit) : RunProg Unit := Prog.tryCatch p fun _ => handler

/-- A new number. -/
def create : RunProg Nat := do
  let s ← Prog.get
  Prog.modify fun s => { s with created := s.created + 1 }
  pure s.created

/-- The reporter sends in the background and never throws. -/
def showProgress (runs : LockedCall) (phase : String) (detail : Option String) : RunProg Unit :=
  Prog.modify fun s => { s with progress := if runs.usesLiveProgress then s.progress ++ [(phase, detail)] else s.progress }

def writeRcloneConfig (rcloneConfig : String) : RunProg Nat := do
  let dir ← create
  call fun s => { s with configDirs := s.configDirs.put dir none }
  call fun s => { s with configDirs := s.configDirs.put dir (some rcloneConfig) }
  pure dir

def cleanup (dir : Nat) : RunProg Unit :=
  bestEffort (call fun s => { s with configDirs := s.configDirs.erase dir }) (pure ())

def releaseLock (status : String) (summary : Option String) (handle : LockHandle) : RunProg Unit :=
  Prog.tryFinally
    (bestEffort (do
      Prog.modify fun s => { s with releaseRequests := s.releaseRequests ++ [(handle, status, summary)] }
      call id) (pure ()))
    (Prog.modify fun s => { s with activeLocks := s.activeLocks.erase handle.destinationKey })

def operationsRingSize : Nat := 200

def reportOperation (report : LockedReport) : RunProg Unit := do
  Prog.modify fun s =>
    let operations := s.operations ++ [report]
    { s with operations := operations.drop (operations.length - operationsRingSize) }
  bestEffort (call id) (bestEffort (call fun s => { s with reportQueue := s.reportQueue ++ [report] }) (pure ()))

def executeAssignment (runs : LockedCall) : RunProg LockedReport :=
  Prog.attempt fun fate s => match fate with
    | .returns status summary => (.ok ⟨runs.hostId, runs.folderId, runs.operation, status, summary, 0⟩, s)
    | .throws message => (.error (.threw message), s)

def executeAndReport (runs : LockedCall) (handle : LockHandle) : RunProg LockedReport := do
  let report ← executeAssignment runs
  releaseLock report.status report.summary handle
  showProgress runs (if report.status = "failed" then "failed" else "success")
    (some (report.summary.getD (if report.status = "failed" then "sync failed" else "sync completed")))
  let originReport := runs.attachOrigin report
  reportOperation originReport
  pure originReport

def reportThrown (runs : LockedCall) (handle : LockHandle) (msg : String) : RunProg LockedReport := do
  showProgress runs "failed" (some ("executor threw: " ++ msg))
  releaseLock "failed" (some msg) handle
  let errReport : LockedReport :=
    runs.attachOrigin ⟨runs.hostId, runs.folderId, runs.operation, "failed", some ("executor threw: " ++ msg), 0⟩
  reportOperation errReport
  pure errReport

def stopRenewing (runs : LockedCall) (controller timer dir : Nat) : RunProg Unit := do
  Prog.modify fun s => { s with timers := s.timers.filter fun t => t ≠ timer }
  cleanup dir
  Prog.modify fun s =>
    if s.activeRuns runs.folderId = some controller then { s with activeRuns := s.activeRuns.erase runs.folderId } else s

def startRenewing (runs : LockedCall) : RunProg (Nat × Nat) := do
  showProgress runs "lock" (some "destination lock acquired")
  let controller ← create
  Prog.modify fun s => { s with activeRuns := s.activeRuns.put runs.folderId controller }
  let timer ← create
  Prog.modify fun s => { s with timers := s.timers ++ [timer] }
  pure (controller, timer)

def runLocked (runs : LockedCall) (handle : LockHandle) : RunProg LockedReport := do
  let (controller, timer) ← startRenewing runs
  let dir ← writeRcloneConfig runs.rcloneConfig
  Prog.tryFinally (Prog.tryCatch (executeAndReport runs handle) (reportThrown runs handle)) (stopRenewing runs controller timer dir)

end RunProg

structure GivesUp (runs : LockedCall) (handle : LockHandle) (s s' : DaemonRuns) : Prop where
  lock : s'.activeLocks handle.destinationKey = none
  requested : ∃ request ∈ s'.releaseRequests, request.1 = handle
  timer : s.created + 1 ∉ s'.timers
  entry : s'.activeRuns runs.folderId = none

/-- The directory and the file of the config are written: the first two calls return. -/
def ConfigWritten (fates : List RunFate) : Prop := ∀ fate ∈ fates.take 2, fate.Returns

/-- The lock is given up, and the server was asked. -/
def Released (handle : LockHandle) (s : DaemonRuns) : Prop :=
  s.activeLocks handle.destinationKey = none ∧ ∃ request ∈ s.releaseRequests, request.1 = handle

structure SameHold (s s' : DaemonRuns) : Prop where
  locks : s'.activeLocks = s.activeLocks
  requests : s'.releaseRequests = s.releaseRequests
  runs : s'.activeRuns = s.activeRuns
  timers : s'.timers = s.timers

theorem SameHold.trans {s s' s'' : DaemonRuns} (h : SameHold s s') (h' : SameHold s' s'') : SameHold s s'' :=
  ⟨h'.locks.trans h.locks, h'.requests.trans h.requests, h'.runs.trans h.runs, h'.timers.trans h.timers⟩

theorem SameHold.released {handle : LockHandle} {s s' : DaemonRuns} (h : SameHold s s') (hr : Released handle s) :
    Released handle s' := by
  unfold Released
  rw [h.locks, h.requests]
  exact hr

section Exits

variable {runs : LockedCall} {handle : LockHandle} {s : DaemonRuns}

/-- A statement that never throws and keeps the invariant. -/
abbrev Keeps (I : DaemonRuns → Prop) (p : RunProg Unit) : Prop :=
  ∀ s, I s → wp (fun _ => True) p (fun _ s' => I s') (fun _ _ => False) s

variable {I : DaemonRuns → Prop} {fates : List RunFate}

theorem keeps_bestEffort {effect : DaemonRuns → DaemonRuns} {handler : RunProg Unit}
    (hef : ∀ s, I s → I (effect s)) (hha : Keeps I handler) :
    Keeps I (RunProg.bestEffort (RunProg.call effect) handler) := by
  intro s hs
  refine wp_tryCatch (wp_attempt trivial fun fate _ rest hrest => ?_)
  cases fate with
  | returns status summary => exact ⟨hef s hs, hrest⟩
  | throws message => exact ⟨hha s hs, hrest⟩

theorem keeps_pure : Keeps I (pure ()) := fun _ hs => wp_pure hs

theorem wp_showProgress (phase : String) (detail : Option String) :
    wp (fun _ => True) (RunProg.showProgress runs phase detail) (fun _ s' => SameHold s s') (fun _ _ => False) s :=
  wp_modify ⟨rfl, rfl, rfl, rfl⟩

theorem wp_reportOperation (report : LockedReport) :
    wp (fun _ => True) (RunProg.reportOperation report) (fun _ s' => SameHold s s') (fun _ _ => False) s := by
  refine wp_bind (wp_modify ?_)
  refine keeps_bestEffort (fun _ h => h) (keeps_bestEffort (fun t h => ?_) keeps_pure) _ ⟨rfl, rfl, rfl, rfl⟩
  exact ⟨h.locks, h.requests, h.runs, h.timers⟩

theorem wp_releaseLock (status : String) (summary : Option String) :
    wp (fun _ => True) (RunProg.releaseLock status summary handle)
      (fun _ s' => Released handle s' ∧ s'.activeRuns = s.activeRuns) (fun _ _ => False) s := by
  have hask : wp (fun _ => True) (RunProg.bestEffort (do
      Prog.modify fun s => { s with releaseRequests := s.releaseRequests ++ [(handle, status, summary)] }
      RunProg.call id) (pure ()))
      (fun _ s' => (∃ request ∈ s'.releaseRequests, request.1 = handle) ∧ s'.activeRuns = s.activeRuns)
      (fun _ _ => False) s := by
    unfold RunProg.bestEffort
    refine wp_tryCatch (wp_bind (wp_modify (wp_attempt trivial fun fate _ rest hrest => ?_)))
    have hnew : ∃ request ∈ s.releaseRequests ++ [(handle, status, summary)], request.1 = handle :=
      ⟨(handle, status, summary), by simp, rfl⟩
    cases fate with
    | returns _ _ => exact ⟨⟨hnew, rfl⟩, hrest⟩
    | throws message => exact ⟨wp_pure ⟨hnew, rfl⟩, hrest⟩
  refine wp_tryFinally (wp_mono hask ?_ fun _ _ h => h.elim)
  rintro _ s' ⟨hask, hruns⟩
  exact wp_modify ⟨⟨Table.erase_self, hask⟩, hruns⟩

theorem wp_executeAndReport :
    wp (fun _ => True) (RunProg.executeAndReport runs handle)
      (fun _ s' => Released handle s' ∧ s'.activeRuns = s.activeRuns) (fun stop s' => stop ≠ .crashed ∧ s' = s) s := by
  refine wp_bind (wp_attempt trivial fun fate _ rest hrest => ?_)
  cases fate with
  | throws message => exact ⟨⟨nofun, rfl⟩, hrest⟩
  | returns status summary =>
    refine ⟨?_, hrest⟩
    refine wp_bind (wp_mono (wp_releaseLock status summary) ?_ fun _ _ h => h.elim)
    rintro _ s₁ ⟨hrel, hruns⟩
    refine wp_bind (wp_mono (wp_showProgress _ _) ?_ fun _ _ h => h.elim)
    intro _ s₂ h₂
    refine wp_bind (wp_mono (wp_reportOperation _) ?_ fun _ _ h => h.elim)
    intro _ s₃ h₃
    exact wp_pure ⟨(h₂.trans h₃).released hrel, (h₂.trans h₃).runs.trans hruns⟩

theorem wp_reportThrown (msg : String) :
    wp (fun _ => True) (RunProg.reportThrown runs handle msg)
      (fun _ s' => Released handle s' ∧ s'.activeRuns = s.activeRuns) (fun _ _ => False) s := by
  refine wp_bind (wp_mono (wp_showProgress _ _) ?_ fun _ _ h => h.elim)
  intro _ s₁ h₁
  refine wp_bind (wp_mono (wp_releaseLock _ _) ?_ fun _ _ h => h.elim)
  rintro _ s₂ ⟨hrel, hruns⟩
  refine wp_bind (wp_mono (wp_reportOperation _) ?_ fun _ _ h => h.elim)
  intro _ s₃ h₃
  exact wp_pure ⟨h₃.released hrel, h₃.runs.trans (hruns.trans h₁.runs)⟩

/-- Behind the `try` and the `catch` the lock is given up, whatever failed. -/
theorem wp_tryExecute :
    wp (fun _ => True) (Prog.tryCatch (RunProg.executeAndReport runs handle) (RunProg.reportThrown runs handle))
      (fun _ s' => Released handle s' ∧ s'.activeRuns = s.activeRuns) (fun _ _ => False) s := by
  refine wp_tryCatch (wp_mono wp_executeAndReport (fun _ _ h => h) ?_)
  rintro stop s' ⟨hne, rfl⟩
  cases stop with
  | threw e => exact wp_reportThrown e
  | crashed => exact hne rfl

theorem wp_stopRenewing (controller timer dir : Nat) (hs : Released handle s)
    (he : s.activeRuns runs.folderId = some controller) :
    wp (fun _ => True) (RunProg.stopRenewing runs controller timer dir)
      (fun _ s' => Released handle s' ∧ timer ∉ s'.timers ∧ s'.activeRuns runs.folderId = none) (fun _ _ => False) s := by
  refine wp_bind (wp_modify ?_)
  have hkp : Keeps (fun s' => Released handle s' ∧ timer ∉ s'.timers ∧ s'.activeRuns runs.folderId = some controller)
      (RunProg.cleanup dir) := keeps_bestEffort (fun _ h => h) keeps_pure
  refine wp_bind (wp_mono (hkp _ ⟨hs, by simp, he⟩) ?_ fun _ _ h => h)
  rintro _ s' ⟨hrel, htm, he⟩
  refine wp_modify ?_
  rw [if_pos he]
  exact ⟨hrel, htm, Table.erase_self⟩

def renewing (runs : LockedCall) (s : DaemonRuns) : DaemonRuns :=
  { s with
    progress := if runs.usesLiveProgress then s.progress ++ [("lock", some "destination lock acquired")] else s.progress
    activeRuns := s.activeRuns.put runs.folderId s.created
    timers := s.timers ++ [s.created + 1]
    created := s.created + 2 }

theorem writeRcloneConfig_of_written (rcloneConfig : String) (h : ConfigWritten fates) :
    ∃ s' rest, RunProg.writeRcloneConfig rcloneConfig s fates = ⟨.ok s.created, s', rest⟩ ∧ s'.activeRuns = s.activeRuns := by
  match fates, h with
  | [], _ => exact ⟨_, _, rfl, rfl⟩
  | [.returns _ _], _ => exact ⟨_, _, rfl, rfl⟩
  | .returns _ _ :: .returns _ _ :: _, _ => exact ⟨_, _, rfl, rfl⟩
  | .throws message :: _, h => exact (h (.throws message) (by simp)).elim
  | .returns _ _ :: .throws message :: _, h => exact (h (.throws message) (by simp)).elim

theorem writeRcloneConfig_of_not_written (rcloneConfig : String) (h : ¬ ConfigWritten fates) :
    ∃ e s' rest, RunProg.writeRcloneConfig rcloneConfig s fates = ⟨.error (.threw e), s', rest⟩ ∧ s'.timers = s.timers := by
  match fates, h with
  | [], h => exact (h (by simp [ConfigWritten])).elim
  | [.returns _ _], h => exact (h (by simp [ConfigWritten, RunFate.Returns])).elim
  | .returns _ _ :: .returns _ _ :: _, h => exact (h (by simp [ConfigWritten, RunFate.Returns])).elim
  | .throws _ :: _, _ => exact ⟨_, _, _, rfl, rfl⟩
  | .returns _ _ :: .throws _ :: _, _ => exact ⟨_, _, _, rfl, rfl⟩

theorem givesUp_of_written (h : ConfigWritten fates) :
    GivesUp runs handle s (RunProg.runLocked runs handle s fates).state := by
  obtain ⟨s', rest, hw, he⟩ :=
    writeRcloneConfig_of_written runs.rcloneConfig (s := renewing runs s) h
  have hrun : RunProg.runLocked runs handle s fates =
      Prog.tryFinally (Prog.tryCatch (RunProg.executeAndReport runs handle) (RunProg.reportThrown runs handle))
        (RunProg.stopRenewing runs s.created (s.created + 1) (s.created + 2)) s' rest := by
    show Prog.bind (RunProg.writeRcloneConfig runs.rcloneConfig) _ (renewing runs s) fates = _
    unfold Prog.bind
    rw [hw]
    rfl
  have he : s'.activeRuns runs.folderId = some s.created := by
    rw [he]
    exact Table.put_self
  have hend : wp (fun _ => True) (Prog.tryFinally
      (Prog.tryCatch (RunProg.executeAndReport runs handle) (RunProg.reportThrown runs handle))
        (RunProg.stopRenewing runs s.created (s.created + 1) (s.created + 2)))
      (fun _ s'' => GivesUp runs handle s s'') (fun _ s'' => GivesUp runs handle s s'') s' := by
    refine wp_tryFinally (wp_mono wp_tryExecute ?_ fun _ _ h => h.elim)
    rintro _ s₁ ⟨hrel, hruns⟩
    refine wp_mono (wp_stopRenewing _ _ _ hrel (by rw [hruns, he])) ?_ fun _ _ h => h.elim
    rintro _ s₂ ⟨⟨hlock, hask⟩, htm, he⟩
    exact ⟨hlock, hask, htm, he⟩
  rw [hrun]
  exact hend.state fun _ _ => trivial

theorem timer_of_not_written (h : ¬ ConfigWritten fates) :
    s.created + 1 ∈ (RunProg.runLocked runs handle s fates).state.timers := by
  obtain ⟨e, s', rest, hw, hti⟩ :=
    writeRcloneConfig_of_not_written runs.rcloneConfig (s := renewing runs s) h
  have hrun : RunProg.runLocked runs handle s fates = ⟨.error (.threw e), s', rest⟩ := by
    show Prog.bind (RunProg.writeRcloneConfig runs.rcloneConfig) _ (renewing runs s) fates = _
    unfold Prog.bind
    rw [hw]
  rw [hrun, hti]
  simp [renewing]

end Exits

/-- **A run gives up its lock, its timer and its entry exactly when its config is written.** -/
theorem locked_run_gives_up_iff (runs : LockedCall) (handle : LockHandle) (s : DaemonRuns) (fates : List RunFate) :
    GivesUp runs handle s (RunProg.runLocked runs handle s fates).state ↔ ConfigWritten fates := by
  refine ⟨fun h => ?_, givesUp_of_written⟩
  by_contra hno
  exact h.timer (timer_of_not_written hno)

def docsCall : LockedCall := ⟨"laptop", "docs", "sync", "[remote]", false, id⟩

def exampleHandle : LockHandle := ⟨"docs", "docs", 7, 300, 0, "docs"⟩

def exampleRuns : DaemonRuns where
  activeLocks := fun key => if key = "docs" then some exampleHandle else none
  activeRuns := fun _ => none
  timers := []
  configDirs := fun _ => none
  created := 0
  releaseRequests := []
  progress := []
  operations := []
  reportQueue := []

/-- The directory for the config cannot be made: the run throws, and its lock, its timer and its entry stay. -/
theorem full_disk_keeps_lock :
    ¬ GivesUp docsCall exampleHandle exampleRuns
        (RunProg.runLocked docsCall exampleHandle exampleRuns [.throws "ENOSPC"]).state ∧
      (RunProg.runLocked docsCall exampleHandle exampleRuns [.throws "ENOSPC"]).result = .error (.threw "ENOSPC") ∧
      (RunProg.runLocked docsCall exampleHandle exampleRuns [.throws "ENOSPC"]).state.activeLocks "docs" = some exampleHandle ∧
      (RunProg.runLocked docsCall exampleHandle exampleRuns [.throws "ENOSPC"]).state.timers = [1] ∧
      (RunProg.runLocked docsCall exampleHandle exampleRuns [.throws "ENOSPC"]).state.activeRuns "docs" = some 0 := by
  have hti : (RunProg.runLocked docsCall exampleHandle exampleRuns [.throws "ENOSPC"]).state.timers = [1] := rfl
  refine ⟨fun h => h.timer ?_, rfl, rfl, hti, rfl⟩
  rw [hti]
  decide

end LamaSync
