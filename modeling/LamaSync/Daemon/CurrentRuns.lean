import LamaSync.Daemon.FolderWatch
import LamaSync.Daemon.KeyedMutex
import LamaSync.Daemon.Scheduler

/-!
# Runs of the current configuration

A timer of the scheduler and a watch controller capture the assignment that they were made for, and so does a run that
waits for another run of its folder.  A refresh replaces the configuration, and then makes the timers anew and reconciles
the controllers.

The timers are always those of the new configuration.  A controller, though, is replaced only when its signature has
changed, which has few of the fields that a run reads, and a waiting run is not looked at (`runs_use_current`).
-/

namespace LamaSync

open Trace

structure WatchedAssignment extends FolderAssignment where
  watchEnabled : Bool := false
  watchQuietSec : Option Rat := none

/-- What the daemon reads of the configuration of its host.  The rows of the server have unique ids. -/
structure RunConfig where
  assignments : List WatchedAssignment
  folders : List Folder
  apps : List AppCaptureAssignment
  keys : ((assignments.map fun a => a.id) ++ apps.map fun a => "app:" ++ a.protectionId).Nodup

def RunConfig.runnable (config : RunConfig) : List FolderAssignment :=
  config.assignments.map WatchedAssignment.toFolderAssignment

def RunConfig.schedule (config : RunConfig) : ScheduleConfig := ⟨config.runnable, config.folders, config.apps⟩

/-- No configuration is loaded: the getters return nothing. -/
def emptyRunConfig : RunConfig := ⟨[], [], [], List.nodup_nil⟩

theorem RunConfig.keys_schedule (config : RunConfig) : (config.schedule.targets.map ScheduleTarget.key).Nodup := by
  have hkeys := config.keys
  simpa [ScheduleConfig.targets, RunConfig.schedule, RunConfig.runnable, Function.comp_def, ScheduleTarget.key] using hkeys

structure WatchSignature where
  watchEnabled : Bool
  watchQuietSec : Option Rat
  ignoreGitMetadata : Bool
  respectGitignore : Bool
  localPath : String
  type : FolderType
  deriving DecidableEq

structure WatchPaths where
  existsSync : String → Bool
  hasGitWorktree : String → Bool
  starts : String → Bool

structure Watcher where
  assignment : WatchedAssignment
  sig : WatchSignature
  ctl : WatchController

def watchSignature (assignment : WatchedAssignment) (folder : Folder) : WatchSignature where
  watchEnabled := assignment.watchEnabled
  watchQuietSec := assignment.watchQuietSec
  ignoreGitMetadata := assignment.ignoreGitMetadata
  respectGitignore := assignment.respectGitignore
  localPath := assignment.localPath
  type := effectiveFolderType folder assignment.toFolderAssignment

def RunConfig.watchable (config : RunConfig) (paths : WatchPaths) (assignment : WatchedAssignment) : Option WatchSignature :=
  match config.folders.find? fun f => f.id == assignment.folderId with
  | none => none
  | some folder =>
    if !assignment.enabled then none
    else if !assignment.watchEnabled then none
    else if effectiveFolderType folder assignment.toFolderAssignment ≠ .sync then none
    else if !paths.existsSync assignment.localPath then none
    else if assignment.respectGitignore && !paths.hasGitWorktree assignment.localPath then none
    else some (watchSignature assignment folder)

def reconcileOne (config : RunConfig) (paths : WatchPaths) (s : Table String Watcher × List String)
    (assignment : WatchedAssignment) : Table String Watcher × List String :=
  match config.watchable paths assignment with
  | none => s
  | some sig =>
    if (s.1 assignment.id).any fun existing => existing.sig = sig then (s.1, assignment.id :: s.2)
    else
      (s.1.put assignment.id
        ⟨assignment, sig, (WatchController.new assignment.watchQuietSec).start (paths.starts assignment.id)⟩,
        assignment.id :: s.2)

def reconcile (config : RunConfig) (paths : WatchPaths) (controllers : Table String Watcher) : Table String Watcher :=
  let looped := config.assignments.foldl (reconcileOne config paths) (controllers, [])
  fun id => if id ∈ looped.2 then looped.1 id else none

inductive TriggerOrigin where
  | manual | schedule | watch
  deriving DecidableEq

/-- A call of `runLocked` with what it captured. -/
structure QueuedRun where
  assignment : FolderAssignment
  origin : TriggerOrigin

structure RunSystem where
  config : RunConfig
  scheduler : Scheduler
  controllers : Table String Watcher
  mutex : KeyedMutex String Unit
  queued : Table Nat QueuedRun

inductive RunEvent where
  | refresh (config : RunConfig) (saved : Bool) (clocks : String → Clock) (paths : WatchPaths)
  | fires (timer : Nat) (firing : Firing) (clock : Clock)
  | dirty (id : String)
  | quiet (id : String) (timer : Nat)
  | watchRunEnds (id : String) (ok : Bool)
  | dispatch (assignment : FolderAssignment)
  | starts (call : Nat)
  | ends (call : Nat) (outcome : Except String Unit)

namespace RunSystem

variable (nextCron : String → Int → Option Int) (rebootDelayMs : Option Int) (s : RunSystem)

def runOnce (assignment : FolderAssignment) (origin : TriggerOrigin) : RunSystem :=
  if s.config.folders.any fun f => f.id == assignment.folderId then
    { s with
      mutex := s.mutex.enter assignment.folderId
      queued := s.queued.put s.mutex.next ⟨assignment, origin⟩ }
  else s

def called (timer : Nat) (firing : Firing) : Option ScheduleTarget :=
  ((s.scheduler.fire nextCron rebootDelayMs timer { firing with throws := false }).calls.drop
    s.scheduler.calls.length).head?.map TickCall.target

def fired (timer : Nat) (firing : Firing) (clock : Clock) : Scheduler :=
  let fired := s.scheduler.fire nextCron rebootDelayMs timer { firing with throws := false }
  if (s.called nextCron rebootDelayMs timer firing).isSome then
    fired.settle nextCron rebootDelayMs s.scheduler.next clock
  else fired

def watch (id : String) (e : WatchEvent) : RunSystem :=
  match s.controllers id with
  | none => s
  | some w =>
    let ctl := watchStep w.ctl e
    let stepped := { s with controllers := s.controllers.put id { w with ctl := ctl } }
    if w.ctl.started < ctl.started then stepped.runOnce w.assignment.toFolderAssignment .watch else stepped

def step : RunEvent → RunSystem
  | .refresh config saved clocks paths =>
    if saved then
      { s with
        config := config
        scheduler := s.scheduler.refresh nextCron rebootDelayMs config.schedule clocks
        controllers := reconcile config paths s.controllers }
    else { s with config := config, scheduler := { s.scheduler with config := config.schedule } }
  | .fires timer firing clock =>
    let fired := { s with scheduler := s.fired nextCron rebootDelayMs timer firing clock }
    match s.called nextCron rebootDelayMs timer firing with
    | some (.assignment a) => fired.runOnce a .schedule
    | _ => fired
  | .dirty id => s.watch id .dirty
  | .quiet id timer => s.watch id (.fires timer)
  | .watchRunEnds id ok => s.watch id (.runSettles ok)
  | .dispatch a => s.runOnce a .manual
  | .starts call => { s with mutex := mutexStep s.mutex (.start call) }
  | .ends call outcome => { s with mutex := mutexStep s.mutex (.settle call outcome) }

def new : RunSystem where
  config := emptyRunConfig
  scheduler := newScheduler emptyRunConfig.schedule
  controllers := fun _ => none
  mutex := .new
  queued := fun _ => none

def RunsCurrent : RunEvent → Prop
  | .starts call => ∀ c ∈ s.mutex.calls call, s.mutex.mayStart c = true → ∀ r ∈ s.queued call, r.origin ≠ .manual →
      r.assignment ∈ s.config.runnable
  | .fires timer firing _ => ∀ target ∈ s.called nextCron rebootDelayMs timer firing, target ∈ s.config.schedule.targets
  | _ => True

def KeepsCurrent : RunEvent → Prop
  | .refresh config saved _ paths => saved = true ∧
      (∀ id w, s.controllers id = some w → ∀ a ∈ config.assignments, a.id = id →
        config.watchable paths a = some w.sig → w.assignment.toFolderAssignment = a.toFolderAssignment) ∧
      ∀ call c r, s.mutex.calls call = some c → c.phase.isWaiting = true → s.queued call = some r → r.origin ≠ .manual →
        r.assignment ∈ config.runnable
  | _ => True

end RunSystem

section Timers

variable {nextCron : String → Int → Option Int} {rebootDelayMs : Option Int} {s : Scheduler}

private theorem cr_schedule (target : ScheduleTarget) (clock : Clock) :
    (s.schedule nextCron rebootDelayMs target clock).config = s.config ∧
      (s.schedule nextCron rebootDelayMs target clock).calls = s.calls := by
  unfold Scheduler.schedule
  cases s.plan nextCron rebootDelayMs target clock with
  | none | some timer => exact ⟨rfl, rfl⟩

private theorem cr_refresh (config : ScheduleConfig) (clocks : String → Clock) :
    (s.refresh nextCron rebootDelayMs config clocks).config = config := by
  have hloop : ∀ (targets : List ScheduleTarget) (s : Scheduler), (targets.foldl (fun s target =>
      s.schedule nextCron rebootDelayMs target (clocks target.key)) s).config = s.config := by
    intro targets
    induction targets with
    | nil => exact fun _ => rfl
    | cons target targets ih => exact fun s => (ih _).trans (cr_schedule _ _).1
  exact hloop config.targets _

private theorem cr_fire (h : SchedulerInv s) (id : Nat) {firing : Firing} (hthr : firing.throws = false) :
    (s.fire nextCron rebootDelayMs id firing).config = s.config ∧
    ((s.fire nextCron rebootDelayMs id firing).calls = s.calls ∨
      ∃ t ∈ s.live, (s.fire nextCron rebootDelayMs id firing).calls = s.calls ++ [⟨t.target, s.running⟩] ∧
        t.target.key ∉ ((s.fire nextCron rebootDelayMs id firing).live.map fun timer => timer.target.key) ∧
        ∃ rearms, (s.fire nextCron rebootDelayMs id firing).ticks s.next = some ⟨t.target, rearms⟩) := by
  unfold Scheduler.fire
  cases hfind : s.live.find? fun t => t.id == id with
  | none => exact ⟨rfl, .inl rfl⟩
  | some t =>
    have ht : t ∈ s.live := List.mem_of_find?_eq_some hfind
    have hid : t.id = id := by simpa using List.find?_some hfind
    subst hid
    obtain ⟨-, hfree⟩ := h.expire ht
    simp only [Scheduler.runJob]
    have htick : ∀ rearms, ((s.ticks.put s.next ⟨t.target, rearms⟩) s.next) = some ⟨t.target, rearms⟩ :=
      fun _ => Table.put_self
    cases t.job with
    | oneShot kind =>
      simp only [Scheduler.fireOneShot]
      split
      · exact ⟨rfl, .inl rfl⟩
      refine ⟨rfl, .inr ⟨t, ht, rfl, hfree, false, ?_⟩⟩
      simp only [Scheduler.callTick, hthr, Bool.false_eq_true, if_false]
      exact htick false
    | retry =>
      simp only [Scheduler.fireRetry]
      split
      · exact ⟨(cr_schedule _ _).1, .inl (cr_schedule _ _).2⟩
      · exact ⟨rfl, .inl rfl⟩
    | parked expr =>
      simp only [Scheduler.fireParked]
      split
      · exact ⟨rfl, .inl rfl⟩
      cases Scheduler.planCron nextCron expr firing.clock with
      | none | some timer => exact ⟨rfl, .inl rfl⟩
    | cron expr =>
      simp only [Scheduler.fireCron]
      split
      · split
        · exact ⟨(cr_schedule _ _).1, .inl (cr_schedule _ _).2⟩
        · exact ⟨rfl, .inl rfl⟩
      refine ⟨rfl, .inr ⟨t, ht, rfl, hfree, true, ?_⟩⟩
      simp only [Scheduler.callTick, hthr, Bool.false_eq_true, if_false]
      exact htick true

end Timers

structure RunInv (s : RunSystem) : Prop where
  timers : SchedulerInv s.scheduler
  config : s.scheduler.config = s.config.schedule
  controllers : ∀ id w, s.controllers id = some w →
    w.assignment.id = id ∧ w.assignment.toFolderAssignment ∈ s.config.runnable
  waiting : ∀ call c r, s.mutex.calls call = some c → c.phase.isWaiting = true → s.queued call = some r →
    r.origin ≠ .manual → r.assignment ∈ s.config.runnable

section Steps

variable {nextCron : String → Int → Option Int} {rebootDelayMs : Option Int} {s : RunSystem} {e : RunEvent}

private theorem cr_fired (hinv : RunInv s) (timer : Nat) (firing : Firing) (clock : Clock) :
    (∀ target ∈ s.called nextCron rebootDelayMs timer firing, target ∈ s.config.schedule.targets) ∧
      SchedulerInv (s.fired nextCron rebootDelayMs timer firing clock) ∧
      (s.fired nextCron rebootDelayMs timer firing clock).config = s.scheduler.config := by
  have hfd := @SchedulerInv.fire nextCron rebootDelayMs _ hinv.timers timer { firing with throws := false }
  obtain ⟨hcfg, hca⟩ :=
    @cr_fire nextCron rebootDelayMs _ hinv.timers timer { firing with throws := false } rfl
  unfold RunSystem.called RunSystem.fired RunSystem.called
  rcases hca with hca | ⟨t, ht, hca, hfree, rearms, htick⟩
  · simp only [hca, List.drop_length, List.head?_nil, Option.map_none, Option.isSome_none, Bool.false_eq_true, if_false]
    exact ⟨fun _ h => (by cases h), hfd, hcfg⟩
  simp only [hca, List.drop_left, List.head?_cons, Option.map_some, Option.isSome_some, if_true]
  have htgt := (hinv.timers.current t ht).1
  refine ⟨?_, ?_, ?_⟩
  · rintro _ ⟨⟩
    exact hinv.config ▸ htgt
  · refine hfd.step (e := .settle s.scheduler.next clock) ?_
    intro tick hmem _ _ _
    obtain rfl := Option.mem_unique htick hmem
    exact ⟨hcfg ▸ htgt, hfree⟩
  rw [settle_eq htick]
  split
  · exact (cr_schedule _ _).1.trans hcfg
  · exact hcfg

private theorem cr_runOnce (hinv : RunInv s) {a : FolderAssignment} {origin : TriggerOrigin}
    (ha : origin ≠ .manual → a ∈ s.config.runnable) : RunInv (s.runOnce a origin) := by
  unfold RunSystem.runOnce
  split
  · refine { hinv with waiting := fun call c r hc hwt hr horig => ?_ }
    simp only [KeyedMutex.enter] at hc
    rcases Table.of_put hr with ⟨-, rfl⟩ | ⟨hne, hold⟩
    · exact ha horig
    · rw [Table.put_of_ne hne] at hc
      exact hinv.waiting call c r hc hwt hold horig
  · exact hinv

private theorem cr_mutex (hinv : RunInv s) {e : MutexEvent String Unit}
    (hmv : ∀ call c, (mutexStep s.mutex e).calls call = some c → c.phase.isWaiting = true →
      s.mutex.calls call = some c) : RunInv { s with mutex := mutexStep s.mutex e } :=
  { hinv with waiting := fun call c r hc hwt => hinv.waiting call c r (hmv call c hc hwt) hwt }

private theorem cr_watch (hinv : RunInv s) (id : String) (e : WatchEvent) : RunInv (s.watch id e) := by
  unfold RunSystem.watch
  split
  · exact hinv
  rename_i w hw
  have hst : RunInv { s with controllers := s.controllers.put id { w with ctl := watchStep w.ctl e } } := by
    refine { hinv with controllers := fun i w' hw' => ?_ }
    rcases Table.of_put hw' with ⟨rfl, rfl⟩ | ⟨-, hold⟩
    · exact hinv.controllers _ w hw
    · exact hinv.controllers i w' hold
  simp only
  split
  · exact cr_runOnce hst fun _ => (hinv.controllers id w hw).2
  · exact hst

private theorem cr_loop {config : RunConfig} {paths : WatchPaths} {controllers : Table String Watcher}
    (hids : ∀ id w, controllers id = some w → w.assignment.id = id)
    (hkp : ∀ id w, controllers id = some w → ∀ a ∈ config.assignments, a.id = id →
      config.watchable paths a = some w.sig → w.assignment.toFolderAssignment = a.toFolderAssignment)
    {l : List WatchedAssignment} (hl : ∀ a ∈ l, a ∈ config.assignments) {st : Table String Watcher × List String}
    (hwant : ∀ id ∈ st.2, ∀ w, st.1 id = some w → w.assignment.id = id ∧ w.assignment.toFolderAssignment ∈ config.runnable)
    (hoth : ∀ id, id ∉ st.2 → st.1 id = controllers id) :
    ∀ id ∈ (l.foldl (reconcileOne config paths) st).2, ∀ w, (l.foldl (reconcileOne config paths) st).1 id = some w →
      w.assignment.id = id ∧ w.assignment.toFolderAssignment ∈ config.runnable := by
  induction l generalizing st with
  | nil => exact hwant
  | cons a l ih =>
    obtain ⟨ha, hl⟩ := List.forall_mem_cons.1 hl
    have hmem : a.toFolderAssignment ∈ config.runnable := List.mem_map_of_mem ha
    rw [List.foldl_cons]
    cases hsig : config.watchable paths a with
    | none =>
      have hsame : reconcileOne config paths st a = st := by simp only [reconcileOne, hsig]
      rw [hsame]
      exact ih hl hwant hoth
    | some sig =>
      by_cases hkept : (st.1 a.id).any (fun existing => existing.sig = sig) = true
      · have hsame : reconcileOne config paths st a = (st.1, a.id :: st.2) := by
          simp only [reconcileOne, hsig, if_pos hkept]
        rw [hsame]
        refine ih hl (fun id hid w hw => ?_) fun id hid => hoth id fun h => hid (.tail _ h)
        rcases List.mem_cons.1 hid with rfl | hid
        · by_cases hold : a.id ∈ st.2
          · exact hwant _ hold w hw
          · have hw : st.1 a.id = some w := hw
            have hbef := hoth _ hold ▸ hw
            have hsame : w.sig = sig := by simpa [hw] using hkept
            refine ⟨hids _ w hbef, ?_⟩
            rw [hkp _ w hbef a ha rfl (hsame ▸ hsig)]
            exact hmem
        · exact hwant id hid w hw
      · have hnew : reconcileOne config paths st a = (st.1.put a.id
            ⟨a, sig, (WatchController.new a.watchQuietSec).start (paths.starts a.id)⟩, a.id :: st.2) := by
          simp only [reconcileOne, hsig, if_neg hkept]
        rw [hnew]
        refine ih hl (fun id hid w hw => ?_) fun id hid => ?_
        · rcases Table.of_put hw with ⟨rfl, rfl⟩ | ⟨hne, hold⟩
          · exact ⟨rfl, hmem⟩
          · exact hwant id ((List.mem_cons.1 hid).resolve_left hne) w hold
        · have hne : id ≠ a.id := fun heq => hid (heq ▸ .head _)
          exact (Table.put_of_ne hne).trans (hoth id fun h => hid (.tail _ h))

private theorem cr_reconcile {config : RunConfig} {paths : WatchPaths} {controllers : Table String Watcher}
    (hids : ∀ id w, controllers id = some w → w.assignment.id = id)
    (hkp : ∀ id w, controllers id = some w → ∀ a ∈ config.assignments, a.id = id →
      config.watchable paths a = some w.sig → w.assignment.toFolderAssignment = a.toFolderAssignment)
    {id : String} {w : Watcher} (hw : reconcile config paths controllers id = some w) :
    w.assignment.id = id ∧ w.assignment.toFolderAssignment ∈ config.runnable := by
  unfold reconcile at hw
  split at hw
  · rename_i hid
    exact cr_loop hids hkp (fun _ h => h) (fun _ h => (by cases h)) (fun _ _ => rfl) id hid w hw
  · cases hw

theorem RunInv.step (hinv : RunInv s) (hgood : s.KeepsCurrent e) : RunInv (s.step nextCron rebootDelayMs e) := by
  cases e with
  | refresh config saved clocks paths =>
    obtain ⟨rfl, hkp, hwait⟩ := hgood
    have har : ((s.scheduler.armedBy nextCron rebootDelayMs config.schedule clocks).map ScheduleTarget.key).Nodup :=
      config.keys_schedule.sublist ((List.filter_sublist).map _)
    exact
      { timers := @SchedulerInv.step nextCron rebootDelayMs _ hinv.timers (.refresh config.schedule clocks) har
        config := cr_refresh _ _
        controllers := fun id w hw => cr_reconcile (fun id w h => (hinv.controllers id w h).1) hkp hw
        waiting := hwait }
  | fires timer firing clock =>
    obtain ⟨hca, hti, hcfg⟩ := @cr_fired nextCron rebootDelayMs _ hinv timer firing clock
    have hfd : RunInv { s with scheduler := s.fired nextCron rebootDelayMs timer firing clock } :=
      { hinv with
        timers := hti
        config := hcfg.trans hinv.config }
    simp only [RunSystem.step]
    split
    · rename_i a ha
      refine cr_runOnce hfd fun _ => ?_
      have htgt := hca _ ha
      simpa [ScheduleConfig.targets, RunConfig.schedule] using htgt
    · exact hfd
  | dirty id | quiet id timer | watchRunEnds id ok => exact cr_watch hinv id _
  | dispatch a => exact cr_runOnce hinv fun h => absurd rfl h
  | starts call | ends call outcome =>
    refine cr_mutex hinv fun i c hc hwt => ?_
    simp only [mutexStep] at hc
    cases hcall : s.mutex.calls call with
    | none =>
      rw [hcall] at hc
      exact hc
    | some c₀ =>
      rw [hcall, Option.elim_some] at hc
      split at hc
      · rcases Table.of_put hc with ⟨-, rfl⟩ | ⟨-, hold⟩
        · cases hwt
        · exact hold
      · exact hc

theorem runInv_new : RunInv .new where
  timers := schedulerInv_new _
  config := rfl
  controllers _ _ h := by cases h
  waiting _ _ _ h := by cases h

theorem RunInv.runsCurrent (hinv : RunInv s) : s.RunsCurrent nextCron rebootDelayMs e := by
  cases e with
  | starts call =>
    intro c hc hst r hr horig
    exact hinv.waiting call c r hc (Bool.and_eq_true_iff.1 hst).1 hr horig
  | fires timer firing clock => exact (@cr_fired nextCron rebootDelayMs _ hinv timer firing clock).1
  | _ => trivial

/-- In every run whose refreshes keep no controller and no waiting run with an assignment that has changed, what the
scheduler and the controllers run is of the configuration as it is when the run starts. -/
theorem runs_use_current (nextCron : String → Int → Option Int) (rebootDelayMs : Option Int) (events : List RunEvent)
    (h : Always (RunSystem.step nextCron rebootDelayMs) RunSystem.KeepsCurrent .new events) :
    Always (RunSystem.step nextCron rebootDelayMs) (RunSystem.RunsCurrent nextCron rebootDelayMs) .new events :=
  h.of_invariant runInv_new (fun _ _ hinv hgood => hinv.step hgood) fun _ _ hinv _ => hinv.runsCurrent

end Steps

def watchedDocs (strategy : ConflictStrategy) : RunConfig where
  assignments := [{
    id := "a", folderId := "f", hostId := "h", localPath := "/docs", syncExpr := some "* * * * * *",
    conflictStrategy := some strategy, watchEnabled := true, watchQuietSec := some 10 }]
  folders := [{ id := "f", name := "docs", type := .sync }]
  apps := []
  keys := List.nodup_singleton _

def everyPath : WatchPaths := ⟨fun _ => true, fun _ => false, fun _ => true⟩

/-- The same with another folder. -/
def grownDocs : RunConfig where
  assignments := (watchedDocs .manual).assignments ++ [{ id := "b", folderId := "g", hostId := "h", localPath := "/music" }]
  folders := (watchedDocs .manual).folders ++ [{ id := "g", name := "music", type := .sync }]
  apps := []
  keys := by decide

/-- A scheduled run, behind which a run of the watcher waits when the configuration is replaced. -/
def scheduledEvents : List RunEvent := [
  .refresh (watchedDocs .manual) true (fun _ => ⟨0, 0⟩) everyPath, .fires 0 ⟨1000, none, ⟨1000, 1000⟩, false⟩ ⟨1000, 1000⟩,
  .starts 0, .dirty "a", .quiet "a" 0, .refresh grownDocs true (fun _ => ⟨2000, 2000⟩) everyPath, .ends 0 (.ok ()), .starts 1,
  .ends 1 (.ok ())]

theorem runs_use_current_scheduled :
    (∃ s, s = run (RunSystem.step everySecond none) .new (scheduledEvents.take 5) ∧ (s.controllers "a").isSome = true ∧
      (s.mutex.calls 1).any (fun c => c.phase.isWaiting) = true) ∧
    Always (RunSystem.step everySecond none) (RunSystem.RunsCurrent everySecond none) .new scheduledEvents := by
  refine ⟨⟨_, rfl, by decide +kernel⟩, runs_use_current everySecond none scheduledEvents ?_⟩
  have hbef : Always (RunSystem.step everySecond none) RunSystem.KeepsCurrent .new (scheduledEvents.take 5) := by
    refine ⟨⟨rfl, ?_, ?_⟩, trivial, trivial, trivial, trivial, trivial⟩
    · exact fun _ _ h => by cases h
    · exact fun _ _ _ h => by cases h
  have hinv := hbef.invariant runInv_new fun _ _ hinv hgood => hinv.step hgood
  have hcfg : (run (RunSystem.step everySecond none) .new (scheduledEvents.take 5)).config = watchedDocs .manual := rfl
  change Always _ _ _ (scheduledEvents.take 5 ++ scheduledEvents.drop 5)
  refine always_append.2 ⟨hbef, ⟨rfl, fun id w hw a ha hid _ => ?_, fun call c r hc hwt hr horig => ?_⟩,
    trivial, trivial, trivial, trivial⟩
  · obtain ⟨hown, hru⟩ := hinv.controllers id w hw
    rw [hcfg] at hru
    have hdocs := List.mem_singleton.1 hru
    have hida : id = "a" := hown.symm.trans (congrArg FolderAssignment.id hdocs)
    rcases List.mem_cons.1 ha with rfl | ha
    · exact hdocs
    · rw [List.mem_singleton.1 ha, hida] at hid
      exact absurd hid (by decide)
  · have hwait := hinv.waiting call c r hc hwt hr horig
    rw [hcfg] at hwait
    rw [List.mem_singleton.1 hwait]
    exact .head _

def changedEvents : List RunEvent := [
  .refresh (watchedDocs .newerWins) true (fun _ => ⟨0, 0⟩) everyPath,
  .refresh (watchedDocs .manual) true (fun _ => ⟨0, 0⟩) everyPath, .dirty "a", .quiet "a" 0, .starts 0]

theorem watch_runs_stale_assignment :
    ¬Always (RunSystem.step everySecond none) (RunSystem.RunsCurrent everySecond none) .new changedEvents := by
  intro h
  have hsp : Always (RunSystem.step everySecond none) (RunSystem.RunsCurrent everySecond none) .new
      (changedEvents.take 4 ++ .starts 0 :: []) := h
  have hev : ((run (RunSystem.step everySecond none) .new (changedEvents.take 4)).mutex.calls 0).any (fun c =>
        (run (RunSystem.step everySecond none) .new (changedEvents.take 4)).mutex.mayStart c) = true ∧
      ((run (RunSystem.step everySecond none) .new (changedEvents.take 4)).queued 0).any (fun r =>
        r.origin = .watch && !(run (RunSystem.step everySecond none) .new (changedEvents.take 4)).config.runnable.contains
          r.assignment) = true := by
    decide +kernel
  obtain ⟨⟨c, hc, hsta⟩, ⟨r, hr, hst⟩⟩ := hev.imp (Option.any_eq_true _ _).1 (Option.any_eq_true _ _).1
  simp only [Bool.and_eq_true, decide_eq_true_eq, Bool.not_eq_true'] at hst
  have hcur := hsp.at c hc hsta r hr (by rw [hst.1]; decide)
  simp [hcur] at hst

end LamaSync
