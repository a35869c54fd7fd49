import LamaSync.Core.Folders
import LamaSync.Lib.Table
import LamaSync.Lib.Trace
import Mathlib.Data.List.Nodup

/-!
# The scheduler

Each assignment and each app protection with a schedule has a timer, which a map holds under its key.  A cron timer that
fires calls `onTick` and schedules its target again when the call has ended.  The target is the one that was captured
when the timer was set, whatever `refresh` has done in the meantime, and the new timer takes the map's entry without
clearing the timer that was there; a timer that is not in the map is cleared by nobody.

The timers of the runtime and the map are separate parts of the state.  The events are the calls of the scheduler, the
firing of a timer, which may happen in any order, and the end of an `onTick` call; they come in any order too.
`scheduler_timers` says which runs keep one timer per key, of the current configuration.
-/

namespace LamaSync

open Trace

structure ScheduleConfig where
  assignments : List FolderAssignment
  folders : List Folder
  apps : List AppCaptureAssignment

/-- What a timer is set for. -/
inductive ScheduleTarget where
  | assignment (a : FolderAssignment)
  | app (a : AppCaptureAssignment)
  deriving DecidableEq

def ScheduleTarget.key : ScheduleTarget → String
  | .assignment a => a.id
  | .app a => "app:" ++ a.protectionId

def ScheduleConfig.targets (config : ScheduleConfig) : List ScheduleTarget :=
  config.assignments.map .assignment ++ config.apps.map .app

inductive SpecialSchedule where
  | reboot | login
  deriving DecidableEq, Repr

inductive ParsedSchedule where
  | cron (expr : String)
  | special (kind : SpecialSchedule)
  | unknown
  deriving DecidableEq

def parseSchedule (expr : Option String) : ParsedSchedule :=
  match expr with
  | none => .unknown
  | some text =>
    if text = "" then .unknown
    else
      let trimmed := String.ofList (trimSpaces text.toList)
      if trimmed = "@reboot" then .special .reboot
      else if trimmed = "@login" then .special .login
      else .cron trimmed

def effectiveSchedule (config : ScheduleConfig) (assignment : FolderAssignment) : Option String :=
  if !assignment.enabled then none
  else
    let folder := config.folders.find? fun f => f.id == assignment.folderId
    if folder.any fun f => effectiveFolderType f assignment == .mount then none
    else if folder.any fun f => f.type == .dotfile then none
    else assignment.syncExpr

def ScheduleTarget.parsed (config : ScheduleConfig) : ScheduleTarget → ParsedSchedule
  | .assignment a => if !a.enabled then .unknown else parseSchedule (effectiveSchedule config a)
  | .app a => parseSchedule a.schedule

def maxTimerDelayMs : Int := 2147483647

def defaultRebootDelayMs : Int := 30000

def planTimerDelay (delayMs max : Int) : Int × Bool :=
  if delayMs ≤ 0 then (0, true) else if max < delayMs then (max, false) else (delayMs, true)

inductive TimerJob where
  | oneShot (kind : SpecialSchedule)
  | retry
  /-- A hop towards a fire time that one timer cannot reach. -/
  | parked (expr : String)
  | cron (expr : String)
  deriving DecidableEq

/-- A timer that the runtime will fire, with the target its callback captured. -/
structure LiveTimer where
  id : Nat
  target : ScheduleTarget
  job : TimerJob
  delay : Int

/-- An `onTick` call that has not ended; one of a cron timer schedules its target again at the end. -/
structure Tick where
  target : ScheduleTarget
  rearms : Bool

structure TickCall where
  target : ScheduleTarget
  running : Bool

structure Scheduler where
  timers : Table String Nat
  live : List LiveTimer
  ticks : Table Nat Tick
  next : Nat
  firedSpecial : List String
  running : Bool
  config : ScheduleConfig
  calls : List TickCall

/-- The clock readings of one scheduling. -/
structure Clock where
  currentDate : Int
  now : Int

/-- What a firing timer finds: the clock, the pause of the host with its parsed end (`none` for a text that is no date),
the readings of a scheduling that follows, and whether `onTick` throws instead of returning. -/
structure Firing where
  now : Int
  pause : Option (Option Int)
  clock : Clock
  throws : Bool

def Firing.currentPause (firing : Firing) : Option Int :=
  match firing.pause with
  | some (some pauseUntil) => if pauseUntil ≤ firing.now then none else some pauseUntil
  | some none | none => none

inductive SchedulerEvent where
  | start (config : ScheduleConfig) (clocks : String → Clock)
  | refresh (config : ScheduleConfig) (clocks : String → Clock)
  | stop
  | fire (id : Nat) (firing : Firing)
  /-- The promise of an `onTick` call is resolved or rejected. -/
  | settle (tick : Nat) (clock : Clock)

namespace Scheduler

section Step

/- `nextCron` is the third-party parser: the next time an expression names after a date, or nothing where it throws. -/
variable (nextCron : String → Int → Option Int) (rebootDelayMs : Option Int) (s : Scheduler)

def planOneShot (key : String) (kind : SpecialSchedule) : Option (TimerJob × Int) :=
  if s.firedSpecial.contains key then none
  else some (.oneShot kind, match kind with
    | .reboot => rebootDelayMs.getD defaultRebootDelayMs
    | .login => 0)

def planCron (expr : String) (clock : Clock) : Option (TimerJob × Int) :=
  match nextCron expr clock.currentDate with
  | none => none
  | some next =>
    let hop := planTimerDelay (next - clock.now) maxTimerDelayMs
    if !hop.2 then some (.parked expr, hop.1) else some (.cron expr, hop.1)

def plan (target : ScheduleTarget) (clock : Clock) : Option (TimerJob × Int) :=
  match target.parsed s.config with
  | .special kind => s.planOneShot rebootDelayMs target.key kind
  | .cron expr => planCron nextCron expr clock
  | .unknown => none

def arm (target : ScheduleTarget) (job : TimerJob) (delay : Int) : Scheduler :=
  { s with
    live := s.live ++ [⟨s.next, target, job, delay⟩]
    timers := s.timers.put target.key s.next
    next := s.next + 1 }

def armPlanned (target : ScheduleTarget) (planned : Option (TimerJob × Int)) : Scheduler :=
  planned.elim s fun timer => s.arm target timer.1 timer.2

def schedule (target : ScheduleTarget) (clock : Clock) : Scheduler :=
  s.armPlanned target (s.plan nextCron rebootDelayMs target clock)

def start (config : ScheduleConfig) (clocks : String → Clock) : Scheduler :=
  if s.running then s
  else config.targets.foldl (fun s target => s.schedule nextCron rebootDelayMs target (clocks target.key))
    { s with running := true, config := config }

def stop : Scheduler :=
  { s with
    running := false
    live := s.live.filter fun t => s.timers t.target.key ≠ some t.id
    timers := fun _ => none }

def refresh (config : ScheduleConfig) (clocks : String → Clock) : Scheduler :=
  s.stop.start nextCron rebootDelayMs config clocks

def callTick (target : ScheduleTarget) (rearms throws : Bool) : Scheduler :=
  { s with
    ticks := if throws then s.ticks else s.ticks.put s.next ⟨target, rearms⟩
    next := s.next + 1
    calls := s.calls ++ [⟨target, s.running⟩] }

def deleteEntry (key : String) : Scheduler := { s with timers := s.timers.erase key }

def markFired (key : String) : Scheduler := { s with firedSpecial := key :: s.firedSpecial }

def fireOneShot (target : ScheduleTarget) (firing : Firing) : Scheduler :=
  match firing.currentPause with
  | some pauseUntil =>
    (s.deleteEntry target.key).arm target .retry (max 1000 (min 60000 (pauseUntil - firing.clock.now)))
  | none => ((s.deleteEntry target.key).markFired target.key).callTick target false firing.throws

def fireRetry (target : ScheduleTarget) (firing : Firing) : Scheduler :=
  if s.running then (s.deleteEntry target.key).schedule nextCron rebootDelayMs target firing.clock
  else s.deleteEntry target.key

def fireParked (target : ScheduleTarget) (expr : String) (firing : Firing) : Scheduler :=
  if !s.running then s
  else (s.deleteEntry target.key).armPlanned target (planCron nextCron expr firing.clock)

def fireCron (target : ScheduleTarget) (firing : Firing) : Scheduler :=
  match firing.currentPause with
  | some _ => if s.running then s.schedule nextCron rebootDelayMs target firing.clock else s
  | none => (s.deleteEntry target.key).callTick target true firing.throws

/-- A timer that fires is no longer pending. -/
def expire (id : Nat) : Scheduler := { s with live := s.live.filter fun t => t.id ≠ id }

def runJob (t : LiveTimer) (firing : Firing) : Scheduler :=
  match t.job with
  | .oneShot _ => s.fireOneShot t.target firing
  | .retry => s.fireRetry nextCron rebootDelayMs t.target firing
  | .parked expr => s.fireParked nextCron t.target expr firing
  | .cron _ => s.fireCron nextCron rebootDelayMs t.target firing

def fire (id : Nat) (firing : Firing) : Scheduler :=
  match s.live.find? fun t => t.id == id with
  | none => s
  | some t => (s.expire id).runJob nextCron rebootDelayMs t firing

def settle (tick : Nat) (clock : Clock) : Scheduler :=
  match s.ticks tick with
  | none => s
  | some t =>
    let ended := { s with ticks := s.ticks.erase tick }
    if t.rearms && s.running then ended.schedule nextCron rebootDelayMs t.target clock else ended

def step : SchedulerEvent → Scheduler
  | .start config clocks => s.start nextCron rebootDelayMs config clocks
  | .refresh config clocks => s.refresh nextCron rebootDelayMs config clocks
  | .stop => s.stop
  | .fire id firing => s.fire nextCron rebootDelayMs id firing
  | .settle tick clock => s.settle nextCron rebootDelayMs tick clock

end Step

end Scheduler

def newScheduler (config : ScheduleConfig) : Scheduler where
  timers := fun _ => none
  live := []
  ticks := fun _ => none
  next := 0
  firedSpecial := []
  running := false
  config := config
  calls := []

def TimerJob.Serves : TimerJob → ParsedSchedule → Prop
  | .oneShot kind, parsed => parsed = .special kind
  | .retry, parsed => ∃ kind, parsed = .special kind
  | .parked expr, parsed | .cron expr, parsed => parsed = .cron expr

structure TimersInOrder (s : Scheduler) : Prop where
  keys : (s.live.map fun t => t.target.key).Nodup
  current : ∀ t ∈ s.live, t.target ∈ s.config.targets ∧ t.job.Serves (t.target.parsed s.config)
  calls : ∀ c ∈ s.calls, c.running = true

def Scheduler.armedBy (nextCron : String → Int → Option Int) (rebootDelayMs : Option Int) (s : Scheduler)
    (config : ScheduleConfig) (clocks : String → Clock) : List ScheduleTarget :=
  config.targets.filter fun target =>
    ({ s with config := config }.plan nextCron rebootDelayMs target (clocks target.key)).isSome

def Scheduler.RearmsInOrder (nextCron : String → Int → Option Int) (rebootDelayMs : Option Int) (s : Scheduler) :
    SchedulerEvent → Prop
  | .start config clocks =>
    s.running = false → ((s.armedBy nextCron rebootDelayMs config clocks).map ScheduleTarget.key).Nodup
  | .refresh config clocks => ((s.armedBy nextCron rebootDelayMs config clocks).map ScheduleTarget.key).Nodup
  | .settle tick clock => ∀ t ∈ s.ticks tick, t.rearms = true → s.running = true →
      (s.plan nextCron rebootDelayMs t.target clock).isSome →
        t.target ∈ s.config.targets ∧ t.target.key ∉ s.live.map fun timer => timer.target.key
  | .stop | .fire _ _ => True

structure SchedulerInv (s : Scheduler) : Prop extends TimersInOrder s where
  mapped : ∀ t ∈ s.live, s.timers t.target.key = some t.id
  running : ∀ t ∈ s.live, s.running = true

theorem schedulerInv_new (config : ScheduleConfig) : SchedulerInv (newScheduler config) where
  keys := List.nodup_nil
  current := by simp [newScheduler]
  calls := by simp [newScheduler]
  mapped := by simp [newScheduler]
  running := by simp [newScheduler]

section Timers

variable {nextCron : String → Int → Option Int} {rebootDelayMs : Option Int} {s : Scheduler} {target : ScheduleTarget}
  {clock : Clock}

theorem plan_serves {timer : TimerJob × Int} (h : s.plan nextCron rebootDelayMs target clock = some timer) :
    timer.1.Serves (target.parsed s.config) := by
  unfold Scheduler.plan at h
  cases hpar : target.parsed s.config with
  | unknown => rw [hpar] at h; cases h
  | special kind =>
    rw [hpar] at h
    dsimp only [Scheduler.planOneShot] at h
    split at h
    · cases h
    · cases h
      rfl
  | cron expr =>
    rw [hpar] at h
    dsimp only [Scheduler.planCron] at h
    split at h
    · cases h
    · split at h <;> cases h <;> rfl

theorem planCron_serves {expr : String} {timer : TimerJob × Int}
    (h : Scheduler.planCron nextCron expr clock = some timer) : timer.1.Serves (.cron expr) := by
  unfold Scheduler.planCron at h
  split at h
  · cases h
  · dsimp only at h
    split at h <;> cases h <;> rfl

theorem SchedulerInv.arm (h : SchedulerInv s) {job : TimerJob} {delay : Int} (hrun : s.running = true)
    (htgt : target ∈ s.config.targets) (hserv : job.Serves (target.parsed s.config))
    (hfree : target.key ∉ s.live.map fun t => t.target.key) : SchedulerInv (s.arm target job delay) where
  keys := by
    show ((s.live ++ [_]).map _).Nodup
    rw [List.map_append, List.nodup_append]
    refine ⟨h.keys, by simp, ?_⟩
    rintro key hkey key' hkey' rfl
    simp only [List.map_cons, List.map_nil, List.mem_singleton] at hkey'
    exact hfree (hkey' ▸ hkey)
  current := by
    exact List.forall_mem_append.2 ⟨h.current, List.forall_mem_singleton.2 ⟨htgt, hserv⟩⟩
  calls := h.calls
  mapped := by
    intro t ht
    show s.timers.put target.key s.next t.target.key = some t.id
    rcases List.mem_append.1 ht with hold | hnew
    · have hne : t.target.key ≠ target.key := by
        rintro heq
        exact hfree (heq ▸ List.mem_map_of_mem hold)
      rw [Table.put_of_ne hne]
      exact h.mapped t hold
    · rw [List.mem_singleton.1 hnew]
      exact Table.put_self
  running := fun _ _ => hrun

theorem SchedulerInv.armPlanned (h : SchedulerInv s) {planned : Option (TimerJob × Int)} (hrun : s.running = true)
    (htgt : target ∈ s.config.targets)
    (hserv : ∀ timer, planned = some timer → timer.1.Serves (target.parsed s.config))
    (hfree : planned.isSome → target.key ∉ s.live.map fun t => t.target.key) :
    SchedulerInv (s.armPlanned target planned) := by
  cases planned with
  | none => exact h
  | some timer => exact h.arm hrun htgt (hserv timer rfl) (hfree rfl)

theorem SchedulerInv.deleteEntry (h : SchedulerInv s) {key : String}
    (hfree : key ∉ s.live.map fun t => t.target.key) : SchedulerInv (s.deleteEntry key) where
  keys := h.keys
  current := h.current
  calls := h.calls
  mapped := by
    intro t ht
    show s.timers.erase key t.target.key = some t.id
    have hne : t.target.key ≠ key := by
      rintro heq
      exact hfree (heq ▸ List.mem_map_of_mem ht)
    rw [Table.erase_of_ne hne]
    exact h.mapped t ht
  running := h.running

theorem SchedulerInv.callTick (h : SchedulerInv s) {rearms throws : Bool} (hrun : s.running = true) :
    SchedulerInv (s.callTick target rearms throws) where
  keys := h.keys
  current := h.current
  calls := by
    exact List.forall_mem_append.2 ⟨h.calls, List.forall_mem_singleton.2 hrun⟩
  mapped := h.mapped
  running := h.running

theorem SchedulerInv.congr (h : SchedulerInv s) {s' : Scheduler} (hlive : s'.live = s.live)
    (hti : s'.timers = s.timers) (hcfg : s'.config = s.config) (hrun : s'.running = s.running)
    (hca : s'.calls = s.calls) : SchedulerInv s' where
  keys := hlive ▸ h.keys
  current := by rw [hlive, hcfg]; exact h.current
  calls := hca ▸ h.calls
  mapped := by rw [hlive, hti]; exact h.mapped
  running := by rw [hlive, hrun]; exact h.running

theorem SchedulerInv.stop_live (h : SchedulerInv s) : s.stop.live = [] := by
  show s.live.filter _ = []
  rw [List.filter_eq_nil_iff]
  intro t ht
  simp [h.mapped t ht]

theorem SchedulerInv.stop (h : SchedulerInv s) : SchedulerInv s.stop := by
  have hlive := h.stop_live
  constructor
  · constructor
    · rw [hlive]
      exact List.nodup_nil
    · simp [hlive]
    · exact h.calls
  · simp [hlive]
  · simp [hlive]

theorem schedule_effect (s : Scheduler) (target : ScheduleTarget) (clock : Clock) :
    (s.schedule nextCron rebootDelayMs target clock).config = s.config ∧
    (s.schedule nextCron rebootDelayMs target clock).running = s.running ∧
    (∀ target' clock', (s.schedule nextCron rebootDelayMs target clock).plan nextCron rebootDelayMs target' clock' =
      s.plan nextCron rebootDelayMs target' clock') ∧
    (s.schedule nextCron rebootDelayMs target clock).live.map LiveTimer.target =
      s.live.map LiveTimer.target ++ if (s.plan nextCron rebootDelayMs target clock).isSome then [target] else [] := by
  unfold Scheduler.schedule
  cases s.plan nextCron rebootDelayMs target clock with
  | none => simp [Scheduler.armPlanned]
  | some timer => simp [Scheduler.armPlanned, Scheduler.arm, Scheduler.plan, Scheduler.planOneShot]

theorem schedule_loop (s : Scheduler) (targets : List ScheduleTarget) (clocks : String → Clock) :
    (targets.foldl (fun s target => s.schedule nextCron rebootDelayMs target (clocks target.key)) s).live.map
      LiveTimer.target = s.live.map LiveTimer.target ++ targets.filter fun target =>
        (s.plan nextCron rebootDelayMs target (clocks target.key)).isSome := by
  induction targets generalizing s with
  | nil => simp
  | cons target targets ih =>
    obtain ⟨-, -, hplan, hlive⟩ :=
      @schedule_effect nextCron rebootDelayMs s target (clocks target.key)
    rw [List.foldl_cons, ih, hlive]
    simp only [hplan, List.filter_cons, List.append_assoc]
    split <;> simp

theorem live_keys (s : Scheduler) :
    (s.live.map fun t => t.target.key) = (s.live.map LiveTimer.target).map ScheduleTarget.key := by
  rw [List.map_map]
  rfl

theorem SchedulerInv.schedule (h : SchedulerInv s) (hrun : s.running = true) (htgt : target ∈ s.config.targets)
    (hfree : (s.plan nextCron rebootDelayMs target clock).isSome → target.key ∉ s.live.map fun t => t.target.key) :
    SchedulerInv (s.schedule nextCron rebootDelayMs target clock) :=
  h.armPlanned hrun htgt (fun _ hplan => plan_serves hplan) hfree

theorem SchedulerInv.schedule_loop {targets : List ScheduleTarget} {clocks : String → Clock} (h : SchedulerInv s)
    (hrun : s.running = true) (hta : ∀ target ∈ targets, target ∈ s.config.targets)
    (hkeys : ((s.live.map LiveTimer.target ++ targets.filter fun target =>
      (s.plan nextCron rebootDelayMs target (clocks target.key)).isSome).map ScheduleTarget.key).Nodup) :
    SchedulerInv
      (targets.foldl (fun s target => s.schedule nextCron rebootDelayMs target (clocks target.key)) s) := by
  induction targets generalizing s with
  | nil => exact h
  | cons target targets ih =>
    obtain ⟨hcfg, hrun', hplan, hlive⟩ :=
      @schedule_effect nextCron rebootDelayMs s target (clocks target.key)
    obtain ⟨htgt, hta⟩ := List.forall_mem_cons.1 hta
    apply ih
    · refine h.schedule hrun htgt fun har => ?_
      -- the targets before it that got a timer have other keys
      rw [List.filter_cons, if_pos har, List.map_append, List.nodup_append] at hkeys
      rw [live_keys]
      intro hmem
      exact hkeys.2.2 _ hmem target.key (by simp) rfl
    · exact hrun'.trans hrun
    · rw [hcfg]
      exact hta
    · rw [hlive]
      simp only [hplan, List.append_assoc]
      rw [List.filter_cons] at hkeys
      split at hkeys
      · rename_i har
        rw [if_pos har]
        exact hkeys
      rename_i har
      rw [if_neg har]
      exact hkeys

theorem start_live {config : ScheduleConfig} {clocks : String → Clock} (hstop : s.running = false)
    (hlive : s.live = []) : (s.start nextCron rebootDelayMs config clocks).live.map LiveTimer.target =
      s.armedBy nextCron rebootDelayMs config clocks := by
  unfold Scheduler.start
  rw [hstop, if_neg (by simp), schedule_loop]
  simp [hlive, Scheduler.armedBy, Scheduler.plan, Scheduler.planOneShot]

theorem SchedulerInv.start {config : ScheduleConfig} {clocks : String → Clock} (h : SchedulerInv s)
    (hstop : s.running = false) (hlive : s.live = [])
    (hkeys : ((s.armedBy nextCron rebootDelayMs config clocks).map ScheduleTarget.key).Nodup) :
    SchedulerInv (s.start nextCron rebootDelayMs config clocks) := by
  have hst : SchedulerInv { s with running := true, config := config } := by
    constructor
    · constructor
      · exact h.keys
      · simp [hlive]
      · exact h.calls
    · exact h.mapped
    · exact fun _ _ => rfl
  unfold Scheduler.start
  rw [hstop, if_neg (by simp)]
  apply hst.schedule_loop rfl (fun _ hmem => hmem)
  simpa [hlive, Scheduler.armedBy, Scheduler.plan, Scheduler.planOneShot] using hkeys

theorem SchedulerInv.expire (h : SchedulerInv s) {t : LiveTimer} (ht : t ∈ s.live) :
    SchedulerInv (s.expire t.id) ∧ t.target.key ∉ (s.expire t.id).live.map fun timer => timer.target.key := by
  have hsub : (s.expire t.id).live.Sublist s.live := List.filter_sublist
  constructor
  · constructor
    · constructor
      · exact h.keys.sublist (hsub.map _)
      · exact fun t' ht' => h.current t' (hsub.subset ht')
      · exact h.calls
    · exact fun t' ht' => h.mapped t' (hsub.subset ht')
    · exact fun t' ht' => h.running t' (hsub.subset ht')
  · intro hmem
    obtain ⟨t', ht', hkey⟩ := List.mem_map.1 hmem
    obtain ⟨hold, hid⟩ := List.mem_filter.1 ht'
    have hsame : t' = t := List.inj_on_of_nodup_map h.keys hold ht hkey
    rw [hsame] at hid
    simp at hid

theorem SchedulerInv.fire (h : SchedulerInv s) (id : Nat) (firing : Firing) :
    SchedulerInv (s.fire nextCron rebootDelayMs id firing) := by
  unfold Scheduler.fire
  cases hfind : s.live.find? fun t => t.id == id with
  | none => exact h
  | some t =>
    have ht : t ∈ s.live := List.mem_of_find?_eq_some hfind
    have hid : t.id = id := by simpa using List.find?_some hfind
    subst hid
    obtain ⟨hexp, hfree⟩ := h.expire ht
    have hrun : (s.expire t.id).running = true := h.running t ht
    obtain ⟨htgt, hserv⟩ := h.current t ht
    have hdel := hexp.deleteEntry hfree
    show SchedulerInv ((s.expire t.id).runJob nextCron rebootDelayMs t firing)
    unfold Scheduler.runJob
    cases hjob : t.job with
    | oneShot kind =>
      dsimp only [Scheduler.fireOneShot]
      rw [hjob] at hserv
      split
      · exact hdel.arm hrun htgt ⟨kind, hserv⟩ hfree
      have hfd : SchedulerInv (((s.expire t.id).deleteEntry t.target.key).markFired t.target.key) :=
        hdel.congr rfl rfl rfl rfl rfl
      exact hfd.callTick hrun
    | retry =>
      dsimp only [Scheduler.fireRetry]
      rw [if_pos hrun]
      exact hdel.schedule hrun htgt fun _ => hfree
    | parked expr =>
      dsimp only [Scheduler.fireParked]
      rw [hjob] at hserv
      rw [hrun, if_neg (by simp)]
      refine hdel.armPlanned hrun htgt (fun timer hplan => ?_) fun _ => hfree
      have hpar : t.target.parsed ((s.expire t.id).deleteEntry t.target.key).config = .cron expr := hserv
      rw [hpar]
      exact planCron_serves hplan
    | cron expr =>
      dsimp only [Scheduler.fireCron]
      split
      · rw [if_pos hrun]
        exact hexp.schedule hrun htgt fun _ => hfree
      · exact hdel.callTick hrun

theorem settle_eq {tick : Nat} {t : Tick} (ht : s.ticks tick = some t) :
    s.settle nextCron rebootDelayMs tick clock =
      if t.rearms && s.running then
        { s with ticks := s.ticks.erase tick }.schedule nextCron rebootDelayMs t.target clock
      else { s with ticks := s.ticks.erase tick } := by
  unfold Scheduler.settle
  rw [ht]

theorem SchedulerInv.step (h : SchedulerInv s) {e : SchedulerEvent}
    (hor : s.RearmsInOrder nextCron rebootDelayMs e) : SchedulerInv (s.step nextCron rebootDelayMs e) := by
  cases e with
  | start config clocks =>
    show SchedulerInv (s.start nextCron rebootDelayMs config clocks)
    cases hrun : s.running with
    | true =>
      have hsame : s.start nextCron rebootDelayMs config clocks = s := if_pos hrun
      rw [hsame]
      exact h
    | false =>
      refine h.start hrun ?_ (hor hrun)
      refine List.eq_nil_iff_forall_not_mem.2 fun t ht => ?_
      rw [h.running t ht] at hrun
      cases hrun
  | refresh config clocks => exact h.stop.start rfl h.stop_live hor
  | stop => exact h.stop
  | fire id firing => exact h.fire id firing
  | settle tick clock =>
    show SchedulerInv (s.settle nextCron rebootDelayMs tick clock)
    cases ht : s.ticks tick with
    | none =>
      have hsame : s.settle nextCron rebootDelayMs tick clock = s := by
        unfold Scheduler.settle
        rw [ht]
      rw [hsame]
      exact h
    | some t =>
      have hnd : SchedulerInv { s with ticks := s.ticks.erase tick } := h.congr rfl rfl rfl rfl rfl
      rw [settle_eq ht]
      split
      · rename_i hcond
        obtain ⟨hre, hrun⟩ := Bool.and_eq_true_iff.1 hcond
        cases hplan : s.plan nextCron rebootDelayMs t.target clock with
        | none =>
          have hno : { s with ticks := s.ticks.erase tick }.schedule nextCron rebootDelayMs t.target clock =
              { s with ticks := s.ticks.erase tick } := by
            show Scheduler.armPlanned _ t.target (s.plan nextCron rebootDelayMs t.target clock) = _
            rw [hplan]
            rfl
          rw [hno]
          exact hnd
        | some timer =>
          obtain ⟨htgt, hfree⟩ := hor t ht hre hrun (by rw [hplan]; rfl)
          exact hnd.schedule hrun htgt fun _ => hfree
      · exact hnd

theorem SchedulerInv.rearmsInOrder (h : SchedulerInv s) {e : SchedulerEvent}
    (hor : TimersInOrder (s.step nextCron rebootDelayMs e)) : s.RearmsInOrder nextCron rebootDelayMs e := by
  cases e with
  | start config clocks =>
    intro hstop
    have hlive : s.live = [] := by
      refine List.eq_nil_iff_forall_not_mem.2 fun t ht => ?_
      rw [h.running t ht] at hstop
      cases hstop
    have hkeys := hor.keys
    rw [live_keys] at hkeys
    exact start_live hstop hlive ▸ hkeys
  | refresh config clocks =>
    have hkeys := hor.keys
    rw [live_keys] at hkeys
    have hlive := @start_live nextCron rebootDelayMs s.stop config clocks rfl h.stop_live
    rw [show s.step nextCron rebootDelayMs (.refresh config clocks) =
      s.stop.start nextCron rebootDelayMs config clocks from rfl, hlive] at hkeys
    exact hkeys
  | stop | fire id firing => trivial
  | settle tick clock =>
    intro t ht hre hrun har
    obtain ⟨timer, hplan⟩ := Option.isSome_iff_exists.1 har
    have hstep : s.step nextCron rebootDelayMs (.settle tick clock) =
        { s with ticks := s.ticks.erase tick }.arm t.target timer.1 timer.2 := by
      show s.settle nextCron rebootDelayMs tick clock = _
      rw [settle_eq ht, if_pos (by rw [hre, hrun]; rfl)]
      show Scheduler.armPlanned _ t.target (s.plan nextCron rebootDelayMs t.target clock) = _
      rw [hplan]
      rfl
    rw [hstep] at hor
    have hnew : LiveTimer.mk s.next t.target timer.1 timer.2 ∈ s.live ++ [⟨s.next, t.target, timer.1, timer.2⟩] := by
      simp
    refine ⟨(hor.current _ hnew).1, fun hmem => ?_⟩
    have hkeys : ((s.live ++ [LiveTimer.mk s.next t.target timer.1 timer.2]).map fun t => t.target.key).Nodup :=
      hor.keys
    rw [List.map_append, List.nodup_append] at hkeys
    exact hkeys.2.2 _ hmem t.target.key (by simp) rfl

end Timers

/-- **Timer chains.** The timers of a scheduler stay in order through a run exactly when every step of the run re-arms in
order. -/
theorem scheduler_timers (nextCron : String → Int → Option Int) (rebootDelayMs : Option Int) (config : ScheduleConfig)
    (es : List SchedulerEvent) :
    Always (Scheduler.step nextCron rebootDelayMs)
      (fun s e => TimersInOrder (s.step nextCron rebootDelayMs e)) (newScheduler config) es ↔
    Always (Scheduler.step nextCron rebootDelayMs)
      (fun s e => s.RearmsInOrder nextCron rebootDelayMs e) (newScheduler config) es := by
  apply always_congr (schedulerInv_new config)
  · intro s e hinv
    exact ⟨hinv.rearmsInOrder, fun hor => (hinv.step hor).toTimersInOrder⟩
  · intro s e hinv hor
    exact hinv.step (hinv.rearmsInOrder hor)

/-- A parser for which every expression names the next second. -/
def everySecond (_ : String) (date : Int) : Option Int := some (date + 1000)

def exampleScheduleConfig : ScheduleConfig where
  assignments := [{ id := "a", folderId := "f", hostId := "h", localPath := "/docs", syncExpr := some "* * * * * *" }]
  folders := [{ id := "f", name := "docs", type := .sync }]
  apps := []

def exampleRefresh : List SchedulerEvent :=
  [.start exampleScheduleConfig fun _ => ⟨0, 0⟩, .fire 0 ⟨1000, none, ⟨1000, 1000⟩, false⟩,
    .refresh exampleScheduleConfig fun _ => ⟨2000, 2000⟩, .settle 1 ⟨3000, 3000⟩]

/-- The assignment has two timers, and the one that the map has lost calls `onTick` after `stop`. -/
theorem refresh_duplicates_timer :
    let run := run (Scheduler.step everySecond none) (newScheduler exampleScheduleConfig)
    ¬TimersInOrder (run exampleRefresh) ∧
      ((run (exampleRefresh ++ [.stop, .fire 2 ⟨3000, none, ⟨3000, 3000⟩, false⟩])).calls.map TickCall.running) =
        [true, false] := by
  refine ⟨fun hor => ?_, by decide +kernel⟩
  exact absurd hor.keys (by decide +kernel)

end LamaSync
