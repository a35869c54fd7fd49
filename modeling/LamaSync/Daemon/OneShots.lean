import LamaSync.Daemon.Scheduler

/-!
# One-shot schedules

A target with `@reboot` or `@login` is to run once in the life of the daemon: not in a pause, and if it is still waiting, by a
timer that is there.  The mark of its run is set when the timer fires, and `start` looks at the mark only when it sets a
timer; so it has to know of the timers that are there, which are those in the map.

A timer of another target under the same key takes the entry of a waiting one-shot out of the map: that of a cron schedule
which the configuration replaced in the meantime, scheduled again at the end of its `onTick` call.  The next refresh does not
clear the one-shot, sets a second one, and both fire.  `one_shots_kept` says that nothing else goes wrong.
-/

namespace LamaSync

open Trace

def ScheduleTarget.ownSchedule : ScheduleTarget → ParsedSchedule
  | .assignment a => parseSchedule a.syncExpr
  | .app a => parseSchedule a.schedule

def ScheduleTarget.isOneShot (target : ScheduleTarget) : Bool :=
  match target.ownSchedule with
  | .special _ => true
  | .cron _ | .unknown => false

def TimerJob.once : TimerJob → Bool
  | .oneShot _ | .retry => true
  | .parked _ | .cron _ => false

theorem parsed_own (config : ScheduleConfig) (target : ScheduleTarget) :
    target.parsed config = target.ownSchedule ∨ target.parsed config = .unknown := by
  cases target with
  | app a => exact .inl rfl
  | assignment a =>
    unfold ScheduleTarget.parsed ScheduleTarget.ownSchedule
    dsimp only
    by_cases hen : a.enabled = true
    · have htext : effectiveSchedule config a = none ∨ effectiveSchedule config a = a.syncExpr := by
        unfold effectiveSchedule
        dsimp only
        split_ifs <;> simp
      rw [hen]
      rcases htext with hnone | hown
      · exact .inr (by rw [hnone]; rfl)
      · exact .inl (by rw [hown]; rfl)
    · exact .inr (by simp [hen])

variable {config : ScheduleConfig} {target : ScheduleTarget}

theorem isOneShot_of_special {kind : SpecialSchedule}
    (h : target.parsed config = .special kind) : target.isOneShot = true := by
  rcases parsed_own config target with hown | hun
  · unfold ScheduleTarget.isOneShot
    rw [← hown, h]
  · rw [h] at hun
    cases hun

theorem not_isOneShot_of_cron {expr : String}
    (h : target.parsed config = .cron expr) : target.isOneShot = false := by
  rcases parsed_own config target with hown | hun
  · unfold ScheduleTarget.isOneShot
    rw [← hown, h]
  · rw [h] at hun
    cases hun

def Scheduler.oneShotCalls (s : Scheduler) (key : String) : Nat :=
  s.calls.countP fun c => c.target.key = key && c.target.isOneShot

def Scheduler.waiting (s : Scheduler) : List String := (s.live.filter fun t => t.target.isOneShot).map fun t => t.target.key

/-- A one-shot ran once at most, and while the scheduler runs it ran or has a timer. -/
structure OneShotsKept (s : Scheduler) : Prop where
  once : ∀ key, s.oneShotCalls key ≤ 1
  pending : s.running = true → ∀ target ∈ s.config.targets, (∃ kind, target.parsed s.config = .special kind) →
    (∃ c ∈ s.calls, c.target.key = target.key ∧ c.target.isOneShot = true) ∨ ∃ t ∈ s.live, t.target = target

section Condition

variable (nextCron : String → Int → Option Int) (rebootDelayMs : Option Int) (s : Scheduler)

def Scheduler.CallsUnpaused (e : SchedulerEvent) : Prop :=
  (s.step nextCron rebootDelayMs e).calls ≠ s.calls → ∃ id firing, e = .fire id firing ∧ firing.currentPause = none

/-- Targets that get timers from a configuration share a key only where none is a one-shot. -/
def Scheduler.OneShotsApart (config : ScheduleConfig) (clocks : String → Clock) : Prop :=
  (s.armedBy nextCron rebootDelayMs config clocks).Pairwise fun target target' =>
    target.key = target'.key → target.isOneShot = false ∧ target'.isOneShot = false

def Scheduler.KeepsOneShots : SchedulerEvent → Prop
  | .start config clocks => s.running = false → s.OneShotsApart nextCron rebootDelayMs config clocks
  | .refresh config clocks => s.OneShotsApart nextCron rebootDelayMs config clocks
  | .stop => True
  | .fire id _ => ∀ t ∈ s.live, t.id = id → t.target.isOneShot = false → t.target.key ∉ s.waiting
  | .settle tick clock => ∀ t ∈ s.ticks tick, t.rearms = true → s.running = true →
      (s.plan nextCron rebootDelayMs t.target clock).isSome → t.target.key ∉ s.waiting

instance (config : ScheduleConfig) (clocks : String → Clock) :
    Decidable (s.OneShotsApart nextCron rebootDelayMs config clocks) :=
  inferInstanceAs (Decidable (List.Pairwise _ _))

instance : (e : SchedulerEvent) → Decidable (s.KeepsOneShots nextCron rebootDelayMs e)
  | .start config clocks => inferInstanceAs (Decidable (s.running = false → s.OneShotsApart nextCron rebootDelayMs config clocks))
  | .refresh config clocks => inferInstanceAs (Decidable (s.OneShotsApart nextCron rebootDelayMs config clocks))
  | .stop => isTrue trivial
  | .fire id _ => inferInstanceAs (Decidable
      (∀ t ∈ s.live, t.id = id → t.target.isOneShot = false → t.target.key ∉ s.waiting))
  | .settle tick clock => inferInstanceAs (Decidable (∀ t ∈ s.ticks tick, t.rearms = true → s.running = true →
      (s.plan nextCron rebootDelayMs t.target clock).isSome → t.target.key ∉ s.waiting))

end Condition

structure OneShotTimers (s : Scheduler) : Prop where
  ids : (s.live.map LiveTimer.id).Nodup
  fresh : ∀ t ∈ s.live, t.id < s.next
  jobs : ∀ t ∈ s.live, t.job.once = t.target.isOneShot
  ticks : ∀ tick t, s.ticks tick = some t → t.rearms = true → t.target.isOneShot = false
  mapped : ∀ t ∈ s.live, t.target.isOneShot = true → s.timers t.target.key = some t.id
  running : ∀ t ∈ s.live, t.target.isOneShot = true → s.running = true
  waits : ∀ t ∈ s.live, t.target.isOneShot = true → t.target.key ∉ s.firedSpecial
  fired : ∀ key, s.oneShotCalls key = if key ∈ s.firedSpecial then 1 else 0

/-- While the scheduler runs, a one-shot of the configuration is marked or has a timer. -/
def OneShotsPending (s : Scheduler) : Prop :=
  s.running = true → ∀ target ∈ s.config.targets, (∃ kind, target.parsed s.config = .special kind) →
    target.key ∈ s.firedSpecial ∨ ∃ t ∈ s.live, t.target = target

structure OneShotInv (s : Scheduler) : Prop extends OneShotTimers s where
  pending : OneShotsPending s

theorem oneShotInv_new (config : ScheduleConfig) : OneShotInv (newScheduler config) where
  ids := List.nodup_nil
  fresh := by simp [newScheduler]
  jobs := by simp [newScheduler]
  ticks := by simp [newScheduler]
  mapped := by simp [newScheduler]
  running := by simp [newScheduler]
  waits := by simp [newScheduler]
  fired := by simp [newScheduler, Scheduler.oneShotCalls]
  pending := fun h => by cases h

theorem OneShotInv.kept {s : Scheduler} (h : OneShotInv s) : OneShotsKept s where
  once := by
    intro key
    rw [h.fired key]
    split <;> omega
  pending := by
    intro hrun target htgt hspec
    rcases h.pending hrun target htgt hspec with hfd | hlive
    · have hco := h.fired target.key
      rw [if_pos hfd] at hco
      have hpos : 0 < s.calls.countP fun c => c.target.key = target.key && c.target.isOneShot := by
        show 0 < s.oneShotCalls target.key
        omega
      obtain ⟨c, hc, hcall⟩ := List.countP_pos_iff.1 hpos
      exact .inl ⟨c, hc, by simpa using hcall⟩
    · exact .inr hlive

section Timers

variable {nextCron : String → Int → Option Int} {rebootDelayMs : Option Int} {s : Scheduler} {target : ScheduleTarget}
  {clock : Clock}

variable {key : String} {job : TimerJob} {t : LiveTimer} {rearms throws : Bool}

theorem mem_waiting : key ∈ s.waiting ↔ ∃ t ∈ s.live, t.target.isOneShot = true ∧ t.target.key = key := by
  unfold Scheduler.waiting
  simp only [List.mem_map, List.mem_filter]
  constructor
  · rintro ⟨t, ⟨ht, honce⟩, hkey⟩
    exact ⟨t, ht, honce, hkey⟩
  · rintro ⟨t, ht, honce, hkey⟩
    exact ⟨t, ⟨ht, honce⟩, hkey⟩

theorem once_of_serves_cron {expr : String} (h : job.Serves (.cron expr)) : job.once = false := by
  cases job with
  | oneShot kind => cases h
  | retry =>
    obtain ⟨kind, hkind⟩ := h
    cases hkind
  | parked expr' | cron expr' => rfl

theorem plan_once {timer : TimerJob × Int} (h : s.plan nextCron rebootDelayMs target clock = some timer) :
    timer.1.once = target.isOneShot ∧ (target.isOneShot = true → target.key ∉ s.firedSpecial) := by
  have hserv := plan_serves h
  unfold Scheduler.plan at h
  cases hpar : target.parsed s.config with
  | unknown => rw [hpar] at h; cases h
  | special kind =>
    rw [hpar] at h hserv
    dsimp only [Scheduler.planOneShot] at h
    split at h
    · cases h
    rename_i hfd
    cases h
    exact ⟨(isOneShot_of_special hpar).symm, fun _ => by simpa using hfd⟩
  | cron expr =>
    rw [hpar] at hserv
    rw [not_isOneShot_of_cron hpar]
    exact ⟨once_of_serves_cron hserv, nofun⟩

theorem plan_isSome_of_special (hspec : ∃ kind, target.parsed s.config = .special kind)
    (hfd : target.key ∉ s.firedSpecial) : (s.plan nextCron rebootDelayMs target clock).isSome = true := by
  obtain ⟨kind, hkind⟩ := hspec
  unfold Scheduler.plan Scheduler.planOneShot
  rw [hkind]
  simp [hfd]

theorem OneShotTimers.arm (h : OneShotTimers s) {delay : Int} (hjob : job.once = target.isOneShot)
    (hfree : target.key ∉ s.waiting) (hrun : target.isOneShot = true → s.running = true)
    (hwt : target.isOneShot = true → target.key ∉ s.firedSpecial) : OneShotTimers (s.arm target job delay) where
  ids := by
    show ((s.live ++ [_]).map _).Nodup
    rw [List.map_append, List.nodup_append]
    refine ⟨h.ids, by simp, ?_⟩
    rintro id hid id' hid' rfl
    obtain ⟨t, ht, rfl⟩ := List.mem_map.1 hid
    have hlt := h.fresh t ht
    simp only [List.map_cons, List.map_nil, List.mem_singleton] at hid'
    omega
  fresh := by
    refine List.forall_mem_append.2 ⟨?_, List.forall_mem_singleton.2 (Nat.lt_succ_self _)⟩
    exact fun t ht => Nat.lt_succ_of_lt (h.fresh t ht)
  jobs := List.forall_mem_append.2 ⟨h.jobs, List.forall_mem_singleton.2 hjob⟩
  ticks := h.ticks
  mapped := by
    intro t ht honce
    show s.timers.put target.key s.next t.target.key = some t.id
    rcases List.mem_append.1 ht with hold | hnew
    · have hne : t.target.key ≠ target.key := fun heq => hfree (mem_waiting.2 ⟨t, hold, honce, heq⟩)
      rw [Table.put_of_ne hne]
      exact h.mapped t hold honce
    · rw [List.mem_singleton.1 hnew]
      exact Table.put_self
  running := by
    exact List.forall_mem_append.2 ⟨h.running, List.forall_mem_singleton.2 hrun⟩
  waits := by
    exact List.forall_mem_append.2 ⟨h.waits, List.forall_mem_singleton.2 hwt⟩
  fired := h.fired

theorem OneShotTimers.schedule (h : OneShotTimers s) (hrun : s.running = true)
    (hfree : (s.plan nextCron rebootDelayMs target clock).isSome → target.key ∉ s.waiting) :
    OneShotTimers (s.schedule nextCron rebootDelayMs target clock) := by
  unfold Scheduler.schedule
  cases hplan : s.plan nextCron rebootDelayMs target clock with
  | none => exact h
  | some timer =>
    obtain ⟨honce, hwt⟩ := plan_once hplan
    exact h.arm honce (hfree (by rw [hplan]; rfl)) (fun _ => hrun) hwt

theorem schedule_still : (s.schedule nextCron rebootDelayMs target clock).config = s.config ∧
    (s.schedule nextCron rebootDelayMs target clock).firedSpecial = s.firedSpecial ∧
    (s.schedule nextCron rebootDelayMs target clock).calls = s.calls := by
  unfold Scheduler.schedule
  cases s.plan nextCron rebootDelayMs target clock <;> exact ⟨rfl, rfl, rfl⟩

theorem schedule_loop_still (s : Scheduler) (targets : List ScheduleTarget) (clocks : String → Clock) :
    (targets.foldl (fun s target => s.schedule nextCron rebootDelayMs target (clocks target.key)) s).config = s.config ∧
    (targets.foldl (fun s target => s.schedule nextCron rebootDelayMs target (clocks target.key)) s).firedSpecial =
      s.firedSpecial ∧
    (targets.foldl (fun s target => s.schedule nextCron rebootDelayMs target (clocks target.key)) s).calls = s.calls := by
  induction targets generalizing s with
  | nil => exact ⟨rfl, rfl, rfl⟩
  | cons target targets ih =>
    obtain ⟨hcfg, hfd, hca⟩ := ih (s.schedule nextCron rebootDelayMs target (clocks target.key))
    obtain ⟨hcfg', hfd', hca'⟩ :=
      @schedule_still nextCron rebootDelayMs s target (clocks target.key)
    rw [List.foldl_cons]
    exact ⟨hcfg.trans hcfg', hfd.trans hfd', hca.trans hca'⟩

theorem live_schedule : ∀ t ∈ s.live, t ∈ (s.schedule nextCron rebootDelayMs target clock).live := by
  intro t ht
  unfold Scheduler.schedule
  cases s.plan nextCron rebootDelayMs target clock with
  | none => exact ht
  | some timer => exact List.mem_append_left _ ht

theorem waiting_schedule (h : key ∈ (s.schedule nextCron rebootDelayMs target clock).waiting) :
    key ∈ s.waiting ∨ ((s.plan nextCron rebootDelayMs target clock).isSome ∧ target.isOneShot = true ∧ key = target.key) := by
  unfold Scheduler.schedule at h
  cases hplan : s.plan nextCron rebootDelayMs target clock with
  | none =>
    rw [hplan] at h
    exact .inl h
  | some timer =>
    rw [hplan] at h
    obtain ⟨t, ht, honce, hkey⟩ := mem_waiting.1 h
    rcases List.mem_append.1 ht with hold | hnew
    · exact .inl (mem_waiting.2 ⟨t, hold, honce, hkey⟩)
    · rw [List.mem_singleton.1 hnew] at honce hkey
      exact .inr ⟨rfl, honce, hkey.symm⟩

theorem OneShotTimers.schedule_loop {targets : List ScheduleTarget} {clocks : String → Clock} (h : OneShotTimers s)
    (hrun : s.running = true)
    (hfree : ∀ target ∈ targets, (s.plan nextCron rebootDelayMs target (clocks target.key)).isSome → target.key ∉ s.waiting)
    (hap : (targets.filter fun target => (s.plan nextCron rebootDelayMs target (clocks target.key)).isSome).Pairwise
      fun target target' => target.key = target'.key → target.isOneShot = false ∧ target'.isOneShot = false) :
    OneShotTimers (targets.foldl (fun s target => s.schedule nextCron rebootDelayMs target (clocks target.key)) s) := by
  induction targets generalizing s with
  | nil => exact h
  | cons target targets ih =>
    obtain ⟨-, hrun', hplan, -⟩ := @schedule_effect nextCron rebootDelayMs s target (clocks target.key)
    apply ih
    · exact h.schedule hrun (hfree target (.head _))
    · exact hrun'.trans hrun
    · intro later hla har hwt
      rw [hplan] at har
      rcases waiting_schedule hwt with hold | ⟨hfi, honce, hkey⟩
      · exact hfree later (.tail _ hla) har hold
      -- the target just armed is a one-shot, and the later one has its key
      rw [List.filter_cons, if_pos hfi, List.pairwise_cons] at hap
      have hfa := (hap.1 later (List.mem_filter.2 ⟨hla, har⟩) hkey.symm).1
      rw [honce] at hfa
      cases hfa
    · simp only [hplan]
      rw [List.filter_cons] at hap
      split at hap
      · exact (List.pairwise_cons.1 hap).2
      · exact hap

theorem OneShotTimers.stop (h : OneShotTimers s) : OneShotTimers s.stop ∧ s.stop.waiting = [] := by
  have hsub : s.stop.live.Sublist s.live := List.filter_sublist
  have hnone : ∀ t ∈ s.stop.live, t.target.isOneShot = false := by
    intro t ht
    obtain ⟨hlive, hkept⟩ := List.mem_filter.1 ht
    by_contra honce
    have he := h.mapped t hlive (by simpa using honce)
    simp [he] at hkept
  -- what is said of one-shots says nothing
  have hvoid : ∀ t ∈ s.stop.live, t.target.isOneShot = true → ∀ P : Prop, P := by
    intro t ht honce
    rw [hnone t ht] at honce
    cases honce
  constructor
  · constructor
    · exact h.ids.sublist (hsub.map _)
    · exact fun t ht => h.fresh t (hsub.subset ht)
    · exact fun t ht => h.jobs t (hsub.subset ht)
    · exact h.ticks
    · exact fun t ht honce => hvoid t ht honce _
    · exact fun t ht honce => hvoid t ht honce _
    · exact fun t ht honce => hvoid t ht honce _
    · exact h.fired
  · unfold Scheduler.waiting
    rw [List.map_eq_nil_iff, List.filter_eq_nil_iff]
    intro t ht
    simp [hnone t ht]

theorem OneShotInv.start {config : ScheduleConfig} {clocks : String → Clock} (h : OneShotTimers s)
    (hstop : s.running = false) (hap : s.OneShotsApart nextCron rebootDelayMs config clocks) :
    OneShotInv (s.start nextCron rebootDelayMs config clocks) := by
  have hnone : ∀ t ∈ s.live, t.target.isOneShot = false := by
    intro t ht
    by_contra honce
    have hrun := h.running t ht (by simpa using honce)
    rw [hstop] at hrun
    cases hrun
  let s₀ : Scheduler := { s with running := true, config := config }
  have hsta : s.start nextCron rebootDelayMs config clocks =
      config.targets.foldl (fun s target => s.schedule nextCron rebootDelayMs target (clocks target.key)) s₀ := by
    unfold Scheduler.start
    rw [hstop, if_neg (by simp)]
  have hst : OneShotTimers s₀ :=
    ⟨h.ids, h.fresh, h.jobs, h.ticks, h.mapped, fun _ _ _ => rfl, h.waits, h.fired⟩
  have hwait : s₀.waiting = [] := by
    unfold Scheduler.waiting
    rw [List.map_eq_nil_iff, List.filter_eq_nil_iff]
    intro t ht
    simp [hnone t ht]
  rw [hsta]
  refine ⟨hst.schedule_loop rfl (fun target _ _ => by rw [hwait]; exact List.not_mem_nil) hap, ?_⟩
  obtain ⟨hcfg, hfd, -⟩ := @schedule_loop_still nextCron rebootDelayMs s₀ config.targets clocks
  intro _ target htgt hspec
  rw [hcfg] at htgt hspec
  rw [hfd]
  by_cases hma : target.key ∈ s₀.firedSpecial
  · exact .inl hma
  have hlive := @schedule_loop nextCron rebootDelayMs s₀ config.targets clocks
  have hfilt : target ∈ config.targets.filter fun target =>
      (s₀.plan nextCron rebootDelayMs target (clocks target.key)).isSome :=
    List.mem_filter.2 ⟨htgt, plan_isSome_of_special hspec hma⟩
  have hmem := List.mem_append_right (s₀.live.map LiveTimer.target) hfilt
  rw [← hlive] at hmem
  obtain ⟨t, ht, hsame⟩ := List.mem_map.1 hmem
  exact .inr ⟨t, ht, hsame⟩

theorem OneShotTimers.expire (h : OneShotTimers s) (ht : t ∈ s.live) :
    OneShotTimers (s.expire t.id) ∧ (t.target.isOneShot = true → t.target.key ∉ (s.expire t.id).waiting) ∧
      ∀ t' ∈ s.live, t' ≠ t → t' ∈ (s.expire t.id).live := by
  have hsub : (s.expire t.id).live.Sublist s.live := List.filter_sublist
  refine ⟨?_, ?_, ?_⟩
  · constructor
    · exact h.ids.sublist (hsub.map _)
    · exact fun t' ht' => h.fresh t' (hsub.subset ht')
    · exact fun t' ht' => h.jobs t' (hsub.subset ht')
    · exact h.ticks
    · exact fun t' ht' => h.mapped t' (hsub.subset ht')
    · exact fun t' ht' => h.running t' (hsub.subset ht')
    · exact fun t' ht' => h.waits t' (hsub.subset ht')
    · exact h.fired
  · -- two one-shots under one key would be the timer of one entry of the map
    intro honce hwt
    obtain ⟨t', ht', honce', hkey⟩ := mem_waiting.1 hwt
    obtain ⟨hold, hid⟩ := List.mem_filter.1 ht'
    have he := h.mapped t' hold honce'
    rw [hkey, h.mapped t ht honce] at he
    rw [Option.some.inj he] at hid
    simp at hid
  · intro t' ht' hne
    refine List.mem_filter.2 ⟨ht', ?_⟩
    have hid : t'.id ≠ t.id := fun heq => hne (List.inj_on_of_nodup_map h.ids ht' ht heq)
    simpa using hid

theorem waiting_expire {id : Nat} (h : key ∈ (s.expire id).waiting) : key ∈ s.waiting := by
  obtain ⟨t, ht, honce, hkey⟩ := mem_waiting.1 h
  exact mem_waiting.2 ⟨t, (List.mem_filter.1 ht).1, honce, hkey⟩

theorem OneShotTimers.deleteEntry (h : OneShotTimers s) (hfree : key ∉ s.waiting) :
    OneShotTimers (s.deleteEntry key) where
  ids := h.ids
  fresh := h.fresh
  jobs := h.jobs
  ticks := h.ticks
  mapped := by
    intro t ht honce
    show s.timers.erase key t.target.key = some t.id
    have hne : t.target.key ≠ key := fun heq => hfree (mem_waiting.2 ⟨t, ht, honce, heq⟩)
    rw [Table.erase_of_ne hne]
    exact h.mapped t ht honce
  running := h.running
  waits := h.waits
  fired := h.fired

theorem oneShotCalls_callTick (key : String) :
    (s.callTick target rearms throws).oneShotCalls key =
      s.oneShotCalls key + if target.key = key ∧ target.isOneShot = true then 1 else 0 := by
  unfold Scheduler.oneShotCalls Scheduler.callTick
  rw [List.countP_append, List.countP_singleton]
  simp

theorem OneShotTimers.ticks_callTick (h : OneShotTimers s)
    (hre : rearms = true → target.isOneShot = false) : ∀ tick t,
      (s.callTick target rearms throws).ticks tick = some t → t.rearms = true → t.target.isOneShot = false := by
  intro tick t ht htrue
  unfold Scheduler.callTick at ht
  cases throws with
  | true => exact h.ticks tick t ht htrue
  | false =>
    change s.ticks.put s.next ⟨target, rearms⟩ tick = some t at ht
    by_cases htick : tick = s.next
    · rw [htick, Table.put_self] at ht
      cases ht
      exact hre htrue
    · rw [Table.put_of_ne htick] at ht
      exact h.ticks tick t ht htrue

theorem OneShotTimers.callTick (h : OneShotTimers s) (honce : target.isOneShot = false) :
    OneShotTimers (s.callTick target rearms throws) where
  ids := h.ids
  fresh t ht := Nat.lt_succ_of_lt (h.fresh t ht)
  jobs := h.jobs
  ticks := h.ticks_callTick fun _ => honce
  mapped := h.mapped
  running := h.running
  waits := h.waits
  fired := by
    intro key
    rw [oneShotCalls_callTick, if_neg (by simp [honce])]
    exact h.fired key

theorem OneShotTimers.callMarked (h : OneShotTimers s) (honce : target.isOneShot = true)
    (hfree : target.key ∉ s.waiting) (hwt : target.key ∉ s.firedSpecial) :
    OneShotTimers ((s.markFired target.key).callTick target false throws) where
  ids := h.ids
  fresh t ht := Nat.lt_succ_of_lt (h.fresh t ht)
  jobs := h.jobs
  ticks := h.ticks_callTick fun hre => by cases hre
  mapped := h.mapped
  running := h.running
  waits := by
    intro t ht honce' hma
    rcases List.mem_cons.1 hma with heq | hold
    · exact hfree (mem_waiting.2 ⟨t, ht, honce', heq⟩)
    · exact h.waits t ht honce' hold
  fired := by
    intro key
    rw [oneShotCalls_callTick]
    show s.oneShotCalls key + _ = if key ∈ target.key :: s.firedSpecial then 1 else 0
    rw [h.fired key]
    by_cases heq : target.key = key
    · subst heq
      simp [honce, hwt]
    · simp [heq, Ne.symm heq]

theorem OneShotsPending.after {s' : Scheduler} (h : OneShotsPending s) (hcfg : s'.config = s.config)
    (hru : s'.running = s.running) (hfd : ∀ key ∈ s.firedSpecial, key ∈ s'.firedSpecial)
    (hlive : ∀ t' ∈ s.live, t' ≠ t → t' ∈ s'.live)
    (hself : s.running = true → (∃ kind, t.target.parsed s.config = .special kind) →
      t.target.key ∈ s'.firedSpecial ∨ ∃ t' ∈ s'.live, t'.target = t.target) : OneShotsPending s' := by
  intro hrun target htgt hspec
  rw [hru] at hrun
  rw [hcfg] at htgt hspec
  rcases h hrun target htgt hspec with hma | ⟨t', ht', htgt'⟩
  · exact .inl (hfd _ hma)
  by_cases hsame : t' = t
  · subst hsame
    rw [← htgt'] at hspec ⊢
    exact hself hrun hspec
  · exact .inr ⟨t', hlive t' ht' hsame, htgt'⟩

theorem OneShotInv.fire (h : OneShotInv s) (id : Nat) (firing : Firing)
    (hkp : ∀ t ∈ s.live, t.id = id → t.target.isOneShot = false → t.target.key ∉ s.waiting) :
    OneShotInv (s.fire nextCron rebootDelayMs id firing) := by
  unfold Scheduler.fire
  cases hfind : s.live.find? fun t => t.id == id with
  | none => exact h
  | some t =>
    have ht : t ∈ s.live := List.mem_of_find?_eq_some hfind
    have hid : t.id = id := by simpa using List.find?_some hfind
    subst hid
    obtain ⟨hexp, hwait, hlive⟩ := h.toOneShotTimers.expire ht
    have hjobs := h.jobs t ht
    -- no one-shot waits under the key of the timer any more
    have hfree : t.target.key ∉ (s.expire t.id).waiting := by
      cases honce : t.target.isOneShot with
      | true => exact hwait honce
      | false => exact fun hmem => hkp t ht rfl honce (waiting_expire hmem)
    have hdel := hexp.deleteEntry hfree
    -- a timer of another schedule is no one's hope
    have ho : t.target.isOneShot = false → (∃ kind, t.target.parsed s.config = .special kind) → ∀ P : Prop, P := by
      rintro honce ⟨kind, hkind⟩
      rw [isOneShot_of_special hkind] at honce
      cases honce
    show OneShotInv ((s.expire t.id).runJob nextCron rebootDelayMs t firing)
    unfold Scheduler.runJob
    cases hjob : t.job with
    | oneShot kind =>
      have honce : t.target.isOneShot = true := by rw [← hjobs, hjob]; rfl
      dsimp only [Scheduler.fireOneShot]
      split
      · refine ⟨hdel.arm honce.symm hfree (fun _ => h.running t ht honce) fun _ => h.waits t ht honce, ?_⟩
        refine h.pending.after (t := t) rfl rfl (fun _ hkey => hkey) (fun t' ht' hne => ?_) fun _ _ => .inr ?_
        · exact List.mem_append_left _ (hlive t' ht' hne)
        · exact ⟨_, List.mem_append_right _ (.head _), rfl⟩
      refine ⟨hdel.callMarked honce hfree (h.waits t ht honce), ?_⟩
      exact h.pending.after (t := t) rfl rfl (fun _ hkey => .tail _ hkey)
        (fun t' ht' hne => hlive t' ht' hne) fun _ _ => .inl (.head _)
    | retry =>
      have honce : t.target.isOneShot = true := by rw [← hjobs, hjob]; rfl
      have hru : (s.expire t.id).running = true := h.running t ht honce
      dsimp only [Scheduler.fireRetry]
      rw [if_pos hru]
      obtain ⟨hcfg, hfd, -⟩ :=
        @schedule_still nextCron rebootDelayMs ((s.expire t.id).deleteEntry t.target.key) t.target firing.clock
      obtain ⟨-, hrun, -, hta⟩ :=
        @schedule_effect nextCron rebootDelayMs ((s.expire t.id).deleteEntry t.target.key) t.target firing.clock
      refine ⟨hdel.schedule hru fun _ => hfree, ?_⟩
      refine h.pending.after (t := t) hcfg hrun (fun _ hkey => hfd ▸ hkey)
        (fun t' ht' hne => live_schedule t' (hlive t' ht' hne)) fun _ hspec => .inr ?_
      -- the target did not run, so it gets its timer again
      have har : (((s.expire t.id).deleteEntry t.target.key).plan nextCron rebootDelayMs t.target firing.clock).isSome :=
        plan_isSome_of_special hspec (h.waits t ht honce)
      rw [if_pos har] at hta
      have hmem : t.target ∈ ((s.expire t.id).deleteEntry t.target.key).live.map LiveTimer.target ++ [t.target] := by simp
      rw [← hta] at hmem
      obtain ⟨t', ht', hsame⟩ := List.mem_map.1 hmem
      exact ⟨t', ht', hsame⟩
    | parked expr =>
      have honce : t.target.isOneShot = false := by rw [← hjobs, hjob]; rfl
      dsimp only [Scheduler.fireParked]
      split
      · exact ⟨hexp, h.pending.after (t := t) rfl rfl (fun _ hkey => hkey) hlive fun _ hspec =>
          ho honce hspec _⟩
      cases hplan : Scheduler.planCron nextCron expr firing.clock with
      | none =>
        exact ⟨hdel, h.pending.after (t := t) rfl rfl (fun _ hkey => hkey) hlive fun _ hspec =>
          ho honce hspec _⟩
      | some timer =>
        have htm : timer.1.once = t.target.isOneShot := by
          rw [honce]
          exact once_of_serves_cron (planCron_serves hplan)
        refine ⟨hdel.arm htm hfree (fun htrue => ?_) fun htrue => ?_, ?_⟩
        · rw [honce] at htrue
          cases htrue
        · rw [honce] at htrue
          cases htrue
        · exact h.pending.after (t := t) rfl rfl (fun _ hkey => hkey)
            (fun t' ht' hne => List.mem_append_left _ (hlive t' ht' hne)) fun _ hspec => ho honce hspec _
    | cron expr =>
      have honce : t.target.isOneShot = false := by rw [← hjobs, hjob]; rfl
      dsimp only [Scheduler.fireCron]
      split
      · split
        · rename_i hru
          obtain ⟨hcfg, hfd, -⟩ :=
            @schedule_still nextCron rebootDelayMs (s.expire t.id) t.target firing.clock
          obtain ⟨-, hrun, -, -⟩ := @schedule_effect nextCron rebootDelayMs (s.expire t.id) t.target firing.clock
          refine ⟨hexp.schedule hru fun _ => hfree, ?_⟩
          exact h.pending.after (t := t) hcfg hrun (fun _ hkey => hfd ▸ hkey)
            (fun t' ht' hne => live_schedule t' (hlive t' ht' hne)) fun _ hspec => ho honce hspec _
        · exact ⟨hexp, h.pending.after (t := t) rfl rfl (fun _ hkey => hkey) hlive fun _ hspec =>
            ho honce hspec _⟩
      · exact ⟨hdel.callTick honce, h.pending.after (t := t) rfl rfl (fun _ hkey => hkey) hlive fun _ hspec =>
          ho honce hspec _⟩

theorem OneShotInv.step (h : OneShotInv s) {e : SchedulerEvent} (hkp : s.KeepsOneShots nextCron rebootDelayMs e) :
    OneShotInv (s.step nextCron rebootDelayMs e) := by
  cases e with
  | start config clocks =>
    show OneShotInv (s.start nextCron rebootDelayMs config clocks)
    cases hrun : s.running with
    | true =>
      have hsame : s.start nextCron rebootDelayMs config clocks = s := if_pos hrun
      rw [hsame]
      exact h
    | false => exact OneShotInv.start h.toOneShotTimers hrun (hkp hrun)
  | refresh config clocks => exact OneShotInv.start h.toOneShotTimers.stop.1 rfl hkp
  | stop => exact ⟨h.toOneShotTimers.stop.1, fun hrun => by cases hrun⟩
  | fire id firing => exact h.fire id firing hkp
  | settle tick clock =>
    show OneShotInv (s.settle nextCron rebootDelayMs tick clock)
    cases ht : s.ticks tick with
    | none =>
      have hsame : s.settle nextCron rebootDelayMs tick clock = s := by
        unfold Scheduler.settle
        rw [ht]
      rw [hsame]
      exact h
    | some t =>
      have hnd : OneShotTimers { s with ticks := s.ticks.erase tick } := by
        refine ⟨h.ids, h.fresh, h.jobs, fun tick' t' ht' hre => ?_, h.mapped, h.running, h.waits, h.fired⟩
        change s.ticks.erase tick tick' = some t' at ht'
        by_cases hsame : tick' = tick
        · rw [hsame, Table.erase_self] at ht'
          cases ht'
        · rw [Table.erase_of_ne hsame] at ht'
          exact h.ticks tick' t' ht' hre
      rw [settle_eq ht]
      split
      · rename_i hcond
        obtain ⟨hre, hrun⟩ := Bool.and_eq_true_iff.1 hcond
        obtain ⟨hcfg, hfd, -⟩ :=
          @schedule_still nextCron rebootDelayMs { s with ticks := s.ticks.erase tick } t.target clock
        refine ⟨hnd.schedule hrun fun hplan => hkp t ht hre hrun hplan, ?_⟩
        intro _ target htgt hspec
        rw [hcfg] at htgt hspec
        rw [hfd]
        rcases h.pending hrun target htgt hspec with hma | ⟨t', ht', hsame⟩
        · exact .inl hma
        · exact .inr ⟨t', live_schedule t' ht', hsame⟩
      · exact ⟨hnd, h.pending⟩

theorem callsUnpaused (s : Scheduler) (e : SchedulerEvent) : s.CallsUnpaused nextCron rebootDelayMs e := by
  intro hca
  have hst : ∀ (s : Scheduler) (config : ScheduleConfig) (clocks : String → Clock),
      (s.start nextCron rebootDelayMs config clocks).calls = s.calls := by
    intro s config clocks
    unfold Scheduler.start
    split
    · rfl
    · exact (schedule_loop_still _ config.targets clocks).2.2
  cases e with
  | start config clocks => exact absurd (hst s config clocks) hca
  | refresh config clocks => exact absurd (hst s.stop config clocks) hca
  | stop => exact absurd rfl hca
  | settle tick clock =>
    refine absurd ?_ hca
    show (s.settle nextCron rebootDelayMs tick clock).calls = s.calls
    cases ht : s.ticks tick with
    | none =>
      unfold Scheduler.settle
      rw [ht]
    | some t =>
      rw [settle_eq ht]
      split
      · exact (@schedule_still nextCron rebootDelayMs { s with ticks := s.ticks.erase tick } t.target clock).2.2
      · rfl
  | fire id firing =>
    refine ⟨id, firing, rfl, ?_⟩
    -- in a pause no callback calls
    by_contra hpau
    refine hca ?_
    show (s.fire nextCron rebootDelayMs id firing).calls = s.calls
    unfold Scheduler.fire
    cases s.live.find? fun t => t.id == id with
    | none => rfl
    | some t =>
      obtain ⟨pauseUntil, hpa⟩ := Option.ne_none_iff_exists'.1 hpau
      show ((s.expire id).runJob nextCron rebootDelayMs t firing).calls = s.calls
      unfold Scheduler.runJob
      cases t.job with
      | oneShot kind =>
        dsimp only [Scheduler.fireOneShot]
        rw [hpa]
        rfl
      | retry =>
        dsimp only [Scheduler.fireRetry]
        split
        · exact (@schedule_still nextCron rebootDelayMs ((s.expire id).deleteEntry t.target.key) t.target firing.clock).2.2
        · rfl
      | parked expr =>
        dsimp only [Scheduler.fireParked]
        split
        · rfl
        · cases Scheduler.planCron nextCron expr firing.clock <;> rfl
      | cron expr =>
        dsimp only [Scheduler.fireCron]
        rw [hpa]
        dsimp only
        split
        · exact (@schedule_still nextCron rebootDelayMs (s.expire id) t.target firing.clock).2.2
        · rfl

end Timers

/-- In a run whose steps meet the condition, every one-shot runs once at most, never in a pause, and while the scheduler runs
it ran or has a timer. -/
theorem one_shots_kept (nextCron : String → Int → Option Int) (rebootDelayMs : Option Int) (config : ScheduleConfig)
    (es : List SchedulerEvent) (hkeeps : Always (Scheduler.step nextCron rebootDelayMs)
      (fun s e => s.KeepsOneShots nextCron rebootDelayMs e) (newScheduler config) es) :
    Always (Scheduler.step nextCron rebootDelayMs)
      (fun s e => OneShotsKept (s.step nextCron rebootDelayMs e) ∧ s.CallsUnpaused nextCron rebootDelayMs e)
      (newScheduler config) es :=
  hkeeps.of_invariant (oneShotInv_new config) (fun _ _ h hkeeps => h.step hkeeps)
    fun s e h hkeeps => ⟨(h.step hkeeps).kept, callsUnpaused s e⟩

def scheduledOnce (syncExpr : String) : ScheduleConfig where
  assignments := [{ id := "a", folderId := "f", hostId := "h", localPath := "/docs", syncExpr := some syncExpr }]
  folders := [{ id := "f", name := "docs", type := .sync }]
  apps := []

/-- A one-shot is set, finds a pause, tries again after it, and runs; a refresh finds it marked. -/
def pausedReboot : List SchedulerEvent :=
  [.start (scheduledOnce "@reboot") fun _ => ⟨0, 0⟩, .fire 0 ⟨30000, some (some 40000), ⟨30000, 30000⟩, false⟩,
    .fire 1 ⟨40000, none, ⟨40000, 40000⟩, false⟩, .fire 2 ⟨70000, none, ⟨70000, 70000⟩, false⟩,
    .refresh (scheduledOnce "@reboot") fun _ => ⟨80000, 80000⟩]

theorem pausedReboot_kept : Always (Scheduler.step everySecond none)
    (fun s e => OneShotsKept (s.step everySecond none e) ∧ s.CallsUnpaused everySecond none e)
    (newScheduler (scheduledOnce "@reboot")) pausedReboot :=
  one_shots_kept everySecond none (scheduledOnce "@reboot") pausedReboot (by decide +kernel)

/-- The cron timer of an assignment fires, its schedule becomes a one-shot during the `onTick` call, and the call ends; another
refresh follows, and both one-shots fire. -/
def rearmedOverReboot : List SchedulerEvent :=
  [.start (scheduledOnce "* * * * * *") fun _ => ⟨0, 0⟩, .fire 0 ⟨1000, none, ⟨1000, 1000⟩, false⟩,
    .refresh (scheduledOnce "@reboot") fun _ => ⟨2000, 2000⟩, .settle 1 ⟨3000, 3000⟩,
    .refresh (scheduledOnce "@reboot") fun _ => ⟨4000, 4000⟩, .fire 2 ⟨32000, none, ⟨32000, 32000⟩, false⟩,
    .fire 4 ⟨34000, none, ⟨34000, 34000⟩, false⟩]

/-- The one-shot runs twice. -/
theorem reboot_runs_twice :
    (run (Scheduler.step everySecond none) (newScheduler (scheduledOnce "* * * * * *")) rearmedOverReboot).oneShotCalls "a" = 2 ∧
      ¬ OneShotsKept (run (Scheduler.step everySecond none) (newScheduler (scheduledOnce "* * * * * *")) rearmedOverReboot) := by
  have htw : (run (Scheduler.step everySecond none) (newScheduler (scheduledOnce "* * * * * *"))
      rearmedOverReboot).oneShotCalls "a" = 2 := by decide +kernel
  refine ⟨htw, fun hkept => ?_⟩
  have honce := hkept.once "a"
  omega

end LamaSync
