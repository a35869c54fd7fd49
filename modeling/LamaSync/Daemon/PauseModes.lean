import LamaSync.Daemon.Executor
import LamaSync.Daemon.OneShots

/-!
# Pausing and slowing down

A pause of a host, or of all hosts, is to keep runs from starting; in its slow mode it is to limit their bandwidth instead.
The server resolves which pause applies to a host and sends it with the configuration.  The scheduler, the executor and the
run of an app ask whether it is active, and the executor takes the limit of a slow one.

None of the three asks for the mode, so a slow pause stops what it should slow down; and when the pause of a host runs out
before one of all hosts does, the daemon does not know of the other one until it is sent the next configuration.
`pause_honored_iff` says when neither is the case.
-/

namespace LamaSync

/-- A row of the pauses, which are kept by host, that of all hosts under `global`. -/
structure PauseRow where
  scope : String
  untilMs : Int
  mode : String
  bwlimit : Option String := none

/-- The last moment that `toISOString` writes. -/
def maxDateMs : Int := 8640000000000000

def PauseRow.sent (row : PauseRow) : Except Unit EffectivePause :=
  if maxDateMs < row.untilMs then .error ()
  else .ok {
    untilMs := some row.untilMs
    mode := if row.mode = "slow" then .slow else .pause
    bwlimit := if row.mode = "slow" then row.bwlimit else none }

def pauseSource (rows : Table String PauseRow) (hostId : String) (now : Int) : Option PauseRow :=
  ((rows hostId).filter fun row => row.scope = "host" ∧ now < row.untilMs).or
    ((rows "global").filter fun row => row.scope = "global" ∧ now < row.untilMs)

def resolveEffectivePause (rows : Table String PauseRow) (hostId : String) (now : Int) : Except Unit (Option EffectivePause) :=
  match pauseSource rows hostId now with
  | none => .ok none
  | some row => row.sent.map some

def runAppOnce (config : HostConfig) (app : AppCaptureAssignment) (env : Surroundings) : Exec OperationReport := do
  Script.leaveIf (isPauseActive config.pause env.now) (failed .paused)
  captureAppSnapshot app env

def FiresNow (config : HostConfig) (env : Surroundings) (firing : Firing) : Prop :=
  firing.now = env.now ∧ firing.pause = config.pause.map EffectivePause.untilMs

section Modes

variable (sha256 : String → String) (opts : ExecuteOptions) (app : AppCaptureAssignment) (env : Surroundings) (host : Host)

structure NotRefused : Prop where
  scheduled : ∀ firing, FiresNow opts.hostConfig env firing → firing.currentPause = none
  run : (prepareRun opts env).result Host.step host ≠ .error (failed .paused)
  app : (runAppOnce opts.hostConfig app env).result Host.step host ≠ .error (failed .paused)

def LimitedBy (pause : EffectivePause) : Prop :=
  ∀ limit, presentTrimmed pause.bwlimit = some limit →
    ∀ inputs plan, [.word "--bwlimit", .value limit] <:+ fullCommand opts env inputs plan

/-- No run starts: a timer that fires makes no call, and a run ends with its refusal before it does anything. -/
structure Stopped : Prop where
  scheduled : ∀ nextCron rebootDelayMs (s : Scheduler) id firing, FiresNow opts.hostConfig env firing →
    (s.step nextCron rebootDelayMs (.fire id firing)).calls = s.calls
  run : (executeAssignment sha256 opts env).result Host.step host = .error (failed .paused) ∧
    (executeAssignment sha256 opts env).log Host.step host = []
  app : (runAppOnce opts.hostConfig app env).result Host.step host = .error (failed .paused) ∧
    (runAppOnce opts.hostConfig app env).log Host.step host = []

def PauseHonored (rows : Table String PauseRow) (hostId : String) : Prop :=
  ∀ pause, resolveEffectivePause rows hostId env.now = .ok (some pause) →
    (pause.mode = .slow → NotRefused opts app env host ∧ LimitedBy opts env pause) ∧
      (pause.mode = .pause → Stopped sha256 opts app env host)

def PauseFits (rows : Table String PauseRow) (hostId : String) : Prop :=
  ∀ pause, resolveEffectivePause rows hostId env.now = .ok (some pause) →
    if opts.hostConfig.pause = some pause then pause.mode = .pause
    else pause.mode = .slow ∧ ∀ limit, presentTrimmed pause.bwlimit = some limit →
      presentTrimmed opts.assignment.bandwidthSchedule = some limit

end Modes

section Sources

variable {rows : Table String PauseRow} {hostId : String} {fetched now : Int} {pause : EffectivePause}
  {row : PauseRow}

theorem pauseSource_later (hla : fetched ≤ now) (h : pauseSource rows hostId fetched = some row)
    (hact : now < row.untilMs) : pauseSource rows hostId now = some row := by
  unfold pauseSource at h ⊢
  rcases Option.or_eq_some_iff.1 h with hown | ⟨hnone, hgl⟩
  · obtain ⟨hrow, hfilt⟩ := Option.filter_eq_some_iff.1 hown
    have hsc := of_decide_eq_true hfilt
    refine Option.or_eq_some_iff.2 (.inl (Option.filter_eq_some_iff.2 ⟨hrow, decide_eq_true ⟨hsc.1, hact⟩⟩))
  obtain ⟨hrow, hfilt⟩ := Option.filter_eq_some_iff.1 hgl
  have hsc := of_decide_eq_true hfilt
  refine Option.or_eq_some_iff.2 (.inr ⟨?_, Option.filter_eq_some_iff.2 ⟨hrow, decide_eq_true ⟨hsc.1, hact⟩⟩⟩)
  -- a host's own row that had run out has not come back
  rw [Option.filter_eq_none_iff] at hnone ⊢
  intro own hown hfilt'
  have hown' := of_decide_eq_true hfilt'
  exact hnone own hown (decide_eq_true ⟨hown'.1, by omega⟩)

theorem resolve_eq_some (h : resolveEffectivePause rows hostId now = .ok (some pause)) :
    ∃ row, pauseSource rows hostId now = some row ∧ row.sent = .ok pause := by
  unfold resolveEffectivePause at h
  cases hsrc : pauseSource rows hostId now with
  | none =>
    rw [hsrc] at h
    cases h
  | some row =>
    rw [hsrc] at h
    cases hsent : row.sent with
    | error e => simp [hsent, Except.map] at h
    | ok sent =>
      simp only [hsent, Except.map, Except.ok.injEq, Option.some.injEq] at h
      exact ⟨row, rfl, hsent.trans (congrArg Except.ok h)⟩

theorem untilMs_sent (h : row.sent = .ok pause) : pause.untilMs = some row.untilMs := by
  unfold PauseRow.sent at h
  split at h
  · cases h
  · obtain rfl := Except.ok.inj h
    rfl

theorem lt_of_pauseSource (h : pauseSource rows hostId now = some row) : now < row.untilMs := by
  unfold pauseSource at h
  rcases Option.or_eq_some_iff.1 h with hown | ⟨-, hgl⟩
  · exact (of_decide_eq_true (Option.filter_eq_some_iff.1 hown).2).2
  · exact (of_decide_eq_true (Option.filter_eq_some_iff.1 hgl).2).2

theorem isPauseActive_of_resolve (h : resolveEffectivePause rows hostId now = .ok (some pause)) :
    isPauseActive (some pause) now = true := by
  obtain ⟨row, hsrc, hsent⟩ := resolve_eq_some h
  unfold isPauseActive
  simp [untilMs_sent hsent, lt_of_pauseSource hsrc]

theorem delivered_cases {delivered : Option EffectivePause} (hla : fetched ≤ now)
    (hde : resolveEffectivePause rows hostId fetched = .ok delivered)
    (h : resolveEffectivePause rows hostId now = .ok (some pause)) :
    delivered = some pause ∨ (delivered ≠ some pause ∧ isPauseActive delivered now = false) := by
  by_cases hsame : delivered = some pause
  · exact .inl hsame
  refine .inr ⟨hsame, ?_⟩
  cases delivered with
  | none => rfl
  | some old =>
    obtain ⟨row, hsrc, hsent⟩ := resolve_eq_some hde
    by_contra hact
    have hrow : now < row.untilMs := by
      unfold isPauseActive at hact
      simpa [untilMs_sent hsent] using hact
    -- then its row still applies, and is sent alike
    obtain ⟨row', hsrc', hsent'⟩ := resolve_eq_some h
    rw [pauseSource_later hla hsrc hrow] at hsrc'
    rw [← Option.some.inj hsrc', hsent] at hsent'
    exact hsame (by rw [Except.ok.inj hsent'])

end Sources

section Gates

variable {sha256 : String → String} {opts : ExecuteOptions} {app : AppCaptureAssignment} {env : Surroundings} {host : Host}

/-- The scheduler asks what the executor asks. -/
theorem currentPause_isSome {firing : Firing} (h : FiresNow opts.hostConfig env firing) :
    firing.currentPause.isSome = isPauseActive opts.hostConfig.pause env.now := by
  obtain ⟨hnow, hpa⟩ := h
  unfold Firing.currentPause isPauseActive
  rw [hnow, hpa]
  cases opts.hostConfig.pause with
  | none => rfl
  | some pause =>
    cases hun : pause.untilMs with
    | none => simp [hun]
    | some untilMs =>
      by_cases hact : env.now < untilMs
      · have hnot : ¬ untilMs ≤ env.now := by omega
        simp [hun, hact, hnot]
      · have hle : untilMs ≤ env.now := by omega
        simp [hun, hact, hle]

theorem captureProblem_ne_paused : captureProblem app env ≠ some .paused := by
  unfold captureProblem
  split
  · exact nofun
  intro h
  obtain ⟨path, -, hprob⟩ := List.exists_of_findSome?_eq_some h
  unfold appPathProblem at hprob
  split at hprob
  · cases hprob
  split at hprob
  · cases hprob
  · split at hprob <;> cases hprob

theorem result_ne_paused {α : Type} {p : Exec α} (h : Script.wp Host.step (fun _ _ => True) (fun _ _ => True)
    (fun stop _ => stop ≠ failed .paused) p host) : p.result Host.step host ≠ .error (failed .paused) := by
  intro hpa
  have hends := (Script.wp_iff.1 h).2
  rw [hpa] at hends
  exact hends rfl

theorem captureAppSnapshot_ne_paused : (captureAppSnapshot app env).result Host.step host ≠ .error (failed .paused) := by
  apply result_ne_paused
  unfold captureAppSnapshot
  cases hprob : captureProblem app env with
  | some problem =>
    rw [Script.wp_leave]
    intro h
    injection h with h
    injection h with _ hbody
    exact captureProblem_ne_paused (hbody ▸ hprob)
  | none =>
    cases env.tar with
    | none | some tar => simp [failed]

theorem prepareRun_ne_paused (h : isPauseActive opts.hostConfig.pause env.now = false) :
    (prepareRun opts env).result Host.step host ≠ .error (failed .paused) := by
  apply result_ne_paused
  rw [wp_prepareRun fun _ => trivial]
  unfold preparedInputs
  rw [h, if_neg (by decide)]
  split
  · simp [Script.Ends, failed]
  · split <;> simp [Script.Ends, failed]

theorem stopped_of_active (h : isPauseActive opts.hostConfig.pause env.now = true) : Stopped sha256 opts app env host where
  scheduled := by
    intro nextCron rebootDelayMs s id firing hfi
    by_contra hca
    obtain ⟨id', firing', hev, hnone⟩ := callsUnpaused s (.fire id firing) hca
    obtain ⟨-, rfl⟩ := SchedulerEvent.fire.inj hev
    have hsome := currentPause_isSome hfi
    rw [hnone, h] at hsome
    cases hsome
  run := by
    have hrun : executeAssignment sha256 opts env = .leave (failed .paused) := by
      unfold executeAssignment prepareRun Script.leaveIf
      rw [if_pos h]
      rfl
    rw [hrun]
    exact ⟨rfl, rfl⟩
  app := by
    have happ : runAppOnce opts.hostConfig app env = .leave (failed .paused) := by
      unfold runAppOnce Script.leaveIf
      rw [if_pos h]
      rfl
    rw [happ]
    exact ⟨rfl, rfl⟩

theorem notRefused_of_inactive (h : isPauseActive opts.hostConfig.pause env.now = false) : NotRefused opts app env host where
  scheduled := by
    intro firing hfi
    have hsome := currentPause_isSome hfi
    rw [h] at hsome
    simpa using hsome
  run := prepareRun_ne_paused h
  app := by
    have happ : runAppOnce opts.hostConfig app env = captureAppSnapshot app env := by
      unfold runAppOnce Script.leaveIf
      rw [if_neg (by rw [h]; decide)]
      rfl
    rw [happ]
    exact captureAppSnapshot_ne_paused

theorem limitedBy_iff {pause : EffectivePause} : LimitedBy opts env pause ↔ ∀ limit, presentTrimmed pause.bwlimit = some limit →
    effectiveBandwidthSchedule opts.assignment.bandwidthSchedule opts.hostConfig.pause env.now = some limit := by
  constructor
  · intro h limit hli
    -- a plan without words leaves the filter file and the limit
    have hsuf := h limit hli ⟨"", "", ⟨none, none, ⟨[], nofun⟩⟩⟩ { command := [] }
    unfold fullCommand at hsuf
    cases hef : effectiveBandwidthSchedule opts.assignment.bandwidthSchedule opts.hostConfig.pause env.now with
    | none =>
      rw [hef] at hsuf
      have hlen := hsuf.length_le
      simp [FilterUniverse.filterFrom] at hlen
    | some limit' =>
      rw [hef, Option.elim_some] at hsuf
      obtain ⟨front, hfr⟩ := hsuf
      have hend := List.append_inj_right' hfr rfl
      simp only [List.cons.injEq, Arg.value.injEq, and_true, true_and] at hend
      rw [hend]
  · intro h limit hli inputs plan
    unfold fullCommand
    rw [h limit hli, Option.elim_some]
    exact List.suffix_append _ _

theorem effectiveBandwidthSchedule_of_inactive {schedule : Option String} {pause : Option EffectivePause} {now : Int}
    (h : isPauseActive pause now = false) : effectiveBandwidthSchedule schedule pause now = presentTrimmed schedule := by
  unfold effectiveBandwidthSchedule
  have hnone : (pause.filter fun p => p.mode = .slow ∧ p.untilMs.any fun t => now < t) = none := by
    rw [Option.filter_eq_none_iff]
    rintro p rfl hslow
    have hact := (of_decide_eq_true hslow).2
    unfold isPauseActive at h
    rw [Option.any_some, hact] at h
    cases h
  rw [hnone]
  rfl

end Gates

/-- What the pause that applies asks for is done just when the condition is met. -/
theorem pause_honored_iff {rows : Table String PauseRow} {hostId : String} {fetched : Int} (sha256 : String → String)
    (opts : ExecuteOptions) (app : AppCaptureAssignment) (env : Surroundings) (host : Host) (hlater : fetched ≤ env.now)
    (hdelivered : resolveEffectivePause rows hostId fetched = .ok opts.hostConfig.pause) :
    PauseHonored sha256 opts app env host rows hostId ↔ PauseFits opts env rows hostId := by
  unfold PauseHonored PauseFits
  refine forall_congr' fun pause => forall_congr' fun hap => ?_
  rcases delivered_cases hlater hdelivered hap with hsame | ⟨ho, hin⟩
  · -- the daemon knows the pause, which is active
    have hact : isPauseActive opts.hostConfig.pause env.now = true := hsame ▸ isPauseActive_of_resolve hap
    have hstop : Stopped sha256 opts app env host := stopped_of_active hact
    rw [if_pos hsame]
    constructor
    · intro h
      cases hmode : pause.mode with
      | pause => rfl
      | slow => exact absurd hstop.app.1 (h.1 hmode).1.app
    intro hmode
    rw [hmode]
    exact ⟨nofun, fun _ => hstop⟩
  · rw [if_neg ho]
    have hopen : NotRefused opts app env host := notRefused_of_inactive hin
    rw [limitedBy_iff, effectiveBandwidthSchedule_of_inactive hin]
    cases hmode : pause.mode with
    | pause =>
      constructor
      · intro h
        exact absurd (h.2 rfl).app.1 hopen.app
      · exact fun h => nomatch h.1
    | slow => exact ⟨fun h => ⟨rfl, (h.1 rfl).2⟩, fun h => ⟨fun _ => ⟨hopen, h.2⟩, nofun⟩⟩

def slowForAll : Table String PauseRow :=
  Table.put (fun _ => none) "global" { scope := "global", untilMs := 3600000, mode := "slow", bwlimit := some "1M" }

def pausedDesk : Table String PauseRow := slowForAll.put "desk" { scope := "host", untilMs := 60000, mode := "pause" }

def pausedOptions (pause : EffectivePause) : ExecuteOptions where
  assignment := { id := "a", folderId := "f", hostId := "desk", localPath := "/docs" }
  folder := { id := "f", name := "docs", type := .sync }
  hostConfig := { pause := some pause }
  hostId := "desk"

/-- The pause of the host stops its runs, and the limit of the other one waits. -/
theorem pausedDesk_honored : PauseHonored id (pausedOptions ⟨some 60000, .pause, none⟩) { protectionId := "p" } { now := 1000 } {}
    pausedDesk "desk" := by
  refine (@pause_honored_iff _ _ 0 id _ _ _ _ (by decide) rfl).2 ?_
  intro pause hap
  have hap' : resolveEffectivePause pausedDesk "desk" 1000 = .ok (some ⟨some 60000, .pause, none⟩) := rfl
  obtain rfl := Option.some.inj (Except.ok.inj (hap.symm.trans hap'))
  have hsame : (pausedOptions ⟨some 60000, .pause, none⟩).hostConfig.pause = some ⟨some 60000, .pause, none⟩ := rfl
  rw [if_pos hsame]

/-- A slow pause refuses the run that it should slow down. -/
theorem slow_refuses :
    resolveEffectivePause slowForAll "desk" 1000 = .ok (some ⟨some 3600000, .slow, some "1M"⟩) ∧
      (executeAssignment id (pausedOptions ⟨some 3600000, .slow, some "1M"⟩) { now := 1000 }).result Host.step {} =
        .error (failed .paused) ∧
      ¬ PauseHonored id (pausedOptions ⟨some 3600000, .slow, some "1M"⟩) { protectionId := "p" } { now := 1000 } {}
        slowForAll "desk" := by
  have hap : resolveEffectivePause slowForAll "desk" 1000 = .ok (some ⟨some 3600000, .slow, some "1M"⟩) := rfl
  have href : (executeAssignment id (pausedOptions ⟨some 3600000, .slow, some "1M"⟩) { now := 1000 }).result Host.step {} =
      .error (failed .paused) := rfl
  have hprep : (prepareRun (pausedOptions ⟨some 3600000, .slow, some "1M"⟩) { now := 1000 }).result Host.step {} =
      .error (failed .paused) := rfl
  exact ⟨hap, href, fun h => ((h _ hap).1 rfl).1.run hprep⟩

end LamaSync
