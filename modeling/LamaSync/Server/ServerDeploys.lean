import LamaSync.Core.Text
import LamaSync.Lib.Rows
import LamaSync.Lib.Trace
import LamaSync.Server.Principal
import Mathlib.Data.List.Sort

/-!
# Production deploys

An administrator asks for a deploy, and the agent on the host claims the job, reports on it and completes it.  There is
one active job at a time, and a job that ended stays as it is.  A claim leaves no mark on the job by which a later report
could be told from one of an earlier run, though: `deploys_are_fenced` says exactly which runs of the server take reports
from the latest claim alone.
-/

namespace LamaSync

open Rows Trace

inductive ServerDeployStatus where
  | pending | running | succeeded | failed
  deriving DecidableEq

def ServerDeployStatus.text : ServerDeployStatus → String
  | .pending => "pending"
  | .running => "running"
  | .succeeded => "succeeded"
  | .failed => "failed"

structure ServerDeployJob where
  id : String
  requestedAt : Int
  requestedBy : Option String
  status : ServerDeployStatus
  startedAt : Option Int
  completedAt : Option Int
  summary : Option String
  outputTail : Option String
  deriving DecidableEq

def ServerDeployJob.isActive (job : ServerDeployJob) : Bool := job.status = .pending || job.status = .running

def historyLimit : Nat := 25

def historyMaxLimit : Nat := 100

def staleRunningMs : Int := 15 * 60000

def deployOutputTailCap : Nat := 16 * 1024

def lastBytes (cap : Nat) : List Char → List Char
  | [] => []
  | c :: cs => if (String.ofList (c :: cs)).utf8ByteSize ≤ cap then c :: cs else lastBytes cap cs

def capDeployOutputTail (text : String) (cap : Nat) : String :=
  if text.utf8ByteSize ≤ cap then text else "[…truncated…]" ++ String.ofList (lastBytes cap text.toList)

section Queries

variable (jobs : List ServerDeployJob)

def jobById (id : String) : Option ServerDeployJob := jobs.find? fun job => job.id == id

def newestFirst : List ServerDeployJob := jobs.mergeSort fun a b => decide (b.requestedAt ≤ a.requestedAt)

def jobByStatus (status : ServerDeployStatus) : Option ServerDeployJob :=
  (newestFirst (jobs.filter fun job => job.status = status)).head?

def reapStaleRunningDeploys (now : Int) : List ServerDeployJob :=
  update jobs (fun job => job.status = .running && job.startedAt.any fun started => decide (started < now - staleRunningMs))
    fun job => { job with status := .pending, startedAt := none }

def trimHistory : List ServerDeployJob :=
  jobs.filter fun job => ((newestFirst jobs).take historyLimit).any fun kept => kept.id == job.id

end Queries

inductive DeployRequest where
  | pending (now : Int)
  /-- With the id that `crypto.randomUUID()` returns and the label of the requester. -/
  | create (enabled : Bool) (id : String) (requestedBy : Option String) (now : Int)
  | list (limit : Option Int) (now : Int)
  | get (id : String)
  | claim (id : String) (now : Int)
  | progress (id : String) (stage output : Option String)
  | complete (id : String) (succeeded : Bool) (summary output : Option String) (now : Int)

structure DeployCall where
  principal : Option AuthPrincipal
  run : Nat
  request : DeployRequest

inductive DeployReply where
  | denied
  | refused (code : Nat) (error : String)
  | job (code : Nat) (job : Option ServerDeployJob)
  | jobs (found : List ServerDeployJob)

def givenText (text : Option String) : Option String := text.filter fun t => !t.isEmpty

section Serve

variable (scrubDeployOutput : String → String) (jobs : List ServerDeployJob)

def createDeploy (enabled : Bool) (id : String) (requestedBy : Option String) (now : Int) :
    List ServerDeployJob × DeployReply :=
  if !enabled then
    (jobs, .refused 409 ("manual deploy only — the deploy agent is not configured on this server " ++
      "(LAMASYNC_DEPLOY_AGENT_ENABLED)"))
  else
    let reaped := reapStaleRunningDeploys jobs now
    match (jobByStatus reaped .pending).orElse fun _ => jobByStatus reaped .running with
    | some existing => (reaped, .job 200 (some existing))
    | none =>
      if (jobById reaped id).isSome then (reaped, .refused 500 "UNIQUE constraint failed: server_deploy_jobs.id")
      else
        let trimmed := trimHistory (reaped ++ [{
          id := id
          requestedAt := now
          requestedBy := requestedBy
          status := .pending
          startedAt := none
          completedAt := none
          summary := none
          outputTail := none }])
        (trimmed, .job 201 (jobById trimmed id))

def listDeploys (limit : Option Int) (now : Int) : List ServerDeployJob × DeployReply :=
  let reaped := reapStaleRunningDeploys jobs now
  let n := match limit with
    | some requested => min (max 1 requested) historyMaxLimit
    | none => historyLimit
  (reaped, .jobs ((newestFirst reaped).take n.toNat))

def claimDeploy (id : String) (now : Int) : List ServerDeployJob × DeployReply :=
  if jobs.any fun job => job.id == id && job.status = .pending then
    let claimed := update jobs (fun job => job.id == id && job.status = .pending) fun job =>
      { job with status := .running, startedAt := some now }
    (claimed, .job 200 (jobById claimed id))
  else (jobs, .refused 409 "Deploy job is not claimable (not pending)")

def progressDeploy (id : String) (stage output : Option String) : List ServerDeployJob × DeployReply :=
  match jobById jobs id with
  | none => (jobs, .refused 404 "Deploy job not found")
  | some job =>
    if job.status ≠ .running then (jobs, .refused 409 ("Deploy job is " ++ job.status.text ++ ", not running"))
    else
      let stage := (givenText stage).map fun text => sliceText (scrubDeployOutput text) 200
      let appended := ((givenText output).map scrubDeployOutput).getD ""
      let merged := capDeployOutputTail (job.outputTail.getD "" ++ appended) deployOutputTailCap
      let updated := update jobs (fun job => job.id == id) fun row =>
        { row with summary := stage.orElse fun _ => job.summary, outputTail := some merged }
      (updated, .job 200 (jobById updated id))

def completeDeploy (id : String) (succeeded : Bool) (summary output : Option String) (now : Int) :
    List ServerDeployJob × DeployReply :=
  match jobById jobs id with
  | none => (jobs, .refused 404 "Deploy job not found")
  | some job =>
    if !job.isActive then (jobs, .refused 409 ("Deploy job already " ++ job.status.text))
    else
      let summary := (givenText summary).map fun text => sliceText (scrubDeployOutput text) 500
      let output := match givenText output with
        | some text => some (capDeployOutputTail (scrubDeployOutput text) deployOutputTailCap)
        | none => job.outputTail
      let updated := update jobs (fun job => job.id == id) fun row =>
        { row with
          status := if succeeded then .succeeded else .failed
          completedAt := some now
          summary := summary.orElse fun _ => job.summary
          outputTail := output }
      (updated, .job 200 (jobById updated id))

def DeployCall.allowed (call : DeployCall) : Bool :=
  match call.request with
  | .create .. | .list .. | .get _ => (requireAdmin call.principal).isSome
  | .pending _ | .claim .. | .progress .. | .complete .. => (requireDeployAgent call.principal).isSome

def serveDeploy (call : DeployCall) : List ServerDeployJob × DeployReply :=
  if !call.allowed then (jobs, .denied)
  else match call.request with
    | .pending now =>
      let reaped := reapStaleRunningDeploys jobs now
      (reaped, .job 200 (jobByStatus reaped .pending))
    | .create enabled id requestedBy now => createDeploy jobs enabled id requestedBy now
    | .list limit now => listDeploys jobs limit now
    | .get id =>
      match jobById jobs id with
      | some job => (jobs, .job 200 (some job))
      | none => (jobs, .refused 404 "Deploy job not found")
    | .claim id now => claimDeploy jobs id now
    | .progress id stage output => progressDeploy scrubDeployOutput jobs id stage output
    | .complete id succeeded summary output now => completeDeploy scrubDeployOutput jobs id succeeded summary output now

end Serve

/-- The jobs, and for each the run whose claim was the last one granted. -/
structure DeployHistory where
  jobs : List ServerDeployJob
  claimedBy : String → Option Nat

def DeployHistory.new : DeployHistory := ⟨[], fun _ => none⟩

def DeployCall.grants (jobs : List ServerDeployJob) (call : DeployCall) (id : String) : Bool :=
  match call.request with
  | .claim id' _ => call.allowed && id' == id && jobs.any fun job => job.id == id && job.status = .pending
  | _ => false

section Steps

variable (scrubDeployOutput : String → String)

def DeployHistory.step (h : DeployHistory) (call : DeployCall) : DeployHistory where
  jobs := (serveDeploy scrubDeployOutput h.jobs call).1
  claimedBy id := if call.grants h.jobs id then some call.run else h.claimedBy id

def DeployRequest.reportsOn (id : String) : DeployRequest → Prop
  | .progress id' .. | .complete id' .. => id' = id
  | _ => False

structure KeepsJobs (h : DeployHistory) (call : DeployCall) : Prop where
  active : (h.step scrubDeployOutput call).jobs.countP ServerDeployJob.isActive ≤ 1
  ended : ∀ job ∈ h.jobs, job.isActive = false → ∀ job' ∈ (h.step scrubDeployOutput call).jobs, job'.id = job.id →
    job' = job
  kept : ∀ job ∈ h.jobs, job.isActive = true → ∃ job' ∈ (h.step scrubDeployOutput call).jobs, job'.id = job.id

structure FencesReports (h : DeployHistory) (call : DeployCall) : Prop where
  created : ∀ jobs', serveDeploy scrubDeployOutput h.jobs call ≠ (jobs', .job 201 none)
  reported : ∀ id jobs' job, call.request.reportsOn id →
    serveDeploy scrubDeployOutput h.jobs call = (jobs', .job 200 job) → h.claimedBy id = some call.run

end Steps

/-- A creation finds fewer than twenty-five jobs that were requested at its clock value or later. -/
def ClockFits (jobs : List ServerDeployJob) (call : DeployCall) : Prop :=
  match call.request with
  | .create true id _ now => call.allowed = true → (∀ job ∈ jobs, job.isActive = false ∧ job.id ≠ id) →
      jobs.countP (fun job => decide (now ≤ job.requestedAt)) < historyLimit
  | _ => True

def FromItsRun (h : DeployHistory) (call : DeployCall) : Prop :=
  match call.request with
  | .progress id .. => call.allowed = true → ∀ job, jobById h.jobs id = some job → job.status = .running →
      h.claimedBy id = some call.run
  | .complete id .. => call.allowed = true → ∀ job, jobById h.jobs id = some job → job.isActive = true →
      h.claimedBy id = some call.run
  | _ => True

/-- What a statement may make of a job. -/
structure JobStep (job job' : ServerDeployJob) : Prop where
  id : job'.id = job.id
  ended : job.isActive = false → job' = job
  active : job'.isActive = true → job.isActive = true

theorem JobStep.refl (job : ServerDeployJob) : JobStep job job := ⟨rfl, fun _ => rfl, fun h => h⟩

structure DeployInv (jobs : List ServerDeployJob) : Prop where
  ids : (jobs.map ServerDeployJob.id).Nodup
  active : jobs.countP ServerDeployJob.isActive ≤ 1

section Moves

variable {jobs : List ServerDeployJob} {set : ServerDeployJob → ServerDeployJob}

private theorem sd_update {guard : ServerDeployJob → Bool}
    (h : ∀ job ∈ jobs, guard job = true → JobStep job (set job)) :
    ∃ f : ServerDeployJob → ServerDeployJob, (∀ job ∈ jobs, JobStep job (f job)) ∧ update jobs guard set = jobs.map f := by
  refine ⟨fun job => if guard job then set job else job, fun job hjob => ?_, rfl⟩
  by_cases hg : guard job = true
  · simpa [hg] using h job hjob hg
  · simpa [hg] using JobStep.refl job

private theorem sd_reap (now : Int) : ∃ f : ServerDeployJob → ServerDeployJob,
    (∀ job ∈ jobs, JobStep job (f job)) ∧ reapStaleRunningDeploys jobs now = jobs.map f := by
  refine sd_update fun job _ hg => ?_
  have hrun : job.status = .running := by
    simp only [Bool.and_eq_true, decide_eq_true_eq] at hg
    exact hg.1
  have hact : job.isActive = true := by simp [ServerDeployJob.isActive, hrun]
  exact ⟨rfl, fun hnd => absurd hact (by simp [hnd]), fun _ => hact⟩

private theorem sd_byStatus {status : ServerDeployStatus} :
    jobByStatus jobs status = none ↔ ∀ job ∈ jobs, job.status ≠ status := by
  unfold jobByStatus newestFirst
  rw [List.head?_eq_none_iff, ← List.length_eq_zero_iff, List.length_mergeSort, List.length_eq_zero_iff,
    List.filter_eq_nil_iff]
  simp

private theorem sd_idle {now : Int}
    (h : ((jobByStatus (reapStaleRunningDeploys jobs now) .pending).orElse fun _ =>
      jobByStatus (reapStaleRunningDeploys jobs now) .running) = none) :
    (∀ job ∈ jobs, job.isActive = false) ∧ reapStaleRunningDeploys jobs now = jobs := by
  have hboth : jobByStatus (reapStaleRunningDeploys jobs now) .pending = none ∧
      jobByStatus (reapStaleRunningDeploys jobs now) .running = none := by
    cases hpend : jobByStatus (reapStaleRunningDeploys jobs now) .pending with
    | none => simpa [hpend] using h
    | some job => simp [hpend] at h
  simp only [sd_byStatus] at hboth
  obtain ⟨hpend, hrun⟩ := hboth
  have hsame : ∀ job ∈ jobs, (job.status = .running && job.startedAt.any fun started =>
      decide (started < now - staleRunningMs)) = false := by
    intro job hjob
    rw [Bool.eq_false_iff]
    intro hg
    have hmem : (if job.status = .running && job.startedAt.any fun started => decide (started < now - staleRunningMs) then
        { job with status := .pending, startedAt := none } else job) ∈ reapStaleRunningDeploys jobs now :=
      mem_update_of_mem hjob
    rw [if_pos hg] at hmem
    exact hpend _ hmem rfl
  have heq : reapStaleRunningDeploys jobs now = jobs := by
    unfold reapStaleRunningDeploys update
    conv_rhs => rw [← List.map_id jobs]
    exact List.map_congr_left fun job hjob => by simp [hsame job hjob]
  rw [heq] at hpend hrun
  exact ⟨fun job hjob => by simp [ServerDeployJob.isActive, hpend job hjob, hrun job hjob], heq⟩

inductive DeployMove (jobs : List ServerDeployJob) : List ServerDeployJob → Prop where
  | rows (f : ServerDeployJob → ServerDeployJob) (h : ∀ job ∈ jobs, JobStep job (f job)) : DeployMove jobs (jobs.map f)
  | created (new : ServerDeployJob) (h : ∀ job ∈ jobs, job.isActive = false ∧ job.id ≠ new.id) :
    DeployMove jobs (trimHistory (jobs ++ [new]))

private theorem sd_same : DeployMove jobs jobs := by
  have h : DeployMove jobs (jobs.map id) := .rows id fun job _ => .refl job
  rwa [List.map_id] at h

private theorem sd_writes {guard : ServerDeployJob → Bool}
    (h : ∀ job ∈ jobs, guard job = true → JobStep job (set job)) : DeployMove jobs (update jobs guard set) := by
  obtain ⟨f, hf, heq⟩ := sd_update h
  exact heq ▸ .rows f hf

private theorem sd_reaps (now : Int) : DeployMove jobs (reapStaleRunningDeploys jobs now) := by
  obtain ⟨f, hf, heq⟩ := @sd_reap jobs now
  exact heq ▸ .rows f hf

private theorem sd_reported {id : String} {job : ServerDeployJob}
    (hids : (jobs.map ServerDeployJob.id).Nodup) (hf : jobById jobs id = some job) (hact : job.isActive = true)
    (hset : ∀ row, (set row).id = row.id) : DeployMove jobs (update jobs (fun job => job.id == id) set) := by
  refine sd_writes fun row hrow hg => ?_
  obtain ⟨hjob, hid⟩ := find_some hf
  obtain rfl : row = job := eq_of_key hids hrow hjob ((beq_iff_eq.1 hg).trans hid.symm)
  exact ⟨hset row, fun hnd => absurd hact (by simp [hnd]), fun _ => hact⟩

private theorem sd_creates {enabled : Bool} {id : String} {requestedBy : Option String} {now : Int} :
    DeployMove jobs (createDeploy jobs enabled id requestedBy now).1 := by
  unfold createDeploy
  split
  · exact sd_same
  dsimp only
  split
  · exact sd_reaps now
  rename_i hnone
  obtain ⟨hidle, heq⟩ := sd_idle hnone
  rw [heq]
  split
  · exact sd_same
  rename_i hfr
  have hnew : ∀ job ∈ jobs, job.id ≠ id := find_none (by simpa [jobById] using hfr)
  exact .created _ fun job hjob => ⟨hidle job hjob, hnew job hjob⟩

theorem serveDeploy_moves (scrubDeployOutput : String → String) (hids : (jobs.map ServerDeployJob.id).Nodup)
    (call : DeployCall) : DeployMove jobs (serveDeploy scrubDeployOutput jobs call).1 := by
  obtain ⟨principal, run, request⟩ := call
  unfold serveDeploy
  split
  · exact sd_same
  cases request with
  | pending now | list limit now => exact sd_reaps now
  | create enabled id requestedBy now => exact sd_creates
  | get id =>
    dsimp only
    split <;> exact sd_same
  | claim id now =>
    simp only [claimDeploy]
    split
    · refine sd_writes fun job _ hg => ?_
      have hact : job.isActive = true := by
        simp only [Bool.and_eq_true, decide_eq_true_eq] at hg
        simp [ServerDeployJob.isActive, hg.2]
      exact ⟨rfl, fun hnd => absurd hact (by simp [hnd]), fun _ => hact⟩
    · exact sd_same
  | progress id stage output =>
    simp only [progressDeploy]
    split
    · exact sd_same
    rename_i job hf
    split
    · exact sd_same
    · rename_i hrun
      exact sd_reported hids hf (by simp [ServerDeployJob.isActive, not_not.1 hrun]) fun _ => rfl
  | complete id succeeded summary output now =>
    simp only [completeDeploy]
    split
    · exact sd_same
    rename_i job hf
    split
    · exact sd_same
    · rename_i hact
      exact sd_reported hids hf (by simpa using hact) fun _ => rfl

private theorem sd_trim_mem {job : ServerDeployJob} (h : job ∈ trimHistory jobs) : job ∈ jobs := (List.mem_filter.1 h).1

theorem DeployInv.moves {jobs' : List ServerDeployJob} (h : DeployInv jobs) (hmove : DeployMove jobs jobs') :
    DeployInv jobs' := by
  cases hmove with
  | rows f hf =>
    refine ⟨?_, ?_⟩
    · have heq : (jobs.map f).map ServerDeployJob.id = jobs.map ServerDeployJob.id := by
        rw [List.map_map]
        exact List.map_congr_left fun job hjob => (hf job hjob).id
      rw [heq]
      exact h.ids
    · rw [List.countP_map]
      exact (List.countP_mono_left fun job hjob => (hf job hjob).active).trans h.active
  | created new hnew =>
    have hids : ((jobs ++ [new]).map ServerDeployJob.id).Nodup := nodup_concat h.ids fun job hjob => (hnew job hjob).2
    refine ⟨hids.sublist (List.filter_sublist.map _), ?_⟩
    refine List.filter_sublist.countP_le.trans ?_
    have hzero : jobs.countP ServerDeployJob.isActive = 0 :=
      List.countP_eq_zero.2 fun job hjob => by simp [(hnew job hjob).1]
    rw [List.countP_append, hzero, Nat.zero_add]
    exact List.countP_le_length

theorem DeployMove.keeps {jobs' : List ServerDeployJob} (hids : (jobs.map ServerDeployJob.id).Nodup)
    (hmove : DeployMove jobs jobs') :
    (∀ job ∈ jobs, job.isActive = false → ∀ job' ∈ jobs', job'.id = job.id → job' = job) ∧
    ∀ job ∈ jobs, job.isActive = true → ∃ job' ∈ jobs', job'.id = job.id := by
  cases hmove with
  | rows f hf =>
    refine ⟨fun job hjob hnd job' hjob' hid => ?_, fun job hjob _ => ⟨f job, List.mem_map_of_mem hjob, (hf job hjob).id⟩⟩
    obtain ⟨old, hold, rfl⟩ := List.mem_map.1 hjob'
    obtain rfl : old = job := eq_of_key hids hold hjob ((hf old hold).id.symm.trans hid)
    exact (hf old hold).ended hnd
  | created new hnew =>
    refine ⟨fun job hjob _ job' hjob' hid => ?_, fun job hjob hact => absurd hact (by simp [(hnew job hjob).1])⟩
    have hids' : ((jobs ++ [new]).map ServerDeployJob.id).Nodup := nodup_concat hids fun job hjob => (hnew job hjob).2
    exact eq_of_key hids' (sd_trim_mem hjob') (List.mem_append_left _ hjob) hid

private theorem sd_le_trans (a b c : ServerDeployJob) (hab : decide (b.requestedAt ≤ a.requestedAt) = true)
    (hbc : decide (c.requestedAt ≤ b.requestedAt) = true) : decide (c.requestedAt ≤ a.requestedAt) = true := by
  simp only [decide_eq_true_eq] at hab hbc ⊢
  exact hbc.trans hab

private theorem sd_le_total (a b : ServerDeployJob) :
    (decide (b.requestedAt ≤ a.requestedAt) || decide (a.requestedAt ≤ b.requestedAt)) = true := by
  simpa using Int.le_total b.requestedAt a.requestedAt

private theorem sd_rank {new : ServerDeployJob} (hnd : (jobs ++ [new]).Nodup) :
    ∃ before after, newestFirst (jobs ++ [new]) = before ++ new :: after ∧
      before.length = jobs.countP fun job => decide (new.requestedAt ≤ job.requestedAt) := by
  have hperm : (newestFirst (jobs ++ [new])).Perm (jobs ++ [new]) := List.mergeSort_perm ..
  obtain ⟨before, after, heq⟩ := List.append_of_mem (hperm.mem_iff.2 (List.mem_append_right jobs (.head [])))
  refine ⟨before, after, heq, ?_⟩
  have hsort := List.pairwise_mergeSort sd_le_trans sd_le_total (jobs ++ [new])
  change (newestFirst (jobs ++ [new])).Pairwise _ at hsort
  rw [heq, List.pairwise_append] at hsort
  obtain ⟨-, haf, hbef⟩ := hsort
  have hbef' : ∀ job ∈ before, new.requestedAt ≤ job.requestedAt := fun job hjob => by
    simpa using hbef job hjob new (.head _)
  have hsortedNodup : (before ++ new :: after).Nodup := heq ▸ hperm.nodup_iff.2 hnd
  -- a job of the same clock value stands before the new one in the table, so the stable sort keeps it before
  have haf' : ∀ job ∈ after, ¬new.requestedAt ≤ job.requestedAt := by
    intro job hjob hle
    have hne : job ≠ new := by
      rintro rfl
      exact (List.nodup_cons.1 (List.nodup_append.1 hsortedNodup).2.1).1 hjob
    have hmem : job ∈ jobs := by
      have hin := hperm.mem_iff.1 (heq ▸ List.mem_append_right before (List.mem_cons_of_mem new hjob))
      rcases List.mem_append.1 hin with hin | hin
      · exact hin
      · exact absurd (List.mem_singleton.1 hin) hne
    have hpair : [job, new].Sublist (newestFirst (jobs ++ [new])) :=
      List.pair_sublist_mergeSort sd_le_trans sd_le_total (decide_eq_true hle)
        ((List.singleton_sublist.2 hmem).append (List.Sublist.refl [new]))
    rw [heq] at hpair
    obtain ⟨first, rest, hsp, hfi, hrest⟩ := List.sublist_append_iff.1 hpair
    obtain ⟨-, hr, hdisj⟩ := List.nodup_append.1 hsortedNodup
    cases first with
    | nil =>
      obtain rfl : rest = [job, new] := hsp.symm
      rcases List.sublist_cons_iff.1 hrest with hin | ⟨tail, htail, -⟩
      · exact (List.nodup_cons.1 hr).1 (hin.subset (by simp))
      · exact hne (List.cons.inj htail).1
    | cons head tail =>
      obtain ⟨rfl, -⟩ := List.cons.inj hsp
      exact hdisj job (hfi.subset (.head _)) job (List.mem_cons_of_mem new hjob) rfl
  have hc : (before ++ new :: after).countP (fun job => decide (new.requestedAt ≤ job.requestedAt)) =
      (jobs ++ [new]).countP fun job => decide (new.requestedAt ≤ job.requestedAt) := heq ▸ hperm.countP_eq _
  have hall : before.countP (fun job => decide (new.requestedAt ≤ job.requestedAt)) = before.length :=
    List.countP_eq_length.2 fun job hjob => decide_eq_true (hbef' job hjob)
  have hnone : after.countP (fun job => decide (new.requestedAt ≤ job.requestedAt)) = 0 :=
    List.countP_eq_zero.2 fun job hjob => by simpa using haf' job hjob
  simp only [List.countP_append, List.countP_cons, List.countP_nil, hall, hnone] at hc
  omega

private theorem sd_trim_new {new : ServerDeployJob} (hids : ((jobs ++ [new]).map ServerDeployJob.id).Nodup) :
    jobById (trimHistory (jobs ++ [new])) new.id = none ↔
      historyLimit ≤ jobs.countP fun job => decide (new.requestedAt ≤ job.requestedAt) := by
  obtain ⟨before, after, heq, hlen⟩ := sd_rank hids.of_map
  rw [← hlen]
  have hperm : (newestFirst (jobs ++ [new])).Perm (jobs ++ [new]) := List.mergeSort_perm ..
  have hsort : ((before ++ new :: after).map ServerDeployJob.id).Nodup := heq ▸ (hperm.map _).nodup_iff.2 hids
  have htake : ((newestFirst (jobs ++ [new])).take historyLimit).any (fun kept => kept.id == new.id) = true ↔
      before.length < historyLimit := by
    rw [heq, List.any_eq_true]
    constructor
    · rintro ⟨kept, hkept, hid⟩
      by_contra hge
      rw [List.take_append_of_le_length (not_lt.1 hge)] at hkept
      have hbef := List.mem_of_mem_take hkept
      rw [List.map_append, List.nodup_append] at hsort
      exact hsort.2.2 _ (List.mem_map_of_mem hbef) _ (.head _) (beq_iff_eq.1 hid)
    · intro hlt
      refine ⟨new, ?_, beq_self_eq_true _⟩
      rw [List.take_append, List.mem_append]
      obtain ⟨n, hn⟩ : ∃ n, historyLimit - before.length = n + 1 := ⟨historyLimit - before.length - 1, by omega⟩
      exact .inr (by rw [hn]; exact .head _)
  rw [jobById, List.find?_eq_none]
  constructor
  · intro hnone
    by_contra hlt
    have hin : new ∈ trimHistory (jobs ++ [new]) :=
      List.mem_filter.2 ⟨List.mem_append_right _ (.head _), htake.2 (not_le.1 hlt)⟩
    exact hnone new hin (beq_self_eq_true _)
  intro hge job hjob hid
  obtain ⟨-, hkept⟩ := List.mem_filter.1 hjob
  rw [beq_iff_eq.1 hid] at hkept
  exact absurd (htake.1 hkept) (not_lt.2 hge)

private theorem sd_create_lost {id : String} {requestedBy : Option String} {now : Int}
    (hids : (jobs.map ServerDeployJob.id).Nodup) :
    (∃ jobs', createDeploy jobs true id requestedBy now = (jobs', .job 201 none)) ↔
      (∀ job ∈ jobs, job.isActive = false ∧ job.id ≠ id) ∧
        historyLimit ≤ jobs.countP fun job => decide (now ≤ job.requestedAt) := by
  simp only [createDeploy, Bool.not_true, Bool.false_eq_true, if_false]
  split
  · rename_i existing hex
    refine iff_of_false (by simp) fun ⟨hidle, _⟩ => ?_
    obtain ⟨f, hf, heq⟩ := @sd_reap jobs now
    have hin : ∀ job ∈ reapStaleRunningDeploys jobs now, job.isActive = false := by
      rw [heq]
      intro job' hjob'
      obtain ⟨job, hjob, rfl⟩ := List.mem_map.1 hjob'
      rw [(hf job hjob).ended (hidle job hjob).1]
      exact (hidle job hjob).1
    have hnone : ∀ status, (status = .pending ∨ status = .running) →
        jobByStatus (reapStaleRunningDeploys jobs now) status = none := by
      intro status hst
      refine sd_byStatus.2 fun job hjob heq => ?_
      have hnd := hin job hjob
      rcases hst with rfl | rfl <;> simp [ServerDeployJob.isActive, heq] at hnd
    simp [hnone .pending (.inl rfl), hnone .running (.inr rfl)] at hex
  · rename_i hnone
    obtain ⟨hidle, heq⟩ := sd_idle hnone
    rw [heq]
    split
    · rename_i hold
      refine iff_of_false (by simp) fun ⟨hfr, _⟩ => ?_
      obtain ⟨job, hfo⟩ := Option.isSome_iff_exists.1 hold
      obtain ⟨hjob, hid⟩ := find_some hfo
      exact (hfr job hjob).2 hid
    rename_i hfr
    have hnew : ∀ job ∈ jobs, job.id ≠ id := find_none (by simpa [jobById] using hfr)
    have htrim := @sd_trim_new jobs {
      id := id
      requestedAt := now
      requestedBy := requestedBy
      status := .pending
      startedAt := none
      completedAt := none
      summary := none
      outputTail := none } (nodup_concat hids hnew)
    rw [and_iff_right fun job hjob => ⟨hidle job hjob, hnew job hjob⟩, ← htrim]
    simp

end Moves

section Runs

variable {scrubDeployOutput : String → String} {h : DeployHistory} {call : DeployCall}

theorem DeployInv.step (hinv : DeployInv h.jobs) : DeployInv (h.step scrubDeployOutput call).jobs :=
  hinv.moves (serveDeploy_moves scrubDeployOutput hinv.ids call)

theorem DeployInv.keepsJobs (hinv : DeployInv h.jobs) : KeepsJobs scrubDeployOutput h call := by
  obtain ⟨hnd, hkept⟩ := (serveDeploy_moves scrubDeployOutput hinv.ids call).keeps hinv.ids
  exact ⟨hinv.step.active, hnd, hkept⟩

private theorem sd_created (hinv : DeployInv h.jobs) :
    (∀ jobs', serveDeploy scrubDeployOutput h.jobs call ≠ (jobs', .job 201 none)) ↔ ClockFits h.jobs call := by
  obtain ⟨principal, run, request⟩ := call
  by_cases hok : DeployCall.allowed ⟨principal, run, request⟩ = true
  swap
  · refine iff_of_true (fun jobs' => by simp [serveDeploy, hok]) ?_
    cases request with
    | create enabled => cases enabled with
      | true => exact fun hyes => absurd hyes hok
      | false => trivial
    | _ => trivial
  cases request with
  | create enabled id requestedBy now =>
    cases enabled with
    | false => exact iff_of_true (fun jobs' => by simp [serveDeploy, hok, createDeploy]) trivial
    | true =>
      have hlost := @sd_create_lost h.jobs id requestedBy now hinv.ids
      simp only [ClockFits, serveDeploy, hok, forall_const, Bool.not_true, Bool.false_eq_true, if_false]
      rw [← not_exists, hlost, not_and, not_le]
  | progress id stage output =>
    refine iff_of_true (fun jobs' => ?_) trivial
    simp only [serveDeploy, progressDeploy]
    repeat' split
    all_goals simp
  | complete id succeeded summary output now =>
    refine iff_of_true (fun jobs' => ?_) trivial
    simp only [serveDeploy, completeDeploy]
    repeat' split
    all_goals simp
  | claim id now =>
    refine iff_of_true (fun jobs' => ?_) trivial
    simp only [serveDeploy, claimDeploy]
    repeat' split
    all_goals simp
  | get id =>
    refine iff_of_true (fun jobs' => ?_) trivial
    simp only [serveDeploy]
    repeat' split
    all_goals simp
  | pending now | list limit now => exact iff_of_true (fun jobs' => by simp [serveDeploy, hok, listDeploys]) trivial

private theorem sd_reports :
    (∀ id jobs' job, call.request.reportsOn id → serveDeploy scrubDeployOutput h.jobs call = (jobs', .job 200 job) →
      h.claimedBy id = some call.run) ↔ FromItsRun h call := by
  obtain ⟨principal, run, request⟩ := call
  cases request with
  | progress id stage output =>
    constructor
    · intro hrep hok job hf hru
      exact hrep id _ _ rfl (by simp only [serveDeploy, hok, progressDeploy, hf, hru]; rfl)
    rintro hrun _ jobs' job rfl hsv
    unfold serveDeploy at hsv
    split at hsv
    · cases hsv
    rename_i hok
    simp only [progressDeploy] at hsv
    split at hsv
    · cases hsv
    rename_i found hf
    split at hsv
    · cases hsv
    · rename_i hru
      exact hrun (by simpa using hok) found hf (not_not.1 hru)
  | complete id succeeded summary output now =>
    constructor
    · intro hrep hok job hf hact
      exact hrep id _ _ rfl (by simp only [serveDeploy, hok, completeDeploy, hf, hact]; rfl)
    rintro hrun _ jobs' job rfl hsv
    unfold serveDeploy at hsv
    split at hsv
    · cases hsv
    rename_i hok
    simp only [completeDeploy] at hsv
    split at hsv
    · cases hsv
    rename_i found hf
    split at hsv
    · cases hsv
    · rename_i hact
      exact hrun (by simpa using hok) found hf (by simpa using hact)
  | pending | create | list | get | claim => exact iff_of_true (fun _ _ _ hno => hno.elim) trivial

theorem fencesReports_iff (hinv : DeployInv h.jobs) :
    FencesReports scrubDeployOutput h call ↔ ClockFits h.jobs call ∧ FromItsRun h call :=
  ⟨fun hfe => ⟨(sd_created hinv).1 hfe.created, sd_reports.1 hfe.reported⟩,
    fun ⟨hcl, hrun⟩ => ⟨(sd_created hinv).2 hcl, sd_reports.2 hrun⟩⟩

variable (scrubDeployOutput) in
/-- In every run one job at most is active, and a job that ended stays as it is.  No new job is trimmed away and no report
of a run whose job another one has claimed is taken exactly when every creation fits the clock and every report on an open
job comes from the run that claimed it last. -/
theorem deploys_are_fenced (calls : List DeployCall) :
    Always (DeployHistory.step scrubDeployOutput) (KeepsJobs scrubDeployOutput) .new calls ∧
    (Always (DeployHistory.step scrubDeployOutput) (FencesReports scrubDeployOutput) .new calls ↔
      Always (DeployHistory.step scrubDeployOutput) (fun h call => ClockFits h.jobs call ∧ FromItsRun h call) .new
        calls) := by
  have hnew : DeployInv DeployHistory.new.jobs := ⟨List.nodup_nil, Nat.zero_le 1⟩
  constructor
  · exact always_true.of_invariant (I := fun h : DeployHistory => DeployInv h.jobs) hnew (fun _ _ hinv _ => hinv.step)
      fun _ _ hinv _ => hinv.keepsJobs
  · exact always_congr (I := fun h : DeployHistory => DeployInv h.jobs) hnew (fun _ _ hinv => fencesReports_iff hinv)
      fun _ _ hinv _ => hinv.step

end Runs

/-- Run 1 claims the job and is silent for sixteen minutes; run 2 polls, claims it again, and then run 1 is done. -/
def overtakenCalls : List DeployCall := [
  ⟨some .master, 0, .create true "d1" none 0⟩,
  ⟨some (.deploy "agent"), 1, .claim "d1" 0⟩,
  ⟨some (.deploy "agent"), 2, .pending 960000⟩,
  ⟨some (.deploy "agent"), 2, .claim "d1" 960000⟩,
  ⟨some (.deploy "agent"), 1, .complete "d1" true none none 960001⟩]

theorem overtaken_run_completes :
    ¬Always (DeployHistory.step id) (FencesReports id) DeployHistory.new overtakenCalls ∧
      (run (DeployHistory.step id) DeployHistory.new overtakenCalls).jobs.map ServerDeployJob.status = [.succeeded] := by
  have hcre : (DeployHistory.step id .new ⟨some .master, 0, .create true "d1" none 0⟩).jobs =
      [⟨"d1", 0, none, .pending, none, none, none, none⟩] := by
    simp [DeployHistory.step, DeployHistory.new, serveDeploy, DeployCall.allowed, requireAdmin, createDeploy,
      reapStaleRunningDeploys, update, jobByStatus, newestFirst, jobById, trimHistory, historyLimit]
  have hst : DeployHistory.step id .new ⟨some .master, 0, .create true "d1" none 0⟩ =
      ⟨[⟨"d1", 0, none, .pending, none, none, none, none⟩], fun _ => none⟩ := by
    rw [← hcre]
    rfl
  have hjobs : (run (DeployHistory.step id) DeployHistory.new (overtakenCalls.take 4)).jobs =
      [⟨"d1", 0, none, .running, some 960000, none, none, none⟩] := by
    simp only [overtakenCalls, List.take, run_cons, run_nil, hst]
    simp [DeployHistory.step, serveDeploy, DeployCall.allowed, requireDeployAgent, claimDeploy, update,
      reapStaleRunningDeploys, staleRunningMs]
  have hcl : (run (DeployHistory.step id) DeployHistory.new (overtakenCalls.take 4)).claimedBy "d1" = some 2 := by
    simp only [overtakenCalls, List.take, run_cons, run_nil, hst]
    simp [DeployHistory.step, DeployCall.grants, serveDeploy, DeployCall.allowed, requireDeployAgent, claimDeploy, update,
      reapStaleRunningDeploys, staleRunningMs]
  constructor
  · intro h
    have hsp : Always (DeployHistory.step id) (FencesReports id) .new (overtakenCalls.take 4 ++
        [⟨some (.deploy "agent"), 1, .complete "d1" true none none 960001⟩]) := h
    have hlast := hsp.at
    have hrun := (sd_reports.1 hlast.reported) rfl _ (by rw [hjobs]; rfl) rfl
    rw [hcl] at hrun
    exact absurd hrun (by decide)
  · have hsp : overtakenCalls = overtakenCalls.take 4 ++
        [⟨some (.deploy "agent"), 1, .complete "d1" true none none 960001⟩] := rfl
    rw [hsp, run_concat]
    simp only [DeployHistory.step, serveDeploy, hjobs]
    rfl

end LamaSync
