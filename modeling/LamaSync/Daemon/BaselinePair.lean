import LamaSync.Daemon.SyncRuns
import LamaSync.Lib.Texts

/-!
# Whose baseline a run continues

rclone names the listings of a pair after its two paths.  The executor takes the work directory for ready when any pair is
there, and it looks before a peer may take the place of the remote; a run that is repeated is not looked at again.  So a
plain run can meet the pair of an earlier destination, or that of the remote while a peer is used.

`launches_on_own_baseline_iff` says when every plain run finds the pair of its own two paths.
-/

namespace LamaSync

open Script (wp_bind wp_act wp_leaveIf wp_orLeave wp_ite wp_mono)

def bisyncPaths : List Arg → Option (String × String)
  | .word "bisync" :: path1 :: path2 :: _ => some (path1.text, path2.text)
  | _ => none

/-- Both listings of the pair are there. -/
def HasListings (files : List ListingFile) (stem : String) : Prop :=
  (∃ f ∈ files, f.name = stem ++ ".path1.lst") ∧ ∃ f ∈ files, f.name = stem ++ ".path2.lst"

structure HoldsPair (files : List ListingFile) (stem : String) : Prop where
  listings : HasListings files stem
  noError : ∀ f ∈ files, f.name ≠ stem ++ ".path1.lst-err" ∧ f.name ≠ stem ++ ".path2.lst-err"
  notInFlight : ∀ f ∈ files, f.name ≠ stem ++ ".path1.lst-new" ∧ f.name ≠ stem ++ ".path2.lst-new"

theorem HoldsPair.of_ready {files : List ListingFile} {stem : String}
    (hrd : (inspectBisyncBaseline files false).ready = true) (h : HasListings files stem) : HoldsPair files stem := by
  have her := (present_of_ready hrd).2
  unfold inspectBisyncBaseline at hrd her
  dsimp only at hrd her
  have hmem : stem ∈ ((stemsOf ".path1.lst" files).filter (stemsOf ".path2.lst" files).contains).insertionSort
      fun a b => a ≤ b := by
    rw [List.mem_insertionSort, List.mem_filter, List.contains_iff_mem, mem_stemsOf, mem_stemsOf]
    exact h
  split at hrd
  · cases hrd
  rename_i hst
  rw [if_neg hst] at her
  dsimp only at her
  rw [her, Bool.not_false, Bool.true_and, Bool.not_eq_true', List.any_eq_false] at hrd
  have hfl := hrd stem hmem
  rw [List.contains_iff_mem, List.mem_append, not_or, mem_stemsOf, mem_stemsOf] at hfl
  rw [List.any_eq_false] at her
  refine ⟨h, fun f hf => ⟨fun hname => ?_, fun hname => ?_⟩, fun f hf => ⟨fun hname => ?_, fun hname => ?_⟩⟩
  · have hsome : dropEnding ".lst-err" f.name = some (stem ++ ".path1") := by
      rw [dropEnding_eq_some, hname, String.append_assoc]
      rfl
    exact her f hf (by rw [hsome]; rfl)
  · have hsome : dropEnding ".lst-err" f.name = some (stem ++ ".path2") := by
      rw [dropEnding_eq_some, hname, String.append_assoc]
      rfl
    exact her f hf (by rw [hsome]; rfl)
  · exact hfl.1 ⟨f, hf, hname⟩
  · exact hfl.2 ⟨f, hf, hname⟩

def OwnBaseline (sessionName : String → String → String) (host : Host) (e : ExecutorEvent) : Prop :=
  ∀ command, launched e = some command → isDry command = false → isResync command = false →
    ∀ paths, bisyncPaths command = some paths → HoldsPair host.files (sessionName paths.1 paths.2)

def hookPasses (command : Option String) (ended : Option Int) : Bool := (hookCommand command).isNone || ended = some 0

section Condition

variable (sessionName : String → String → String) (sha256 : String → String) (opts : ExecuteOptions) (env : Surroundings)
  (host : Host)

def startsRclone (n : Nat) : Bool := hookPasses opts.assignment.preSyncCmd (env.preHook n) && (env.rclone n).isSome

/-- Attempt `n` finds the state of rclone corrupted, and rclone is started again on an empty directory. -/
def rebuildsState (n : Nat) : Bool :=
  recoversAt opts env n && env.recoveryArchive n = .done && env.recoveryDirMade n && (env.recoveryRun n).isSome

def plainEnd (n : Nat) : Option RcloneEnd :=
  (env.rclone n).filter fun ended => !needsRecovery opts.folder.type ended.result &&
    (ended.result.exitCode ≠ 0 || hookPasses opts.assignment.postSyncCmd (env.postHook n))

/-- The attempts from number `attempt` on: the first one of them finds the pair when `held` says so, and one that is
repeated has left the pair.  After a recovery rclone has `--resync`, unless that word is there as a value. -/
def OwnAttempts (stem : String) (resyncIsValue : Bool) : (remaining attempt : Nat) → (held : Prop) → Prop
  | 0, attempt, held =>
    startsRclone opts env attempt = true → held ∧ (rebuildsState opts env attempt = true → resyncIsValue = false)
  | remaining + 1, attempt, held =>
    startsRclone opts env attempt = true → held ∧ (rebuildsState opts env attempt = true → resyncIsValue = false) ∧
      ∀ ended, plainEnd opts env attempt = some ended → runSucceeded ended.result = false →
        isRetryable opts.folder.type ended.result = true →
          OwnAttempts stem resyncIsValue remaining (attempt + 1) (HoldsPair ended.files stem)

def resyncIsValue : Bool :=
  opts.assignment.localPath = "--resync" || opts.configPath = "--resync" ||
    effectiveBandwidthSchedule opts.assignment.bandwidthSchedule opts.hostConfig.pause env.now = some "--resync"

def ownStem (inputs : RunInputs) : String :=
  sessionName ((usedRemote opts env).elim inputs.remotePath fun remote => remote ++ ":" ++ inputs.destination)
    opts.assignment.localPath

structure PlainRun (inputs : RunInputs) : Prop where
  isSync : opts.folder.type = .sync
  real : opts.dryRun = false
  prepared : preparedInputs opts env = .ok inputs
  stateDir : env.stateDirMade = true
  noResync : bisyncResyncPlan (inspectBisyncBaseline host.files false).ready
    ((filterVerdict sha256 inputs host).any FingerprintVerdict.changed) opts.bisync = none
  space : env.availableBytes.all (fun bytes => requiredSpace opts.assignment ≤ bytes) = true
  peer : servesPeer opts = true → env.peerServes = true

def ContinuesOwnPair : Prop :=
  ∀ inputs, PlainRun sha256 opts env host inputs →
    OwnAttempts opts env (ownStem sessionName opts env inputs) (resyncIsValue opts env) (maxRetries opts.assignment) 1
      (HasListings host.files (ownStem sessionName opts env inputs))

end Condition

section Commands

variable {opts : ExecuteOptions} {env : Surroundings} {inputs : RunInputs} {plan : RunPlan} {command : List Arg}

def HasSubcommand (subcommand : String) (command : List Arg) : Prop := command.head? = some (.word subcommand)

variable {subcommand : String}

theorem HasSubcommand.withResync (h : HasSubcommand subcommand command) : HasSubcommand subcommand (withResync command) := by
  unfold HasSubcommand LamaSync.withResync at *
  split
  · exact h
  · rw [List.head?_append, h]
    rfl

theorem HasSubcommand.peerCommand (h : HasSubcommand subcommand plan.command) (hco : ':' ∉ subcommand.toList)
    (peer : Option String) : HasSubcommand subcommand (peerCommand opts env inputs plan peer) := by
  have hfull : HasSubcommand subcommand (fullCommand opts env inputs plan) := by
    unfold HasSubcommand fullCommand at *
    rw [List.append_assoc, List.head?_append, h]
    rfl
  unfold LamaSync.peerCommand
  cases peer with
  | none => exact hfull
  | some remote =>
    unfold HasSubcommand at hfull ⊢
    rw [Option.elim_some]
    obtain ⟨rest, hrest⟩ := List.head?_eq_some_iff.1 hfull
    rw [hrest]
    unfold swapRemote
    rw [if_neg (show (Arg.word subcommand).text ≠ inputs.remotePath from ne_remotePath hco)]
    rfl

theorem bisyncPaths_withResync {paths : String × String} (h : bisyncPaths command = some paths) :
    bisyncPaths (withResync command) = some paths := by
  unfold withResync
  split
  · exact h
  unfold bisyncPaths at h ⊢
  split at h
  · exact h
  · cases h

theorem HasSubcommand.bisyncPaths (h : HasSubcommand subcommand command) (ho : subcommand ≠ "bisync") :
    bisyncPaths command = none := by
  obtain ⟨rest, rfl⟩ := List.head?_eq_some_iff.1 h
  unfold LamaSync.bisyncPaths
  split
  · rename_i heq
    exact absurd (Arg.word.inj (List.cons.inj heq).1) ho
  · rfl

theorem isResync_withResync (hpl : isResync command = false) :
    isResync (withResync command) = false ↔ Arg.value "--resync" ∈ command := by
  have hword : Arg.word "--resync" ∉ command := by
    intro hmem
    rw [← List.contains_iff_mem] at hmem
    exact absurd (hmem.symm.trans hpl) (by decide)
  have htext : (command.map Arg.text).contains "--resync" = true ↔ Arg.value "--resync" ∈ command := by
    rw [List.contains_iff_mem, List.mem_map]
    constructor
    · rintro ⟨arg, hmem, htext⟩
      cases arg with
      | word text =>
        obtain rfl : text = "--resync" := htext
        exact absurd hmem hword
      | value text =>
        obtain rfl : text = "--resync" := htext
        exact hmem
    · exact fun hmem => ⟨_, hmem, rfl⟩
  unfold withResync
  by_cases hv : Arg.value "--resync" ∈ command
  · rw [if_pos (htext.2 hv)]
    exact ⟨fun _ => hv, fun _ => hpl⟩
  rw [if_neg (fun h => hv (htext.1 h))]
  constructor
  · intro h
    simp [isResync] at h
  · exact fun h => absurd h hv

theorem isResync_withResync_of_isResync (h : isResync command = true) : isResync (withResync command) = true := by
  unfold isResync at h ⊢
  unfold withResync
  split
  · exact h
  · rw [List.contains_iff_mem] at h ⊢
    exact List.mem_append_left _ h

end Commands

section Parts

variable {sessionName : String → String → String} {opts : ExecuteOptions} {env : Surroundings} {filter : Option String}
  {host : Host}

/-- The rules below are for scripts whose launches are on their own baseline; how a script is left does not matter. -/
private abbrev bp_wp {α : Type} (sessionName : String → String → String) (post : α → Host → Prop) (p : Exec α)
    (host : Host) : Prop :=
  Script.wp Host.step (OwnBaseline sessionName) post (fun _ _ => True) p host

theorem OwnBaseline.of_none {e : ExecutorEvent} (h : launched e = none) : OwnBaseline sessionName host e := by
  intro command hcmd
  rw [h] at hcmd
  cases hcmd

variable {command : List Arg} {post : AttemptEnd → Host → Prop}

theorem OwnBaseline.of_resync {files : List ListingFile} (h : isResync command = true) :
    OwnBaseline sessionName host (.rclone command filter files) := by
  intro command' hcmd _ hrs
  cases hcmd
  exact absurd (h.symm.trans hrs) (by decide)

theorem ownBaseline_plain {command : List Arg} {files : List ListingFile} {path1 path2 : String}
    (hdry : isDry command = false) (hrs : isResync command = false)
    (hpa : bisyncPaths command = some (path1, path2)) :
    OwnBaseline sessionName host (.rclone command filter files) ↔ HoldsPair host.files (sessionName path1 path2) := by
  constructor
  · exact fun h => h command rfl hdry hrs _ hpa
  intro h command' hcmd _ _ paths hpa'
  cases hcmd
  rw [hpa] at hpa'
  cases hpa'
  exact h

private theorem bp_requireHook {post : Unit → Host → Prop} {command : Option String} {phase : HookPhase}
    {ended : Option Int} {body : Int → ReportBody} :
    bp_wp sessionName post (requireHook command phase ended body) host ↔ (hookPasses command ended = true → post () host) := by
  unfold bp_wp hookPasses
  rw [wp_requireHook]
  cases hookCommand command with
  | none => simp
  | some cmd =>
    cases ended with
    | none => simp
    | some exitCode =>
      have hhook : OwnBaseline sessionName host (.hook phase cmd) := .of_none rfl
      simp [hhook]

private theorem bp_resync {α : Type} {p : Exec α} (h : LaunchesOnly filter (fun command => isResync command = true) p) :
    bp_wp sessionName (fun _ _ => True) p host := by
  apply h.wp
  rintro host e (hnone | ⟨command, files, hrs, rfl⟩)
  · exact .of_none hnone
  · exact .of_resync hrs

structure PlainCommand (command : List Arg) (path1 path2 : String) : Prop where
  real : isDry command = false
  noResync : isResync command = false
  inWorkdir : usesWorkdir command = true
  paths : bisyncPaths command = some (path1, path2)

variable {path1 path2 : String}

private theorem bp_recoverState {n : Nat}
    (hcmd : PlainCommand command path1 path2) (hdir : host.stateDir.isSome = true)
    (hpost : ∀ ended h, isResync ended.command = true → post ended h) :
    bp_wp sessionName post (recoverState env filter n command) host ↔
      (env.recoveryArchive n = .done → env.recoveryDirMade n = true → (env.recoveryRun n).isSome = true →
        Arg.value "--resync" ∉ command) := by
  have harch : ∀ pruned h, OwnBaseline sessionName h (.archiveState pruned) := fun _ _ => .of_none rfl
  have hmade : ∀ h, OwnBaseline sessionName h .makeStateDir := fun _ => .of_none rfl
  unfold bp_wp recoverState
  rw [wp_bind, wp_archiveBisyncState]
  have hsome : host.stateDir.isNone = false := by rw [← Option.not_isSome, hdir]; rfl
  simp only [hsome, Bool.false_eq_true, false_or]
  cases env.recoveryArchive n with
  | renameFails => simp
  | pruneFails => simp [harch]
  | done =>
    cases env.recoveryDirMade n with
    | false => simp [harch]
    | true =>
      simp only [reduceCtorEq, false_imp_iff, true_and, not_false_eq_true, true_imp_iff, wp_bind, wp_leaveIf,
        wp_act, wp_runCommand, wp_orLeave, harch, hmade, decide_true, Bool.not_true, Bool.or_self,
        Bool.false_eq_true, not_false_eq_true]
      cases env.recoveryRun n with
      | none => simp
      | some ended =>
        have hrcv : ∀ result, some ended.result = some result ↔ result = ended.result := by simp [eq_comm]
        have hst : ∀ rclone, some ended = some rclone ↔ rclone = ended := by simp [eq_comm]
        simp only [reduceCtorEq, false_imp_iff, true_and, hst, forall_eq, Option.isSome_some, true_imp_iff]
        have hnone : ¬ HoldsPair ((host.step (.archiveState true)).step .makeStateDir).files (sessionName path1 path2) := by
          intro hpair
          obtain ⟨⟨f, hf, -⟩, -⟩ := hpair.listings
          cases hf
        by_cases hv : Arg.value "--resync" ∈ command
        · have hpl := (isResync_withResync hcmd.noResync).2 hv
          have hla : ¬ OwnBaseline sessionName ((host.step (.archiveState true)).step .makeStateDir)
              (.rclone (withResync command) filter ended.files) := by
            rw [ownBaseline_plain ((isDry_withResync command).trans hcmd.real) hpl
              (bisyncPaths_withResync hcmd.paths)]
            exact hnone
          simp [hv, hla]
        · have hrs : isResync (withResync command) = true := by
            rw [← Bool.not_eq_false, isResync_withResync hcmd.noResync]
            exact hv
          have hnext := fun h => hpost ⟨withResync command, ended.result, true⟩ h hrs
          simp [hv, OwnBaseline.of_resync hrs, hnext]

private theorem bp_runAttempt {n : Nat}
    {isRecovery : Bool} (hcmd : PlainCommand command path1 path2)
    (hpost : ∀ ended h, isResync ended.command = true → post ended h) :
    bp_wp sessionName post (runAttempt opts env filter n command isRecovery) host ↔
      (startsRclone opts env n = true → HoldsPair host.files (sessionName path1 path2) ∧
        (rebuildsState opts env n = true → Arg.value "--resync" ∉ command) ∧
        ∀ ended, plainEnd opts env n = some ended →
          post ⟨command, ended.result, isRecovery⟩ (host.step (.rclone command filter ended.files))) := by
  unfold runAttempt bp_wp
  rw [wp_bind]
  refine bp_requireHook.trans ?_
  unfold startsRclone
  rw [Bool.and_eq_true, and_imp]
  refine imp_congr_right fun _ => ?_
  rw [wp_bind, wp_runCommand]
  unfold plainEnd rebuildsState recoversAt
  cases env.rclone n with
  | none => simp
  | some ended =>
    have hla := @ownBaseline_plain sessionName filter host command ended.files path1 path2 hcmd.real
      hcmd.noResync hcmd.paths
    have hst : ∀ rclone, some ended = some rclone ↔ rclone = ended := by simp [eq_comm]
    have hres : ∀ r, some ended.result = some r ↔ r = ended.result := by simp [eq_comm]
    simp only [reduceCtorEq, false_imp_iff, true_and, hst, forall_eq, hla, wp_bind, wp_orLeave,
      hres, Option.isSome_some, true_imp_iff]
    refine and_congr_right fun _ => ?_
    unfold recoverIfNeeded
    dsimp only
    have hdir : (host.step (.rclone command filter ended.files)).stateDir.isSome = true := by
      unfold Host.step
      dsimp only
      rw [if_pos hcmd.inWorkdir]
      rfl
    have hlast : ∀ (last : AttemptEnd) (h : Host), bp_wp sessionName post (do
        requireHook (if last.result.exitCode = 0 then opts.assignment.postSyncCmd else none) .post (env.postHook n)
          (.postHook (some n))
        pure last) h ↔
        ((last.result.exitCode ≠ 0 || hookPasses opts.assignment.postSyncCmd (env.postHook n)) = true → post last h) := by
      intro last h
      refine (wp_bind _ _).trans (bp_requireHook.trans ?_)
      by_cases hzero : last.result.exitCode = 0
      · simp [hzero]
      · simp [hzero, hookPasses, hookCommand]
    simp only [wp_bind] at hlast
    by_cases hrcv : needsRecovery opts.folder.type ended.result = true
    · rw [if_pos hrcv]
      refine (bp_recoverState hcmd hdir fun last h hrs => (hlast last h).2 fun _ => hpost last h hrs).trans ?_
      simp [hrcv]
    rw [if_neg hrcv]
    refine (hlast _ _).trans ?_
    simp [hrcv]

private theorem bp_runAttempts {post : Nat × AttemptEnd → Host → Prop} (hpost : ∀ ended h, post ended h)
    (hcmd : PlainCommand command path1 path2) {remaining : Nat} :
    ∀ {attempt : Nat} {isRecovery : Bool} {host : Host},
      bp_wp sessionName post (runAttempts opts env filter remaining attempt command isRecovery) host ↔
        OwnAttempts opts env (sessionName path1 path2) (decide (Arg.value "--resync" ∈ command)) remaining attempt
          (HoldsPair host.files (sessionName path1 path2)) := by
  have hf : ∀ (h : Host) (files : List ListingFile), (h.step (.rclone command filter files)).files = files := by
    intro h files
    unfold Host.step
    dsimp only
    rw [if_pos hcmd.inWorkdir]
    rfl
  induction remaining with
  | zero =>
    intro attempt isRecovery host
    unfold runAttempts OwnAttempts
    refine (wp_bind _ _).trans ((bp_runAttempt hcmd fun _ _ _ => hpost _ _).trans ?_)
    simp [hpost]
  | succ remaining ih =>
    intro attempt isRecovery host
    unfold runAttempts OwnAttempts
    -- after a recovery the rest of the loop resyncs
    have hrcv : ∀ (ended : AttemptEnd) (h : Host), isResync ended.command = true → bp_wp sessionName post
        (if runSucceeded ended.result || !isRetryable opts.folder.type ended.result then pure (attempt, ended)
        else do
          Script.act (.reportRetry attempt)
          runAttempts opts env filter remaining (attempt + 1) ended.command ended.isRecovery) h := by
      intro ended h hrs
      have hrest : bp_wp sessionName (fun _ _ => True) (runAttempts opts env filter remaining (attempt + 1) ended.command
          ended.isRecovery >>= pure) (h.step (.reportRetry attempt)) :=
        bp_resync (runAttempts_launches (Q := fun command => isResync command = true) (k := pure)
          (fun _ => isResync_withResync_of_isResync) (fun _ => trivial) hrs)
      unfold bp_wp at hrest ⊢
      rw [wp_ite]
      refine ⟨fun _ => hpost _ _, fun _ => ?_⟩
      rw [wp_bind, wp_act]
      rw [wp_bind] at hrest
      exact ⟨.of_none rfl, wp_mono hrest (fun _ _ h => h) (fun _ _ _ => hpost _ _) (fun _ _ h => h)⟩
    refine (wp_bind _ _).trans ((bp_runAttempt hcmd hrcv).trans ?_)
    refine imp_congr_right fun _ => and_congr_right fun _ => and_congr (by simp) ?_
    refine forall_congr' fun ended => imp_congr_right fun _ => ?_
    unfold bp_wp at ih ⊢
    rw [wp_ite, wp_bind, wp_act, ih]
    have hsame : ∀ h : Host, h.step (.reportRetry attempt) = h := fun _ => rfl
    have hrep : OwnBaseline sessionName (host.step (.rclone command filter ended.files)) (.reportRetry attempt) :=
      .of_none rfl
    rw [hsame, hf, and_iff_right hrep]
    cases runSucceeded ended.result with
    | true => simp [hpost]
    | false =>
      cases isRetryable opts.folder.type ended.result with
      | true => simp
      | false => simp [hpost]

theorem usedRemote_of_servesPeer (h : servesPeer opts = true) : usedRemote opts env = none := by
  unfold servesPeer at h
  unfold usedRemote
  cases hpeer : lanPeer opts with
  | none => rfl
  | some session =>
    rw [hpeer, Option.any_some, decide_eq_true_eq] at h
    rw [Option.bind_some, h]
    rfl

section Plan

variable {inputs : RunInputs} {inspection : BisyncBaselineInspection} {verdict : Option FingerprintVerdict}

private theorem bp_plainCommand (hplan : bisyncResyncPlan inspection.ready (verdict.any FingerprintVerdict.changed) opts.bisync = none)
    (peer : Option String) : PlainCommand (peerCommand opts env inputs (realPlan opts env inputs inspection verdict) peer)
      (peer.elim inputs.remotePath fun remote => remote ++ ":" ++ inputs.destination) opts.assignment.localPath where
  real := (isDry_peerCommand peer).trans (isDry_realPlan inspection verdict)
  noResync := by
    rw [isResync_peerCommand, isResync_realPlan, hplan]
    rfl
  inWorkdir := (usesWorkdir_peerCommand peer).trans (usesWorkdir_realPlan inspection verdict)
  paths := by
    obtain ⟨options, hop⟩ := peerCommand_paths bisyncArgs_prefix_realPlan peer
    rw [hop]
    rfl

private theorem bp_resyncIsValue (hplan : bisyncResyncPlan inspection.ready (verdict.any FingerprintVerdict.changed) opts.bisync = none)
    (peer : Option String) :
    decide (Arg.value "--resync" ∈ peerCommand opts env inputs (realPlan opts env inputs inspection verdict) peer) =
      resyncIsValue opts env := by
  have hpct : ∀ percent : Int, "--resync" ≠ toString percent := by
    intro percent h
    have hle : 'r' ∉ (toString percent).toList := Texts.notMem_toString (by decide) (.inl (by decide))
    rw [← h] at hle
    exact hle (by decide)
  have hdir : "--resync" ≠ bisyncStateDir opts.folder.id env.home := by
    intro h
    have hsl : '/' ∈ (bisyncStateDir opts.folder.id env.home).toList := by simp [bisyncStateDir]
    rw [← h] at hsl
    revert hsl
    decide
  rw [Bool.eq_iff_iff, decide_eq_true_iff, mem_values_peerCommand (by decide) (by decide) hpct hdir hplan peer]
  unfold resyncIsValue
  rw [Bool.or_eq_true, Bool.or_eq_true, decide_eq_true_eq, decide_eq_true_eq, decide_eq_true_eq, or_assoc,
    eq_comm (b := opts.assignment.localPath), eq_comm (b := opts.configPath)]

private theorem bp_runPlanned {sha256 : String → String} (hsync : opts.folder.type = .sync)
    (hplan : bisyncResyncPlan inspection.ready (verdict.any FingerprintVerdict.changed) opts.bisync = none) :
    bp_wp sessionName (fun _ _ => True) (runPlanned sha256 opts env inputs (realPlan opts env inputs inspection verdict))
      host ↔
      (env.availableBytes.all (fun bytes => requiredSpace opts.assignment ≤ bytes) = true →
        (servesPeer opts = true → env.peerServes = true) →
          OwnAttempts opts env (ownStem sessionName opts env inputs) (resyncIsValue opts env)
            (maxRetries opts.assignment) 1 (HoldsPair host.files (ownStem sessionName opts env inputs))) := by
  have hatt : ∀ peer, Script.wp Host.step (OwnBaseline sessionName) (fun _ _ => True) (fun _ _ => True) (do
      let ended ← runAttempts opts env inputs.filters.filterFrom (maxRetries opts.assignment) 1
        (peerCommand opts env inputs (realPlan opts env inputs inspection verdict) peer) false
      finishRun sha256 opts env inputs (realPlan opts env inputs inspection verdict) ended.1 ended.2) host ↔
      OwnAttempts opts env
        (sessionName (peer.elim inputs.remotePath fun remote => remote ++ ":" ++ inputs.destination)
          opts.assignment.localPath) (resyncIsValue opts env) (maxRetries opts.assignment) 1
        (HoldsPair host.files
          (sessionName (peer.elim inputs.remotePath fun remote => remote ++ ":" ++ inputs.destination)
            opts.assignment.localPath)) := by
    intro peer
    rw [wp_bind]
    refine (bp_runAttempts (fun _ _ => ?_) (bp_plainCommand hplan peer)).trans ?_
    · exact finishRun_launches_nothing.wp fun _ _ => OwnBaseline.of_none
    · rw [bp_resyncIsValue hplan peer]
  have hmo : opts.folder.type ≠ .mount := by
    rw [hsync]
    decide
  have hdisk : OwnBaseline sessionName host (.diskFree opts.assignment.localPath) := .of_none rfl
  have hsv : OwnBaseline sessionName host (.serveSftp opts.assignment.localPath) := .of_none rfl
  unfold bp_wp runPlanned requireSpace requireDiskSpace
  rw [if_neg hmo, wp_bind, wp_bind, wp_checkDiskSpace, wp_leaveIf, wp_bind,
    wp_startLanPeerSession fun _ => OwnBaseline.of_none rfl]
  simp only [hatt, hdisk, hsv, true_and]
  cases env.availableBytes.all fun bytes => decide (requiredSpace opts.assignment ≤ bytes) with
  | false => simp
  | true =>
    cases hserv : servesPeer opts with
    | false => simp [ownStem]
    | true =>
      have hnone := @usedRemote_of_servesPeer opts env hserv
      cases env.peerServes with
      | false => simp
      | true => simp [ownStem, hnone]

private theorem bp_realRun {sha256 : String → String} (hsync : opts.folder.type = .sync) (hreal : opts.dryRun = false) :
    bp_wp sessionName (fun _ _ => True) (runSync sha256 opts env inputs) host ↔
      (env.stateDirMade = true → bisyncResyncPlan (inspectBisyncBaseline host.files false).ready
          ((filterVerdict sha256 inputs host).any FingerprintVerdict.changed) opts.bisync = none →
        env.availableBytes.all (fun bytes => requiredSpace opts.assignment ≤ bytes) = true →
          (servesPeer opts = true → env.peerServes = true) →
            OwnAttempts opts env (ownStem sessionName opts env inputs) (resyncIsValue opts env)
              (maxRetries opts.assignment) 1 (HasListings host.files (ownStem sessionName opts env inputs))) := by
  unfold runSync bp_wp
  rw [wp_bind, wp_planSync_iff (fun _ _ => OwnBaseline.of_none) hreal, and_iff_right fun _ => trivial]
  refine imp_congr_right fun _ => ?_
  by_cases hplan : bisyncResyncPlan (inspectBisyncBaseline host.files false).ready
      ((filterVerdict sha256 inputs host).any FingerprintVerdict.changed) opts.bisync = none
  · -- nothing is archived, and the directory is ready
    obtain ⟨hre, hrd, hchg⟩ := bisyncResyncPlan_none.1 hplan
    have hkp : archivesBefore opts (inspectBisyncBaseline host.files false)
        ((filterVerdict sha256 inputs host).any FingerprintVerdict.changed) = false := by
      simp [archivesBefore, hre, hrd, hchg]
    have hheld : HoldsPair host.files (ownStem sessionName opts env inputs) ↔
        HasListings host.files (ownStem sessionName opts env inputs) := ⟨fun h => h.listings, .of_ready hrd⟩
    have hf : (plannedHost sha256 opts env inputs host).files = host.files := by
      unfold plannedHost
      rw [hkp]
      rfl
    simp only [hplan, true_imp_iff]
    refine (bp_runPlanned hsync hplan).trans ?_
    rw [hf, hheld]
  · -- every launch resyncs
    simp only [hplan, false_imp_iff, iff_true]
    have hrs : isResync (realPlan opts env inputs (inspectBisyncBaseline host.files false)
        (filterVerdict sha256 inputs host)).command = true := by
      rw [isResync_realPlan, Option.isSome_iff_ne_none]
      exact hplan
    refine bp_resync (runPlanned_launches_only (fun _ => isResync_withResync_of_isResync) fun peer => ?_)
    exact (isResync_peerCommand peer).trans hrs

end Plan

end Parts

section Runs

variable {sessionName : String → String → String} {sha256 : String → String} {opts : ExecuteOptions} {env : Surroundings}
  {inputs : RunInputs} {plan : RunPlan} {host : Host}

private theorem bp_nothing {α : Type} {p : Exec α} (h : LaunchesNothing p) :
    bp_wp sessionName (fun _ _ => True) p host := h.wp fun _ _ => .of_none

private theorem bp_dry (hdry : isDry plan.command = true) :
    bp_wp sessionName (fun _ _ => True) (runPlanned sha256 opts env inputs plan) host := by
  have hla : LaunchesOnly inputs.filters.filterFrom (fun command => isDry command = true)
      (runPlanned sha256 opts env inputs plan) := by
    refine runPlanned_launches_only (fun command hq => (isDry_withResync command).trans hq) fun peer => ?_
    exact (isDry_peerCommand peer).trans hdry
  apply hla.wp
  rintro host e (hnone | ⟨command, files, hq, rfl⟩)
  · exact .of_none hnone
  intro command' hcmd hreal
  cases hcmd
  exact absurd (hq.symm.trans hreal) (by decide)

private theorem bp_other {subcommand : String} (hruns : HasSubcommand subcommand plan.command) (hco : ':' ∉ subcommand.toList)
    (ho : subcommand ≠ "bisync") :
    bp_wp sessionName (fun _ _ => True) (runPlanned sha256 opts env inputs plan) host := by
  have hla : LaunchesOnly inputs.filters.filterFrom (HasSubcommand subcommand) (runPlanned sha256 opts env inputs plan) :=
    runPlanned_launches_only (fun _ => HasSubcommand.withResync) fun peer => hruns.peerCommand hco peer
  apply hla.wp
  rintro host e (hnone | ⟨command, files, hq, rfl⟩)
  · exact .of_none hnone
  intro command' hcmd _ _ paths hpa
  cases hcmd
  exact absurd ((hq.bisyncPaths ho).symm.trans hpa) (Option.some_ne_none _).symm

private theorem bp_dryRun (hdry : opts.dryRun = true) :
    bp_wp sessionName (fun _ _ => True) (runSync sha256 opts env inputs) host := by
  unfold bp_wp runSync planSync
  rw [if_pos hdry, wp_bind]
  unfold planDryRun
  cases opts.bisync with
  | none => exact bp_dry isDry_previewPlan
  | some control =>
    have hmade : bp_wp sessionName (fun _ _ => True) (makeStateDir env) host := bp_nothing (makeStateDir_only rfl)
    dsimp only
    rw [wp_bind]
    refine wp_mono hmade (fun _ _ h => h) ?_ (fun _ _ h => h)
    intro _ made _
    rw [wp_bind, Script.wp_get]
    exact bp_dry (isDry_dryPlan _)

private theorem bp_mount : bp_wp sessionName (fun _ _ => True) (runMount sha256 opts env inputs) host := by
  have hplan : bp_wp sessionName (fun _ _ => True) (planMount opts env inputs) host :=
    bp_nothing planMount_stays_quiet.staysAside.launchesNothing
  have hruns : HasSubcommand "mount" (mountPlan opts inputs).command := rfl
  have hlo : OwnBaseline sessionName host .makeLocalDir := .of_none rfl
  unfold bp_wp runMount planMount
  simp only [wp_bind, Script.wp_orLeaveNone, wp_act, Script.wp_pure]
  exact ⟨fun _ _ => trivial, fun _ => ⟨hlo, bp_other hruns (by decide) (by decide)⟩⟩

private theorem bp_runSync (hsync : opts.folder.type = .sync) (hprep : preparedInputs opts env = .ok inputs) :
    bp_wp sessionName (fun _ _ => True) (runSync sha256 opts env inputs) host ↔
      (PlainRun sha256 opts env host inputs → OwnAttempts opts env (ownStem sessionName opts env inputs)
        (resyncIsValue opts env) (maxRetries opts.assignment) 1
        (HasListings host.files (ownStem sessionName opts env inputs))) := by
  cases hdry : opts.dryRun with
  | true => exact iff_of_true (bp_dryRun hdry) fun hpl => absurd (hdry.symm.trans hpl.real) (by decide)
  | false =>
    rw [bp_realRun hsync hdry]
    constructor
    · exact fun h hpl => h hpl.stateDir hpl.noResync hpl.space hpl.peer
    · exact fun h hdir hplan hsp hpeer => h ⟨hsync, hdry, hprep, hdir, hplan, hsp, hpeer⟩

end Runs

/-- Every real bisync without `--resync` finds a complete pair of listings for its own two paths exactly when a plain run
continues its own pair. -/
theorem launches_on_own_baseline_iff (sessionName : String → String → String) (sha256 : String → String)
    (opts : ExecuteOptions) (env : Surroundings) (host : Host) :
    Trace.Always Host.step (OwnBaseline sessionName) host ((executeAssignment sha256 opts env).log Host.step host) ↔
      ContinuesOwnPair sessionName sha256 opts env host := by
  have hlo : ∀ h, OwnBaseline sessionName h .makeLocalDir := fun _ => .of_none rfl
  rw [← Script.wp_events]
  unfold executeAssignment ContinuesOwnPair
  rw [wp_bind, wp_prepareRun hlo]
  cases hprep : preparedInputs opts env with
  | error stop =>
    refine iff_of_true trivial fun inputs hpl => ?_
    have hok := hpl.prepared
    rw [hprep] at hok
    cases hok
  | ok inputs =>
    have hva : opts.folder.type ≠ .sync → ∀ inputs, PlainRun sha256 opts env host inputs →
        OwnAttempts opts env (ownStem sessionName opts env inputs) (resyncIsValue opts env) (maxRetries opts.assignment) 1
          (HasListings host.files (ownStem sessionName opts env inputs)) :=
      fun ho _ hpl => absurd hpl.isSync ho
    dsimp only [Script.Ends]
    cases htype : opts.folder.type with
    | sync =>
      refine (bp_runSync htype hprep).trans ⟨fun h inputs' hpl => ?_, fun h => h inputs⟩
      obtain rfl : inputs' = inputs := Except.ok.inj (hpl.prepared.symm.trans hprep)
      exact h hpl
    | backup =>
      refine iff_of_true ?_ (hva (by simp [htype]))
      dsimp only
      split
      · exact bp_nothing runResticBackupAssignment_stays_aside.launchesNothing
      · exact bp_other (show HasSubcommand "copy" (planBackup opts inputs).command from rfl) (by decide) (by decide)
    | mount => exact iff_of_true bp_mount (hva (by simp [htype]))
    | dotfile => exact iff_of_true (bp_nothing runDotfile_stays_aside.launchesNothing) (hva (by simp [htype]))
    | git => exact iff_of_true (bp_nothing runGit_stays_quiet.staysAside.launchesNothing) (hva (by simp [htype]))

def listingPath (path : String) : String :=
  let isSlash := fun c : Char => c = '/' ∨ c = '\\'
  let trimmed := ((path.toList.dropWhile isSlash).reverse.dropWhile isSlash).reverse
  String.ofList (trimmed.map fun c => if c.isWhitespace ∨ c = '\\' ∨ c = '/' ∨ c = ':' ∨ c = '?' ∨ c = '*' then '_' else c)

def listingStem (path1 path2 : String) : String := listingPath path1 ++ ".." ++ listingPath path2

def movedOptions : ExecuteOptions where
  assignment := { id := "a", folderId := "f", hostId := "h", localPath := "/home/docs", destination := some "new" }
  folder := { id := "f", name := "docs", type := .sync }
  hostId := "h"

/-- The work directory with the pair of the destination before. -/
def oldPair : Host where
  stateDir := some { files :=
    [⟨"lamasync-f_old..home_docs.path1.lst", "# bisync\n", 0⟩, ⟨"lamasync-f_old..home_docs.path2.lst", "# bisync\n", 0⟩] }

def missingListings : Surroundings where
  rclone := fun _ => some {
    result := .exited 7 "Bisync critical error: cannot find prior Path1 or Path2 listings"
    files := oldPair.files }

/-- The pair of the old destination is enough for a launch without `--resync`. -/
theorem moved_destination_continues_old_pair :
    ¬ Trace.Always Host.step (OwnBaseline listingStem) oldPair
      ((executeAssignment id movedOptions missingListings).log Host.step oldPair) := by
  intro h
  have hlog : (executeAssignment id movedOptions missingListings).log Host.step oldPair =
      [.makeLocalDir, .makeStateDir, .diskFree "/home/docs",
        .rclone [.word "bisync", .value "lamasync-f:new", .value "/home/docs", .word "--config", .value "rclone.conf",
          .word "--use-json-log", .word "-v", .word "--workdir", .value "/home/.local/share/lamasync/bisync/f",
          .word "--resilient", .word "--recover", .word "--max-lock", .word "10m"] none oldPair.files] := by
    decide +kernel
  rw [hlog] at h
  obtain ⟨-, -, -, hla, -⟩ := h
  obtain ⟨⟨f, hf, hname⟩, -⟩ := (hla _ rfl (by decide) (by decide) _ rfl).listings
  have hnone : ∀ f ∈ oldPair.files, f.name ≠ listingStem "lamasync-f:new" "/home/docs" ++ ".path1.lst" := by
    decide +kernel
  exact hnone f hf hname

end LamaSync
