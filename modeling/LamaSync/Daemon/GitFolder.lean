import LamaSync.Daemon.Backups

/-!
# Git folders

A git folder is pulled, after the repository has been cloned or given its `origin` when the provider is GitHub's.  The run
does not look at `dryRun`: `runGit_still` says when it changes nothing.
-/

namespace LamaSync

def ghRemote (folder : Folder) : Option String := presentTrimmed folder.gitRemote

def originUrl (remote : String) : String :=
  let cs := remote.toList
  if "https://".toList.isPrefixOf cs ∨ "http://".toList.isPrefixOf cs ∨ "git@".toList.isPrefixOf cs ∨
      includesText "://".toList cs then remote
  else "https://github.com/" ++ remote ++ ".git"

def ghCloneRepository (remote localPath : String) (env : Surroundings) : Exec Unit :=
  match env.git.clone with
  | none => .leave .threw
  | some exitCode => do
    Script.act (.ghClone remote localPath)
    Script.leaveIf (exitCode ≠ 0) (failed (.ghCloneFailed exitCode))

def addOrigin (remote : String) (env : Surroundings) : Exec Unit :=
  match env.git.remotes with
  | none => .leave .threw
  | some remotes => do
    Script.act (.git .remotes)
    if remotes.contains "origin" then pure ()
    else match env.git.addOrigin with
      | none => .leave .threw
      | some exitCode => do
        Script.act (.git (.addOrigin (originUrl remote)))
        Script.leaveIf (exitCode ≠ 0) (failed (.gitRemoteAddFailed exitCode))

def prepareGh (opts : ExecuteOptions) (env : Surroundings) : Exec Unit := do
  let remote ← Script.orLeave (failed .ghMissingRemote) (ghRemote opts.folder)
  Script.leaveIf (!env.which "gh") (failed .ghMissing)
  if !env.git.pathExists ∨ !env.git.hasDotGit then ghCloneRepository remote opts.assignment.localPath env
  else addOrigin remote env

def runGitCommand (command : GitCommand) (ended : Option Int) (body : Int → ReportBody) : Exec Unit :=
  match ended with
  | none => .leave .threw
  | some exitCode => do
    Script.act (.git command)
    Script.leaveIf (exitCode ≠ 0) (failed (body exitCode))

def readGit {α : Type} (command : GitCommand) (output : Option α) : Exec α :=
  match output with
  | none => .leave .threw
  | some a => do
    Script.act (.git command)
    pure a

def pullRepository (env : Surroundings) : Exec OperationReport := do
  Script.leaveIf (!env.git.dotGitAfter) (failed .noGit)
  Script.leaveIf (!env.which "git") (failed .gitMissing)
  runGitCommand .fetch env.git.fetch .fetchFailed
  let _ ← readGit .revParse env.git.head
  runGitCommand .upstream env.git.upstream fun _ => .noUpstream
  let counts ← readGit .revList env.git.revList
  runGitCommand .pull env.git.pull .pullFailed
  let _ ← readGit .log env.git.log
  pure ⟨.success, .gitOk counts.1 counts.2⟩

def prepareRepository (opts : ExecuteOptions) (env : Surroundings) : Exec Unit :=
  if opts.folder.gitProvider = some .gh then prepareGh opts env else pure ()

def runGit (opts : ExecuteOptions) (env : Surroundings) : Exec OperationReport := do
  prepareRepository opts env
  pullRepository env

/-- The part for the provider `gh` leaves the run, without a change. -/
def GhStops (opts : ExecuteOptions) (env : Surroundings) : Prop :=
  ghRemote opts.folder = none ∨ env.which "gh" = false ∨
    if !env.git.pathExists ∨ !env.git.hasDotGit then env.git.clone = none
    else env.git.remotes = none ∨ (¬ "origin" ∈ env.git.remotes.getD [] ∧ env.git.addOrigin = none)

/-- The part for the provider `gh` finds everything in its place. -/
def GhReady (opts : ExecuteOptions) (env : Surroundings) : Prop :=
  (ghRemote opts.folder).isSome ∧ env.which "gh" = true ∧ env.git.pathExists = true ∧ env.git.hasDotGit = true ∧
    ∃ remotes, env.git.remotes = some remotes ∧ "origin" ∈ remotes

section Still

variable {opts : ExecuteOptions} {env : Surroundings} {host : Host}

variable {post : Unit → Host → Prop}

theorem wp_ghCloneRepository_still {remote localPath : String} :
    Script.wp Host.step (fun _ e => e.changes = false) post (fun _ _ => True)
        (ghCloneRepository remote localPath env) host ↔ env.git.clone = none := by
  unfold ghCloneRepository
  cases env.git.clone with
  | none => simp
  | some exitCode => simp [ExecutorEvent.changes]

theorem wp_addOrigin_still {remote : String} :
    Script.wp Host.step (fun _ e => e.changes = false) post (fun _ _ => True) (addOrigin remote env) host ↔
      env.git.remotes = none ∨ ∃ remotes, env.git.remotes = some remotes ∧
        if "origin" ∈ remotes then post () host else env.git.addOrigin = none := by
  unfold addOrigin
  cases env.git.remotes with
  | none => simp
  | some remotes =>
    dsimp only
    rw [Script.wp_bind, Script.wp_act]
    by_cases horig : "origin" ∈ remotes
    · simp [horig, ExecutorEvent.changes, GitCommand.changes, Host.step]
    cases env.git.addOrigin with
    | none | some exitCode => simp [horig, ExecutorEvent.changes, GitCommand.changes]

theorem wp_prepareGh_still :
    Script.wp Host.step (fun _ e => e.changes = false) post (fun _ _ => True) (prepareGh opts env) host ↔
      GhStops opts env ∨ (GhReady opts env ∧ post () host) := by
  unfold prepareGh GhStops GhReady
  rw [Script.wp_bind, Script.wp_orLeave]
  cases ghRemote opts.folder with
  | none => simp
  | some remote =>
    cases env.which "gh" with
    | false => simp
    | true =>
      by_cases hcl : env.git.pathExists = false ∨ env.git.hasDotGit = false
      · have hnot : ¬ (env.git.pathExists = true ∧ env.git.hasDotGit = true) := by
          rintro ⟨hpath, hdot⟩
          rw [hpath, hdot] at hcl
          simp at hcl
        simp [hcl, wp_ghCloneRepository_still]
        tauto
      · have hboth : env.git.pathExists = true ∧ env.git.hasDotGit = true := by
          simpa [not_or] using hcl
        simp [hboth, wp_addOrigin_still]
        cases env.git.remotes with
        | none => simp
        | some remotes =>
          by_cases horig : "origin" ∈ remotes
          · simp [horig]
          · simp [horig]

theorem pullRepository_still :
    (pullRepository env).Still host ↔
      env.git.dotGitAfter = false ∨ env.which "git" = false ∨ env.git.fetch = none := by
  unfold pullRepository Exec.Still runGitCommand
  rw [Script.wp_bind, Script.wp_leaveIf, Script.wp_bind, Script.wp_leaveIf, Script.wp_bind]
  cases env.git.dotGitAfter with
  | false => simp
  | true =>
    cases env.which "git" with
    | false => simp
    | true =>
      cases env.git.fetch with
      | none => simp
      | some exitCode => simp [ExecutorEvent.changes, GitCommand.changes]

theorem runGit_still :
    (runGit opts env).Still host ↔ (opts.folder.gitProvider = some .gh ∧ GhStops opts env) ∨
      ((opts.folder.gitProvider = some .gh → GhReady opts env) ∧
        (env.git.dotGitAfter = false ∨ env.which "git" = false ∨ env.git.fetch = none)) := by
  have hpull : ∀ host : Host, (pullRepository env).Still host ↔ _ := fun host => pullRepository_still
  unfold runGit prepareRepository Exec.Still
  unfold Exec.Still at hpull
  rw [Script.wp_bind, Script.wp_ite]
  simp only [hpull, wp_prepareGh_still, Script.wp_pure]
  by_cases hgh : opts.folder.gitProvider = some .gh
  · simp [hgh]
  · simp [hgh]

end Still

end LamaSync
