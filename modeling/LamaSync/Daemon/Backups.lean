import LamaSync.Daemon.Execution

/-!
# Backups and captures

The folder types that do not go through the run loop: a backup into a restic repository, and a dotfile folder, which is
the capture of an application, as an archive or into a restic repository.

`runResticBackupAssignment_still` and its like say when such a run changes nothing.  None of them looks at `dryRun`.
-/

namespace LamaSync

/-- Nothing is changed by the events of a part of a run. -/
def Exec.Still {α : Type} (p : Exec α) (host : Host) : Prop :=
  Script.wp Host.step (fun _ e => e.changes = false) (fun _ _ => True) (fun _ _ => True) p host

def expandHomePath (home path : String) : String :=
  match path.toList with
  | ['~'] => home
  | '~' :: '/' :: rest => home ++ "/" ++ String.ofList rest
  | '~' :: rest =>
    let parent := ((home.toList.splitOn '/').dropLast.intersperse ['/']).flatten
    String.ofList parent ++ "/" ++ String.ofList rest
  | _ => path

def archiveSegments (raw : List Char) : Option String :=
  let segments := (raw.map fun c => if c = '\\' then '/' else c).splitOn '/'
  if segments.any fun part => part == [] || part == ['.'] || part == ['.', '.'] then none
  else some ("/".intercalate (segments.map String.ofList))

def isLineEnd (c : Char) : Bool := c == '\n' || c == '\r' || c.toNat == 0x2028 || c.toNat == 0x2029

def windowsPath : List Char → Option (Char × List Char)
  | drive :: ':' :: slash :: rest =>
    if drive.isAlpha ∧ (slash = '\\' ∨ slash = '/') ∧ !rest.any isLineEnd then some (drive, rest) else none
  | _ => none

def appArchivePath (path : String) : Option String :=
  match path.toList with
  | ['~'] => some "home"
  | '~' :: '/' :: rest => (archiveSegments rest).map fun segments => "home/" ++ segments
  | '/' :: rest => (archiveSegments rest).map fun segments => "absolute/" ++ segments
  | cs => (windowsPath cs).bind fun windows =>
    (archiveSegments windows.2).map fun segments => "windows/" ++ String.ofList [windows.1.toLower] ++ "/" ++ segments

def normalSegments (path : List Char) : List (List Char) :=
  (path.splitOn '/').foldl (fun segments part =>
    if part = [] ∨ part = ['.'] then segments
    else if part = ['.', '.'] then segments.dropLast
    else segments ++ [part]) []

def sourceArchiveMember (path : String) : Option String :=
  match path.toList with
  | '/' :: rest =>
    if normalSegments rest = [] then none else some ("/".intercalate ((normalSegments rest).map String.ofList))
  | _ => none

def appTarExclude (home pattern : String) : String := (sourceArchiveMember (expandHomePath home pattern)).getD pattern

def isTarNotice (ending : String) (line : List Char) : Bool :=
  "tar: ".toList.isPrefixOf line && ending.toList.isSuffixOf line &&
    decide ("tar: ".toList.length + ending.toList.length < line.length) && !line.any isLineEnd

def isRecoverableAppTarResult (exitCode : Int) (stderr : String) : Bool :=
  if exitCode = 0 then true
  else if exitCode ≠ 1 then false
  else
    let lines := ((stderr.toList.splitOn '\n').map trimSpaces).filter fun line => line ≠ []
    !lines.isEmpty && lines.all fun line =>
      isTarNotice ": file changed as we read it" line || isTarNotice ": socket ignored" line

def resolvedAppPaths (app : AppCaptureAssignment) (home : String) : List (String × String) :=
  app.paths.zipIdx.map fun (path, index) =>
    (path, ((app.resolvedPaths.bind fun resolved => resolved[index]?)).getD (expandHomePath home path))

def appPathProblem (env : Surroundings) (path : String × String) : Option ReportBody :=
  if (appArchivePath path.1).isNone then some (.appPathInvalid path.1)
  else if (sourceArchiveMember path.2).isNone then some (.appPathUnsupported path.1)
  else if !env.pathExists path.2 then some (.appPathMissing path.1)
  else none

def captureProblem (app : AppCaptureAssignment) (env : Surroundings) : Option ReportBody :=
  if app.paths = [] then some .noAppPaths else (resolvedAppPaths app env.home).findSome? (appPathProblem env)

def captureAppSnapshot (app : AppCaptureAssignment) (env : Surroundings) : Exec OperationReport :=
  match captureProblem app env with
  | some problem => .leave (failed problem)
  | none =>
    match env.tar with
    | none => .leave .threw
    | some (exitCode, stderr) => do
      Script.act (.tar ((resolvedAppPaths app env.home).filterMap fun path => sourceArchiveMember path.2)
        (app.excludes.map (appTarExclude env.home)))
      Script.leaveIf (!isRecoverableAppTarResult exitCode stderr) (failed (.appArchiveFailed exitCode))
      Script.act (.uploadAppSnapshot app.protectionId)
      Script.leaveIf (!env.snapshotUploaded) (failed .appUploadFailed)
      pure ⟨.success, .appCaptured app.paths⟩

def uploadsCapture (app : AppCaptureAssignment) (env : Surroundings) : Bool :=
  (captureProblem app env).isNone && env.tar.any fun tar => isRecoverableAppTarResult tar.1 tar.2

theorem captureAppSnapshot_still {app : AppCaptureAssignment} {env : Surroundings} {host : Host} :
    (captureAppSnapshot app env).Still host ↔ uploadsCapture app env = false := by
  unfold captureAppSnapshot uploadsCapture Exec.Still
  cases captureProblem app env with
  | some problem => simp
  | none =>
    cases env.tar with
    | none => simp
    | some tar => simp [ExecutorEvent.changes]

def runDotfileUpload (opts : ExecuteOptions) (env : Surroundings) : Exec OperationReport :=
  match opts.hostConfig.apps.find? fun app => app.appName == opts.folder.name with
  | none => .leave (failed .noAppProtection)
  | some app => captureAppSnapshot app env

theorem runDotfileUpload_still {opts : ExecuteOptions} {env : Surroundings} {host : Host} :
    (runDotfileUpload opts env).Still host ↔
      ∀ app ∈ opts.hostConfig.apps.find? fun app => app.appName == opts.folder.name, uploadsCapture app env = false := by
  unfold runDotfileUpload
  cases opts.hostConfig.apps.find? fun app => app.appName == opts.folder.name with
  | none => simp [Exec.Still]
  | some app => simp [captureAppSnapshot_still]

def initResticRepo (repository : String) (env : Surroundings) : Exec Bool :=
  match env.restic.init with
  | none => .leave .threw
  | some (exitCode, stderr) => do
    Script.act (.resticInit repository)
    pure (exitCode = 0 ∨ includesText "already initialized".toList stderr.toList)

def resticBackupArgs (repository : String) (paths tags : List String) : List Arg :=
  [.word "backup", .word "--repo", .value repository, .word "--password-file", .value "restic-password", .word "--json"] ++
    tags.map (fun tag => .value ("--tag=" ++ tag)) ++ paths.map .value

def runResticBackup (repository : String) (paths tags : List String) (env : Surroundings) : Exec Bool :=
  match env.restic.backup with
  | none => .leave .threw
  | some (exitCode, timedOut) => do
    Script.act (.resticBackup (resticBackupArgs repository paths tags))
    pure (!timedOut && exitCode = 0)

def resticTags (opts : ExecuteOptions) : List String := ["lamasync", "folder:" ++ opts.folder.id, "host:" ++ opts.hostId]

def diskSpaceDefault : Int := 1000000000

def requiredSpace (assignment : FolderAssignment) : Int := assignment.availableSpaceThreshold.getD diskSpaceDefault

def requireDiskSpace (opts : ExecuteOptions) (env : Surroundings) : Exec Unit := do
  let d ← checkDiskSpace opts.assignment.localPath env.availableBytes (requiredSpace opts.assignment)
  Script.leaveIf (!d.ok) (failed (.diskSpace d.availableBytes (requiredSpace opts.assignment)))

def requireHook (command : Option String) (phase : HookPhase) (ended : Option Int) (body : Int → ReportBody) :
    Exec Unit := do
  let exitCode ← runHook command phase ended
  Script.leaveIf (exitCode ≠ 0) (failed (body exitCode))

def runResticBackupAssignment (opts : ExecuteOptions) (env : Surroundings) : Exec OperationReport := do
  let repository := opts.assignment.resticRepository.getD ""
  Script.leaveIf (!env.which "restic") (failed .resticMissing)
  let initialised ← initResticRepo repository env
  Script.leaveIf (!initialised) (failed .resticInit)
  requireDiskSpace opts env
  requireHook opts.assignment.preSyncCmd .pre (env.preHook 1) (.preHook none)
  let ok ← runResticBackup repository [opts.assignment.localPath] (resticTags opts) env
  requireHook (if ok then opts.assignment.postSyncCmd else none) .post (env.postHook 1) (.postHook none)
  Script.leaveIf (!ok) (failed .resticBackup)
  Script.act (.reportResticSnapshot (env.restic.snapshotId.getD "unknown"))
  pure ⟨.success, .resticOk env.restic.snapshotId [opts.assignment.localPath]⟩

def dotfileApp (opts : ExecuteOptions) : Option AppCaptureAssignment :=
  (opts.hostConfig.apps.find? fun app => app.appName == opts.folder.name).filter fun app => app.paths ≠ []

def dotfilePaths (app : AppCaptureAssignment) (env : Surroundings) : List String :=
  app.resolvedPaths.getD (app.paths.map (expandHomePath env.home))

def uploadDotfiles (opts : ExecuteOptions) (app : AppCaptureAssignment) (env : Surroundings) : Exec OperationReport := do
  let repository := opts.assignment.resticRepository.getD ""
  Script.orLeaveNone ((dotfilePaths app env).find? fun path => !env.pathExists path) fun path =>
    failed (.appPathMissing path)
  let initialised ← initResticRepo repository env
  Script.leaveIf (!initialised) (failed .resticInit)
  let excludes := app.excludes.flatMap fun exclude => ["--exclude", exclude]
  let ok ← runResticBackup repository (excludes ++ ["--files-from", "restic-files-from"])
    (resticTags opts ++ ["dotfile"]) env
  Script.leaveIf (!ok) (failed .resticBackup)
  Script.act (.reportResticSnapshot (env.restic.snapshotId.getD "unknown"))
  pure ⟨.success, .resticOk env.restic.snapshotId app.paths⟩

def runResticDotfileUpload (opts : ExecuteOptions) (env : Surroundings) : Exec OperationReport := do
  Script.leaveIf (!env.which "restic") (failed .resticMissing)
  let app ← Script.orLeave (failed .noAppProtection) (dotfileApp opts)
  uploadDotfiles opts app env

section Still

variable {opts : ExecuteOptions} {env : Surroundings} {host : Host}

private theorem ba_init {post : Bool → Host → Prop} {left : ExecuteEnd → Host → Prop} {repository : String}
    (hth : left .threw host) :
    Script.wp Host.step (fun _ e => e.changes = false) post left (initResticRepo repository env) host ↔
      env.restic.init = none := by
  unfold initResticRepo
  cases env.restic.init with
  | none => simpa using hth
  | some ended =>
    obtain ⟨exitCode, stderr⟩ := ended
    dsimp only
    rw [Script.wp_bind, Script.wp_act]
    simp only [ExecutorEvent.changes, Bool.true_eq_false, false_and, reduceCtorEq]

theorem runResticBackupAssignment_still :
    (runResticBackupAssignment opts env).Still host ↔ env.which "restic" = false ∨ env.restic.init = none := by
  unfold runResticBackupAssignment Exec.Still
  rw [Script.wp_bind, Script.wp_leaveIf, Script.wp_bind, ba_init trivial]
  cases env.which "restic" with
  | false | true => simp

private theorem ba_missing {post : Unit → Host → Prop} {paths : List String} {body : String → ReportBody} :
    Script.wp Host.step (fun _ e => e.changes = false) post (fun _ _ => True)
        (Script.orLeaveNone (paths.find? fun path => !env.pathExists path) fun path => failed (body path)) host ↔
      post () host ∨ ∃ path ∈ paths, env.pathExists path = false := by
  rw [Script.wp_orLeaveNone]
  cases hmiss : paths.find? fun path => !env.pathExists path with
  | none =>
    have hall : ¬ ∃ path ∈ paths, env.pathExists path = false := by
      rintro ⟨path, hmem, hgone⟩
      have hth := List.find?_eq_none.1 hmiss path hmem
      rw [hgone] at hth
      exact hth rfl
    exact ⟨fun h => .inl (h.2 rfl), fun h => ⟨fun _ _ => trivial, fun _ => h.resolve_right hall⟩⟩
  | some path =>
    have hgone : env.pathExists path = false := by simpa using List.find?_some hmiss
    exact ⟨fun _ => .inr ⟨path, List.mem_of_find?_eq_some hmiss, hgone⟩,
      fun _ => ⟨fun _ _ => trivial, fun h => absurd h (Option.some_ne_none _)⟩⟩

theorem uploadDotfiles_still {app : AppCaptureAssignment} :
    (uploadDotfiles opts app env).Still host ↔
      env.restic.init = none ∨ ∃ path ∈ dotfilePaths app env, env.pathExists path = false := by
  unfold uploadDotfiles Exec.Still
  rw [Script.wp_bind, ba_missing, Script.wp_bind, ba_init trivial]

theorem runResticDotfileUpload_still :
    (runResticDotfileUpload opts env).Still host ↔ env.which "restic" = false ∨
      ∀ app ∈ dotfileApp opts, env.restic.init = none ∨ ∃ path ∈ dotfilePaths app env, env.pathExists path = false := by
  have happ : ∀ app, (uploadDotfiles opts app env).Still host ↔ _ := fun app => uploadDotfiles_still
  unfold Exec.Still at happ
  unfold runResticDotfileUpload Exec.Still
  rw [Script.wp_bind, Script.wp_leaveIf, Script.wp_bind, Script.wp_orLeave]
  simp only [happ]
  cases env.which "restic" with
  | false => simp
  | true =>
    cases dotfileApp opts with
    | none | some app => simp

end Still

end LamaSync
