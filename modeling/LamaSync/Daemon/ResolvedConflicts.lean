import LamaSync.Daemon.Launches
import LamaSync.Server.Conflicts

/-!
# Manual resolutions over the runs of a folder

With the strategy `manual` a run reports the conflicts of rclone to the server, an operator resolves them there, and the
next run applies what it finds resolved and acknowledges it.  The acknowledgement is the request of the operator: it
makes the conflict resolved, which it was before, so the run after that finds it again.

A path is *settled* from the acknowledgement of its conflict on until a conflict is reported for it again.  The server
still lists every settled path as resolved (`settled_is_listed`), so `manual_resolution_applied_once_iff` says when no
run copies a settled path: when no run asks for the resolved conflicts while a path is settled, save that the copy of a
version to keep may be barred.
-/

namespace LamaSync

def reachesResolved (opts : ExecuteOptions) (env : Surroundings) : Bool :=
  !opts.dryRun && (preparedInputs opts env).isOk

section Manual

variable {sha256 : String → String} {opts : ExecuteOptions} {env : Surroundings} {host : Host}

private theorem rv_runPlanned {inputs : RunInputs} {plan : RunPlan} (hman : opts.assignment.conflictStrategy = some .manual) :
    CopiesNothing (runPlanned sha256 opts env inputs plan) := by
  have hevs : AttemptEvents opts inputs.filters.filterFrom (fun _ => True) fun e => e.isCopy = false :=
    ⟨fun _ => ExecutorEvent.isCopy_of_isAside, fun _ _ _ => rfl, fun _ _ => rfl, fun _ => rfl, fun _ _ _ => trivial⟩
  exact runPlanned_only hevs (fun _ => trivial) fun _ _ => finishRun_copies_nothing hman

variable {e : ExecutorEvent}

private theorem rv_notMem {α : Type} {p : Exec α} (he : e.isCopy = true) (h : CopiesNothing p) :
    e ∉ p.log Host.step host := by
  intro hmem
  have hnot := h.mem_log e hmem
  rw [he] at hnot
  cases hnot

private theorem rv_runSync {inputs : RunInputs} (hman : opts.assignment.conflictStrategy = some .manual)
    (he : e.isCopy = true) : e ∈ (runSync sha256 opts env inputs).log Host.step host ↔
      opts.dryRun = false ∧ e ∈ (env.resolvedConflicts.getD []).zipIdx.flatMap (resolvedSteps env.resolvedEnd) := by
  unfold runSync planSync
  cases hdry : opts.dryRun with
  | true =>
    have hplan : CopiesNothing (planDryRun opts env inputs) := planDryRun_only rfl
    have hnone : CopiesNothing (planDryRun opts env inputs >>= fun plan => runPlanned sha256 opts env inputs plan) :=
      hplan.bind fun _ => rv_runPlanned hman
    rw [if_pos rfl]
    constructor
    · exact fun hmem => absurd hmem (rv_notMem he hnone)
    · exact fun h => nomatch h.1
  | false =>
    have hplan : CopiesNothing (planRealRun sha256 opts env inputs) := planRealRun_only rfl fun _ => rfl
    have hnone : CopiesNothing (planRealRun sha256 opts env inputs >>= fun plan => runPlanned sha256 opts env inputs plan) :=
      hplan.bind fun _ => rv_runPlanned hman
    have hwhen : Script.whenDo (opts.assignment.conflictStrategy = some .manual) (applyResolvedConflicts env) =
        applyResolvedConflicts env := if_pos hman
    obtain ⟨hlog, hre, hfn⟩ := applyResolvedConflicts_runs env host
    rw [if_neg Bool.false_ne_true, hwhen, Script.bind_assoc, Script.log_bind_of_ok hre, hfn, hlog,
      List.mem_append]
    constructor
    · rintro (hres | hla)
      · exact ⟨rfl, hres⟩
      · exact absurd hla (rv_notMem he hnone)
    · exact fun h => .inl h.2

theorem copies_of_manual_run (hsync : opts.folder.type = .sync)
    (hman : opts.assignment.conflictStrategy = some .manual) (he : e.isCopy = true) :
    e ∈ (executeAssignment sha256 opts env).log Host.step host ↔ reachesResolved opts env = true ∧
        e ∈ (env.resolvedConflicts.getD []).zipIdx.flatMap (resolvedSteps env.resolvedEnd) := by
  have hprep : CopiesNothing (prepareRun opts env) := prepareRun_stays_quiet.staysAside.mono fun _ => ExecutorEvent.isCopy_of_isAside
  unfold executeAssignment reachesResolved
  rw [hsync]
  cases hins : preparedInputs opts env with
  | error stop =>
    have hlog : (prepareRun opts env >>= runSync sha256 opts env).log Host.step host = (prepareRun opts env).log Host.step host :=
      Script.log_bind_of_error (prepareRun_result.trans hins)
    show e ∈ (prepareRun opts env >>= runSync sha256 opts env).log Host.step host ↔ _
    rw [hlog]
    simp [rv_notMem he hprep, Except.isOk, Except.toBool]
  | ok inputs =>
    have hlog : (prepareRun opts env >>= runSync sha256 opts env).log Host.step host =
        (prepareRun opts env).log Host.step host ++
          (runSync sha256 opts env inputs).log Host.step ((prepareRun opts env).final Host.step host) :=
      Script.log_bind_of_ok (prepareRun_result.trans hins)
    show e ∈ (prepareRun opts env >>= runSync sha256 opts env).log Host.step host ↔ _
    rw [hlog, List.mem_append, rv_runSync hman he]
    simp [rv_notMem he hprep, Except.isOk, Except.toBool]

end Manual

structure ManualRun (hostId folderId : String) where
  opts : ExecuteOptions
  env : Surroundings
  principal : Option AuthPrincipal
  /-- The conflicts of rclone reach the server, at that time and with these ids for new rows. -/
  reported : Bool
  now : Int
  newIds : String → String
  /-- How the treatment of the conflict of a path ends. -/
  ends : String → ConflictEnd
  isSync : opts.folder.type = .sync
  isManual : opts.assignment.conflictStrategy = some .manual
  onHost : opts.hostId = hostId
  ofFolder : opts.folder.id = folderId
  hasKey : deviceMayAccessHost principal (some hostId) = true

/-- The server, the work directory of the folder, and the settled paths. -/
structure ConflictSystem where
  server : ConflictServer
  host : Host := {}
  settled : List String := []

inductive ConflictEvent (hostId folderId : String) where
  | run (run : ManualRun hostId folderId)
  | resolve (principal : Option AuthPrincipal) (id : String) (resolution : ConflictResolution)

def ConflictRow.resolved (row : ConflictRow) : Option ResolvedConflict :=
  row.resolution.map fun resolution => ⟨row.id, row.path, resolution⟩

namespace ManualRun

variable {hostId folderId : String} (sha256 : String → String) (run : ManualRun hostId folderId) (s : ConflictSystem)

def listed : List ResolvedConflict :=
  ((s.server.listConflicts run.principal (some hostId) (some folderId) (some "resolved")).toOption.getD []).filterMap
    ConflictRow.resolved

def surroundings : Surroundings :=
  { run.env with
    resolvedConflicts := run.env.resolvedConflicts.map fun _ => run.listed s
    resolvedEnd := fun i => (run.listed s)[i]?.elim {} fun c => run.ends c.path }

def fetched : List ResolvedConflict := (run.surroundings s).resolvedConflicts.getD []

def log : List ExecutorEvent := (executeAssignment sha256 run.opts (run.surroundings s)).log Host.step s.host

def serve (fetched : List ResolvedConflict) (s : ConflictSystem) : ExecutorEvent → ConflictSystem
  | .resolveConflict id =>
    match fetched.find? fun c => c.id = id with
    | none => s
    | some c =>
      let answer := s.server.resolveConflict run.principal id c.resolution
      if (run.ends c.path).acknowledged ∧ answer.2 = 200 then
        { s with server := answer.1, settled := c.path :: s.settled }
      else s
  | .createConflicts paths =>
    if run.reported then
      { s with
        server := (s.server.createConflicts run.principal run.now
          (paths.map fun path => ⟨run.newIds path, hostId, folderId, path⟩)).1
        settled := s.settled.filter fun path => path ∉ paths }
    else s
  | _ => s

end ManualRun

section Runs

variable {hostId folderId : String} (sha256 : String → String)

def conflictStep (s : ConflictSystem) : ConflictEvent hostId folderId → ConflictSystem
  | .run run =>
    (run.log sha256 s).foldl (run.serve (run.fetched s))
      { s with host := (executeAssignment sha256 run.opts (run.surroundings s)).final Host.step s.host }
  | .resolve principal id resolution => { s with server := (s.server.resolveConflict principal id resolution).1 }

def CopiesNoSettled (s : ConflictSystem) : ConflictEvent hostId folderId → Prop
  | .run run => ∀ source path, ExecutorEvent.copyto source path ∈ run.log sha256 s → path ∉ s.settled
  | .resolve .. => True

end Runs

/-- The queries of the folder's runs find the row. -/
def ConflictRow.OfFolder (hostId folderId : String) (row : ConflictRow) : Prop :=
  ConflictServer.passes (some hostId) row.hostId = true ∧ ConflictServer.passes (some folderId) row.folderId = true

theorem ConflictRow.Same.ofFolder {hostId folderId : String} {row row' : ConflictRow} (h : row.Same row')
    (hrow : row.OfFolder hostId folderId) : row'.OfFolder hostId folderId := by
  obtain ⟨-, hhost, hfol, -⟩ := h
  rw [ConflictRow.OfFolder, hhost, hfol]
  exact hrow

section Condition

variable {hostId folderId : String}

/-- The run does not come to the resolved conflicts, cannot list them, or cannot copy for any settled path: both versions
are to be kept, and the local file cannot be set aside. -/
def SettledAreBarred (s : ConflictSystem) : ConflictEvent hostId folderId → Prop
  | .run run => reachesResolved run.opts run.env = true → run.env.resolvedConflicts.isSome = true → ∀ path ∈ s.settled,
      (run.ends path).localExists = true ∧ (run.ends path).moved = false ∧
        ∀ row ∈ s.server.rows, row.OfFolder hostId folderId → row.path = path → row.status = .resolved →
          row.resolution ≠ some .local ∧ row.resolution ≠ some .remote
  | .resolve .. => True

/-- The conflict of the path is resolved, with one of the resolutions. -/
def ListedPath (hostId folderId : String) (s : ConflictServer) (path : String) : Prop :=
  ∃ row ∈ s.rows, row.OfFolder hostId folderId ∧ row.path = path ∧ row.HasResolution

variable {sha256 : String → String} {s : ConflictSystem} {run : ManualRun hostId folderId}

theorem ManualRun.mem_listed {c : ResolvedConflict} : c ∈ run.listed s ↔
    ∃ row ∈ s.server.rows, row.OfFolder hostId folderId ∧ row.status = .resolved ∧ row.resolved = some c := by
  have hst : ∀ status : ConflictStatus, ConflictServer.passes (some "resolved") status.text = true ↔
      status = .resolved := by
    intro status
    cases status with
    | pending | resolved => decide
  simp only [ManualRun.listed, ConflictServer.listConflicts, run.hasKey, Bool.not_true, Bool.false_eq_true, if_false,
    Except.toOption, Option.getD_some, List.mem_filterMap, List.mem_mergeSort, List.mem_filter, Bool.and_eq_true, hst,
    ConflictRow.OfFolder, and_assoc]

theorem ManualRun.mem_fetched {c : ResolvedConflict} :
    c ∈ run.fetched s ↔ run.env.resolvedConflicts.isSome = true ∧ c ∈ run.listed s := by
  unfold ManualRun.fetched ManualRun.surroundings
  cases run.env.resolvedConflicts with
  | none => simp
  | some _ => simp

section Serve

variable {fetched : List ResolvedConflict}

/-- What holds while a run's requests reach the server: the conflicts it was given have their rows, and the settled paths
are listed. -/
private structure Serving (hostId folderId : String) (fetched : List ResolvedConflict) (s : ConflictSystem) : Prop where
  rows : ∀ c ∈ fetched, ∃ row ∈ s.server.rows, row.OfFolder hostId folderId ∧ row.id = c.id ∧ row.path = c.path
  listed : ∀ path ∈ s.settled, ListedPath hostId folderId s.server path

private theorem rv_serve (h : Serving hostId folderId fetched s) (e : ExecutorEvent) :
    Serving hostId folderId fetched (run.serve fetched s e) := by
  unfold ManualRun.serve
  split
  · rename_i id
    split
    · exact h
    rename_i c hfind
    have hmem := List.mem_of_find?_eq_some hfind
    have hid : c.id = id := by simpa using List.find?_some hfind
    dsimp only
    split
    · rename_i hans
      constructor
      · intro c' hc'
        obtain ⟨row, hrow, hfol, hrowId, hpath⟩ := h.rows c' hc'
        obtain ⟨row', hrow', hsame, -⟩ := ConflictServer.resolveConflict_row hrow run.principal id c.resolution
        exact ⟨row', hrow', hsame.ofFolder hfol, hsame.1.trans hrowId, hsame.2.2.2.trans hpath⟩
      intro path hpath
      rcases List.mem_cons.1 hpath with rfl | hold
      · -- the row of the acknowledged conflict is resolved once more
        obtain ⟨row, hrow, hfol, hrowId, hrowPath⟩ := h.rows c hmem
        obtain ⟨row', hrow', hsame, hres⟩ :=
          ConflictServer.resolveConflict_row hrow run.principal id c.resolution
        exact ⟨row', hrow', hsame.ofFolder hfol, hsame.2.2.2.trans hrowPath,
          hres (.inr ⟨hrowId.trans hid, hans.2⟩)⟩
      · obtain ⟨row, hrow, hfol, hrowPath, hwas⟩ := h.listed path hold
        obtain ⟨row', hrow', hsame, hres⟩ :=
          ConflictServer.resolveConflict_row hrow run.principal id c.resolution
        exact ⟨row', hrow', hsame.ofFolder hfol, hsame.2.2.2.trans hrowPath, hres (.inl hwas)⟩
    · exact h
  · rename_i paths
    split
    · constructor
      · intro c hc
        obtain ⟨row, hrow, hfol, hrowId, hpath⟩ := h.rows c hc
        obtain ⟨row', hrow', hsame, -⟩ := ConflictServer.createConflicts_row hrow run.principal run.now
          (paths.map fun path => ⟨run.newIds path, hostId, folderId, path⟩)
        exact ⟨row', hrow', hsame.ofFolder hfol, hsame.1.trans hrowId, hsame.2.2.2.trans hpath⟩
      intro path hpath
      obtain ⟨hold, hnot⟩ := List.mem_filter.1 hpath
      obtain ⟨row, hrow, hfol, hrowPath, hwas⟩ := h.listed path hold
      obtain ⟨row', hrow', -, hkept⟩ := ConflictServer.createConflicts_row hrow run.principal run.now
        (paths.map fun path => ⟨run.newIds path, hostId, folderId, path⟩)
      have hsame : row' = row := by
        refine hkept fun report hrep heq => ?_
        obtain ⟨path', hpath', rfl⟩ := List.mem_map.1 hrep
        have hsamePath : path' = path := heq.trans hrowPath
        exact of_decide_eq_true hnot (hsamePath ▸ hpath')
      subst hsame
      exact ⟨row', hrow', hfol, hrowPath, hwas⟩
    · exact h
  · exact h

end Serve

/-- Every settled path is still listed by the server. -/
theorem settled_is_listed (e : ConflictEvent hostId folderId)
    (h : ∀ path ∈ s.settled, ListedPath hostId folderId s.server path) :
    ∀ path ∈ (conflictStep sha256 s e).settled, ListedPath hostId folderId (conflictStep sha256 s e).server path := by
  cases e with
  | resolve principal id resolution =>
    intro path hpath
    obtain ⟨row, hrow, hfol, hrowPath, hwas⟩ := h path hpath
    obtain ⟨row', hrow', hsame, hres⟩ := ConflictServer.resolveConflict_row hrow principal id resolution
    exact ⟨row', hrow', hsame.ofFolder hfol, hsame.2.2.2.trans hrowPath, hres (.inl hwas)⟩
  | run run =>
    have hst : Serving hostId folderId (run.fetched s)
        { s with host := (executeAssignment sha256 run.opts (run.surroundings s)).final Host.step s.host } := by
      refine ⟨fun c hc => ?_, h⟩
      obtain ⟨row, hrow, hfol, -, hres⟩ := ManualRun.mem_listed.1 (ManualRun.mem_fetched.1 hc).2
      obtain ⟨resolution, -, rfl⟩ := Option.map_eq_some_iff.1 hres
      exact ⟨row, hrow, hfol, rfl, rfl⟩
    have hend : Serving hostId folderId (run.fetched s) (conflictStep sha256 s (.run run)) :=
      Trace.run_invariant hst fun _ e h => rv_serve h e
    exact hend.listed

private theorem rv_copies {path : String} :
    (∃ source, ExecutorEvent.copyto source path ∈ run.log sha256 s) ↔
      reachesResolved run.opts run.env = true ∧ ∃ c ∈ run.fetched s, c.path = path ∧
        startsCopy c.resolution.action (run.ends path) = true := by
  have hste : ∀ source, ExecutorEvent.copyto source path ∈ run.log sha256 s ↔
      reachesResolved run.opts run.env = true ∧ ∃ c ∈ (run.fetched s).zipIdx,
        ExecutorEvent.copyto source path ∈ treatmentSteps c.1.resolution.action c.1.path
          ((run.surroundings s).resolvedEnd c.2) := by
    intro source
    unfold ManualRun.log
    rw [copies_of_manual_run run.isSync run.isManual rfl, List.mem_flatMap]
    refine and_congr Iff.rfl (exists_congr fun c => and_congr_right fun _ => ?_)
    unfold resolvedSteps
    rw [List.mem_append]
    refine or_iff_left ?_
    split
    · simp
    · simp
  have hend : ∀ c ∈ (run.fetched s).zipIdx, (run.surroundings s).resolvedEnd c.2 = run.ends c.1.path := by
    intro c hc
    have hat := List.mem_zipIdx_iff_getElem?.1 hc
    unfold ManualRun.fetched ManualRun.surroundings at hat
    cases hask : run.env.resolvedConflicts with
    | none => simp [hask] at hat
    | some _ =>
      rw [hask, Option.map_some, Option.getD_some] at hat
      show (run.listed s)[c.2]?.elim {} (fun c => run.ends c.path) = _
      rw [hat]
      rfl
  constructor
  · rintro ⟨source, hsrc⟩
    obtain ⟨hr, c, hc, hcopy⟩ := (hste source).1 hsrc
    obtain ⟨rfl, hst⟩ := copyto_mem_treatmentSteps.1 ⟨source, hcopy⟩
    exact ⟨hr, c.1, List.fst_mem_of_mem_zipIdx hc, rfl, hend c hc ▸ hst⟩
  rintro ⟨hr, c, hc, rfl, hst⟩
  obtain ⟨i, hi⟩ := List.mem_iff_getElem?.1 hc
  have hmem : (c, i) ∈ (run.fetched s).zipIdx := List.mem_zipIdx_iff_getElem?.2 hi
  obtain ⟨source, hcopy⟩ := copyto_mem_treatmentSteps.2 ⟨rfl, (hend _ hmem).symm ▸ hst⟩
  exact ⟨source, (hste source).2 ⟨hr, (c, i), hmem, hcopy⟩⟩

private theorem rv_startsCopy {resolution : ConflictResolution} {ended : ConflictEnd} :
    startsCopy resolution.action ended = false ↔
      (ended.localExists = true ∧ ended.moved = false) ∧ resolution ≠ .local ∧ resolution ≠ .remote := by
  cases resolution with
  | «local» | remote => simp [startsCopy, ConflictResolution.action]
  | both => simp [startsCopy, ConflictResolution.action]

theorem copiesNoSettled_iff (h : ∀ path ∈ s.settled, ListedPath hostId folderId s.server path)
    (e : ConflictEvent hostId folderId) : CopiesNoSettled sha256 s e ↔ SettledAreBarred s e := by
  cases e with
  | resolve principal id resolution => exact Iff.rfl
  | run run =>
    constructor
    · intro hco hr hask path hsett
      have hba : ∀ row ∈ s.server.rows, row.OfFolder hostId folderId → row.path = path → row.status = .resolved →
          ∀ resolution, row.resolution = some resolution → startsCopy resolution.action (run.ends path) = false := by
        intro row hrow hfol hpath hst resolution hreso
        by_contra hsta
        rw [Bool.not_eq_false] at hsta
        have hlist : (⟨row.id, row.path, resolution⟩ : ResolvedConflict) ∈ run.listed s :=
          ManualRun.mem_listed.2 ⟨row, hrow, hfol, hst, by rw [ConflictRow.resolved, hreso]; rfl⟩
        obtain ⟨source, hsrc⟩ : ∃ source, ExecutorEvent.copyto source path ∈ run.log sha256 s := rv_copies.2
          ⟨hr, _, ManualRun.mem_fetched.2 ⟨hask, hlist⟩, hpath, hsta⟩
        exact hco source path hsrc hsett
      obtain ⟨row, hrow, hfol, hpath, hst, hsome⟩ := h path hsett
      obtain ⟨resolution, hreso⟩ := Option.isSome_iff_exists.1 hsome
      obtain ⟨⟨hex, hmv⟩, -⟩ := rv_startsCopy.1 (hba row hrow hfol hpath hst resolution hreso)
      refine ⟨hex, hmv, fun row' hrow' hfol' hpath' hst' => ⟨fun hlo => ?_, fun hrem => ?_⟩⟩
      · exact (rv_startsCopy.1 (hba row' hrow' hfol' hpath' hst' _ hlo)).2.1 rfl
      · exact (rv_startsCopy.1 (hba row' hrow' hfol' hpath' hst' _ hrem)).2.2 rfl
    · intro hba source path hsrc hsett
      obtain ⟨hr, c, hc, hpath, hsta⟩ := rv_copies.1 ⟨source, hsrc⟩
      obtain ⟨hask, hlist⟩ := ManualRun.mem_fetched.1 hc
      obtain ⟨row, hrow, hfol, hst, hres⟩ := ManualRun.mem_listed.1 hlist
      obtain ⟨resolution, hreso, rfl⟩ := Option.map_eq_some_iff.1 hres
      obtain ⟨hex, hmv, hrows⟩ := hba hr hask path hsett
      obtain ⟨hlo, hrem⟩ := hrows row hrow hfol hpath hst
      have hno : startsCopy resolution.action (run.ends path) = false := by
        refine rv_startsCopy.2 ⟨⟨hex, hmv⟩, ?_, ?_⟩
        · rintro rfl
          exact hlo hreso
        · rintro rfl
          exact hrem hreso
      cases hno.symm.trans hsta

/-- In every sequence of runs and resolutions no settled path is copied again, exactly when every run that asks for the
resolved conflicts finds no path settled, or is barred from copying it. -/
theorem manual_resolution_applied_once_iff (sha256 : String → String) (server : ConflictServer) (host : Host)
    (events : List (ConflictEvent hostId folderId)) :
    Trace.Always (conflictStep sha256) (CopiesNoSettled sha256) ⟨server, host, []⟩ events ↔
      Trace.Always (conflictStep sha256) SettledAreBarred ⟨server, host, []⟩ events := by
  refine Trace.always_congr (I := fun s => ∀ path ∈ s.settled, ListedPath hostId folderId s.server path)
    (fun path hpath => nomatch hpath) ?_ ?_
  · exact fun s e h => copiesNoSettled_iff h e
  · exact fun s e h _ => settled_is_listed e h

end Condition

def notesOptions : ExecuteOptions where
  assignment := { id := "a", folderId := "f", hostId := "h", localPath := "/home/notes", conflictStrategy := some .manual }
  folder := { id := "f", name := "notes", type := .sync }
  hostId := "h"

def notesSurroundings : Surroundings where
  rclone := fun _ => some { result := .exited 0 "" }

def notesRun : ManualRun "h" "f" where
  opts := notesOptions
  env := notesSurroundings
  principal := some (.device "k" "h")
  reported := true
  now := 0
  newIds := fun path => path
  ends := fun _ => {}
  isSync := rfl
  isManual := rfl
  onHost := rfl
  ofFolder := rfl
  hasKey := rfl

def notesConflict : ConflictSystem where
  server := ⟨[⟨"c", "h", "f", "a.txt", .pending, none, 0⟩]⟩

/-- The local version is chosen, and two runs follow: each of them copies it over the remote file. -/
theorem resolution_applied_twice :
    ¬ Trace.Always (conflictStep fun text => text) (CopiesNoSettled fun text => text) notesConflict
      [.resolve (some .master) "c" .local, .run notesRun, .run notesRun] := by
  rintro ⟨-, -, htw, -⟩
  have hcopy : ExecutorEvent.copyto .local "a.txt" ∈ notesRun.log (fun text => text)
      (conflictStep (fun text => text) (conflictStep (fun text => text) notesConflict
        (.resolve (some .master) "c" .local : ConflictEvent "h" "f")) (.run notesRun)) := by
    decide +kernel
  exact htw _ _ hcopy (by decide +kernel)

end LamaSync
