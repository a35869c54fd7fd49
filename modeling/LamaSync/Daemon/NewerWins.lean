import LamaSync.Daemon.Launches
import LamaSync.Lib.Directory

/-!
# The strategy `newer_wins`

A bisync run names the remote first and the local tree second, so the time of `path1` in a conflict line is the time of
the remote version.  The parser calls it the local time, and the copies follow the parser's names.

The files of the two sides are followed through the events that the treatment writes: a copy overwrites one side with the
other, and a local file that is set aside gets a name that is free.  A conflict line promises that the newer version
overwrites the older one, or, where no version is the newer one, that both are kept.
`newer_wins_keeps_newer_iff` says for which outputs of rclone this holds: for those without a line with two different
times.
-/

namespace LamaSync

def ConflictSide.other : ConflictSide → ConflictSide
  | .local => .remote
  | .remote => .local

/-- The side of the first path of a command: `path1` in the output of that run. -/
def path1Side (localPath : String) (command : List Arg) : ConflictSide :=
  if command[2]? = some (.value localPath) then .remote else .local

/-- The side with the later time, when a line has two different times. -/
def newerSide (path1 : ConflictSide) (c : ParsedConflict) : Option ConflictSide :=
  match c.localMtime, c.remoteMtime with
  | some time1, some time2 => if time2 < time1 then some path1 else if time1 < time2 then some path1.other else none
  | _, _ => none

def conflictLines (stdout stderr : String) : List ParsedConflict :=
  ((stdout ++ "\n" ++ stderr).toList.splitOn '\n').filterMap lineConflict

theorem parseBisyncConflicts_eq (stdout stderr : String) :
    parseBisyncConflicts stdout stderr = (conflictLines stdout stderr).foldl setConflict [] := rfl

structure SideFiles where
  localFiles : Directory
  remoteFiles : Directory

namespace SideFiles

variable (files : SideFiles)

def onSide (side : ConflictSide) : Directory :=
  match side with
  | .local => files.localFiles
  | .remote => files.remoteFiles

def copyto (source : ConflictSide) (path : String) : SideFiles :=
  match (files.onSide source).lookup path, source with
  | none, _ => files
  | some content, .local => { files with remoteFiles := files.remoteFiles.insert path content }
  | some content, .remote => { files with localFiles := files.localFiles.insert path content }

def keepLocalConflictCopy (day path : String) : SideFiles :=
  match files.localFiles.lookup path with
  | none => files
  | some content =>
    let target := freeName files.localFiles (path ++ ".conflict-" ++ day)
    { files with localFiles := (files.localFiles.erase path).insert target content }

def step (day : String) (copied : String → Bool) : ExecutorEvent → SideFiles
  | .copyto source path => if copied path then files.copyto source path else files
  | .keepLocalConflictCopy path => files.keepLocalConflictCopy day path
  | _ => files

end SideFiles

section Treatment

variable (day role : String) (copied : String → Bool) (conflicts : List ParsedConflict) (env : Surroundings)

def newerWinsLog : List ExecutorEvent := (applyAutomaticConflicts conflicts .newerWins role env).log Host.step {}

def filesAfter (files : SideFiles) : SideFiles :=
  Trace.run (fun files e => files.step day copied e) files (newerWinsLog role conflicts env)

/-- The treatment finds the files as they are then, and `copied` says which copies succeed. -/
structure Sees (files : SideFiles) : Prop where
  copies : ∀ i c, conflicts[i]? = some c → (env.automaticEnd i).copied = copied c.path
  exists_iff : ∀ i c, conflicts[i]? = some c → (env.automaticEnd i).localExists =
    ((filesAfter day role copied (conflicts.take i) env files).localFiles.lookup c.path).isSome

end Treatment

def ExecutorEvent.treats (path : String) : ExecutorEvent → Bool
  | .copyto _ other | .keepLocalConflictCopy other => other = path
  | _ => false

/-- What a conflict line promises: the newer version is copied over the older one, and nothing else is done about the
path; or, without a newer one, both versions are still there. -/
def LineKept (path1 : ConflictSide) (c : ParsedConflict) (events : List ExecutorEvent) (before after : SideFiles) : Prop :=
  match newerSide path1 c with
  | some newer => events.filter (fun e => e.treats c.path) = [.copyto newer c.path]
  | none =>
    (∀ content, before.localFiles.lookup c.path = some content → ∃ name, after.localFiles.lookup name = some content) ∧
      after.remoteFiles.lookup c.path = before.remoteFiles.lookup c.path

def KeepsNewer (path1 : ConflictSide) (stdout stderr role : String) : Prop :=
  ∀ (day : String) (copied : String → Bool) (env : Surroundings) (files : SideFiles),
    Sees day role copied (parseBisyncConflicts stdout stderr) env files →
      ∀ c ∈ conflictLines stdout stderr, LineKept path1 c (newerWinsLog role (parseBisyncConflicts stdout stderr) env)
        files (filesAfter day role copied (parseBisyncConflicts stdout stderr) env files)

variable {c : ParsedConflict}

private theorem nw_mem_setConflict {conflicts : List ParsedConflict} {found : ParsedConflict}
    (h : found ∈ setConflict conflicts c) : found ∈ conflicts ∨ found = c := by
  unfold setConflict at h
  split at h
  · obtain ⟨old, hold, rfl⟩ := List.mem_map.1 h
    split
    · exact .inr rfl
    · exact .inl hold
  rcases List.mem_append.1 h with hold | hnew
  · exact .inl hold
  · exact .inr (List.mem_singleton.1 hnew)

private theorem nw_path_setConflict {conflicts : List ParsedConflict} {path : String}
    (h : path ∈ conflicts.map ParsedConflict.path ∨ path = c.path) :
    path ∈ (setConflict conflicts c).map ParsedConflict.path := by
  unfold setConflict
  split
  · rename_i hkn
    have hold : path ∈ conflicts.map ParsedConflict.path := by
      rcases h with hold | rfl
      · exact hold
      · exact hkn
    obtain ⟨old, hmem, rfl⟩ := List.mem_map.1 hold
    refine List.mem_map.2 ⟨_, List.mem_map.2 ⟨old, hmem, rfl⟩, ?_⟩
    split
    · rename_i hsame
      exact hsame.symm
    · rfl
  · rw [List.map_append, List.mem_append]
    rcases h with hold | rfl
    · exact .inl hold
    · exact .inr (by simp)

theorem mem_conflictLines {stdout stderr : String} (h : c ∈ parseBisyncConflicts stdout stderr) :
    c ∈ conflictLines stdout stderr := by
  have hfold : ∀ (lines conflicts : List ParsedConflict), c ∈ lines.foldl setConflict conflicts →
      c ∈ conflicts ∨ c ∈ lines := by
    intro lines
    induction lines with
    | nil => exact fun _ h => .inl h
    | cons line lines ih =>
      intro conflicts hmem
      rcases ih _ hmem with hset | hrest
      · rcases nw_mem_setConflict hset with hold | rfl
        · exact .inl hold
        · exact .inr (.head _)
      · exact .inr (.tail _ hrest)
  rw [parseBisyncConflicts_eq] at h
  rcases hfold _ [] h with hnone | hline
  · cases hnone
  · exact hline

theorem exists_reported {stdout stderr : String} (h : c ∈ conflictLines stdout stderr) :
    ∃ reported ∈ parseBisyncConflicts stdout stderr, reported.path = c.path := by
  have hfold : ∀ (lines conflicts : List ParsedConflict),
      c.path ∈ conflicts.map ParsedConflict.path ∨ c ∈ lines →
        c.path ∈ (lines.foldl setConflict conflicts).map ParsedConflict.path := by
    intro lines
    induction lines with
    | nil =>
      intro conflicts hmem
      rcases hmem with hold | hnone
      · exact hold
      · cases hnone
    | cons line lines ih =>
      intro conflicts hmem
      apply ih
      rcases hmem with hold | hline
      · exact .inl (nw_path_setConflict (.inl hold))
      rcases List.mem_cons.1 hline with rfl | hla
      · exact .inl (nw_path_setConflict (.inr rfl))
      · exact .inr hla
  exact List.mem_map.1 (hfold _ [] (.inr h))

theorem pickConflictAction_newerWins (c : ParsedConflict) (role : String) :
    pickConflictAction .newerWins c.localMtime c.remoteMtime role =
      match newerSide .remote c with
      | none => .keepBoth
      | some .remote => .localWins
      | some .local => .remoteWins := by
  unfold pickConflictAction newerSide
  cases c.localMtime with
  | none => rfl
  | some time1 =>
    cases c.remoteMtime with
    | none => rfl
    | some time2 =>
      dsimp only
      by_cases hpath1 : time2 < time1
      · rw [if_pos hpath1, if_pos hpath1]
      rw [if_neg hpath1, if_neg hpath1]
      by_cases hpath2 : time1 < time2
      · rw [if_pos hpath2, if_pos hpath2]
        rfl
      · rw [if_neg hpath2, if_neg hpath2]

def KeepsVersions (before after : SideFiles) : Prop :=
  (∀ name content, before.localFiles.lookup name = some content →
    ∃ name', after.localFiles.lookup name' = some content) ∧ after.remoteFiles = before.remoteFiles

theorem KeepsVersions.refl (files : SideFiles) : KeepsVersions files files := ⟨fun name _ h => ⟨name, h⟩, rfl⟩

theorem KeepsVersions.trans {a b c : SideFiles} (h : KeepsVersions a b) (h' : KeepsVersions b c) : KeepsVersions a c := by
  refine ⟨?_, h'.2.trans h.2⟩
  intro name content hname
  obtain ⟨name', hname'⟩ := h.1 name content hname
  exact h'.1 name' content hname'

section Keeps

variable {day role path : String} {copied : String → Bool} {env : Surroundings} {conflicts : List ParsedConflict}
  {files : SideFiles}

theorem keepLocalConflictCopy_keeps (files : SideFiles) (day path : String) :
    KeepsVersions files (files.keepLocalConflictCopy day path) ∧
      (files.keepLocalConflictCopy day path).localFiles.lookup path = none := by
  unfold SideFiles.keepLocalConflictCopy
  cases hpath : files.localFiles.lookup path with
  | none => exact ⟨.refl files, hpath⟩
  | some content =>
    dsimp only
    have hfree := freeName_notMem files.localFiles (path ++ ".conflict-" ++ day)
    generalize freeName files.localFiles (path ++ ".conflict-" ++ day) = target at hfree
    have htk : path ∈ files.localFiles := AList.lookup_isSome.1 (by rw [hpath]; rfl)
    have hne : path ≠ target := fun heq => hfree (heq ▸ htk)
    refine ⟨⟨?_, rfl⟩, ?_⟩
    · intro name content' hname
      by_cases hself : name = path
      · subst hself
        rw [hpath] at hname
        exact ⟨target, by rw [AList.lookup_insert]; exact hname⟩
      have ho : name ≠ target := by
        rintro rfl
        exact hfree (AList.lookup_isSome.1 (by rw [hname]; rfl))
      exact ⟨name, by rw [AList.lookup_insert_ne ho, AList.lookup_erase_ne hself]; exact hname⟩
    · rw [AList.lookup_insert_ne hne, AList.lookup_erase]

theorem copyto_remote_keeps (hfree : files.localFiles.lookup path = none) :
    KeepsVersions files (files.copyto .remote path) := by
  unfold SideFiles.copyto
  cases (files.onSide .remote).lookup path with
  | none => exact .refl files
  | some version =>
    refine ⟨?_, rfl⟩
    intro name content hname
    have hne : name ≠ path := by
      rintro rfl
      rw [hfree] at hname
      cases hname
    exact ⟨name, by rw [AList.lookup_insert_ne hne]; exact hname⟩

private theorem nw_copied_keeps (day : String) (copied : String → Bool) (hfree : files.localFiles.lookup path = none) :
    KeepsVersions files (files.step day copied (.copyto .remote path)) := by
  unfold SideFiles.step
  dsimp only
  split
  · exact copyto_remote_keeps hfree
  · exact .refl files

theorem newerWinsLog_concat (c : ParsedConflict) : newerWinsLog role (conflicts ++ [c]) env =
    newerWinsLog role conflicts env ++ conflictSteps .newerWins role env.automaticEnd (c, conflicts.length) := by
  unfold newerWinsLog
  rw [applyAutomaticConflicts_log, applyAutomaticConflicts_log, List.zipIdx_append, List.flatMap_append]
  simp

theorem filesAfter_concat (c : ParsedConflict) : filesAfter day role copied (conflicts ++ [c]) env files =
    Trace.run (fun files e => files.step day copied e) (filesAfter day role copied conflicts env files)
      (conflictSteps .newerWins role env.automaticEnd (c, conflicts.length)) := by
  unfold filesAfter
  rw [newerWinsLog_concat, Trace.run_append]

private theorem nw_sees_init {c : ParsedConflict} (h : Sees day role copied (conflicts ++ [c]) env files) :
    Sees day role copied conflicts env files ∧ (env.automaticEnd conflicts.length).localExists =
      ((filesAfter day role copied conflicts env files).localFiles.lookup c.path).isSome := by
  have hearl {i : Nat} {c' : ParsedConflict} (hi : conflicts[i]? = some c') :
      (conflicts ++ [c])[i]? = some c' ∧ (conflicts ++ [c]).take i = conflicts.take i := by
    have hlt : i < conflicts.length := (List.getElem?_eq_some_iff.1 hi).1
    exact ⟨by rw [List.getElem?_append_left hlt, hi], List.take_append_of_le_length hlt.le⟩
  refine ⟨⟨fun i c' hi => h.copies i c' (hearl hi).1, ?_⟩, ?_⟩
  · intro i c' hi
    rw [← (hearl hi).2]
    exact h.exists_iff i c' (hearl hi).1
  · have hlast := h.exists_iff conflicts.length c List.getElem?_concat_length
    rwa [List.take_left] at hlast

/-- A conflict without a newer version keeps both: a local file is set aside before the remote one is copied. -/
private theorem nw_conflict_keeps {c : ParsedConflict} {n : Nat} (heq : newerSide .remote c = none)
    (hlo : (env.automaticEnd n).localExists = (files.localFiles.lookup c.path).isSome) :
    KeepsVersions files (Trace.run (fun files e => files.step day copied e) files
      (conflictSteps .newerWins role env.automaticEnd (c, n))) := by
  unfold conflictSteps treatmentSteps
  rw [pickConflictAction_newerWins, heq]
  dsimp only
  rw [hlo]
  cases hpath : files.localFiles.lookup c.path with
  | none => exact nw_copied_keeps day copied hpath
  | some content =>
    rw [if_pos (Option.isSome_some)]
    cases (env.automaticEnd n).moved with
    | false => exact .refl files
    | true =>
      obtain ⟨hasi, hfree⟩ := keepLocalConflictCopy_keeps files day c.path
      exact hasi.trans (nw_copied_keeps day copied hfree)

theorem filesAfter_keeps (hsees : Sees day role copied conflicts env files)
    (heq : ∀ c ∈ conflicts, newerSide .remote c = none) :
    KeepsVersions files (filesAfter day role copied conflicts env files) := by
  induction conflicts using List.reverseRecOn with
  | nil => exact .refl files
  | append_singleton conflicts c ih =>
    obtain ⟨hinit, hlo⟩ := nw_sees_init hsees
    have hbef : KeepsVersions files (filesAfter day role copied conflicts env files) :=
      ih hinit fun c' hc' => heq c' (List.mem_append_left _ hc')
    rw [filesAfter_concat]
    exact hbef.trans (nw_conflict_keeps (heq c (by simp)) hlo)

end Keeps

private theorem nw_treats {action : ConflictAction} {path : String} {ended : ConflictEnd} {e : ExecutorEvent}
    (h : e ∈ treatmentSteps action path ended) (path' : String) : e.treats path' = decide (path = path') := by
  have hev : (∃ source, e = .copyto source path) ∨ e = .keepLocalConflictCopy path := by
    unfold treatmentSteps at h
    cases action with
    | localWins | remoteWins => exact .inl ⟨_, List.mem_singleton.1 h⟩
    | keepBoth =>
      dsimp only at h
      split at h
      · split at h
        · rcases List.mem_cons.1 h with hkeep | hcopy
          · exact .inr hkeep
          · exact .inl ⟨_, List.mem_singleton.1 hcopy⟩
        · cases h
      · exact .inl ⟨_, List.mem_singleton.1 h⟩
  rcases hev with ⟨source, rfl⟩ | rfl
  · rfl
  · rfl

private theorem nw_filter_self (action : ConflictAction) (path : String) (ended : ConflictEnd) :
    (treatmentSteps action path ended).filter (fun e => e.treats path) = treatmentSteps action path ended := by
  rw [List.filter_eq_self]
  intro e he
  rw [nw_treats he]
  exact decide_eq_true rfl

private theorem nw_filter_other {path path' : String} (hne : path ≠ path') (action : ConflictAction)
    (ended : ConflictEnd) : (treatmentSteps action path ended).filter (fun e => e.treats path') = [] := by
  rw [List.filter_eq_nil_iff]
  intro e he
  rw [nw_treats he, decide_eq_true_iff]
  exact hne

section Treated

variable {strategy : ConflictStrategy} {role path : String} {ends : Nat → ConflictEnd}

theorem conflictSteps_untreated {conflicts : List ParsedConflict} (n : Nat)
    (h : path ∉ conflicts.map ParsedConflict.path) :
    ((conflicts.zipIdx n).flatMap (conflictSteps strategy role ends)).filter (fun e => e.treats path) = [] := by
  induction conflicts generalizing n with
  | nil => rfl
  | cons c rest ih =>
    rw [List.map_cons, List.mem_cons, not_or] at h
    have hne : c.path ≠ path := fun heq => h.1 heq.symm
    rw [List.zipIdx_cons, List.flatMap_cons, List.filter_append, ih _ h.2, List.append_nil]
    exact nw_filter_other hne _ _

private theorem nw_treated {conflicts : List ParsedConflict} {c : ParsedConflict} (n : Nat)
    (hnd : (conflicts.map ParsedConflict.path).Nodup) (hc : c ∈ conflicts) :
    ∃ i, ((conflicts.zipIdx n).flatMap (conflictSteps strategy role ends)).filter (fun e => e.treats c.path) =
      treatmentSteps (pickConflictAction strategy c.localMtime c.remoteMtime role) c.path (ends i) := by
  induction conflicts generalizing n with
  | nil => cases hc
  | cons c' rest ih =>
    rw [List.map_cons, List.nodup_cons] at hnd
    rw [List.zipIdx_cons, List.flatMap_cons, List.filter_append]
    rcases List.mem_cons.1 hc with rfl | hrest
    · refine ⟨n, ?_⟩
      rw [conflictSteps_untreated _ hnd.1, List.append_nil]
      exact nw_filter_self _ _ _
    obtain ⟨i, hi⟩ := ih (n + 1) hnd.2 hrest
    have hne : c'.path ≠ c.path := by
      intro heq
      exact hnd.1 (heq ▸ List.mem_map_of_mem hrest)
    refine ⟨i, ?_⟩
    rw [hi]
    have ho : (conflictSteps strategy role ends (c', n)).filter (fun e => e.treats c.path) = [] :=
      nw_filter_other hne _ _
    rw [ho, List.nil_append]

end Treated

private theorem nw_exists_directory (names : List String) : ∃ d : Directory, ∀ name ∈ names, name ∈ d := by
  induction names with
  | nil => exact ⟨∅, fun _ h => nomatch h⟩
  | cons name rest ih =>
    obtain ⟨d, hd⟩ := ih
    refine ⟨d.insert name [], ?_⟩
    intro name' hname'
    rw [AList.mem_insert]
    rcases List.mem_cons.1 hname' with rfl | hrest
    · exact .inl rfl
    · exact .inr (hd name' hrest)

private def nw_stuck : Surroundings := { automaticEnd := fun _ => { moved := false, copied := false } }

/-- Nothing can be moved or copied, so the files stay. -/
private theorem nw_sees_stuck {day role : String} {conflicts : List ParsedConflict} {files : SideFiles}
    (hth : ∀ c ∈ conflicts, c.path ∈ files.localFiles) :
    Sees day role (fun _ => false) conflicts nw_stuck files := by
  have hsy : ∀ conflicts : List ParsedConflict,
      filesAfter day role (fun _ => false) conflicts nw_stuck files = files := by
    intro conflicts
    induction conflicts using List.reverseRecOn with
    | nil => rfl
    | append_singleton conflicts c ih =>
      rw [filesAfter_concat, ih]
      unfold conflictSteps
      cases pickConflictAction .newerWins c.localMtime c.remoteMtime role with
      | localWins | remoteWins | keepBoth => rfl
  refine ⟨fun _ _ _ => rfl, ?_⟩
  intro i c hi
  rw [hsy, AList.lookup_isSome.2 (hth c (List.mem_of_getElem? hi))]
  rfl

private theorem nw_broken {stdout stderr role : String} {c : ParsedConflict} (hc : c ∈ conflictLines stdout stderr)
    (hne : newerSide .remote c ≠ none) : ¬ KeepsNewer .remote stdout stderr role := by
  intro hkept
  obtain ⟨reported, hrep, hpath⟩ := exists_reported hc
  obtain ⟨d, hd⟩ := nw_exists_directory ((parseBisyncConflicts stdout stderr).map ParsedConflict.path)
  have hl := hkept "20260101" _ nw_stuck ⟨d, d⟩ (nw_sees_stuck fun c' hc' => hd c'.path (List.mem_map_of_mem hc'))
  have hdone : (newerWinsLog role (parseBisyncConflicts stdout stderr) nw_stuck).filter (fun e => e.treats reported.path) =
      treatmentSteps (pickConflictAction .newerWins reported.localMtime reported.remoteMtime role) reported.path
        (nw_stuck.automaticEnd 0) := by
    unfold newerWinsLog
    rw [applyAutomaticConflicts_log]
    obtain ⟨_, htr⟩ := nw_treated 0 (parseBisyncConflicts_nodup stdout stderr) hrep
    exact htr
  rw [pickConflictAction_newerWins] at hdone
  cases hside : newerSide .remote reported with
  | some newer =>
    have hthis := hl reported (mem_conflictLines hrep)
    unfold LineKept at hthis
    rw [hside] at hthis hdone
    dsimp only at hthis hdone
    rw [hthis] at hdone
    cases newer with
    | «local» | remote => cases hdone
  | none =>
    obtain ⟨newer, hnew⟩ := Option.ne_none_iff_exists'.1 hne
    have hthis := hl c hc
    unfold LineKept at hthis
    rw [hnew] at hthis
    rw [hside] at hdone
    dsimp only at hthis hdone
    rw [hpath, hthis] at hdone
    cases hdone

/-- The strategy keeps the promise of every line of a run's output exactly when no line has two different times. -/
theorem newer_wins_keeps_newer_iff {sha256 : String → String} {opts : ExecuteOptions} {env : Surroundings} {host : Host}
    {command : List Arg} {filter : Option String} {files : List ListingFile} (hsync : opts.folder.type = .sync)
    (hrun : .rclone command filter files ∈ (executeAssignment sha256 opts env).log Host.step host)
    (stdout stderr role : String) :
    KeepsNewer (path1Side opts.assignment.localPath command) stdout stderr role ↔
      ∀ c ∈ conflictLines stdout stderr, newerSide (path1Side opts.assignment.localPath command) c = none := by
  have hpath1 : path1Side opts.assignment.localPath command = .remote := by
    rcases (sync_launches_paths hsync).mem_log _ hrun with hnone | ⟨_, _, _, ⟨remote, options, rfl⟩, hla⟩
    · cases hnone
    · cases hla
      exact if_pos rfl
  rw [hpath1]
  constructor
  · intro hkept c hc
    by_contra hne
    exact nw_broken hc hne hkept
  intro heq day copied env files hsees c hc
  have hkp : KeepsVersions files
      (filesAfter day role copied (parseBisyncConflicts stdout stderr) env files) :=
    filesAfter_keeps hsees fun c' hc' => heq c' (mem_conflictLines hc')
  unfold LineKept
  rw [heq c hc]
  exact ⟨fun content hcont => hkp.1 _ content hcont, by rw [hkp.2]⟩

/-- A sync folder with the strategy and without filters. -/
def newerWinsOptions : ExecuteOptions where
  assignment := { id := "a", folderId := "f", hostId := "h", localPath := "/home/docs", conflictStrategy := some .newerWins }
  folder := { id := "f", name := "docs", type := .sync }
  hostId := "h"

def newerWinsCommand : List Arg := [
  .word "bisync", .value "lamasync-f:docs", .value "/home/docs", .word "--config", .value "rclone.conf",
  .word "--use-json-log", .word "-v", .word "--workdir", .value "/home/.local/share/lamasync/bisync/f",
  .word "--resilient", .word "--recover", .word "--max-lock", .word "10m", .word "--resync", .word "--resync-mode",
  .word "path1"]

theorem newer_wins_keeps_newer_equal : KeepsNewer .remote "CONFLICT  a.txt  (path1 mtime=7 path2 mtime=7)" "" "both" := by
  have hrun : .rclone newerWinsCommand none [] ∈ (executeAssignment id newerWinsOptions
      { rclone := fun _ => some { result := .exited 0 "CONFLICT  a.txt  (path1 mtime=7 path2 mtime=7)" } }).log
        Host.step {} := by
    decide +kernel
  exact (newer_wins_keeps_newer_iff rfl hrun _ _ _).2 (by decide +kernel)

/-- A local and a remote version of one file, the remote one newer by its conflict line. -/
def staleFiles : SideFiles := ⟨(∅ : Directory).insert "a.txt" [0], (∅ : Directory).insert "a.txt" [1]⟩

/-- The remote version of the later time is replaced by the local version of the earlier one. -/
theorem older_version_wins :
    let line := "CONFLICT  a.txt  (path1 mtime=12 path2 mtime=7)"
    path1Side "/home/docs" newerWinsCommand = .remote ∧
      (parseBisyncConflicts line "").map (newerSide .remote) = [some .remote] ∧
      (filesAfter "20260101" "both" (fun _ => true) (parseBisyncConflicts line "") {} staleFiles).remoteFiles.lookup
        "a.txt" = some [0] ∧
      ¬ KeepsNewer .remote line "" "both" := by
  dsimp only
  refine ⟨by decide +kernel, by decide +kernel, by decide +kernel, ?_⟩
  intro hkept
  have hsees : Sees "20260101" "both" (fun _ => true)
      (parseBisyncConflicts "CONFLICT  a.txt  (path1 mtime=12 path2 mtime=7)" "") {} staleFiles := by
    have hpar : parseBisyncConflicts "CONFLICT  a.txt  (path1 mtime=12 path2 mtime=7)" "" =
        [⟨"a.txt", some 12, some 7⟩] := by
      decide +kernel
    rw [hpar]
    refine ⟨fun _ _ _ => rfl, ?_⟩
    intro i c hi
    obtain ⟨rfl, rfl⟩ : i = 0 ∧ c = ⟨"a.txt", some 12, some 7⟩ := by
      cases i with
      | zero => exact ⟨rfl, (Option.some.inj hi).symm⟩
      | succ i => cases hi
    decide +kernel
  have hline := hkept "20260101" _ {} staleFiles hsees ⟨"a.txt", some 12, some 7⟩ (by decide +kernel)
  have hevs : newerWinsLog "both" (parseBisyncConflicts "CONFLICT  a.txt  (path1 mtime=12 path2 mtime=7)" "") {} =
      [.copyto .local "a.txt"] := by
    decide +kernel
  rw [hevs] at hline
  have hwr : [ExecutorEvent.copyto .local "a.txt"] = [.copyto .remote "a.txt"] := hline
  cases hwr

end LamaSync
