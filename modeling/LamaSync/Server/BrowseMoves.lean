import LamaSync.Lib.Relocation
import LamaSync.Server.BrowseJobs

/-!
# Moves of the Data Browser

A move copies each entry with `rclone copyto`, checking the paths of an entry when its turn comes, and removes the sources
when every entry has been copied: with `rmSync` in the backup root, with `rclone delete` in a bucket.

Before a move starts, its paths are compared as they are spelled, and only with the directory that it moves to.  An entry
is lost when its target lies in the source of an entry that is moved, and this can be so although the comparison finds
nothing: the target may be above the source, one of the paths may have a `.` segment, or two folders may have one bucket.
-/

namespace LamaSync

open Relocation

abbrev BrowseFiles := Files BrowseStore String String

abbrev BrowseTool := Tool BrowseStore String String

def Place.path (p : Place) : Path BrowseStore String := ⟨p.store, p.segments⟩

structure BrowseMoveJob where
  src : BrowseRef
  dst : BrowseRef
  names : List String
  srcStore : BrowseStore
  dstStore : BrowseStore

namespace BrowseMoveJob

variable (job : BrowseMoveJob)

def source (name : String) : Place := entryPlace job.srcStore job.src name

def target (name : String) : Place := entryPlace job.dstStore job.dst name

def runCopy (tool : BrowseTool) (files : BrowseFiles) : BrowseFiles × Bool :=
  copyAll tool (BrowseRequest.isSafeCopy job.src job.dst) (fun name => (job.source name).path)
    (fun name => (job.target name).path) files job.names

def deleteSource (tool : BrowseTool) (files : BrowseFiles) : BrowseFiles × Bool :=
  removeAll tool (fun name => (job.source name).path) files job.names

def run (tool : BrowseTool) (files : BrowseFiles) : BrowseFiles × Bool :=
  let copied := job.runCopy tool files
  if copied.2 then job.deleteSource tool copied.1 else copied

/-- Every entry is complete at the source, or complete at the destination. -/
def KeepsFiles (before after : BrowseFiles) : Prop :=
  Kept (fun name => (job.source name).path) (fun name => (job.target name).path) job.names before after

/-- No entry is moved to a place inside or above the source of an entry, and names whose targets lie one in the other have
sources that do so in the same way. -/
structure TargetsApart : Prop where
  meets : ∀ name ∈ job.names, ∀ other ∈ job.names, ¬ (job.target name).Meets (job.source other)
  distinct : ∀ name ∈ job.names, ∀ other ∈ job.names, ∀ rel,
    (job.target other).segments = (job.target name).segments ++ rel →
      (job.source other).segments = (job.source name).segments ++ rel

end BrowseMoveJob

def startBrowseMove (folders : S3Folders) (src dst : BrowseRef) (names : List String) : Option BrowseMoveJob :=
  if (BrowseRequest.move src dst names).throws then none
  else
    match (BrowseRequest.move src dst names).stores folders with
    | .error _ => none
    | .ok (srcStore, dstStore) => some ⟨src, dst, names, srcStore, dstStore⟩

variable {job : BrowseMoveJob}

/-- All entries of a job are in the store of their side. -/
theorem BrowseMoveJob.apart_iff :
    Apart (fun name => (job.source name).path) (fun name => (job.target name).path) job.names ↔ job.TargetsApart := by
  constructor
  · rintro ⟨hme, hdist⟩
    refine ⟨hme, fun name hname other ho rel hrel => ?_⟩
    have hpath : (job.target other).path = (job.target name).path.under rel := by
      simp only [Place.path, Path.under, hrel]
      rfl
    exact congrArg Path.segments (hdist name hname other ho rel hpath)
  · rintro ⟨hme, hdist⟩
    refine ⟨hme, fun name hname other ho rel hrel => ?_⟩
    have hsegs := hdist name hname other ho rel (congrArg Path.segments hrel)
    simp only [Place.path, Path.under, hsegs]
    rfl

instance infinite_string : Infinite String := Infinite.of_injective (fun n => String.ofList (List.replicate n 'x')) fun m n h => by
  simpa using congrArg (fun s : String => s.toList.length) h

/-- A job whose targets are apart from its sources keeps every file, whatever fails; and a job whose names are all safe
keeps every file in no other case. -/
theorem moves_keep_files (job : BrowseMoveJob) :
    (job.TargetsApart → ∀ tool files, job.KeepsFiles files (job.run tool files).1) ∧
    (job.names.all (BrowseRequest.isSafeCopy job.src job.dst) = true →
      (∀ tool files, job.KeepsFiles files (job.run tool files).1) → job.TargetsApart) := by
  constructor
  · exact fun hap tool files => relocate_kept (BrowseMoveJob.apart_iff.2 hap) tool _ files
  intro hsafe hkp
  rw [List.all_eq_true] at hsafe
  exact BrowseMoveJob.apart_iff.1 (apart_of_kept hsafe fun files => hkp (exactTool _ _ _) files)

/-- The directory `a` of the directory `a` is moved up, and has a directory `a` itself. -/
def moveUp : BrowseMoveJob where
  src := ⟨.local_, none, "a"⟩
  dst := ⟨.local_, none, ""⟩
  names := ["a"]
  srcStore := .backupRoot
  dstStore := .backupRoot

def nestedFile : BrowseFiles := fun x => if x = ⟨.backupRoot, ["a", "a", "a", "notes"]⟩ then some "text" else none

/-- The move is accepted, no call of rclone fails, and the file is gone. -/
theorem move_up_loses_file :
    startBrowseMove (fun _ => .error "") ⟨.local_, none, "a"⟩ ⟨.local_, none, ""⟩ ["a"] = some moveUp ∧
    ¬ moveUp.KeepsFiles nestedFile (moveUp.run (exactTool _ _ _) nestedFile).1 := by
  refine ⟨rfl, fun hkp => ?_⟩
  have hgone : ∀ rel, (moveUp.run (exactTool _ _ _) nestedFile).1 ((moveUp.source "a").path.under rel) = none :=
    exact_relocate nestedFile (fun name => (moveUp.source name).path) (fun name => (moveUp.target name).path) (by decide)
      (List.mem_singleton_self "a")
  have hfile : IsFile nestedFile (moveUp.source "a").path ["a", "notes"] := by decide
  rcases hkp "a" (.head _) with hsrc | htgt
  · have hcopy := (hgone ["a", "notes"]).symm.trans (hsrc _ hfile)
    exact absurd hcopy (by decide)
  -- the copy lies in the source
  have hcopy := (hgone ["notes"]).symm.trans (htgt _ hfile)
  exact absurd hcopy (by decide)

end LamaSync
