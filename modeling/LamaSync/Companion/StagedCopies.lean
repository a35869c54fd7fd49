import LamaSync.Companion.UploadQueue
import LamaSync.Lib.Directory
import LamaSync.Lib.Trace

/-!
# Staged copies

A file is staged under a name made of the time and of its URI, and the item that refers to it is added to the queue
afterwards.  The worker's cleanup reads the queue, lists the directory and deletes what no item of the queue refers to.
A staging that is under way meanwhile, or whose item was added after the queue was read, loses its file
(`staged_copies_survive`).
-/

namespace LamaSync

open Rows Trace UploadQueueStore

def takeLast (n : Nat) (text : List Char) : List Char := text.drop (text.length - n)

def isSafeChar (c : Char) : Bool := c.isAlphanum || c == '.' || c == '_' || c == '-'

def targetName (lastPathSegment : Option String) : String :=
  let last := (lastPathSegment.map fun segment => takeLast 80 segment.toList).getD "file".toList
  let safe := takeLast 60 (last.map fun c => if isSafeChar c then c else '_')
  if safe.isEmpty then "file" else String.ofList safe

def stagedName (nowMillis : Int) (lastPathSegment : Option String) : String :=
  "stage-" ++ toString nowMillis ++ "-" ++ targetName lastPathSegment

/-- A file and what identifies it apart from its name: a file that is deleted and made again is another one. -/
structure StagedFile where
  inode : Nat
  content : Bytes

structure Staging where
  job : Nat
  name : String
  inode : Option Nat
  hashed : Bytes
  ended : Bool

def ItemWrite.deletes : ItemWrite → Bool
  | completed _ | cancelled => true
  | _ => false

structure StagingSystem where
  items : List UploadQueueItem
  files : AList fun _ : String => StagedFile
  inodes : Nat
  stagings : List Staging
  held : Nat → Option UploadQueueItem
  keeps : Nat → Option (List String)
  deletions : Nat → List String
  names : List String

def StagingSystem.new : StagingSystem := ⟨[], ∅, 0, [], fun _ => none, fun _ => none, fun _ => [], []⟩

/-- What can happen.  A number names the job that acts. -/
inductive StagingEvent where
  | starts (job : Nat) (nowMillis : Int) (lastPathSegment : Option String)
  /-- `target.outputStream()`. -/
  | opens (job : Nat)
  | copies (job : Nat) (chunk : Bytes)
  | ends (job : Nat)
  | fails (job : Nat)
  | adds (job : Nat) (item : UploadQueueItem)
  /-- Automatic protection finds an item of the same content. -/
  | drops (job : Nat)
  | loads (job : Nat) (itemId : String)
  | writes (job : Nat) (now : Int) (write : ItemWrite)
  | removes (job : Nat)
  /-- `cleanupTerminalStaging` loads the queue. -/
  | readsQueue (job : Nat)
  | lists (job : Nat)
  | deletes (job : Nat)
  /-- The process dies. -/
  | restart

def UploadQueueItem.stagedAs (sha256 : Bytes → String) (item : UploadQueueItem) (staging : Staging) : UploadQueueItem :=
  { item with
    sizeBytes := some staging.hashed.length
    sha256 := some (sha256 staging.hashed)
    stagedFileName := some staging.name
    staged := true
    serverUploadId := none
    status := .pending }

namespace StagingSystem

variable (sha256 : Bytes → String) (s : StagingSystem)

def staging (job : Nat) : Option Staging := s.stagings.find? fun st => st.job == job

def written : StagingEvent → Option UploadQueueItem
  | .writes job now write => ((s.held job).filter fun item => write.permitted s.items item).map fun item =>
      write.apply now item
  | _ => none

def stepItems (e : StagingEvent) : List UploadQueueItem :=
  match s.written e with
  | some item => UploadQueueStore.update s.items item
  | none =>
    match e with
    | .adds job item => match (s.staging job).filter Staging.ended with
      | some st => add s.items (item.stagedAs sha256 st)
      | none => s.items
    | .removes job => match s.held job with
      | some item =>
        if item.status = .pending ∨ item.status = .uploading ∨ item.status = .waiting then s.items
        else remove s.items item.id
      | none => s.items
    | _ => s.items

def opened (name : String) : StagedFile := ⟨((s.files.lookup name).map StagedFile.inode).getD s.inodes, []⟩

def stepFiles : StagingEvent → AList fun _ : String => StagedFile
  | .opens job => match (s.staging job).filter fun st => !st.inode.isSome with
    | some st => s.files.insert st.name (s.opened st.name)
    | none => s.files
  | .copies job chunk => match (s.staging job).filter fun st => !st.ended with
    | some st => match (s.files.lookup st.name).filter fun file => st.inode == some file.inode with
      | some file => s.files.insert st.name { file with content := writeAt file.content st.hashed.length chunk }
      | none => s.files
    | none => s.files
  | .deletes job => match s.deletions job with
    | name :: _ => s.files.erase name
    | [] => s.files
  | _ => s.files

def stepStagings : StagingEvent → List Staging
  | .starts job now segment =>
    if (s.staging job).isSome then s.stagings else s.stagings ++ [⟨job, stagedName now segment, none, [], false⟩]
  | .opens job => Rows.update s.stagings (fun st => st.job == job && !st.inode.isSome) fun st =>
      { st with inode := some (s.opened st.name).inode }
  | .copies job chunk => Rows.update s.stagings (fun st => st.job == job && st.inode.isSome && !st.ended) fun st =>
      { st with hashed := st.hashed ++ chunk }
  | .ends job => Rows.update s.stagings (fun st => st.job == job && st.inode.isSome) fun st => { st with ended := true }
  | .adds job _ => s.stagings.filter fun st => !(st.job == job && st.ended)
  | .fails job | .drops job => s.stagings.filter fun st => !st.job == job
  | .restart => []
  | _ => s.stagings

def stepHeld : StagingEvent → Nat → Option UploadQueueItem
  | .loads job itemId => Function.update s.held job (find s.items itemId)
  | .writes job now (.renamed name key attempts) =>
    Function.update s.held job ((s.held job).map fun item => item.renamed now name key attempts)
  | .restart => fun _ => none
  | _ => s.held

def keepNames : List String := (s.items.filter fun item => !item.status.isTerminal).filterMap UploadQueueItem.stagedFileName

def stepKeeps : StagingEvent → Nat → Option (List String)
  | .readsQueue job => Function.update s.keeps job (some s.keepNames)
  | .lists job => Function.update s.keeps job none
  | .restart => fun _ => none
  | _ => s.keeps

/-- What a cleanup finds in the directory that it does not keep. -/
def listed : StagingEvent → List String
  | .lists job => match s.keeps job with
    | some names => s.files.keys.filter fun name => name ∉ names
    | none => []
  | _ => []

def toDelete : StagingEvent → List String
  | .fails job => ((s.staging job).map Staging.name).toList
  | .writes job _ write =>
    if write.deletes then (((s.held job).filter fun item => write.permitted s.items item).bind
      UploadQueueItem.stagedFileName).toList
    else []
  | .removes job => (((s.held job).filter fun item =>
      !(item.status = .pending ∨ item.status = .uploading ∨ item.status = .waiting)).bind
      UploadQueueItem.stagedFileName).toList
  | e => s.listed e

end StagingSystem

def StagingEvent.job : StagingEvent → Nat
  | starts job .. | opens job | copies job _ | ends job | fails job | adds job _ | drops job | loads job _ | writes job ..
  | removes job | readsQueue job | lists job | deletes job => job
  | restart => 0

namespace StagingSystem

variable (sha256 : Bytes → String) (s : StagingSystem)

def stepDeletions : StagingEvent → Nat → List String
  | .deletes job => Function.update s.deletions job (s.deletions job).tail
  | .restart => fun _ => []
  | e => Function.update s.deletions e.job (s.deletions e.job ++ s.toDelete e)

def startedName : StagingEvent → Option String
  | .starts job now segment => if (s.staging job).isSome then none else some (stagedName now segment)
  | _ => none

def step (e : StagingEvent) : StagingSystem where
  items := s.stepItems sha256 e
  files := s.stepFiles e
  inodes := s.inodes + 1
  stagings := s.stepStagings e
  held := s.stepHeld e
  keeps := s.stepKeeps e
  deletions := s.stepDeletions e
  names := s.names ++ (s.startedName e).toList

end StagingSystem

def StagedCopiesHold (sha256 : Bytes → String) (s : StagingSystem) : Prop :=
  ∀ it ∈ s.items, it.status.isTerminal = false → ∃ name file, it.stagedFileName = some name ∧
    s.files.lookup name = some file ∧ it.sha256 = some (sha256 file.content)

def StagingSystem.addedId (s : StagingSystem) : StagingEvent → Option String
  | .adds job item => ((s.staging job).filter Staging.ended).map fun _ => item.id
  | _ => none

structure KeepsStaged (s : StagingSystem) (e : StagingEvent) : Prop where
  fresh : ∀ name ∈ s.startedName e, name ∉ s.names
  added : ∀ id ∈ s.addedId e, find s.items id = none
  writes : ∀ item ∈ s.written e, ∀ old ∈ find s.items item.id, refuses old item = false →
    item.stagedFileName = old.stagedFileName ∧ item.sha256 = old.sha256
  cleans : ∀ name ∈ s.listed e, (∀ st ∈ s.stagings, st.name ≠ name) ∧
    ∀ it ∈ s.items, it.stagedFileName = some name → it.status.isTerminal = true

instance (s : StagingSystem) (e : StagingEvent) : Decidable (KeepsStaged s e) :=
  decidable_of_iff
    ((∀ name ∈ s.startedName e, name ∉ s.names) ∧ (∀ id ∈ s.addedId e, find s.items id = none) ∧
      (∀ item ∈ s.written e, ∀ old ∈ find s.items item.id, refuses old item = false →
        item.stagedFileName = old.stagedFileName ∧ item.sha256 = old.sha256) ∧
      ∀ name ∈ s.listed e, (∀ st ∈ s.stagings, st.name ≠ name) ∧
        ∀ it ∈ s.items, it.stagedFileName = some name → it.status.isTerminal = true)
    ⟨fun h => ⟨h.1, h.2.1, h.2.2.1, h.2.2.2⟩, fun h => ⟨h.fresh, h.added, h.writes, h.cleans⟩⟩

def StagingSystem.Doomed (s : StagingSystem) (name : String) : Prop := ∃ job, name ∈ s.deletions job

structure NamesApart (s : StagingSystem) : Prop where
  ids : (s.items.map UploadQueueItem.id).Nodup
  jobs : (s.stagings.map Staging.job).Nodup
  stagings : (s.stagings.map Staging.name).Nodup
  ofItem : ∀ it ∈ s.items, ∀ name, it.stagedFileName = some name → name ∈ s.names
  ofHeld : ∀ job c, s.held job = some c → ∀ name, c.stagedFileName = some name → name ∈ s.names
  ofStaging : ∀ st ∈ s.stagings, st.name ∈ s.names
  ofFile : ∀ name file, s.files.lookup name = some file → name ∈ s.names
  ofDoomed : ∀ name, s.Doomed name → name ∈ s.names
  items : ∀ it ∈ s.items, ∀ it' ∈ s.items, ∀ name, it.stagedFileName = some name → it'.stagedFileName = some name →
    it.id = it'.id
  held : ∀ job c, s.held job = some c → ∀ it ∈ s.items, ∀ name, c.stagedFileName = some name →
    it.stagedFileName = some name → c.id = it.id
  stagingItem : ∀ st ∈ s.stagings, ∀ it ∈ s.items, it.stagedFileName ≠ some st.name
  stagingHeld : ∀ st ∈ s.stagings, ∀ job c, s.held job = some c → c.stagedFileName ≠ some st.name

structure StagedInv (sha256 : Bytes → String) (s : StagingSystem) : Prop where
  apart : NamesApart s
  doomedItem : ∀ name, s.Doomed name → ∀ it ∈ s.items, it.stagedFileName = some name → it.status.isTerminal = true
  doomedStaging : ∀ name, s.Doomed name → ∀ st ∈ s.stagings, st.name ≠ name
  unopened : ∀ st ∈ s.stagings, st.inode = none → s.files.lookup st.name = none ∧ st.hashed = [] ∧ st.ended = false
  streamed : ∀ st ∈ s.stagings, ∀ inode, st.inode = some inode → s.files.lookup st.name = some ⟨inode, st.hashed⟩
  survives : StagedCopiesHold sha256 s

section Steps

variable {sha256 : Bytes → String} {s : StagingSystem} {e : StagingEvent}

theorem ItemWrite.isTerminal_of_deletes {w : ItemWrite} (h : w.deletes = true) (now : Int) (c : UploadQueueItem) :
    (w.apply now c).status.isTerminal = true := by
  cases w <;> first | rfl | cases h

variable {item it : UploadQueueItem} {job : Nat} {st : Staging} {name : String}

private theorem sc_refuses {old : UploadQueueItem} :
    (refuses old item = true → old.status.isTerminal = true) ∧
      (refuses old item = false → old.status.isTerminal = true → item.status.isTerminal = true) := by
  unfold refuses UploadStatus.isTerminal
  cases old.status <;> cases item.status <;> simp

private theorem sc_staging (h : s.staging job = some st) : st ∈ s.stagings ∧ st.job = job :=
  find_some h

private theorem sc_busy (hst : st ∈ s.stagings) : (s.staging st.job).isSome = true :=
  List.find?_isSome.2 ⟨st, hst, beq_self_eq_true _⟩

private theorem sc_find (hap : NamesApart s) (hst : st ∈ s.stagings) : s.staging st.job = some st :=
  find_unique hap.jobs hst

private theorem sc_items (hids : (s.items.map UploadQueueItem.id).Nodup) (hgood : KeepsStaged s e)
    (h : it ∈ s.stepItems sha256 e) :
    (it ∈ s.items ∧ ∀ item, s.written e = some item → it.id = item.id → it.status.isTerminal = true) ∨
    (s.written e = some it ∧ ∃ old ∈ s.items, old.id = it.id ∧ it.stagedFileName = old.stagedFileName ∧
      it.sha256 = old.sha256 ∧ (old.status.isTerminal = true → it.status.isTerminal = true)) ∨
    ∃ job item st, e = .adds job item ∧ st ∈ s.stagings ∧ st.job = job ∧ st.ended = true ∧
      it = item.stagedAs sha256 st := by
  unfold StagingSystem.stepItems at h
  cases hwr : s.written e with
  | some item =>
    rw [hwr] at h
    rcases mem_store_update h with ⟨hmem, href⟩ | ⟨rfl, hok, old, hold, hid⟩
    · refine .inl ⟨hmem, ?_⟩
      rintro _ ⟨⟩ hid
      obtain ⟨old, hfind, hre⟩ := (Option.any_eq_true _ _).1 (href hid)
      have hsame : old = it := by
        rw [← hid, find_of_mem hids hmem] at hfind
        exact (Option.some.inj hfind).symm
      exact hsame ▸ sc_refuses.1 hre
    · refine .inr (.inl ⟨rfl, old, hold, hid, ?_⟩)
      have hfind : find s.items it.id = some old := hid ▸ find_of_mem hids hold
      have hacc : refuses old it = false := by simpa [hfind] using hok
      obtain ⟨hname, hsha⟩ := hgood.writes it hwr old hfind hacc
      exact ⟨hname, hsha, sc_refuses.2 hacc⟩
  | none =>
    rw [hwr] at h
    have hsy : it ∈ s.items → (it ∈ s.items ∧ ∀ item, (none : Option UploadQueueItem) = some item →
        it.id = item.id → it.status.isTerminal = true) := fun hmem => ⟨hmem, fun _ hno => by cases hno⟩
    cases e with
    | adds job item =>
      simp only at h
      split at h
      · rename_i st hst
        obtain ⟨hst, hnd⟩ := Option.filter_eq_some_iff.1 hst
        obtain ⟨hmem, hjob⟩ := sc_staging hst
        rcases List.mem_cons.1 h with rfl | hold
        · exact .inr (.inr ⟨job, item, st, rfl, hmem, hjob, hnd, rfl⟩)
        · exact .inl (hsy hold)
      · exact .inl (hsy h)
    | removes job =>
      simp only at h
      split at h
      · split at h
        · exact .inl (hsy h)
        · exact .inl (hsy (List.mem_of_mem_filter h))
      · exact .inl (hsy h)
    | _ => exact .inl (hsy h)

private theorem sc_held {c : UploadQueueItem} (h : s.stepHeld e job = some c) :
    (∃ c₀, s.held job = some c₀ ∧ c₀.id = c.id ∧ c₀.stagedFileName = c.stagedFileName) ∨
      c ∈ s.items ∧ ∃ itemId, e = .loads job itemId := by
  have hsame : s.held job = some c → ∃ c₀, s.held job = some c₀ ∧ c₀.id = c.id ∧ c₀.stagedFileName = c.stagedFileName :=
    fun h => ⟨c, h, rfl, rfl⟩
  cases e with
  | loads j itemId =>
    simp only [StagingSystem.stepHeld, Function.update_apply] at h
    split at h
    · rename_i hjob
      subst hjob
      exact .inr ⟨(mem_of_find h).1, itemId, rfl⟩
    · exact .inl (hsame h)
  | restart => cases h
  | writes j now write =>
    cases write with
    | renamed name key attempts =>
      simp only [StagingSystem.stepHeld, Function.update_apply] at h
      split at h
      · rename_i hjob
        subst hjob
        obtain ⟨c₀, hc₀, rfl⟩ := Option.map_eq_some_iff.1 h
        exact .inl ⟨c₀, hc₀, rfl, rfl⟩
      · exact .inl (hsame h)
    | _ => exact .inl (hsame h)
  | _ => exact .inl (hsame h)

private theorem sc_stagings (h : st ∈ s.stepStagings e) :
    (∃ st₀ ∈ s.stagings, st₀.name = st.name ∧ st₀.job = st.job) ∨
      s.startedName e = some st.name ∧ st.inode = none ∧ st.hashed = [] ∧ st.ended = false ∧
        s.staging st.job = none := by
  have hsame : st ∈ s.stagings → ∃ st₀ ∈ s.stagings, st₀.name = st.name ∧ st₀.job = st.job := fun h => ⟨st, h, rfl, rfl⟩
  have hup : ∀ {guard : Staging → Bool} {set : Staging → Staging}, st ∈ Rows.update s.stagings guard set →
      (∀ st, (set st).name = st.name) → (∀ st, (set st).job = st.job) →
      ∃ st₀ ∈ s.stagings, st₀.name = st.name ∧ st₀.job = st.job := by
    intro guard set hmem hname hjob
    obtain ⟨st₀, hst₀, rfl⟩ := mem_update.1 hmem
    refine ⟨st₀, hst₀, ?_⟩
    split
    · exact ⟨(hname st₀).symm, (hjob st₀).symm⟩
    · exact ⟨rfl, rfl⟩
  cases e with
  | starts job now segment =>
    simp only [StagingSystem.stepStagings] at h
    split at h
    · exact .inl (hsame h)
    rename_i hfree
    rcases List.mem_append.1 h with h | h
    · exact .inl (hsame h)
    · obtain rfl := List.mem_singleton.1 h
      exact .inr ⟨if_neg hfree, rfl, rfl, rfl, by simpa using hfree⟩
  | opens job | copies job chunk | ends job => exact .inl (hup h (fun _ => rfl) (fun _ => rfl))
  | adds job item | fails job | drops job => exact .inl (hsame (List.mem_of_mem_filter h))
  | restart => cases h
  | _ => exact .inl (hsame h)

private theorem sc_apart (hap : NamesApart s) (hgood : KeepsStaged s e) :
    ((s.stepStagings e).map Staging.job).Nodup ∧ ((s.stepStagings e).map Staging.name).Nodup := by
  have hfilt : ∀ keep : Staging → Bool, ((s.stagings.filter keep).map Staging.job).Nodup ∧
      ((s.stagings.filter keep).map Staging.name).Nodup := fun keep =>
    ⟨hap.jobs.sublist ((List.filter_sublist).map _), hap.stagings.sublist ((List.filter_sublist).map _)⟩
  cases e with
  | starts job now segment =>
    simp only [StagingSystem.stepStagings]
    split
    · exact ⟨hap.jobs, hap.stagings⟩
    rename_i hfree
    refine ⟨nodup_concat hap.jobs fun st hst hjob => hfree ?_, nodup_concat hap.stagings fun st hst hname => ?_⟩
    · have hjob : st.job = job := hjob
      exact hjob ▸ sc_busy hst
    · have hname : st.name = stagedName now segment := hname
      exact hgood.fresh (stagedName now segment) (if_neg hfree) (hname ▸ hap.ofStaging st hst)
  | opens job | copies job chunk | ends job => exact ⟨nodup_update (fun _ => rfl) hap.jobs, nodup_update (fun _ => rfl) hap.stagings⟩
  | adds job item | fails job | drops job => exact hfilt _
  | restart => exact ⟨List.nodup_nil, List.nodup_nil⟩
  | _ => exact ⟨hap.jobs, hap.stagings⟩

private theorem sc_files (hsta : ∀ st ∈ s.stagings, st.name ≠ name) (hkept : ¬s.Doomed name) :
    (s.stepFiles e).lookup name = s.files.lookup name := by
  cases e with
  | opens job =>
    simp only [StagingSystem.stepFiles]
    split
    · rename_i st hst
      have hmem := (sc_staging (Option.filter_eq_some_iff.1 hst).1).1
      exact AList.lookup_insert_ne (hsta st hmem).symm
    · rfl
  | copies job chunk =>
    simp only [StagingSystem.stepFiles]
    split
    · rename_i st hst
      have hmem := (sc_staging (Option.filter_eq_some_iff.1 hst).1).1
      split
      · exact AList.lookup_insert_ne (hsta st hmem).symm
      · rfl
    · rfl
  | deletes job =>
    simp only [StagingSystem.stepFiles]
    split
    · rename_i first rest hlist
      refine AList.lookup_erase_ne fun heq => hkept ⟨job, ?_⟩
      simp [hlist, heq]
    · rfl
  | _ => rfl

private theorem sc_named (hap : NamesApart s) {file : StagedFile}
    (h : (s.stepFiles e).lookup name = some file) : name ∈ s.names := by
  by_cases hstag : ∃ st ∈ s.stagings, st.name = name
  · obtain ⟨st, hst, rfl⟩ := hstag
    exact hap.ofStaging st hst
  by_cases hdoom : s.Doomed name
  · exact hap.ofDoomed name hdoom
  · rw [sc_files (fun st hst heq => hstag ⟨st, hst, heq⟩) hdoom] at h
    exact hap.ofFile name file h

private theorem sc_doomed (h : (s.step sha256 e).Doomed name) : s.Doomed name ∨ name ∈ s.toDelete e := by
  obtain ⟨job, hjob⟩ := h
  have hap : name ∈ Function.update s.deletions e.job (s.deletions e.job ++ s.toDelete e) job →
      s.Doomed name ∨ name ∈ s.toDelete e := by
    intro hmem
    rw [Function.update_apply] at hmem
    split at hmem
    · rcases List.mem_append.1 hmem with hmem | hmem
      · exact .inl ⟨_, hmem⟩
      · exact .inr hmem
    · exact .inl ⟨job, hmem⟩
  cases e with
  | deletes j =>
    simp only [StagingSystem.step, StagingSystem.stepDeletions, Function.update_apply] at hjob
    split at hjob
    · exact .inl ⟨j, List.mem_of_mem_tail hjob⟩
    · exact .inl ⟨job, hjob⟩
  | restart => cases hjob
  | _ => exact hap hjob

private theorem sc_origin (hap : NamesApart s) (hgood : KeepsStaged s e)
    (h : it ∈ s.stepItems sha256 e) :
    (∃ old ∈ s.items, old.id = it.id ∧ it.stagedFileName = old.stagedFileName) ∨
    ∃ job item st, e = .adds job item ∧ st ∈ s.stagings ∧ st.job = job ∧ st.ended = true ∧
      it = item.stagedAs sha256 st := by
  rcases sc_items hap.ids hgood h with ⟨hold, -⟩ | ⟨-, old, hold, hid, hname, -⟩ | hnew
  · exact .inl ⟨it, hold, rfl, rfl⟩
  · exact .inl ⟨old, hold, hid, hname⟩
  · exact .inr hnew

private theorem sc_added {st' : Staging} (hap : NamesApart s)
    (hst : st ∈ s.stagings) (hjob : st.job = job) (hnd : st.ended = true)
    (hst' : st' ∈ s.stepStagings (.adds job item)) : st' ∈ s.stagings ∧ st'.name ≠ st.name := by
  obtain ⟨hmem, hkept⟩ := List.mem_filter.1 hst'
  refine ⟨hmem, fun hname => ?_⟩
  obtain rfl := eq_of_key hap.stagings hmem hst hname
  simp [hjob, hnd] at hkept

private theorem sc_ids (hap : NamesApart s) (hgood : KeepsStaged s e) :
    ((s.stepItems sha256 e).map UploadQueueItem.id).Nodup := by
  unfold StagingSystem.stepItems
  cases hwr : s.written e with
  | some item =>
    simp only [store_update_ids]
    exact hap.ids
  | none =>
    cases e with
    | adds job item =>
      simp only
      split
      · rename_i st hst
        refine List.nodup_cons.2 ⟨fun hmem => ?_, hap.ids⟩
        obtain ⟨old, hold, hid⟩ := List.mem_map.1 hmem
        have hnone := hgood.added item.id (by simp [StagingSystem.addedId, hst])
        exact find_none hnone old hold hid
      · exact hap.ids
    | removes job =>
      simp only
      split
      · split
        · exact hap.ids
        · exact hap.ids.sublist ((List.filter_sublist).map _)
      · exact hap.ids
    | _ => exact hap.ids

theorem NamesApart.step (hap : NamesApart s) (hgood : KeepsStaged s e) (hdoom : ∀ name ∈ s.toDelete e, name ∈ s.names) :
    NamesApart (s.step sha256 e) := by
  have hn : ∀ {name : String}, name ∈ s.names → name ∈ (s.step sha256 e).names := List.mem_append_left _
  obtain ⟨hjobs, hstagings⟩ := sc_apart hap hgood
  refine
    { ids := sc_ids hap hgood
      jobs := hjobs
      stagings := hstagings
      ofItem := fun it hit name hname => ?_
      ofHeld := fun job c hc name hname => ?_
      ofStaging := fun st hst => ?_
      ofFile := fun name file hfile => hn (sc_named hap hfile)
      ofDoomed := fun name h => ?_
      items := fun it hit it' hit' name hname hname' => ?_
      held := fun job c hc it hit name hname hname' => ?_
      stagingItem := fun st hst it hit hname => ?_
      stagingHeld := fun st hst job c hc hname => ?_ }
  · rcases sc_origin hap hgood hit with ⟨old, hold, -, hsame⟩ | ⟨job, item, st, -, hst, -, -, rfl⟩
    · exact hn (hap.ofItem old hold name (hsame ▸ hname))
    · exact hn (Option.some.inj hname ▸ hap.ofStaging st hst)
  · rcases sc_held hc with ⟨c₀, hc₀, -, hsame⟩ | ⟨hmem, -⟩
    · exact hn (hap.ofHeld job c₀ hc₀ name (hsame.trans hname))
    · exact hn (hap.ofItem c hmem name hname)
  · rcases sc_stagings hst with ⟨st₀, hst₀, hsame, -⟩ | ⟨hsta, -⟩
    · exact hn (hsame ▸ hap.ofStaging st₀ hst₀)
    · exact List.mem_append_right _ (by rw [hsta]; exact .head _)
  · exact hn ((sc_doomed h).elim (hap.ofDoomed name) (hdoom name))
  · rcases sc_origin hap hgood hit with ⟨old, hold, hid, hsame⟩ | ⟨job, item, st, rfl, hst, hjob, hnd, rfl⟩
    · rcases sc_origin hap hgood hit' with ⟨old', hold', hid', hsame'⟩ | ⟨j, item, st, -, hst, -, -, rfl⟩
      · exact hid.symm.trans ((hap.items old hold old' hold' name (hsame ▸ hname) (hsame' ▸ hname')).trans hid')
      · exact absurd (hsame.symm.trans (hname.trans hname'.symm)) (hap.stagingItem st hst old hold)
    · rcases sc_origin hap hgood hit' with ⟨old', hold', -, hsame'⟩ | ⟨job', item', st', heq, hst', hjob', -, rfl⟩
      · exact absurd (hsame'.symm.trans (hname'.trans hname.symm)) (hap.stagingItem st hst old' hold')
      · cases heq
        rfl
  · have hc : s.stepHeld e job = some c := hc
    rcases sc_origin hap hgood hit with ⟨old, hold, hid, hsame⟩ | ⟨j, item, st, rfl, hst, -, -, rfl⟩
    · rcases sc_held hc with ⟨c₀, hc₀, hidc, hsa⟩ | ⟨hmem, -⟩
      · exact hidc.symm.trans ((hap.held job c₀ hc₀ old hold name (hsa.trans hname) (hsame ▸ hname')).trans hid)
      · exact (hap.items c hmem old hold name hname (hsame ▸ hname')).trans hid
    rcases sc_held hc with ⟨c₀, hc₀, -, hsa⟩ | ⟨hmem, -⟩
    · exact absurd (hsa.trans (hname.trans hname'.symm)) (hap.stagingHeld st hst job c₀ hc₀)
    · exact absurd (hname.trans hname'.symm) (hap.stagingItem st hst c hmem)
  · rcases sc_origin hap hgood hit with ⟨old, hold, -, hsame⟩ | ⟨j, item, st₁, rfl, hst₁, hjob, hnd, rfl⟩
    · rcases sc_stagings hst with ⟨st₀, hst₀, hna, -⟩ | ⟨hsta, -⟩
      · exact hap.stagingItem st₀ hst₀ old hold (by rw [hna, ← hsame, hname])
      · exact hgood.fresh _ hsta (hap.ofItem old hold _ (hsame.symm.trans hname))
    · have hst : st ∈ s.stepStagings (.adds j item) := hst
      exact (sc_added hap hst₁ hjob hnd hst).2 (Option.some.inj hname).symm
  · rcases sc_stagings hst with ⟨st₀, hst₀, hna, -⟩ | ⟨hsta, -⟩
    · rcases sc_held hc with ⟨c₀, hc₀, -, hsa⟩ | ⟨hmem, -⟩
      · exact hap.stagingHeld st₀ hst₀ job c₀ hc₀ (by rw [hsa, hname, hna])
      · exact hap.stagingItem st₀ hst₀ c hmem (by rw [hname, hna])
    · rcases sc_held hc with ⟨c₀, hc₀, -, hsa⟩ | ⟨hmem, -⟩
      · exact hgood.fresh _ hsta (hap.ofHeld job c₀ hc₀ _ (hsa.trans hname))
      · exact hgood.fresh _ hsta (hap.ofItem c hmem _ hname)

private theorem sc_toDelete (hap : NamesApart s) (hgood : KeepsStaged s e) {name : String} (h : name ∈ s.toDelete e) :
    name ∈ s.names ∧ (∀ st ∈ s.stepStagings e, st.name ≠ name) ∧
      ∀ it ∈ s.stepItems sha256 e, it.stagedFileName = some name → it.status.isTerminal = true := by
  cases e with
  | fails job =>
    obtain ⟨st, hst, rfl⟩ := Option.map_eq_some_iff.1 (Option.mem_toList.1 h)
    obtain ⟨hmem, hjob⟩ := sc_staging hst
    refine ⟨hap.ofStaging st hmem, fun st' hst' hname => ?_, fun it hit hname =>
      absurd hname (hap.stagingItem st hmem it hit)⟩
    obtain ⟨hmem', hkept⟩ := List.mem_filter.1 hst'
    obtain rfl := eq_of_key hap.stagings hmem' hmem hname
    simp [hjob] at hkept
  | writes job now write =>
    simp only [StagingSystem.toDelete] at h
    split at h
    · rename_i hde
      obtain ⟨c, hc, hname⟩ := Option.bind_eq_some_iff.1 (Option.mem_toList.1 h)
      have hwr : s.written (.writes job now write) = some (write.apply now c) := by
        simp [StagingSystem.written, hc]
      have hheld := (Option.filter_eq_some_iff.1 hc).1
      refine ⟨hap.ofHeld job c hheld name hname, fun st hst heq => hap.stagingHeld st hst job c hheld (heq ▸ hname),
        fun it hit hit' => ?_⟩
      rcases sc_items hap.ids hgood hit with ⟨hold, href⟩ | ⟨hsame, -⟩ | ⟨_, _, _, heq, -⟩
      · exact href _ hwr (by simpa using (hap.held job c hheld it hold name hname hit').symm)
      · obtain rfl := Option.mem_unique hwr hsame
        exact ItemWrite.isTerminal_of_deletes hde now c
      · cases heq
    · cases h
  | removes job =>
    obtain ⟨c, hc, hname⟩ := Option.bind_eq_some_iff.1 (Option.mem_toList.1 h)
    obtain ⟨hheld, hstatus⟩ := Option.filter_eq_some_iff.1 hc
    refine ⟨hap.ofHeld job c hheld name hname, fun st hst heq => hap.stagingHeld st hst job c hheld (heq ▸ hname),
      fun it hit hit' => ?_⟩
    have hrem : it ∈ remove s.items c.id := by
      have hmv : ¬(c.status = .pending ∨ c.status = .uploading ∨ c.status = .waiting) := by simpa using hstatus
      have hite : s.stepItems sha256 (.removes job) = remove s.items c.id := by
        simp only [StagingSystem.stepItems, StagingSystem.written, hheld, if_neg hmv]
      rwa [hite] at hit
    obtain ⟨hmem, hne⟩ := List.mem_filter.1 hrem
    exact absurd (hap.held job c hheld it hmem name hname hit').symm (by simpa using hne)
  | lists job =>
    obtain ⟨hsta, hite⟩ := hgood.cleans name h
    refine ⟨?_, hsta, hite⟩
    simp only [StagingSystem.toDelete, StagingSystem.listed] at h
    split at h
    · have hkey := AList.mem_keys.2 (List.mem_of_mem_filter h)
      obtain ⟨file, hfile⟩ := Option.isSome_iff_exists.1 (AList.lookup_isSome.2 hkey)
      exact hap.ofFile name file hfile
    · cases h
  | _ => cases h

private theorem sc_streams (hinv : StagedInv sha256 s) (hgood : KeepsStaged s e)
    (h : st ∈ s.stepStagings e) :
    (st.inode = none → (s.stepFiles e).lookup st.name = none ∧ st.hashed = [] ∧ st.ended = false) ∧
      ∀ inode, st.inode = some inode → (s.stepFiles e).lookup st.name = some ⟨inode, st.hashed⟩ := by
  have hap := hinv.apart
  have hsy : ∀ {st : Staging}, st ∈ s.stagings → (s.stepFiles e).lookup st.name = s.files.lookup st.name →
      (st.inode = none → (s.stepFiles e).lookup st.name = none ∧ st.hashed = [] ∧ st.ended = false) ∧
        ∀ inode, st.inode = some inode → (s.stepFiles e).lookup st.name = some ⟨inode, st.hashed⟩ := by
    intro st hst hfile
    rw [hfile]
    exact ⟨hinv.unopened st hst, hinv.streamed st hst⟩
  -- the file of the staging that acts is not that of another one
  have ho : ∀ {st₀ st₁ : Staging} {job : Nat}, st₀ ∈ s.stagings → s.staging job = some st₁ → st₀ ≠ st₁ →
      st₀.name ≠ st₁.name := fun hst₀ hst₁ hne hname => hne (eq_of_key hap.stagings hst₀ (sc_staging hst₁).1 hname)
  cases e with
  | starts job now segment =>
    rcases sc_stagings h with ⟨st₀, hst₀, hname, hjob⟩ | ⟨hsta, hin, hha, hnd, -⟩
    · simp only [StagingSystem.stepStagings] at h
      split at h
      · exact hsy h rfl
      rename_i hfree
      rcases List.mem_append.1 h with h | h
      · exact hsy h rfl
      obtain rfl := List.mem_singleton.1 h
      have hjob : st₀.job = job := hjob
      exact absurd (hjob ▸ sc_busy hst₀) hfree
    · refine ⟨fun _ => ⟨?_, hha, hnd⟩, fun inode hsome => by cases hin.symm.trans hsome⟩
      cases hfile : s.files.lookup st.name with
      | none => exact hfile
      | some file => exact absurd (hap.ofFile _ file hfile) (hgood.fresh _ hsta)
  | opens job =>
    obtain ⟨st₀, hst₀, rfl⟩ := mem_update.1 h
    by_cases hg : (st₀.job == job && !st₀.inode.isSome) = true
    · rw [if_pos hg]
      obtain ⟨hjob, hin⟩ := Bool.and_eq_true_iff.1 hg
      obtain rfl := beq_iff_eq.1 hjob
      have hfind : (s.staging st₀.job).filter (fun st => !st.inode.isSome) = some st₀ :=
        Option.filter_eq_some_iff.2 ⟨sc_find hap hst₀, hin⟩
      have hha := (hinv.unopened st₀ hst₀ (by simpa using hin)).2.1
      refine ⟨fun hnone => (by cases hnone), fun inode hsome => ?_⟩
      cases hsome
      simp only [StagingSystem.stepFiles, hfind, AList.lookup_insert, hha, StagingSystem.opened]
    · rw [if_neg hg]
      refine hsy hst₀ ?_
      simp only [StagingSystem.stepFiles]
      split
      · rename_i st₁ hst₁
        obtain ⟨hfind, hcl⟩ := Option.filter_eq_some_iff.1 hst₁
        refine AList.lookup_insert_ne (ho hst₀ hfind ?_)
        rintro rfl
        exact hg (by simp [(sc_staging hfind).2, hcl])
      · rfl
  | copies job chunk =>
    obtain ⟨st₀, hst₀, rfl⟩ := mem_update.1 h
    by_cases hg : (st₀.job == job && st₀.inode.isSome && !st₀.ended) = true
    · rw [if_pos hg]
      simp only [Bool.and_eq_true, beq_iff_eq] at hg
      obtain ⟨⟨rfl, hopen⟩, hnd⟩ := hg
      obtain ⟨inode, hin⟩ := Option.isSome_iff_exists.1 hopen
      have hfind : (s.staging st₀.job).filter (fun st => !st.ended) = some st₀ :=
        Option.filter_eq_some_iff.2 ⟨sc_find hap hst₀, hnd⟩
      have hfile := hinv.streamed st₀ hst₀ inode hin
      have hwr : writeAt st₀.hashed st₀.hashed.length chunk = st₀.hashed ++ chunk := by
        simp [writeAt]
      refine ⟨fun hnone => (by cases hin.symm.trans hnone), fun inode' hsome => ?_⟩
      obtain rfl := Option.mem_unique hin hsome
      simp only [StagingSystem.stepFiles, hfind, hfile, Option.filter_some, hin, beq_self_eq_true, if_true,
        AList.lookup_insert, hwr]
    · rw [if_neg hg]
      refine hsy hst₀ ?_
      simp only [StagingSystem.stepFiles]
      split
      · rename_i st₁ hst₁
        obtain ⟨hfind, hrun⟩ := Option.filter_eq_some_iff.1 hst₁
        split
        · rename_i file hfile
          obtain ⟨-, hin⟩ := Option.filter_eq_some_iff.1 hfile
          refine AList.lookup_insert_ne (ho hst₀ hfind ?_)
          rintro rfl
          exact hg (by simp [(sc_staging hfind).2, hrun, beq_iff_eq.1 hin])
        · rfl
      · rfl
  | ends job =>
    obtain ⟨st₀, hst₀, rfl⟩ := mem_update.1 h
    by_cases hg : (st₀.job == job && st₀.inode.isSome) = true
    · rw [if_pos hg]
      obtain ⟨inode, hin⟩ := Option.isSome_iff_exists.1 (Bool.and_eq_true_iff.1 hg).2
      exact ⟨fun hnone => (by cases hnone.symm.trans hin), hinv.streamed st₀ hst₀⟩
    · rw [if_neg hg]
      exact hsy hst₀ rfl
  | deletes job =>
    refine hsy h ?_
    simp only [StagingSystem.stepFiles]
    split
    · rename_i first rest hlist
      exact AList.lookup_erase_ne (hinv.doomedStaging first ⟨job, by simp [hlist]⟩ st h)
    · rfl
  | adds job item | fails job | drops job => exact hsy (List.mem_of_mem_filter h) rfl
  | restart => cases h
  | _ => exact hsy h rfl

theorem StagedInv.step (hinv : StagedInv sha256 s) (hgood : KeepsStaged s e) : StagedInv sha256 (s.step sha256 e) := by
  have hap := hinv.apart
  have hdel := fun {name} (h : name ∈ s.toDelete e) => @sc_toDelete sha256 _ _ hap hgood name h
  refine
    { apart := hap.step hgood fun name h => (hdel h).1
      doomedItem := fun name h it hit hname => ?_
      doomedStaging := fun name h st hst hname => ?_
      unopened := fun st hst => (sc_streams hinv hgood hst).1
      streamed := fun st hst => (sc_streams hinv hgood hst).2
      survives := fun it hit hli => ?_ }
  · rcases sc_doomed h with hdoom | h
    · rcases sc_items hap.ids hgood hit with ⟨hold, -⟩ | ⟨-, old, hold, -, hsame, -, hterm⟩ |
          ⟨_, _, st, -, hst, -, -, rfl⟩
      · exact hinv.doomedItem name hdoom it hold hname
      · exact hterm (hinv.doomedItem name hdoom old hold (hsame.symm.trans hname))
      · exact absurd (Option.some.inj hname) (hinv.doomedStaging name hdoom st hst)
    · exact (hdel h).2.2 it hit hname
  · rcases sc_doomed h with hdoom | h
    · rcases sc_stagings hst with ⟨st₀, hst₀, hsame, -⟩ | ⟨hsta, -⟩
      · exact hinv.doomedStaging name hdoom st₀ hst₀ (hsame.trans hname)
      · exact hgood.fresh _ hsta (hname ▸ hap.ofDoomed name hdoom)
    · exact (hdel h).2.1 st hst hname
  · have hkept : ∀ old ∈ s.items, ∀ name file, old.status.isTerminal = false → old.stagedFileName = some name →
        s.files.lookup name = some file → (s.stepFiles e).lookup name = some file := by
      intro old hold name file hopen hname hfile
      rw [sc_files (fun st hst heq => hap.stagingItem st hst old hold (heq ▸ hname)) fun hdoom => ?_]
      · exact hfile
      · cases hopen.symm.trans (hinv.doomedItem name hdoom old hold hname)
    rcases sc_items hap.ids hgood hit with ⟨hold, -⟩ | ⟨-, old, hold, -, hsame, hsha, hterm⟩ |
        ⟨job, item, st, rfl, hst, -, hnd, rfl⟩
    · obtain ⟨name, file, hname, hfile, hhash⟩ := hinv.survives it hold hli
      exact ⟨name, file, hname, hkept it hold name file hli hname hfile, hhash⟩
    · have hopen : old.status.isTerminal = false := by
        cases ht : old.status.isTerminal with
        | false => rfl
        | true => cases (hterm ht).symm.trans hli
      obtain ⟨name, file, hname, hfile, hhash⟩ := hinv.survives old hold hopen
      exact ⟨name, file, hsame.trans hname, hkept old hold name file hopen hname hfile, hsha.trans hhash⟩
    · cases hin : st.inode with
      | none => cases hnd.symm.trans (hinv.unopened st hst hin).2.2
      | some inode => exact ⟨st.name, ⟨inode, st.hashed⟩, rfl, hinv.streamed st hst inode hin, rfl⟩

theorem stagedInv_new : StagedInv sha256 .new where
  apart :=
    { ids := List.nodup_nil
      jobs := List.nodup_nil
      stagings := List.nodup_nil
      ofItem := fun _ h => by cases h
      ofHeld := fun _ _ h => by cases h
      ofStaging := fun _ h => by cases h
      ofFile := fun _ _ h => by cases h
      ofDoomed := fun _ ⟨_, h⟩ => by cases h
      items := fun _ h => by cases h
      held := fun _ _ h => by cases h
      stagingItem := fun _ h => by cases h
      stagingHeld := fun _ h => by cases h }
  doomedItem _ _ _ h := by cases h
  doomedStaging _ _ _ h := by cases h
  unopened _ h := by cases h
  streamed _ h := by cases h
  survives _ h := by cases h

/-- In every run whose cleanups find no file to delete that a staging or a new item needs, and whose names are new, every
item that is not terminal has its staged file, with the content that was hashed. -/
theorem staged_copies_survive (sha256 : Bytes → String) (events : List StagingEvent)
    (h : Always (StagingSystem.step sha256) KeepsStaged .new events) :
    StagedCopiesHold sha256 (run (StagingSystem.step sha256) .new events) :=
  (h.invariant stagedInv_new fun _ _ hinv hgood => hinv.step hgood).survives

end Steps

def galleryItem : UploadQueueItem where
  id := "photo"
  origin := "https://lamasync.example"
  hostId := "phone"
  sourceUri := "content://media/1"
  displayName := "photo.jpg"
  mimeType := some "image/jpeg"
  sizeBytes := none
  destinationId := "inbox"
  destinationRelPath := "Mobile/phone/Inbox"
  idempotencyKey := "up-photo"
  sha256 := none
  mediaIdentity := none
  sourceLabel := none
  autoNameAttempt := 0
  stagedFileName := none
  staged := false
  serverUploadId := none
  uploadedBytes := 0
  serverStatus := none
  status := .pending
  error := none
  serverBytesReceived := none
  receipt := none
  createdAtEpochMillis := 0
  updatedAtEpochMillis := 0

def exampleSha256 (bytes : Bytes) : String := toString bytes.length

/-- A first upload is cancelled, and a cleanup takes its file away while a second one waits to be tried again. -/
def keptEvents : List StagingEvent := [
  .starts 1 7 (some "1"), .opens 1, .copies 1 [1, 2], .copies 1 [3], .ends 1, .adds 1 galleryItem, .loads 2 "photo",
  .writes 2 8 .cancelled, .starts 3 9 (some "2"), .opens 3, .copies 3 [4], .ends 3, .adds 3 { galleryItem with id := "clip" },
  .readsQueue 4, .lists 4, .deletes 4, .loads 5 "clip", .writes 5 10 (.failed "offline")]

theorem staged_copies_survive_kept :
    (run (StagingSystem.step exampleSha256) .new keptEvents).items.map UploadQueueItem.status = [.failed, .cancelled] ∧
      (run (StagingSystem.step exampleSha256) .new keptEvents).files.keys = ["stage-9-2"] ∧
      StagedCopiesHold exampleSha256 (run (StagingSystem.step exampleSha256) .new keptEvents) := by
  refine ⟨by decide +kernel, by decide +kernel, staged_copies_survive exampleSha256 keptEvents ?_⟩
  decide +kernel

def overlapEvents : List StagingEvent := [
  .starts 1 7 (some "1"), .opens 1, .copies 1 [1, 2], .copies 1 [3], .ends 1, .readsQueue 2, .adds 1 galleryItem, .lists 2,
  .deletes 2]

theorem cleanup_deletes_staged_copy :
    ¬StagedCopiesHold exampleSha256 (run (StagingSystem.step exampleSha256) .new overlapEvents) := by
  have hev : ∃ it ∈ (run (StagingSystem.step exampleSha256) .new overlapEvents).items,
      it.status.isTerminal = false ∧ it.stagedFileName = some "stage-7-1" ∧
      (run (StagingSystem.step exampleSha256) .new overlapEvents).files.lookup "stage-7-1" = none := by
    decide +kernel
  intro h
  obtain ⟨it, hit, hli, hstg, hgone⟩ := hev
  obtain ⟨name, file, hname, hfile, -⟩ := h it hit hli
  obtain rfl := Option.mem_unique hstg hname
  cases hgone.symm.trans hfile

end LamaSync
