import LamaSync.Lib.Rows
import LamaSync.Lib.Trace
import LamaSync.Server.BrowseSizes

/-!
# Jobs of the Data Browser

A request is checked, compared with the writes that are running, entered in the table of jobs, and then runs on its own.
Two sets of keys and the unfinished rows of the table are compared for equal texts: the key of the destination, and for
copies, moves, renames and deletes that of the source with the names.

A write may end in any way at any time.  An upload that finds no store fails only when its local copy is removed; until
then its row is running.  A size of the backup root is measured in one step; that of an S3 folder takes many listings,
and other jobs run in between.
-/

namespace LamaSync

inductive BrowseJobOperation where
  | copy | move | upload | rename | mkdir | delete | size
  deriving DecidableEq

inductive BrowseJobStatus where
  | pending | running | done | failed | cancelled
  deriving DecidableEq

structure BrowseJob where
  id : String
  operation : BrowseJobOperation
  source : String
  destination : String
  status : BrowseJobStatus
  error : Option String
  progressBytes : Option Nat
  totalBytes : Option Nat
  createdAt : Int
  updatedAt : Int

inductive BrowseRequest where
  | copy (src dst : BrowseRef) (names : List String)
  | move (src dst : BrowseRef) (names : List String)
  | rename (ref : BrowseRef) (source target : String)
  | delete (ref : BrowseRef) (names : List String)
  | mkdir (ref : BrowseRef) (name : String)
  | upload (dst : BrowseRef) (fileName : String) (contentLength bytes : Nat)

namespace BrowseRequest

def operation : BrowseRequest → BrowseJobOperation
  | copy .. => .copy
  | move .. => .move
  | rename .. => .rename
  | delete .. => .delete
  | mkdir .. => .mkdir
  | upload .. => .upload

def dKey : BrowseRequest → String
  | copy _ dst _ | move _ dst _ | upload dst _ _ _ => destKey dst
  | rename ref _ _ | delete ref _ | mkdir ref _ => destKey ref

def sKey : BrowseRequest → Option String
  | copy src _ names | move src _ names => some (destKey src ++ "|" ++ ",".intercalate names)
  | rename ref source _ => some (destKey ref ++ "|" ++ source)
  | delete ref names => some (destKey ref ++ "|" ++ ",".intercalate names)
  | mkdir .. | upload .. => none

def rowSource (r : BrowseRequest) : String :=
  match r with
  | mkdir ref _ => destKey ref
  | upload _ fileName _ bytes => "upload:" ++ fileName ++ " (" ++ toString bytes ++ " bytes)"
  | _ => r.sKey.getD ""

def rowDestination (r : BrowseRequest) : String :=
  match r with
  | mkdir _ name | upload _ name _ _ => r.dKey ++ "/" ++ name
  | _ => r.dKey

def checksRows : BrowseRequest → Bool
  | copy .. | move .. | delete .. => true
  | rename .. | mkdir .. | upload .. => false

/-- The references whose generation the request counts up, and whose sizes it drops. -/
def changedRefs : BrowseRequest → List BrowseRef
  | copy _ dst _ | upload dst _ _ _ => [dst]
  | move src dst _ => [dst, src]
  | rename ref _ _ | delete ref _ | mkdir ref _ => [ref]

def progressBytes : BrowseRequest → Option Nat
  | rename .. | mkdir .. => none
  | _ => some 0

def totalBytes : BrowseRequest → Option Nat
  | copy _ _ names | move _ _ names | delete _ names => some names.length
  | upload .. => some 1
  | rename .. | mkdir .. => none

def stores (folders : S3Folders) : BrowseRequest → Except String (BrowseStore × BrowseStore)
  | copy src dst _ | move src dst _ => do
    let srcStore ← src.store folders
    let dstStore ← dst.store folders
    return (srcStore, dstStore)
  | rename ref _ _ | delete ref _ | mkdir ref _ | upload ref _ _ _ => do
    let store ← ref.store folders
    return (store, store)

/-- The request is answered with an error, before anything else. -/
def throws : BrowseRequest → Bool
  | copy src dst names | move src dst names =>
    names == [] ||
    (src.kind == .local_ && dst.kind == .local_ && names.any fun name => isContainedLocalMove src.path name dst.path) ||
    (src.kind == .s3 && dst.kind == .s3 && src.folderId == dst.folderId && !isSafeS3IntraFolderMove src.path dst.path names)
  | rename ref source target =>
    source == "" || target == "" || source == target || !isSafePath ref.path source || !isSafePath ref.path target
  | delete ref names => names == [] || !names.all fun name => isSafePath ref.path name
  | mkdir ref name => name == "" || !isSafePath ref.path name
  | upload dst fileName contentLength bytes =>
    fileName == "" || contentLength == 0 || !isSafePath dst.path fileName || 64 * 1024 * 1024 < bytes

/-- The paths of an entry that is copied are checked when its turn comes. -/
def isSafeCopy (src dst : BrowseRef) (name : String) : Bool := isSafePath src.path name && isSafePath dst.path name

end BrowseRequest

structure BrowseWrite where
  request : BrowseRequest
  srcStore : BrowseStore
  dstStore : BrowseStore

namespace BrowseWrite

def changes (w : BrowseWrite) : List (BrowseRef × Place) :=
  match w.request with
  | .copy src dst names =>
    (names.takeWhile (BrowseRequest.isSafeCopy src dst)).map fun name => (dst, entryPlace w.dstStore dst name)
  | .move src dst names =>
    ((names.takeWhile (BrowseRequest.isSafeCopy src dst)).map fun name => (dst, entryPlace w.dstStore dst name)) ++
      -- the source is removed when everything has been copied
      if names.all (BrowseRequest.isSafeCopy src dst) then names.map fun name => (src, entryPlace w.srcStore src name)
      else []
  | .rename ref source target => [(ref, entryPlace w.srcStore ref source), (ref, entryPlace w.dstStore ref target)]
  | .delete ref names => names.map fun name => (ref, entryPlace w.srcStore ref name)
  | .mkdir ref name => [(ref, entryPlace w.dstStore ref name)]
  | .upload dst fileName _ _ => [(dst, entryPlace w.dstStore dst fileName)]

def reads (w : BrowseWrite) : List Place :=
  match w.request with
  | .copy src dst names | .move src dst names =>
    (names.takeWhile (BrowseRequest.isSafeCopy src dst)).map fun name => entryPlace w.srcStore src name
  | _ => []

def Touches (w : BrowseWrite) (p : Place) : Prop := ∃ change ∈ w.changes, change.2.Meets p

instance (w : BrowseWrite) (p : Place) : Decidable (w.Touches p) := inferInstanceAs (Decidable (∃ _ ∈ _, _))

end BrowseWrite

structure BrowseMeasurement where
  ref : BrowseRef
  pathPrefix : String
  store : BrowseStore
  generationAtStart : Nat

def measuredPlace (store : BrowseStore) (ref : BrowseRef) (pathPrefix : String) : Place :=
  let path := joinRelativePath ref.path pathPrefix
  storePlace store (if store = .backupRoot then slashed path else path)

inductive SizeOutcome where
  | measured (size : PrefixSizeCount)
  | s3ListObjectsError
  | error

/-- An upload for which no store was found.  Its row fails when its temporary file has been removed. -/
structure UnplacedUpload where
  request : BrowseRequest
  error : String

structure BrowseServer where
  sizes : SizeCache
  activeDestinations : List String
  activeSources : List String
  browseJobs : List BrowseJob
  writing : Table String BrowseWrite
  measuring : Table String BrowseMeasurement
  unplaced : Table String UnplacedUpload

def busyText : String := "destination busy — another operation is writing there"

namespace BrowseServer

def writeJob (s : BrowseServer) (id : String) (set : BrowseJob → BrowseJob) : BrowseServer :=
  { s with browseJobs := Rows.update s.browseJobs (fun job => job.id == id) set }

def insertJob (s : BrowseServer) (job : BrowseJob) : BrowseServer := { s with browseJobs := s.browseJobs ++ [job] }

def failJob (s : BrowseServer) (id error : String) (now : Int) : BrowseServer :=
  s.writeJob id fun job => { job with status := .failed, error := some error, updatedAt := now }

def insertFailedJob (s : BrowseServer) (id : String) (r : BrowseRequest) (now : Int) : BrowseServer :=
  s.insertJob ⟨id, r.operation, r.rowSource, r.rowDestination, .failed, some busyText, none, none, now, now⟩

def insertRunningJob (s : BrowseServer) (id : String) (r : BrowseRequest) (now : Int) : BrowseServer :=
  s.insertJob ⟨id, r.operation, r.rowSource, r.rowDestination, .running, none, r.progressBytes, r.totalBytes, now, now⟩

def isBusy (s : BrowseServer) (r : BrowseRequest) : Bool :=
  s.activeDestinations.contains r.dKey || r.sKey.any s.activeSources.contains ||
    (r.checksRows && s.browseJobs.any fun job =>
      (job.status == .pending || job.status == .running) &&
        (job.destination == r.dKey || r.sKey.any (job.source == ·)))

def occupy (s : BrowseServer) (r : BrowseRequest) : BrowseServer :=
  { s with
    activeDestinations := r.dKey :: s.activeDestinations
    activeSources := r.sKey.toList ++ s.activeSources }

def release (s : BrowseServer) (r : BrowseRequest) : BrowseServer :=
  { s with
    activeDestinations := s.activeDestinations.filter (· ≠ r.dKey)
    activeSources := s.activeSources.filter fun key => some key ≠ r.sKey }

def bumpGenerations (s : BrowseServer) (r : BrowseRequest) : BrowseServer :=
  { s with sizes := r.changedRefs.foldl SizeCache.bumpFolderWriteGeneration s.sizes }

def launch (s : BrowseServer) (id : String) (r : BrowseRequest) (stores : BrowseStore × BrowseStore) : BrowseServer :=
  { s with writing := s.writing.put id ⟨r, stores.1, stores.2⟩ }

def startBrowseCopyMove (s : BrowseServer) (id : String) (folders : S3Folders) (r : BrowseRequest) (now : Int) :
    BrowseServer :=
  let accepted := (s.occupy r).insertRunningJob id r now
  match r.stores folders with
  | .error message => (accepted.release r).failJob id message now
  | .ok stores => (accepted.bumpGenerations r).launch id r stores

def startBrowseDelete (s : BrowseServer) (id : String) (folders : S3Folders) (r : BrowseRequest) (now : Int) :
    BrowseServer :=
  let accepted := ((s.occupy r).bumpGenerations r).insertRunningJob id r now
  match r.stores folders with
  | .error message => (accepted.release r).failJob id message now
  | .ok stores => accepted.launch id r stores

def startBrowseEntry (s : BrowseServer) (id : String) (folders : S3Folders) (r : BrowseRequest) (now : Int) :
    BrowseServer :=
  let accepted := s.insertRunningJob id r now
  match r.stores folders, r with
  | .error message, .upload .. => { accepted with unplaced := s.unplaced.put id ⟨r, message⟩ }
  | .error message, _ => accepted.failJob id message now
  | .ok stores, _ => ((accepted.occupy r).bumpGenerations r).launch id r stores

def failUpload (s : BrowseServer) (id : String) (now : Int) : BrowseServer :=
  match s.unplaced id with
  | none => s
  | some upload => { s.failJob id upload.error now with unplaced := s.unplaced.erase id }

def startBrowse (s : BrowseServer) (id : String) (folders : S3Folders) (r : BrowseRequest) (now : Int) : BrowseServer :=
  if r.throws then s
  else if s.isBusy r then s.insertFailedJob id r now
  else
    match r with
    | .copy .. | .move .. => s.startBrowseCopyMove id folders r now
    | .delete .. => s.startBrowseDelete id folders r now
    | .rename .. | .mkdir .. | .upload .. => s.startBrowseEntry id folders r now

/-- One more entry is done. -/
def progress (s : BrowseServer) (id : String) (now : Int) : BrowseServer :=
  match s.writing id with
  | none => s
  | some _ => s.writeJob id fun job => { job with progressBytes := job.progressBytes.map (· + 1), updatedAt := now }

def finishWrite (s : BrowseServer) (id : String) (error : Option String) (now : Int) : BrowseServer :=
  match s.writing id with
  | none => s
  | some w =>
    let ended := s.writeJob id fun job =>
      match error with
      | some message => { job with status := .failed, error := some message, updatedAt := now }
      | none =>
        { job with
          status := .done
          updatedAt := now
          progressBytes := if job.operation = .upload then some 1 else job.progressBytes }
    let dropped := { ended with sizes := w.request.changedRefs.foldl SizeCache.dropFolderPrefixSizes ended.sizes }
    { dropped.release w.request with writing := s.writing.erase id }

def finishSize (s : BrowseServer) (id : String) (ref : BrowseRef) (pathPrefix : String) (generationAtStart : Nat)
    (outcome : SizeOutcome) (now : Int) : BrowseServer :=
  match outcome with
  | .measured size =>
    let seeded := { s with sizes := s.sizes.seedPrefixSize ref pathPrefix size generationAtStart now }
    seeded.writeJob id fun job => { job with status := .done, updatedAt := now }
  | .s3ListObjectsError => s.failJob id "S3 listing failed" now
  | .error => s.failJob id "size failed" now

def startBrowseSize (s : BrowseServer) (id : String) (folders : S3Folders) (ref : BrowseRef) (pathPrefix : String)
    (walk : SizeOutcome) (now : Int) : BrowseServer :=
  if pathPrefix = "" ∨ isSafePath ref.path pathPrefix = false then s
  else
    let key := "size:" ++ destKey ref ++ "|" ++ pathPrefix
    let accepted := s.insertJob ⟨id, .size, key, key, .running, none, none, none, now, now⟩
    match ref.store folders with
    | .error message => accepted.failJob id message now
    | .ok store =>
      let generationAtStart := s.sizes.folderWriteGeneration ref
      match ref.kind with
      | .local_ => accepted.finishSize id ref pathPrefix generationAtStart walk now
      | .s3 => { accepted with measuring := s.measuring.put id ⟨ref, pathPrefix, store, generationAtStart⟩ }

def endBrowseSize (s : BrowseServer) (id : String) (outcome : SizeOutcome) (now : Int) : BrowseServer :=
  match s.measuring id with
  | none => s
  | some m =>
    { s.finishSize id m.ref m.pathPrefix m.generationAtStart outcome now with measuring := s.measuring.erase id }

end BrowseServer

def reconcileStuckBrowseJobs (browseJobs : List BrowseJob) (now : Int) : List BrowseJob :=
  Rows.update browseJobs (fun job => job.status == .running) fun job =>
    { job with status := .failed, error := some "server restarted while job was in flight", updatedAt := now }

def newBrowseServer (browseJobs : List BrowseJob) (now : Int) : BrowseServer where
  sizes := ⟨fun _ => none, fun _ => none⟩
  activeDestinations := []
  activeSources := []
  browseJobs := reconcileStuckBrowseJobs browseJobs now
  writing := fun _ => none
  measuring := fun _ => none
  unplaced := fun _ => none

inductive BrowseEvent where
  | start (id : String) (folders : S3Folders) (request : BrowseRequest) (now : Int)
  /-- The temporary file of an upload without a store has been removed. -/
  | uploadFailed (id : String) (now : Int)
  | progress (id : String) (now : Int)
  | finish (id : String) (error : Option String) (now : Int)
  | size (id : String) (folders : S3Folders) (ref : BrowseRef) (pathPrefix : String) (walk : SizeOutcome) (now : Int)
  | sizeEnd (id : String) (outcome : SizeOutcome) (now : Int)
  /-- A cached size is asked for. -/
  | read (ref : BrowseRef) (pathPrefix : String) (now : Int)
  | restart (now : Int)

namespace BrowseServer

/-- There is a row with the id. -/
def hasJob (s : BrowseServer) (id : String) : Bool := s.browseJobs.any fun job => job.id == id

def step (s : BrowseServer) : BrowseEvent → BrowseServer
  | .start id folders request now => if s.hasJob id then s else s.startBrowse id folders request now
  | .uploadFailed id now => s.failUpload id now
  | .progress id now => s.progress id now
  | .finish id error now => s.finishWrite id error now
  | .size id folders ref pathPrefix walk now =>
    if s.hasJob id then s else s.startBrowseSize id folders ref pathPrefix walk now
  | .sizeEnd id outcome now => s.endBrowseSize id outcome now
  | .read ref pathPrefix now => { s with sizes := (s.sizes.getCachedPrefixSize ref pathPrefix now).1 }
  | .restart now => newBrowseServer s.browseJobs now

end BrowseServer

namespace BrowseServer

variable {s : BrowseServer} {id : String} {folders : S3Folders} {r : BrowseRequest} {now : Int}

def launched (s : BrowseServer) (id : String) (r : BrowseRequest) (stores : BrowseStore × BrowseStore) (now : Int) :
    BrowseServer :=
  (((s.occupy r).insertRunningJob id r now).bumpGenerations r).launch id r stores

private theorem bj_release_occupy (hbusy : s.isBusy r = false) : (s.occupy r).release r = s := by
  simp only [isBusy, Bool.or_eq_false_iff] at hbusy
  obtain ⟨⟨hdest, hsrc⟩, -⟩ := hbusy
  have hde : s.activeDestinations.filter (· ≠ r.dKey) = s.activeDestinations := by
    refine List.filter_eq_self.2 fun key hkey => decide_eq_true ?_
    rintro rfl
    rw [List.contains_iff_mem.2 hkey] at hdest
    cases hdest
  have hsrcs : (s.activeSources.filter fun key => some key ≠ r.sKey) = s.activeSources := by
    refine List.filter_eq_self.2 fun key hkey => decide_eq_true ?_
    intro heq
    rw [← heq, Option.any_some, List.contains_iff_mem.2 hkey] at hsrc
    cases hsrc
  have hown : (r.sKey.toList.filter fun key => some key ≠ r.sKey) = [] := by
    cases r.sKey <;> simp
  simp only [occupy, release, List.filter_append, hown, hsrcs, List.nil_append]
  rw [List.filter_cons_of_neg (by simp), hde]

theorem startBrowse_launched {stores : BrowseStore × BrowseStore} (hthr : r.throws = false)
    (hbusy : s.isBusy r = false) (hsto : r.stores folders = .ok stores) :
    s.startBrowse id folders r now = s.launched id r stores now := by
  unfold startBrowse
  rw [if_neg (by simp [hthr]), if_neg (by simp [hbusy])]
  cases r with
  | copy | move => simp only [startBrowseCopyMove, hsto, launched]
  | delete => simp only [startBrowseDelete, hsto]; rfl
  | rename | mkdir | upload => simp only [startBrowseEntry, hsto]; rfl

theorem startBrowse_cases (s : BrowseServer) (id : String) (folders : S3Folders) (r : BrowseRequest) (now : Int) :
    (∃ jobs sizes, s.startBrowse id folders r now = { s with browseJobs := jobs, sizes := sizes } ∧
      (sizes = s.sizes ∨ sizes = r.changedRefs.foldl SizeCache.bumpFolderWriteGeneration s.sizes) ∧
      (∀ job ∈ s.browseJobs, job.id ≠ id → job ∈ jobs) ∧
      (∀ i ∈ s.browseJobs.map BrowseJob.id, i ∈ jobs.map BrowseJob.id) ∧
      ∀ job ∈ jobs, job ∈ s.browseJobs ∨ job.status = .failed) ∨
    (∃ message, r.checksRows = false ∧ s.startBrowse id folders r now =
      { s.insertRunningJob id r now with unplaced := s.unplaced.put id ⟨r, message⟩ }) ∨
    ∃ stores, r.throws = false ∧ s.isBusy r = false ∧ r.stores folders = .ok stores ∧
      s.startBrowse id folders r now = s.launched id r stores now := by
  unfold startBrowse
  by_cases hthr : r.throws = true
  · rw [if_pos hthr]
    exact .inl ⟨s.browseJobs, s.sizes, rfl, .inl rfl, fun job hjob _ => hjob, fun i hi => hi,
      fun job hjob => .inl hjob⟩
  rw [if_neg hthr]
  have hids : ∀ new : BrowseJob, ∀ i ∈ s.browseJobs.map BrowseJob.id, i ∈ (s.browseJobs ++ [new]).map BrowseJob.id := by
    intro new i hi
    rw [List.map_append]
    exact List.mem_append_left _ hi
  by_cases hbusy : s.isBusy r = true
  · rw [if_pos hbusy]
    refine .inl ⟨_, s.sizes, rfl, .inl rfl, fun job hjob _ => List.mem_append_left _ hjob, hids _, ?_⟩
    intro job hjob
    rcases List.mem_append.1 hjob with hold | hnew
    · exact .inl hold
    · rw [List.mem_singleton.1 hnew]
      exact .inr rfl
  rw [if_neg hbusy]
  have hthr : r.throws = false := by simpa using hthr
  have hbusy : s.isBusy r = false := by simpa using hbusy
  -- a row of another job is not touched when the new one fails
  have hkept : ∀ (new : BrowseJob) (set : BrowseJob → BrowseJob), ∀ job ∈ s.browseJobs, job.id ≠ id →
      job ∈ Rows.update (s.browseJobs ++ [new]) (fun job => job.id == id) set := fun new set job hjob hid =>
    Rows.mem_update_of_refused (List.mem_append_left _ hjob) (beq_false_of_ne hid)
  have hfail : ∀ (new : BrowseJob) (set : BrowseJob → BrowseJob), (∀ job, (set job).id = job.id) →
      ∀ i ∈ s.browseJobs.map BrowseJob.id,
        i ∈ (Rows.update (s.browseJobs ++ [new]) (fun job => job.id == id) set).map BrowseJob.id := by
    intro new set hset i hi
    rw [Rows.map_update hset]
    exact hids new i hi
  have hst : ∀ (new : BrowseJob) (set : BrowseJob → BrowseJob), new.id = id → (∀ job, (set job).status = .failed) →
      ∀ job ∈ Rows.update (s.browseJobs ++ [new]) (fun job => job.id == id) set,
        job ∈ s.browseJobs ∨ job.status = .failed := by
    intro new set hid hset job' hjob'
    obtain ⟨job, hjob, rfl⟩ := Rows.mem_update.1 hjob'
    by_cases hown : job.id = id
    · rw [if_pos (beq_iff_eq.2 hown)]
      exact .inr (hset job)
    rw [if_neg (by simpa using hown)]
    rcases List.mem_append.1 hjob with hold | hnew
    · exact .inl hold
    · exact absurd hid (List.mem_singleton.1 hnew ▸ hown)
  have hfree := congrArg BrowseServer.activeDestinations (bj_release_occupy hbusy)
  have hfree' := congrArg BrowseServer.activeSources (bj_release_occupy hbusy)
  simp only [release, occupy] at hfree hfree'
  cases hsto : r.stores folders with
  | error message =>
    cases r with
    | copy | move | delete =>
      simp only [startBrowseCopyMove, startBrowseDelete, hsto, release, occupy, insertRunningJob, insertJob,
        bumpGenerations, failJob, writeJob, hfree, hfree']
      first
        | exact .inl ⟨_, _, rfl, .inl rfl, hkept _ _, hfail _ _ fun _ => rfl, hst _ _ rfl fun _ => rfl⟩
        | exact .inl ⟨_, _, rfl, .inr rfl, hkept _ _, hfail _ _ fun _ => rfl, hst _ _ rfl fun _ => rfl⟩
    | rename | mkdir =>
      simp only [startBrowseEntry, hsto]
      exact .inl ⟨_, _, rfl, .inl rfl, hkept _ _, hfail _ _ fun _ => rfl, hst _ _ rfl fun _ => rfl⟩
    | upload =>
      simp only [startBrowseEntry, hsto]
      exact .inr (.inl ⟨message, rfl, rfl⟩)
  | ok stores =>
    have hlau : s.startBrowse id folders r now = s.launched id r stores now :=
      startBrowse_launched hthr hbusy hsto
    unfold startBrowse at hlau
    rw [if_neg (by simp [hthr]), if_neg (by simp [hbusy])] at hlau
    exact .inr (.inr ⟨stores, hthr, hbusy, rfl, hlau⟩)

end BrowseServer

/-- The rows after a step: those of before are still there, perhaps rewritten. -/
def KeepsIds (jobs jobs' : List BrowseJob) : Prop := ∀ i ∈ jobs.map BrowseJob.id, i ∈ jobs'.map BrowseJob.id

private theorem bj_keepsIds_refl (jobs : List BrowseJob) : KeepsIds jobs jobs := fun _ hi => hi

private theorem bj_keepsIds_append (jobs : List BrowseJob) (job : BrowseJob) : KeepsIds jobs (jobs ++ [job]) := by
  intro i hi
  rw [List.map_append]
  exact List.mem_append_left _ hi

variable {id : String} {s : BrowseServer} {now : Int}

private theorem bj_keepsIds_update {jobs jobs' : List BrowseJob} {set : BrowseJob → BrowseJob}
    (h : KeepsIds jobs jobs') (hset : ∀ job, (set job).id = job.id) :
    KeepsIds jobs (Rows.update jobs' (fun job => job.id == id) set) := by
  intro i hi
  rw [Rows.map_update hset]
  exact h i hi

/-- A measurement that a step puts in the cache. -/
structure BrowseSeed where
  id : String
  ref : BrowseRef
  pathPrefix : String
  store : BrowseStore
  size : PrefixSizeCount

/-- The measurement a step puts in the cache, if there is one. -/
def BrowseServer.seeds (s : BrowseServer) : BrowseEvent → Option BrowseSeed
  | .size id folders ref pathPrefix (.measured size) _ =>
    if s.hasJob id = true ∨ pathPrefix = "" ∨ isSafePath ref.path pathPrefix = false then none
    else
      match ref.kind, ref.store folders with
      | .local_, .ok store => some ⟨id, ref, pathPrefix, store, size⟩
      | _, _ => none
  | .sizeEnd id (.measured size) _ =>
    match s.measuring id with
    | none => none
    | some m =>
      if m.generationAtStart < s.sizes.folderWriteGeneration m.ref then none
      else some ⟨id, m.ref, m.pathPrefix, m.store, size⟩
  | _ => none

/-- What a step can do. -/
inductive BrowseMove (s : BrowseServer) : BrowseEvent → BrowseServer → Prop
  | rows {e : BrowseEvent} {jobs : List BrowseJob} {sizes : SizeCache} {unplaced : Table String UnplacedUpload}
      (hids : KeepsIds s.browseJobs jobs)
      (hseeds : s.seeds e = none)
      (hsizes : sizes = s.sizes ∨ ∃ refs : List BrowseRef, sizes = refs.foldl SizeCache.bumpFolderWriteGeneration s.sizes) :
      BrowseMove s e { s with browseJobs := jobs, sizes := sizes, unplaced := unplaced }
  | launch {id : String} {folders : S3Folders} {r : BrowseRequest} {now : Int} {stores : BrowseStore × BrowseStore}
      (hnew : s.hasJob id = false) (hthrows : r.throws = false) (hbusy : s.isBusy r = false)
      (hstores : r.stores folders = .ok stores) :
      BrowseMove s (.start id folders r now) (s.launched id r stores now)
  | finish {id : String} {error : Option String} {now : Int} {w : BrowseWrite} {jobs : List BrowseJob}
      (hw : s.writing id = some w) (hids : KeepsIds s.browseJobs jobs) : BrowseMove s (.finish id error now)
        { s with
          browseJobs := jobs
          sizes := w.request.changedRefs.foldl SizeCache.dropFolderPrefixSizes s.sizes
          activeDestinations := s.activeDestinations.filter (· ≠ w.request.dKey)
          activeSources := s.activeSources.filter fun key => some key ≠ w.request.sKey
          writing := s.writing.erase id }
  | measure {id : String} {folders : S3Folders} {ref : BrowseRef} {pathPrefix : String} {walk : SizeOutcome} {now : Int}
      {store : BrowseStore} {jobs : List BrowseJob} (hnew : s.hasJob id = false) (hkind : ref.kind = .s3)
      (hseeds : s.seeds (.size id folders ref pathPrefix walk now) = none)
      (hstore : ref.store folders = .ok store) (hids : KeepsIds s.browseJobs jobs)
      (hid : id ∈ jobs.map BrowseJob.id) : BrowseMove s (.size id folders ref pathPrefix walk now)
        { s with
          browseJobs := jobs
          measuring := s.measuring.put id ⟨ref, pathPrefix, store, s.sizes.folderWriteGeneration ref⟩ }
  | walked {id : String} {folders : S3Folders} {ref : BrowseRef} {pathPrefix : String} {size : PrefixSizeCount} {now : Int}
      {store : BrowseStore} {jobs : List BrowseJob} (hnew : s.hasJob id = false)
      (hseeds : s.seeds (.size id folders ref pathPrefix (.measured size) now) = some ⟨id, ref, pathPrefix, store, size⟩)
      (hstore : ref.store folders = .ok store) (hids : KeepsIds s.browseJobs jobs) :
    BrowseMove s (.size id folders ref pathPrefix (.measured size) now)
        { s with
          browseJobs := jobs
          sizes := s.sizes.seedPrefixSize ref pathPrefix size (s.sizes.folderWriteGeneration ref) now }
  | seeded {id : String} {m : BrowseMeasurement} {size : PrefixSizeCount} {now : Int} {jobs : List BrowseJob}
      (hm : s.measuring id = some m) (hids : KeepsIds s.browseJobs jobs) : BrowseMove s (.sizeEnd id (.measured size) now)
        { s with
          browseJobs := jobs
          sizes := s.sizes.seedPrefixSize m.ref m.pathPrefix size m.generationAtStart now
          measuring := s.measuring.erase id }
  | unmeasured {id : String} {outcome : SizeOutcome} {now : Int} {jobs : List BrowseJob}
      (hids : KeepsIds s.browseJobs jobs) (hseeds : s.seeds (.sizeEnd id outcome now) = none) :
      BrowseMove s (.sizeEnd id outcome now) { s with browseJobs := jobs, measuring := s.measuring.erase id }
  | read {ref : BrowseRef} {pathPrefix : String} {now : Int} : BrowseMove s (.read ref pathPrefix now)
      { s with sizes := (s.sizes.getCachedPrefixSize ref pathPrefix now).1 }
  | restart {now : Int} : BrowseMove s (.restart now) (newBrowseServer s.browseJobs now)

private theorem bj_finishMove {error : Option String} :
    BrowseMove s (.finish id error now) (s.finishWrite id error now) := by
  unfold BrowseServer.finishWrite
  cases hw : s.writing id with
  | none => exact .rows (bj_keepsIds_refl _) rfl (.inl rfl)
  | some w =>
    refine .finish hw (bj_keepsIds_update (bj_keepsIds_refl _) ?_)
    intro job
    cases error <;> rfl

private theorem bj_sizeMove {folders : S3Folders} {ref : BrowseRef} {pathPrefix : String}
    {walk : SizeOutcome} (hnew : s.hasJob id = false) :
    BrowseMove s (.size id folders ref pathPrefix walk now) (s.startBrowseSize id folders ref pathPrefix walk now) := by
  have hids := bj_keepsIds_append s.browseJobs
  unfold BrowseServer.startBrowseSize
  by_cases hin : pathPrefix = "" ∨ isSafePath ref.path pathPrefix = false
  · rw [if_pos hin]
    refine .rows (bj_keepsIds_refl _) ?_ (.inl rfl)
    cases walk with
    | measured size => exact if_pos (.inr hin)
    | s3ListObjectsError | error => rfl
  rw [if_neg hin]
  have hv : ¬ (s.hasJob id = true ∨ pathPrefix = "" ∨ isSafePath ref.path pathPrefix = false) := by
    simpa [hnew] using hin
  cases hst : ref.store folders with
  | error message =>
    refine .rows (bj_keepsIds_update (hids _) fun _ => rfl) ?_ (.inl rfl)
    cases walk with
    | measured size =>
      refine (if_neg hv).trans ?_
      rw [hst]
      cases ref.kind <;> rfl
    | s3ListObjectsError | error => rfl
  | ok store =>
    cases hkind : ref.kind with
    | local_ =>
      cases walk with
      | measured size =>
        refine .walked hnew ?_ hst (bj_keepsIds_update (hids _) fun _ => rfl)
        refine (if_neg hv).trans ?_
        rw [hst, hkind]
      | s3ListObjectsError | error => exact .rows (bj_keepsIds_update (hids _) fun _ => rfl) rfl (.inl rfl)
    | s3 =>
      refine .measure hnew hkind ?_ hst (hids _) ?_
      · cases walk with
        | measured size =>
          refine (if_neg hv).trans ?_
          rw [hkind]
        | s3ListObjectsError | error => rfl
      · exact List.mem_map.2 ⟨_, List.mem_append_right _ (.head _), rfl⟩

private theorem bj_sizeEndMove {outcome : SizeOutcome} :
    BrowseMove s (.sizeEnd id outcome now) (s.endBrowseSize id outcome now) := by
  have hids := bj_keepsIds_refl s.browseJobs
  unfold BrowseServer.endBrowseSize
  cases hm : s.measuring id with
  | none =>
    refine .rows hids ?_ (.inl rfl)
    cases outcome with
    | measured size => simp only [BrowseServer.seeds, hm]
    | s3ListObjectsError | error => rfl
  | some m =>
    cases outcome with
    | measured size => exact .seeded hm (bj_keepsIds_update hids fun _ => rfl)
    | s3ListObjectsError | error => exact .unmeasured (bj_keepsIds_update hids fun _ => rfl) rfl

theorem browseStep_move (s : BrowseServer) (e : BrowseEvent) : BrowseMove s e (s.step e) := by
  have hids := bj_keepsIds_refl s.browseJobs
  cases e with
  | start id folders r now =>
    show BrowseMove s _ (if s.hasJob id then s else s.startBrowse id folders r now)
    split
    · exact .rows hids rfl (.inl rfl)
    rename_i hold
    rcases s.startBrowse_cases id folders r now with ⟨jobs, sizes, heq, hsi, -, hkept, -⟩ | ⟨message, -, heq⟩ |
      ⟨stores, hthr, hbusy, hsto, heq⟩
    · rw [heq]
      exact .rows hkept rfl (hsi.imp_right fun h => ⟨r.changedRefs, h⟩)
    · rw [heq]
      exact .rows (bj_keepsIds_append _ _) rfl (.inl rfl)
    · rw [heq]
      exact .launch (by simpa using hold) hthr hbusy hsto
  | uploadFailed id now =>
    show BrowseMove s _ (s.failUpload id now)
    unfold BrowseServer.failUpload
    split
    · exact .rows hids rfl (.inl rfl)
    · exact .rows (bj_keepsIds_update hids fun _ => rfl) rfl (.inl rfl)
  | progress id now =>
    show BrowseMove s _ (s.progress id now)
    unfold BrowseServer.progress
    split
    · exact .rows hids rfl (.inl rfl)
    · exact .rows (bj_keepsIds_update hids fun _ => rfl) rfl (.inl rfl)
  | finish id error now => exact bj_finishMove
  | size id folders ref pathPrefix walk now =>
    show BrowseMove s _ (if s.hasJob id then s else s.startBrowseSize id folders ref pathPrefix walk now)
    split
    · rename_i hold
      refine .rows hids ?_ (.inl rfl)
      cases walk with
      | measured size => exact if_pos (.inl hold)
      | s3ListObjectsError | error => rfl
    · rename_i hold
      exact bj_sizeMove (by simpa using hold)
  | sizeEnd id outcome now => exact bj_sizeEndMove
  | read ref pathPrefix now => exact .read
  | restart now => exact .restart

end LamaSync
