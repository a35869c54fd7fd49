import LamaSync.Server.BrowseJobs

/-!
# Exclusion of Data Browser jobs

Two jobs conflict when an entry that one of them writes or removes meets an entry the other works on.  The guard compares
texts, so two jobs that conflict run at once exactly when they have no key in common (`sharesKey`): one works inside what
the other does, or they spell one place differently, or they name different sets of entries.

`BrowseInv` says that the keys and the rows of the jobs that run are where the guard looks, and that an unfinished row is
that of a job that runs or of an upload that found no store.
-/

namespace LamaSync

open Trace
open Table (put_of_ne erase_of_ne put_self)

namespace BrowseWrite

/-- Everything it works on. -/
def touched (w : BrowseWrite) : List Place := (w.changes.map fun change => change.2) ++ w.reads

/-- An entry of the one meets an entry of the other, and one of the two is written or removed. -/
def Conflicts (w w' : BrowseWrite) : Prop :=
  ∃ p ∈ w.touched, ∃ q ∈ w'.touched, p.Meets q ∧
    (p ∈ w.changes.map (fun change => change.2) ∨ q ∈ w'.changes.map fun change => change.2)

instance (w w' : BrowseWrite) : Decidable (w.Conflicts w') := inferInstanceAs (Decidable (∃ _ ∈ _, ∃ _ ∈ _, _ ∧ (_ ∨ _)))

theorem Conflicts.symm {w w' : BrowseWrite} (h : w.Conflicts w') : w'.Conflicts w := by
  obtain ⟨p, hp, q, hq, hme, hchg⟩ := h
  exact ⟨q, hq, p, hp, hme.symm, hchg.symm⟩

end BrowseWrite

/-- The unfinished row of the old request stands in the way of the new one. -/
def BrowseRequest.sharesRow (new old : BrowseRequest) : Bool :=
  new.checksRows && (old.rowDestination == new.dKey || new.sKey.any (old.rowSource == ·))

def BrowseRequest.sharesKey (new old : BrowseRequest) : Bool :=
  new.dKey == old.dKey || new.sKey.any (old.sKey == some ·) || new.sharesRow old

namespace BrowseServer

variable (s : BrowseServer)

/-- No two of the jobs that run conflict. -/
def Exclusive : Prop :=
  ∀ i j w w', i ≠ j → s.writing i = some w → s.writing j = some w' → ¬ w.Conflicts w'

def ConflictsShareKey : BrowseEvent → Prop
  | .start id folders r _ => s.hasJob id = false → r.throws = false → ∀ stores, r.stores folders = .ok stores →
      (∃ j w, s.writing j = some w ∧ BrowseWrite.Conflicts ⟨r, stores.1, stores.2⟩ w) →
        (∃ j w, s.writing j = some w ∧ r.sharesKey w.request = true) ∨
          ∃ j upload, s.unplaced j = some upload ∧ r.sharesRow upload.request = true
  | _ => True

end BrowseServer

/-- The row of a measurement. -/
def BrowseJob.IsSize (job : BrowseJob) : Prop := ∃ text, job.source = "size:" ++ text ∧ job.destination = "size:" ++ text

def BrowseJob.IsOf (job : BrowseJob) (r : BrowseRequest) : Prop := job.source = r.rowSource ∧ job.destination = r.rowDestination

/-- An unfinished row is that of a measurement, of a write that runs, or of an upload that is about to fail. -/
def BrowseJob.Fits (writing : Table String BrowseWrite) (unplaced : Table String UnplacedUpload) (job : BrowseJob) : Prop :=
  job.status ≠ .pending ∧ (job.status = .running → job.IsSize ∨ (∃ w, writing job.id = some w ∧ job.IsOf w.request) ∨
    ∃ upload, unplaced job.id = some upload ∧ job.IsOf upload.request)

/-- The keys in use and the unfinished rows are those of the jobs that run, and no two of these have a key in common. -/
structure BrowseInv (s : BrowseServer) : Prop where
  destination : ∀ i w, s.writing i = some w → w.request.dKey ∈ s.activeDestinations
  source : ∀ i w key, s.writing i = some w → w.request.sKey = some key → key ∈ s.activeSources
  row : ∀ i w, s.writing i = some w → ∃ job ∈ s.browseJobs, job.id = i ∧ job.status = .running ∧ job.IsOf w.request
  distinct : ∀ i j w w', i ≠ j → s.writing i = some w → s.writing j = some w' → w.request.dKey ≠ w'.request.dKey ∧
    ∀ key, w.request.sKey = some key → w'.request.sKey ≠ some key
  sizing : ∀ i m, s.measuring i = some m → s.writing i = none ∧ i ∈ s.browseJobs.map BrowseJob.id
  heldDestination : ∀ key ∈ s.activeDestinations, ∃ i w, s.writing i = some w ∧ w.request.dKey = key
  heldSource : ∀ key ∈ s.activeSources, ∃ i w, s.writing i = some w ∧ w.request.sKey = some key
  unplaced : ∀ i upload, s.unplaced i = some upload → s.writing i = none ∧ s.measuring i = none ∧
    ∃ job ∈ s.browseJobs, job.id = i ∧ job.status = .running ∧ job.IsOf upload.request
  fits : ∀ job ∈ s.browseJobs, job.Fits s.writing s.unplaced

variable {s : BrowseServer} {id : String} {r : BrowseRequest} {now : Int}

variable {jobs : List BrowseJob}

theorem browseInv_new (hjobs : ∀ job ∈ jobs, job.status ≠ .pending) :
    BrowseInv (newBrowseServer jobs now) where
  destination i w hw := by cases hw
  source i w key hw := by cases hw
  row i w hw := by cases hw
  distinct i j w w' hij hw := by cases hw
  sizing i m hm := by cases hm
  heldDestination key hkey := by cases hkey
  heldSource key hkey := by cases hkey
  unplaced i upload hup := by cases hup
  fits job' hjob' := by
    obtain ⟨job, hjob, rfl⟩ := Rows.mem_update.1 hjob'
    by_cases hrun : job.status = .running
    · rw [if_pos (beq_iff_eq.2 hrun)]
      exact ⟨by simp, by simp⟩
    · rw [if_neg (by simpa using hrun)]
      exact ⟨hjobs job hjob, fun heq => absurd heq hrun⟩

theorem hasJob_iff {i : String} : s.hasJob i = true ↔ i ∈ s.browseJobs.map BrowseJob.id := by
  simp [BrowseServer.hasJob]

theorem BrowseInv.fresh (h : BrowseInv s) (hnew : s.hasJob id = false) :
    s.writing id = none ∧ s.measuring id = none ∧ s.unplaced id = none := by
  have hno : id ∉ s.browseJobs.map BrowseJob.id := by
    rw [← hasJob_iff, hnew]
    exact Bool.false_ne_true
  refine ⟨?_, ?_, ?_⟩
  · cases hw : s.writing id with
    | none => rfl
    | some w =>
      obtain ⟨job, hjob, hid, -⟩ := h.row id w hw
      exact absurd (List.mem_map.2 ⟨job, hjob, hid⟩) hno
  · cases hm : s.measuring id with
    | none => rfl
    | some m => exact absurd (h.sizing id m hm).2 hno
  · cases hup : s.unplaced id with
    | none => rfl
    | some upload =>
      obtain ⟨-, -, job, hjob, hid, -⟩ := h.unplaced id upload hup
      exact absurd (List.mem_map.2 ⟨job, hjob, hid⟩) hno

private theorem bx_destKey_ne (ref : BrowseRef) (text : String) : destKey ref ≠ "size:" ++ text := by
  intro heq
  have hch := congrArg String.toList heq
  cases hkind : ref.kind <;> simp [destKey, BrowseKind.text, hkind] at hch

private theorem bx_keys_ne (r : BrowseRequest) (text : String) :
    r.dKey ≠ "size:" ++ text ∧ r.sKey ≠ some ("size:" ++ text) := by
  have hsrc : ∀ (ref : BrowseRef) (names : String), destKey ref ++ "|" ++ names ≠ "size:" ++ text := by
    intro ref names heq
    have hch := congrArg String.toList heq
    cases hkind : ref.kind <;> simp [destKey, BrowseKind.text, hkind] at hch
  cases r with
  | copy src dst names | move src dst names =>
    exact ⟨bx_destKey_ne _ text, fun heq => hsrc _ _ (Option.some.inj heq)⟩
  | rename ref source target | delete ref names => exact ⟨bx_destKey_ne _ text, fun heq => hsrc _ _ (Option.some.inj heq)⟩
  | mkdir ref name | upload dst fileName => exact ⟨bx_destKey_ne _ text, by simp [BrowseRequest.sKey]⟩

/-- A row in the way is that of the job it belongs to. -/
private theorem bx_sharesRow {job : BrowseJob} {old : BrowseRequest} (h : job.IsOf old) :
    (r.checksRows && (job.destination == r.dKey || r.sKey.any (job.source == ·))) = r.sharesRow old := by
  unfold BrowseRequest.sharesRow
  rw [h.1, h.2]

theorem BrowseInv.isBusy_iff (h : BrowseInv s) :
    s.isBusy r = true ↔ (∃ i w, s.writing i = some w ∧ r.sharesKey w.request = true) ∨
      ∃ i upload, s.unplaced i = some upload ∧ r.sharesRow upload.request = true := by
  have hrow : ∀ job ∈ s.browseJobs, job.status = .running → ∀ {old}, job.IsOf old → r.sharesRow old = true →
      s.isBusy r = true := by
    intro job hjob hst old hold hsh
    rw [← bx_sharesRow hold, Bool.and_eq_true] at hsh
    simp only [BrowseServer.isBusy, Bool.or_eq_true, Bool.and_eq_true]
    refine .inr ⟨hsh.1, List.any_eq_true.2 ⟨job, hjob, ?_⟩⟩
    rw [hst, hsh.2]
    rfl
  constructor
  · simp only [BrowseServer.isBusy, Bool.or_eq_true, Bool.and_eq_true]
    rintro ((hdest | hsrc) | ⟨hch, hrow⟩)
    · obtain ⟨i, w, hw, hkey⟩ := h.heldDestination _ (List.contains_iff_mem.1 hdest)
      exact .inl ⟨i, w, hw, by simp [BrowseRequest.sharesKey, hkey]⟩
    · obtain ⟨key, hkey, hmem⟩ := (Option.any_eq_true ..).1 hsrc
      obtain ⟨i, w, hw, hsame⟩ := h.heldSource key (List.contains_iff_mem.1 hmem)
      exact .inl ⟨i, w, hw, by simp [BrowseRequest.sharesKey, hkey, hsame]⟩
    · obtain ⟨job, hjob, htext⟩ := List.any_eq_true.1 hrow
      rw [Bool.and_eq_true] at htext
      obtain ⟨hpend, hfits⟩ := h.fits job hjob
      have hsh : ∀ {old}, job.IsOf old → r.sharesRow old = true := by
        intro old hold
        rw [← bx_sharesRow hold, hch, htext.2]
        rfl
      have hrun : job.status = .running := by
        have hst : job.status = .pending ∨ job.status = .running := by simpa using htext.1
        exact hst.resolve_left hpend
      rcases hfits hrun with ⟨text, hsrc, hdest⟩ | ⟨w, hw, hold⟩ | ⟨upload, hup, hold⟩
      · exfalso
        rcases Bool.or_eq_true_iff.1 htext.2 with heq | hany
        · exact (bx_keys_ne r text).1 ((beq_iff_eq.1 heq).symm.trans hdest)
        · obtain ⟨key, hkey, hsame⟩ := (Option.any_eq_true ..).1 hany
          exact (bx_keys_ne r text).2 (hkey.trans (congrArg some ((beq_iff_eq.1 hsame).symm.trans hsrc)))
      · exact .inl ⟨job.id, w, hw, by simp [BrowseRequest.sharesKey, hsh hold]⟩
      · exact .inr ⟨job.id, upload, hup, hsh hold⟩
  · rintro (⟨i, w, hw, hsh⟩ | ⟨i, upload, hup, hsh⟩)
    · simp only [BrowseRequest.sharesKey, Bool.or_eq_true] at hsh
      rcases hsh with (hdest | hsrc) | hsh
      · have hmem := h.destination i w hw
        rw [← beq_iff_eq.1 hdest] at hmem
        simp [BrowseServer.isBusy, hmem]
      · obtain ⟨key, hkey, hsame⟩ := (Option.any_eq_true ..).1 hsrc
        have hmem := h.source i w key hw (beq_iff_eq.1 hsame)
        simp [BrowseServer.isBusy, hkey, hmem]
      · obtain ⟨job, hjob, -, hst, hold⟩ := h.row i w hw
        exact hrow job hjob hst hold hsh
    · obtain ⟨-, -, job, hjob, -, hst, hold⟩ := h.unplaced i upload hup
      exact hrow job hjob hst hold hsh

/-- Only the row `id` changes, and what is measured or about to fail under it. -/
private theorem bx_kept (h : BrowseInv s) {sizes : SizeCache} {measuring : Table String BrowseMeasurement}
    {unplaced : Table String UnplacedUpload} (hid : s.writing id = none)
    (hrows : ∀ job ∈ s.browseJobs, job.id ≠ id → job ∈ jobs)
    (hids : ∀ i ∈ s.browseJobs.map BrowseJob.id, i ∈ jobs.map BrowseJob.id)
    (hfits : ∀ job ∈ jobs, job.Fits s.writing unplaced)
    (hmeas : ∀ i m, measuring i = some m → s.measuring i = some m ∨ (i = id ∧ id ∈ jobs.map BrowseJob.id))
    (hun : ∀ i upload, unplaced i = some upload → (i ≠ id ∧ s.unplaced i = some upload) ∨
      (i = id ∧ measuring id = none ∧
        ∃ job ∈ jobs, job.id = id ∧ job.status = .running ∧ job.IsOf upload.request)) :
    BrowseInv { s with browseJobs := jobs, sizes := sizes, measuring := measuring, unplaced := unplaced } where
  destination := h.destination
  source := h.source
  row i w hw := by
    obtain ⟨job, hjob, hjobId, hrest⟩ := h.row i w hw
    refine ⟨job, hrows job hjob ?_, hjobId, hrest⟩
    rintro rfl
    rw [hjobId, hw] at hid
    cases hid
  distinct := h.distinct
  heldDestination := h.heldDestination
  heldSource := h.heldSource
  unplaced i upload hup := by
    rcases hun i upload hup with ⟨hi, hold⟩ | ⟨rfl, hnone, hrow⟩
    · obtain ⟨hwr, hnone, job, hjob, hjobId, hrest⟩ := h.unplaced i upload hold
      refine ⟨hwr, Option.eq_none_iff_forall_ne_some.2 ?_, job, hrows job hjob (hjobId ▸ hi), hjobId, hrest⟩
      intro m hm
      rcases hmeas i m hm with hwas | ⟨heq, -⟩
      · cases hnone.symm.trans hwas
      · exact absurd heq hi
    · exact ⟨hid, hnone, hrow⟩
  fits := hfits
  sizing i m hm := by
    rcases hmeas i m hm with hold | ⟨rfl, hmem⟩
    · exact ⟨(h.sizing i m hold).1, hids i (h.sizing i m hold).2⟩
    · exact ⟨hid, hmem⟩

private theorem bx_unplaced_ne {i : String} {upload : UnplacedUpload} (hnone : s.unplaced id = none)
    (hup : s.unplaced i = some upload) : i ≠ id ∧ s.unplaced i = some upload := by
  refine ⟨?_, hup⟩
  rintro rfl
  cases hnone.symm.trans hup

private theorem bx_launched (h : BrowseInv s) (hnew : s.hasJob id = false) (hbusy : s.isBusy r = false)
    (stores : BrowseStore × BrowseStore) : BrowseInv (s.launched id r stores now) := by
  have hwr : ∀ i w, (s.launched id r stores now).writing i = some w →
      (i = id ∧ w = ⟨r, stores.1, stores.2⟩) ∨ (i ≠ id ∧ s.writing i = some w) := by
    intro i w hw
    by_cases hi : i = id
    · subst hi
      exact .inl ⟨rfl, Option.mem_unique hw put_self⟩
    · exact .inr ⟨hi, (put_of_ne hi).symm.trans hw⟩
  have hsy : ∀ i w, s.writing i = some w → (s.launched id r stores now).writing i = some w := by
    intro i w hw
    refine (put_of_ne ?_).trans hw
    rintro rfl
    cases (h.fresh hnew).1.symm.trans hw
  have hfree : ∀ i w, s.writing i = some w → r.dKey ≠ w.request.dKey ∧
      ∀ key, r.sKey = some key → w.request.sKey ≠ some key := by
    intro i w hw
    have hno : ¬ (r.sharesKey w.request = true) := by
      intro hsh
      rw [h.isBusy_iff.2 (.inl ⟨i, w, hw, hsh⟩)] at hbusy
      cases hbusy
    simp only [BrowseRequest.sharesKey, Bool.or_eq_true, not_or] at hno
    refine ⟨fun heq => hno.1.1 (beq_iff_eq.2 heq), ?_⟩
    intro key hkey heq
    exact hno.1.2 ((Option.any_eq_true ..).2 ⟨key, hkey, beq_iff_eq.2 heq⟩)
  constructor
  · intro i w hw
    rcases hwr i w hw with ⟨rfl, rfl⟩ | ⟨-, hold⟩
    · exact .head _
    · exact .tail _ (h.destination i w hold)
  · intro i w key hw hkey
    rcases hwr i w hw with ⟨rfl, rfl⟩ | ⟨-, hold⟩
    · exact List.mem_append_left _ (Option.mem_toList.2 hkey)
    · exact List.mem_append_right _ (h.source i w key hold hkey)
  · intro i w hw
    rcases hwr i w hw with ⟨rfl, rfl⟩ | ⟨-, hold⟩
    · exact ⟨_, List.mem_append_right _ (.head _), rfl, rfl, ⟨rfl, rfl⟩⟩
    · obtain ⟨job, hjob, hrest⟩ := h.row i w hold
      exact ⟨job, List.mem_append_left _ hjob, hrest⟩
  · intro i j w w' hij hw hw'
    rcases hwr i w hw with ⟨rfl, rfl⟩ | ⟨-, hold⟩
    · rcases hwr j w' hw' with ⟨rfl, -⟩ | ⟨-, hold'⟩
      · exact absurd rfl hij
      · exact hfree j w' hold'
    rcases hwr j w' hw' with ⟨rfl, rfl⟩ | ⟨-, hold'⟩
    · obtain ⟨hdKey, hsKey⟩ := hfree i w hold
      exact ⟨hdKey.symm, fun key hkey heq => hsKey key heq hkey⟩
    · exact h.distinct i j w w' hij hold hold'
  · intro i m hm
    obtain ⟨hnone, hmem⟩ := h.sizing i m hm
    have hi : i ≠ id := by
      rintro rfl
      cases (h.fresh hnew).2.1.symm.trans hm
    refine ⟨(put_of_ne hi).trans hnone, ?_⟩
    refine List.mem_map.2 ?_
    obtain ⟨job, hjob, hid⟩ := List.mem_map.1 hmem
    exact ⟨job, List.mem_append_left _ hjob, hid⟩
  · intro key hkey
    rcases List.mem_cons.1 hkey with rfl | hold
    · exact ⟨id, _, put_self, rfl⟩
    · obtain ⟨i, w, hw, hkey⟩ := h.heldDestination key hold
      exact ⟨i, w, hsy i w hw, hkey⟩
  · intro key hkey
    rcases List.mem_append.1 hkey with hnew | hold
    · exact ⟨id, _, put_self, Option.mem_toList.1 hnew⟩
    · obtain ⟨i, w, hw, hkey⟩ := h.heldSource key hold
      exact ⟨i, w, hsy i w hw, hkey⟩
  · intro i upload hup
    obtain ⟨hwr, hmeas, job, hjob, hrest⟩ := h.unplaced i upload hup
    obtain ⟨hi, -⟩ := bx_unplaced_ne (h.fresh hnew).2.2 hup
    exact ⟨(put_of_ne hi).trans hwr, hmeas, job, List.mem_append_left _ hjob, hrest⟩
  · intro job hjob
    rcases List.mem_append.1 hjob with hold | hnew
    · obtain ⟨hpend, hfits⟩ := h.fits job hold
      refine ⟨hpend, fun hrun => (hfits hrun).imp_right (Or.imp_left ?_)⟩
      rintro ⟨w, hw, hrest⟩
      exact ⟨w, hsy _ w hw, hrest⟩
    · rw [List.mem_singleton.1 hnew]
      exact ⟨by simp, fun _ => .inr (.inl ⟨_, put_self, rfl, rfl⟩)⟩

private theorem bx_progress (h : BrowseInv s) : BrowseInv (s.progress id now) := by
  unfold BrowseServer.progress
  split
  · exact h
  have hkept : ∀ {i : String} {r : BrowseRequest},
      (∃ job ∈ s.browseJobs, job.id = i ∧ job.status = .running ∧ job.IsOf r) →
      ∃ job ∈ (s.writeJob id fun job => { job with progressBytes := job.progressBytes.map (· + 1), updatedAt := now }).browseJobs,
        job.id = i ∧ job.status = .running ∧ job.IsOf r := by
    rintro i r ⟨job, hjob, hid, hst, hold⟩
    refine ⟨_, Rows.mem_update_of_mem hjob, ?_⟩
    split <;> exact ⟨hid, hst, hold⟩
  refine ⟨h.destination, h.source, fun i w hw => hkept (h.row i w hw), h.distinct, ?_, h.heldDestination, h.heldSource,
    ?_, ?_⟩
  · intro i m hm
    obtain ⟨hnone, hmem⟩ := h.sizing i m hm
    refine ⟨hnone, ?_⟩
    show i ∈ (Rows.update s.browseJobs _ _).map BrowseJob.id
    rw [Rows.map_update]
    · exact hmem
    · intro job
      rfl
  · intro i upload hup
    obtain ⟨hwr, hmeas, hrow⟩ := h.unplaced i upload hup
    exact ⟨hwr, hmeas, hkept hrow⟩
  · intro job' hjob'
    obtain ⟨job, hjob, rfl⟩ := Rows.mem_update.1 hjob'
    split <;> exact h.fits job hjob

private theorem bx_finish (h : BrowseInv s) (error : Option String) : BrowseInv (s.finishWrite id error now) := by
  unfold BrowseServer.finishWrite
  cases hw : s.writing id with
  | none => exact h
  | some ended =>
    have hwr : ∀ i w, s.writing.erase id i = some w → i ≠ id ∧ s.writing i = some w := by
      intro i w hw'
      have hi : i ≠ id := by
        rintro rfl
        cases Table.erase_self.symm.trans hw'
      exact ⟨hi, (erase_of_ne hi).symm.trans hw'⟩
    have hsy : ∀ i w, s.writing i = some w → w ≠ ended → s.writing.erase id i = some w := by
      intro i w hw' hne
      refine (erase_of_ne ?_).trans hw'
      rintro rfl
      exact hne (Table.unique hw' hw)
    constructor
    · intro i w hw'
      obtain ⟨hi, hold⟩ := hwr i w hw'
      exact List.mem_filter.2 ⟨h.destination i w hold, decide_eq_true (h.distinct i id w ended hi hold hw).1⟩
    · intro i w key hw' hkey
      obtain ⟨hi, hold⟩ := hwr i w hw'
      refine List.mem_filter.2 ⟨h.source i w key hold hkey, decide_eq_true ?_⟩
      exact fun heq => (h.distinct i id w ended hi hold hw).2 key hkey heq.symm
    · intro i w hw'
      obtain ⟨hi, hold⟩ := hwr i w hw'
      obtain ⟨job, hjob, hid, hrest⟩ := h.row i w hold
      exact ⟨job, Rows.mem_update_of_refused hjob (beq_false_of_ne (hid ▸ hi)), hid, hrest⟩
    · intro i j w w' hij hw' hw''
      exact h.distinct i j w w' hij (hwr i w hw').2 (hwr j w' hw'').2
    · intro i m hm
      obtain ⟨hnone, hmem⟩ := h.sizing i m hm
      have hi : i ≠ id := by
        rintro rfl
        cases hnone.symm.trans hw
      refine ⟨(erase_of_ne hi).trans hnone, ?_⟩
      show i ∈ (Rows.update s.browseJobs _ _).map BrowseJob.id
      rw [Rows.map_update]
      · exact hmem
      · intro job
        cases error <;> rfl
    · intro key hkey
      obtain ⟨hmem, hne⟩ := List.mem_filter.1 hkey
      obtain ⟨i, w, hw', rfl⟩ := h.heldDestination key hmem
      exact ⟨i, w, hsy i w hw' (by rintro rfl; simp at hne), rfl⟩
    · intro key hkey
      obtain ⟨hmem, hne⟩ := List.mem_filter.1 hkey
      obtain ⟨i, w, hw', hsKey⟩ := h.heldSource key hmem
      exact ⟨i, w, hsy i w hw' (by rintro rfl; simp [hsKey] at hne), hsKey⟩
    · intro i upload hup
      obtain ⟨hnone, hmeas, job, hjob, hid, hrest⟩ := h.unplaced i upload hup
      have hi : i ≠ id := by
        rintro rfl
        cases hnone.symm.trans hw
      exact ⟨(erase_of_ne hi).trans hnone, hmeas, job,
        Rows.mem_update_of_refused hjob (beq_false_of_ne (hid ▸ hi)), hid, hrest⟩
    · intro job' hjob'
      obtain ⟨job, hjob, rfl⟩ := Rows.mem_update.1 hjob'
      by_cases hown : job.id = id
      · rw [if_pos (beq_iff_eq.2 hown)]
        cases error <;> exact ⟨by simp, by simp⟩
      rw [if_neg (by simpa using hown)]
      obtain ⟨hpend, hfits⟩ := h.fits job hjob
      refine ⟨hpend, fun hrun => (hfits hrun).imp_right (Or.imp_left ?_)⟩
      rintro ⟨w, hw', hrest⟩
      exact ⟨w, (erase_of_ne hown).trans hw', hrest⟩

private theorem bx_ended {writing : Table String BrowseWrite} {unplaced : Table String UnplacedUpload}
    {set : BrowseJob → BrowseJob} (hjobs : ∀ job ∈ jobs, job.id ≠ id → job.Fits writing unplaced)
    (hset : ∀ job, (set job).status = .done ∨ (set job).status = .failed) :
    ∀ job ∈ Rows.update jobs (fun job => job.id == id) set, job.Fits writing unplaced := by
  intro job' hjob'
  obtain ⟨job, hjob, rfl⟩ := Rows.mem_update.1 hjob'
  by_cases hown : job.id = id
  · rw [if_pos (beq_iff_eq.2 hown)]
    rcases hset job with hdone | hfail
    · exact ⟨by simp [hdone], by simp [hdone]⟩
    · exact ⟨by simp [hfail], by simp [hfail]⟩
  · rw [if_neg (by simpa using hown)]
    exact hjobs job hjob hown

private theorem bx_finishSize (s : BrowseServer) (id : String) (ref : BrowseRef) (pathPrefix : String) (generation : Nat)
    (outcome : SizeOutcome) (now : Int) : ∃ sizes set, (∀ job : BrowseJob, (set job).id = job.id ∧
        ((set job).status = .done ∨ (set job).status = .failed)) ∧
      s.finishSize id ref pathPrefix generation outcome now =
        { s with sizes := sizes, browseJobs := Rows.update s.browseJobs (fun job => job.id == id) set } := by
  cases outcome with
  | measured | s3ListObjectsError | error =>
    refine ⟨_, _, ?_, rfl⟩
    intro job
    exact ⟨rfl, by simp⟩

private theorem bx_startSize (h : BrowseInv s) (hnew : s.hasJob id = false) (folders : S3Folders) (ref : BrowseRef)
    (pathPrefix : String) (walk : SizeOutcome) : BrowseInv (s.startBrowseSize id folders ref pathPrefix walk now) := by
  obtain ⟨hid, -, hnone⟩ := h.fresh hnew
  have hun : ∀ i upload, s.unplaced i = some upload → i ≠ id ∧ s.unplaced i = some upload :=
    fun i upload => bx_unplaced_ne hnone
  have hupd : ∀ {job : BrowseJob} {set : BrowseJob → BrowseJob} {sizes : SizeCache}, job.id = id →
      (∀ job : BrowseJob, (set job).id = job.id ∧ ((set job).status = .done ∨ (set job).status = .failed)) →
      BrowseInv { s with
        browseJobs := Rows.update (s.browseJobs ++ [job]) (fun job => job.id == id) set, sizes := sizes } := by
    intro job set sizes hjobId hset
    refine bx_kept h hid ?_ ?_ ?_ (fun i m hm => .inl hm) fun i upload hup => .inl (hun i upload hup)
    · exact fun old hold ho => Rows.mem_update_of_refused (List.mem_append_left _ hold) (beq_false_of_ne ho)
    · intro i hi
      rw [Rows.map_update fun job => (hset job).1, List.map_append]
      exact List.mem_append_left _ hi
    refine bx_ended ?_ fun job => (hset job).2
    intro old hold ho
    rcases List.mem_append.1 hold with hwas | hnew
    · exact h.fits old hwas
    · exact absurd hjobId (List.mem_singleton.1 hnew ▸ ho)
  unfold BrowseServer.startBrowseSize
  split
  · exact h
  dsimp only
  cases ref.store folders with
  | error message => exact hupd rfl fun _ => ⟨rfl, .inr rfl⟩
  | ok store =>
    cases ref.kind with
    | local_ =>
      obtain ⟨sizes, set, hset, heq⟩ := bx_finishSize _ id ref pathPrefix (s.sizes.folderWriteGeneration ref) walk now
      exact heq ▸ hupd rfl hset
    | s3 =>
      refine bx_kept h hid (fun job hjob _ => List.mem_append_left _ hjob) ?_ ?_ ?_
        fun i upload hup => .inl (hun i upload hup)
      · intro i hi
        obtain ⟨job, hjob, hjobId⟩ := List.mem_map.1 hi
        exact List.mem_map.2 ⟨job, List.mem_append_left _ hjob, hjobId⟩
      · intro job hjob
        rcases List.mem_append.1 hjob with hold | hnew
        · exact h.fits job hold
        rw [List.mem_singleton.1 hnew]
        exact ⟨by simp, fun _ => .inl ⟨destKey ref ++ "|" ++ pathPrefix, by simp [String.append_assoc],
          by simp [String.append_assoc]⟩⟩
      · intro i m hm
        by_cases hi : i = id
        · exact .inr ⟨hi, List.mem_map.2 ⟨_, List.mem_append_right _ (.head _), rfl⟩⟩
        · exact .inl ((put_of_ne hi).symm.trans hm)

private theorem bx_endSize (h : BrowseInv s) (outcome : SizeOutcome) : BrowseInv (s.endBrowseSize id outcome now) := by
  unfold BrowseServer.endBrowseSize
  cases hm : s.measuring id with
  | none => exact h
  | some m =>
    obtain ⟨sizes, set, hset, heq⟩ := bx_finishSize s id m.ref m.pathPrefix m.generationAtStart outcome now
    simp only [heq]
    have hun : ∀ i upload, s.unplaced i = some upload → i ≠ id ∧ s.unplaced i = some upload := by
      intro i upload hup
      refine ⟨?_, hup⟩
      rintro rfl
      cases (h.unplaced i upload hup).2.1.symm.trans hm
    refine bx_kept h (h.sizing id m hm).1 ?_ ?_ ?_ ?_ fun i upload hup => .inl (hun i upload hup)
    · exact fun old hold ho => Rows.mem_update_of_refused hold (beq_false_of_ne ho)
    · intro i hi
      rw [Rows.map_update fun job => (hset job).1]
      exact hi
    · exact bx_ended (fun job hjob _ => h.fits job hjob) fun job => (hset job).2
    intro i m' hm'
    have hi : i ≠ id := by
      rintro rfl
      cases Table.erase_self.symm.trans hm'
    exact .inl ((erase_of_ne hi).symm.trans hm')

private theorem bx_failUpload (h : BrowseInv s) : BrowseInv (s.failUpload id now) := by
  unfold BrowseServer.failUpload
  cases hup : s.unplaced id with
  | none => exact h
  | some upload =>
    obtain ⟨hwr, -, -⟩ := h.unplaced id upload hup
    refine bx_kept h hwr ?_ ?_ ?_ (fun i m hm => .inl hm) ?_
    · exact fun old hold ho => Rows.mem_update_of_refused hold (beq_false_of_ne ho)
    · intro i hi
      show i ∈ (Rows.update s.browseJobs _ _).map BrowseJob.id
      rw [Rows.map_update]
      · exact hi
      · exact fun _ => rfl
    · refine bx_ended ?_ fun job => .inr rfl
      intro job hjob ho
      obtain ⟨hpend, hfits⟩ := h.fits job hjob
      refine ⟨hpend, fun hrun => (hfits hrun).imp_right (Or.imp_right ?_)⟩
      rintro ⟨upload', hup', hold⟩
      exact ⟨upload', (erase_of_ne ho).trans hup', hold⟩
    · intro i upload' hup'
      have hi : i ≠ id := by
        rintro rfl
        cases Table.erase_self.symm.trans hup'
      exact .inl ⟨hi, (erase_of_ne hi).symm.trans hup'⟩

theorem BrowseInv.step (h : BrowseInv s) (e : BrowseEvent) : BrowseInv (s.step e) := by
  cases e with
  | start id folders r now =>
    show BrowseInv (if s.hasJob id then s else s.startBrowse id folders r now)
    split
    · exact h
    rename_i hold
    have hnew : s.hasJob id = false := by simpa using hold
    obtain ⟨hwr, hmeas, hun⟩ := h.fresh hnew
    rcases s.startBrowse_cases id folders r now with ⟨jobs, sizes, heq, -, hrows, hids, hjobs⟩ | ⟨message, -, heq⟩ |
      ⟨stores, -, hbusy, -, heq⟩
    · rw [heq]
      refine bx_kept h hwr hrows hids ?_ (fun i m hm => .inl hm) fun i upload hup =>
        .inl (bx_unplaced_ne hun hup)
      intro job hjob
      rcases hjobs job hjob with hold | hfail
      · exact h.fits job hold
      · exact ⟨by simp [hfail], by simp [hfail]⟩
    · rw [heq]
      have hput : ∀ i upload, s.unplaced i = some upload → (s.unplaced.put id ⟨r, message⟩) i = some upload := by
        intro i upload hup
        exact (put_of_ne (bx_unplaced_ne hun hup).1).trans hup
      refine bx_kept h hwr (fun job hjob _ => List.mem_append_left _ hjob) ?_ ?_ (fun i m hm => .inl hm) ?_
      · intro i hi
        obtain ⟨job, hjob, hjobId⟩ := List.mem_map.1 hi
        exact List.mem_map.2 ⟨job, List.mem_append_left _ hjob, hjobId⟩
      · intro job hjob
        rcases List.mem_append.1 hjob with hold | hlast
        · obtain ⟨hpend, hfits⟩ := h.fits job hold
          refine ⟨hpend, fun hrun => (hfits hrun).imp_right (Or.imp_right ?_)⟩
          rintro ⟨upload, hup, hof⟩
          exact ⟨upload, hput _ _ hup, hof⟩
        · rw [List.mem_singleton.1 hlast]
          exact ⟨by simp, fun _ => .inr (.inr ⟨_, put_self, rfl, rfl⟩)⟩
      · intro i upload hup
        by_cases hi : i = id
        · subst hi
          obtain rfl := Option.some.inj (Table.put_self.symm.trans hup)
          exact .inr ⟨rfl, hmeas, _, List.mem_append_right _ (.head _), rfl, rfl, rfl, rfl⟩
        · exact .inl ⟨hi, (put_of_ne hi).symm.trans hup⟩
    · rw [heq]
      exact bx_launched h hnew hbusy stores
  | uploadFailed id now => exact bx_failUpload h
  | progress id now => exact bx_progress h
  | finish id error now => exact bx_finish h error
  | size id folders ref pathPrefix walk now =>
    show BrowseInv (if s.hasJob id then s else s.startBrowseSize id folders ref pathPrefix walk now)
    split
    · exact h
    rename_i hold
    exact bx_startSize h (by simpa using hold) folders ref pathPrefix walk
  | sizeEnd id outcome now => exact bx_endSize h outcome
  | restart now => exact browseInv_new fun job hjob => (h.fits job hjob).1
  | read ref pathPrefix now =>
    exact ⟨h.destination, h.source, h.row, h.distinct, h.sizing, h.heldDestination, h.heldSource, h.unplaced, h.fits⟩

theorem BrowseServer.writing_step {e : BrowseEvent} {i : String} {w : BrowseWrite} (hw : (s.step e).writing i = some w) :
    s.writing i = some w ∨ ∃ folders r now stores, e = .start i folders r now ∧ s.hasJob i = false ∧ r.throws = false ∧
      s.isBusy r = false ∧ r.stores folders = .ok stores ∧ w = ⟨r, stores.1, stores.2⟩ := by
  have hmove := browseStep_move s e
  generalize s.step e = s' at hmove hw
  cases hmove with
  | rows | measure | walked | seeded | unmeasured | read => exact .inl hw
  | @launch id folders r now stores hnew hthr hbusy hsto =>
    by_cases hi : i = id
    · subst hi
      exact .inr ⟨folders, r, now, stores, rfl, hnew, hthr, hbusy, hsto,
        Option.mem_unique hw put_self⟩
    · exact .inl ((put_of_ne hi).symm.trans hw)
  | @finish id =>
    have hi : i ≠ id := by
      rintro rfl
      cases Table.erase_self.symm.trans hw
    exact .inl ((erase_of_ne hi).symm.trans hw)
  | restart => cases hw

theorem BrowseInv.exclusive_step_iff (h : BrowseInv s) (hex : s.Exclusive) (e : BrowseEvent) :
    s.ConflictsShareKey e ↔ (s.step e).Exclusive := by
  constructor
  · intro hg
    -- a job that has been launched does not conflict with one that ran
    have hlau : ∀ i j w w', s.writing i ≠ some w → (s.step e).writing i = some w → s.writing j = some w' →
        ¬ w.Conflicts w' := by
      intro i j w w' hnot hw hw' hco
      rcases BrowseServer.writing_step hw with hold | ⟨folders, r, now, stores, rfl, hnew, hthr, hbusy, hsto, rfl⟩
      · exact hnot hold
      rw [h.isBusy_iff.2 (hg hnew hthr stores hsto ⟨j, w', hw', hco⟩)] at hbusy
      cases hbusy
    intro i j w w' hij hw hw'
    by_cases hi : s.writing i = some w
    · by_cases hj : s.writing j = some w'
      · exact hex i j w w' hij hi hj
      · exact fun hco => hlau j i w' w hj hw' hi hco.symm
    rcases BrowseServer.writing_step hw' with hold | ⟨folders, r, now, stores, heq, -⟩
    · exact hlau i j w w' hi hw hold
    · rcases BrowseServer.writing_step hw with hold | ⟨folders', r', now', stores', heq', -⟩
      · exact absurd hold hi
      · cases heq.symm.trans heq'
        exact absurd rfl hij
  · intro haf
    cases e with
    | start id folders r now =>
      rintro hnew hthr stores hsto ⟨j, w, hw, hco⟩
      by_contra hno
      have hbusy : s.isBusy r = false := by
        refine Bool.eq_false_iff.2 fun hbusy => hno ?_
        exact h.isBusy_iff.1 hbusy
      have hne : id ≠ j := by
        rintro rfl
        cases (h.fresh hnew).1.symm.trans hw
      have hstep : s.step (.start id folders r now) = s.launched id r stores now := by
        show (if s.hasJob id then s else s.startBrowse id folders r now) = _
        rw [if_neg (by simp [hnew])]
        exact BrowseServer.startBrowse_launched hthr hbusy hsto
      rw [hstep] at haf
      exact haf id j _ w hne put_self ((put_of_ne hne.symm).trans hw) hco
    | uploadFailed | progress | finish | size | sizeEnd | read | restart => exact trivial

/-- In a run the jobs that are in flight together never conflict, exactly when every request that would conflict with one
of them has a key in common with one of them, or is held up by the row of an upload that is about to fail. -/
theorem browse_jobs_exclusive (now : Int) (es : List BrowseEvent) :
    Always BrowseServer.step BrowseServer.ConflictsShareKey (newBrowseServer [] now) es ↔
      ∀ before after, es = before ++ after → (run BrowseServer.step (newBrowseServer [] now) before).Exclusive := by
  have hnew : BrowseInv (newBrowseServer [] now) ∧ (newBrowseServer [] now).Exclusive := by
    refine ⟨browseInv_new (by simp), ?_⟩
    intro i j w w' hij hw
    cases hw
  have hstep : ∀ s e, BrowseInv s ∧ s.Exclusive → (BrowseServer.ConflictsShareKey s e ↔
      BrowseInv (BrowseServer.step s e) ∧ (BrowseServer.step s e).Exclusive) := fun s e h =>
    (h.1.exclusive_step_iff h.2 e).trans ⟨fun hex => ⟨h.1.step e, hex⟩, And.right⟩
  have hiff : Always BrowseServer.step BrowseServer.ConflictsShareKey (newBrowseServer [] now) es ↔
      ∀ before after, es = before ++ after → BrowseInv (run BrowseServer.step (newBrowseServer [] now) before) ∧
        (run BrowseServer.step (newBrowseServer [] now) before).Exclusive :=
    always_iff_invariant (I := fun s => BrowseInv s ∧ s.Exclusive) hnew hstep
  refine hiff.trans ⟨fun h before after heq => (h before after heq).2, ?_⟩
  intro h before after heq
  exact ⟨run_invariant hnew.1 fun _ e hI => hI.step e, h before after heq⟩

def uploadIntoDeleted : List BrowseEvent := [
  .start "1" (fun _ => .error "") (.delete ⟨.local_, none, ""⟩ ["a"]) 1,
  .start "2" (fun _ => .error "") (.upload ⟨.local_, none, "a/b"⟩ "f" 4 3) 2]

theorem browse_jobs_overlap : ¬ (run BrowseServer.step (newBrowseServer [] 0) uploadIntoDeleted).Exclusive := by
  intro hex
  refine hex "1" "2" ⟨.delete ⟨.local_, none, ""⟩ ["a"], .backupRoot, .backupRoot⟩
    ⟨.upload ⟨.local_, none, "a/b"⟩ "f" 4 3, .backupRoot, .backupRoot⟩ (by decide) ?_ ?_ (by decide +kernel)
  · rfl
  · rfl

/-- In every run, restarts included, the keys in use are those of the writes that run, no two of which have a key in common, and
an unfinished row is that of a measurement, of a write that runs, or of an upload that is about to fail. -/
theorem browse_keys_in_use (now : Int) (es : List BrowseEvent) :
    let s := run BrowseServer.step (newBrowseServer [] now) es
    (∀ key, key ∈ s.activeDestinations ↔ ∃ i w, s.writing i = some w ∧ w.request.dKey = key) ∧
    (∀ key, key ∈ s.activeSources ↔ ∃ i w, s.writing i = some w ∧ w.request.sKey = some key) ∧
    (∀ i j w w', s.writing i = some w → s.writing j = some w' →
      w.request.dKey = w'.request.dKey ∨ (∃ key, w.request.sKey = some key ∧ w'.request.sKey = some key) → i = j) ∧
    ∀ job ∈ s.browseJobs, job.Fits s.writing s.unplaced := by
  intro s
  have hinv : BrowseInv s := run_invariant (browseInv_new (by simp)) fun _ e hI => hI.step e
  refine ⟨fun key => ⟨hinv.heldDestination key, ?_⟩, fun key => ⟨hinv.heldSource key, ?_⟩, ?_, hinv.fits⟩
  · rintro ⟨i, w, hw, rfl⟩
    exact hinv.destination i w hw
  · rintro ⟨i, w, hw, hkey⟩
    exact hinv.source i w key hw hkey
  · intro i j w w' hw hw' hco
    by_contra hne
    obtain ⟨hdest, hsrc⟩ := hinv.distinct i j w w' hne hw hw'
    rcases hco with hsame | ⟨key, hkey, hkey'⟩
    · exact hdest hsame
    · exact hsrc key hkey hkey'

end LamaSync
