import LamaSync.Server.FolderSizes

/-!
# The bounds on folder refreshes

The tasks that are past waiting hold the slots that the counters count, so at most two of them are past waiting at once, and
at most one for each backend.  A folder is scheduled while a task of it exists, so a folder has one task.
-/

namespace LamaSync

open Trace
open Table (erase_of_ne put_apply put_of_ne)

namespace FolderStats

variable {s s' : FolderStats} {folder : Folder} {i j : Nat} {task : RefreshTask} {held : List (String × Nat)}

def Runs (s : FolderStats) (i : Nat) (task : RefreshTask) : Prop := s.tasks i = some task ∧ task.phase ≠ .waiting

structure Bounded (s : FolderStats) : Prop where
  overall : ∀ ids : List Nat, ids.Nodup → (∀ i ∈ ids, ∃ task, s.Runs i task) → ids.length ≤ refreshConcurrency
  perBackend : ∀ i j ti tj, s.Runs i ti → s.Runs j tj → ti.folder.refreshKey = tj.folder.refreshKey → i = j
  perFolder : ∀ i j ti tj, s.tasks i = some ti → s.tasks j = some tj → ti.folder.id = tj.folder.id → i = j
  idle : ∀ i task, s.tasks i = some task → task.phase = .waiting →
    (∃ j tj, s.Runs j tj ∧ tj.folder.refreshKey = task.folder.refreshKey) ∨
    ∃ j j' tj tj', j ≠ j' ∧ s.Runs j tj ∧ s.Runs j' tj'

structure RefreshInv (s : FolderStats) (held : List (String × Nat)) : Prop where
  accounts : Slots.Accounts refreshConcurrency refreshConcurrencyPerBackend s.slots held
  nodup : held.Nodup
  mem_held : ∀ k i, (k, i) ∈ held ↔ ∃ task, s.Runs i task ∧ task.folder.refreshKey = k
  waitersNodup : s.slots.waiters.Nodup
  mem_waiters : ∀ k i, (k, i) ∈ s.slots.waiters ↔
    ∃ task, s.tasks i = some task ∧ task.phase = .waiting ∧ task.folder.refreshKey = k
  scheduled : ∀ i task, s.tasks i = some task → task.folder.id ∈ s.refreshScheduled
  perFolder : ∀ i j ti tj, s.tasks i = some ti → s.tasks j = some tj → ti.folder.id = tj.folder.id → i = j
  used : ∀ i task, s.tasks i = some task → i < s.nextTask

theorem refreshInv_new (now : Nat) : (newFolderStats now).RefreshInv [] where
  accounts := Slots.accounts_empty
  nodup := List.nodup_nil
  mem_held := by simp [newFolderStats, Runs]
  waitersNodup := List.nodup_nil
  mem_waiters := by simp [newFolderStats, Slots.empty]
  scheduled := fun _ _ h => nomatch h
  perFolder := fun _ _ _ _ h => nomatch h
  used := fun _ _ h => nomatch h

theorem RefreshInv.frame (h : s.RefreshInv held) (hsl : s'.slots = s.slots)
    (hsc : s'.refreshScheduled = s.refreshScheduled) (hta : s'.tasks = s.tasks)
    (hnext : s'.nextTask = s.nextTask) : s'.RefreshInv held where
  accounts := hsl ▸ h.accounts
  nodup := h.nodup
  mem_held := by simpa only [Runs, hta] using h.mem_held
  waitersNodup := hsl ▸ h.waitersNodup
  mem_waiters := by simpa only [hsl, hta] using h.mem_waiters
  scheduled := by simpa only [hta, hsc] using h.scheduled
  perFolder := by simpa only [hta] using h.perFolder
  used := by simpa only [hta, hnext] using h.used

private theorem fr_asked (h : s.RefreshInv held) (hnew : folder.id ∉ s.refreshScheduled) (phase : RefreshPhase) :
    (∀ i task, (s.tasks.put s.nextTask ⟨folder, phase⟩) i = some task →
      task.folder.id ∈ insert folder.id s.refreshScheduled) ∧
    (∀ i j ti tj, (s.tasks.put s.nextTask ⟨folder, phase⟩) i = some ti →
      (s.tasks.put s.nextTask ⟨folder, phase⟩) j = some tj → ti.folder.id = tj.folder.id → i = j) ∧
    ∀ i task, (s.tasks.put s.nextTask ⟨folder, phase⟩) i = some task → i < s.nextTask + 1 := by
  refine ⟨fun i task hi => ?_, fun i j ti tj hi hj hid => ?_, fun i task hi => ?_⟩
  · rw [put_apply] at hi
    split at hi
    · cases hi
      exact Finset.mem_insert_self ..
    · exact Finset.mem_insert_of_mem (h.scheduled i task hi)
  · rw [put_apply] at hi hj
    split at hi <;> split at hj
    · rename_i hi' hj'
      rw [hi', hj']
    · cases hi
      exact absurd (hid ▸ h.scheduled j tj hj) hnew
    · cases hj
      exact absurd (hid ▸ h.scheduled i ti hi) hnew
    · exact h.perFolder i j ti tj hi hj hid
  · rw [put_apply] at hi
    split at hi
    · rename_i hi'
      exact hi' ▸ Nat.lt_succ_self _
    · exact Nat.lt_succ_of_lt (h.used i task hi)

theorem RefreshInv.unused (h : s.RefreshInv held) : s.tasks s.nextTask = none := by
  cases hi : s.tasks s.nextTask with
  | none => rfl
  | some task => exact absurd (h.used _ _ hi) (Nat.lt_irrefl _)

private theorem fr_added (h : s.RefreshInv held) (i : Nat) (new : RefreshTask) (P : RefreshTask → Prop) :
    (∃ task, (s.tasks.put s.nextTask new) i = some task ∧ P task) ↔
      (i = s.nextTask ∧ P new) ∨ ∃ task, s.tasks i = some task ∧ P task := by
  rw [put_apply]
  split
  · rename_i hi
    subst hi
    simp [h.unused]
  · simp_all

theorem RefreshInv.begin (h : s.RefreshInv held) (folder : Folder) :
    ∃ held', (s.beginFolderRefresh folder).RefreshInv held' := by
  unfold beginFolderRefresh
  split
  · exact ⟨held, h⟩
  split
  · exact ⟨held, h⟩
  rename_i hnew
  obtain ⟨hsc, hper, hused⟩ := fr_asked h hnew .waiting
  obtain ⟨hsc', hper', hused'⟩ := fr_asked h hnew .granted
  have hfr : ∀ k, (k, s.nextTask) ∉ held := by
    intro k hk
    obtain ⟨task, hruns, _⟩ := (h.mem_held k _).1 hk
    cases h.unused.symm.trans hruns.1
  have hfr' : ∀ k, (k, s.nextTask) ∉ s.slots.waiters := by
    intro k hk
    obtain ⟨task, hwt, _⟩ := (h.mem_waiters k _).1 hk
    cases h.unused.symm.trans hwt
  cases hfree : s.slots.free refreshConcurrency refreshConcurrencyPerBackend folder.refreshKey with
  | true =>
    simp only [Slots.acquire, hfree, if_true]
    refine ⟨(folder.refreshKey, s.nextTask) :: held,
      { accounts := h.accounts.acquired hfree _
        nodup := List.nodup_cons.2 ⟨hfr _, h.nodup⟩
        mem_held := fun k i => ?_
        waitersNodup := h.waitersNodup
        mem_waiters := fun k i => ?_
        scheduled := hsc'
        perFolder := hper'
        used := hused' }⟩
    · have had := fr_added h i ⟨folder, .granted⟩ fun task =>
        task.phase ≠ .waiting ∧ task.folder.refreshKey = k
      simp only [Runs, and_assoc, had, List.mem_cons, Prod.mk.injEq, h.mem_held k i]
      simp [eq_comm, and_comm]
    have had := fr_added h i ⟨folder, .granted⟩ fun task =>
      task.phase = .waiting ∧ task.folder.refreshKey = k
    simp only [had, Slots.take, h.mem_waiters k i]
    simp
  | false =>
    simp only [Slots.acquire, hfree, if_false, Bool.false_eq_true]
    refine ⟨held,
      { accounts := h.accounts.queued hfree _
        nodup := h.nodup
        mem_held := fun k i => ?_
        waitersNodup := ?_
        mem_waiters := fun k i => ?_
        scheduled := hsc
        perFolder := hper
        used := hused }⟩
    · have had := fr_added h i ⟨folder, .waiting⟩ fun task =>
        task.phase ≠ .waiting ∧ task.folder.refreshKey = k
      simp only [Runs, and_assoc, had, h.mem_held k i]
      simp
    · refine List.nodup_append.2 ⟨h.waitersNodup, List.nodup_singleton _, fun w hw w' hw' heq => ?_⟩
      rw [List.mem_singleton] at hw'
      exact hfr' _ (hw' ▸ heq ▸ hw)
    have had := fr_added h i ⟨folder, .waiting⟩ fun task =>
      task.phase = .waiting ∧ task.folder.refreshKey = k
    simp only [had, List.mem_append, List.mem_singleton, Prod.mk.injEq, h.mem_waiters k i]
    simp [eq_comm, and_comm, or_comm]

theorem RefreshInv.goOn (h : s.RefreshInv held) (hi : s.tasks i = some task) (hph : task.phase ≠ .waiting)
    {phase : RefreshPhase} (hph' : phase ≠ .waiting) :
    { s with tasks := s.tasks.put i ⟨task.folder, phase⟩ }.RefreshInv held := by
  have hfol : ∀ j tj, (s.tasks.put i ⟨task.folder, phase⟩) j = some tj →
      ∃ t, s.tasks j = some t ∧ t.folder = tj.folder := by
    intro j tj hj
    rw [put_apply] at hj
    split at hj
    · rename_i hji
      cases hj
      exact ⟨task, hji ▸ hi, rfl⟩
    · exact ⟨tj, hj, rfl⟩
  refine
    { accounts := h.accounts
      nodup := h.nodup
      mem_held := fun k j => ?_
      waitersNodup := h.waitersNodup
      mem_waiters := fun k j => ?_
      scheduled := fun j tj hj => ?_
      perFolder := fun j j' tj tj' hj hj' hid => ?_
      used := fun j tj hj => ?_ }
  · rw [h.mem_held]
    by_cases hji : j = i
    · subst hji
      simp [Runs, hi, hph, hph']
    · simp [Runs, put_of_ne hji]
  · rw [h.mem_waiters]
    by_cases hji : j = i
    · subst hji
      simp [hi, hph, hph']
    · simp [put_of_ne hji]
  · obtain ⟨t, ht, hf⟩ := hfol j tj hj
    exact hf ▸ h.scheduled j t ht
  · obtain ⟨t, ht, hf⟩ := hfol j tj hj
    obtain ⟨t', ht', hf'⟩ := hfol j' tj' hj'
    exact h.perFolder j j' t t' ht ht' (by rw [hf, hf', hid])
  · obtain ⟨t, ht, _⟩ := hfol j tj hj
    exact h.used j t ht

private theorem fr_left (h : s.RefreshInv held) (hi : s.Runs i task) (tasks : Table Nat RefreshTask)
    (hta : ∀ j tj, tasks j = some tj → ∃ t, s.tasks j = some t ∧ t.folder = tj.folder) :
    (∀ j tj, (tasks.erase i) j = some tj → tj.folder.id ∈ s.refreshScheduled.erase task.folder.id) ∧
    (∀ j j' tj tj', (tasks.erase i) j = some tj → (tasks.erase i) j' = some tj' → tj.folder.id = tj'.folder.id →
      j = j') ∧
    ∀ j tj, (tasks.erase i) j = some tj → j < s.nextTask := by
  have hback : ∀ j tj, (tasks.erase i) j = some tj → j ≠ i ∧ ∃ t, s.tasks j = some t ∧ t.folder = tj.folder := by
    intro j tj hj
    by_cases hji : j = i
    · subst hji
      simp at hj
    · rw [erase_of_ne hji] at hj
      exact ⟨hji, hta j tj hj⟩
  refine ⟨fun j tj hj => ?_, fun j j' tj tj' hj hj' hid => ?_, fun j tj hj => ?_⟩
  · obtain ⟨hji, t, ht, hf⟩ := hback j tj hj
    rw [← hf]
    exact Finset.mem_erase.2 ⟨fun hid => hji (h.perFolder j i t task ht hi.1 hid), h.scheduled j t ht⟩
  · obtain ⟨_, t, ht, hf⟩ := hback j tj hj
    obtain ⟨_, t', ht', hf'⟩ := hback j' tj' hj'
    exact h.perFolder j j' t t' ht ht' (by rw [hf, hf', hid])
  · obtain ⟨_, t, ht, _⟩ := hback j tj hj
    exact h.used j t ht

theorem RefreshInv.release (h : s.RefreshInv held) (hi : s.Runs i task) :
    ∃ held', (s.releaseRefresh i task.folder).RefreshInv held' := by
  have hmem : (task.folder.refreshKey, i) ∈ held := (h.mem_held _ i).2 ⟨task, hi, rfl⟩
  have hac := h.accounts.released hmem
  -- the key of a holder is that of its task
  have ho : ∀ k j, (k, j) ∈ held.erase (task.folder.refreshKey, i) ↔
      j ≠ i ∧ ∃ tj, s.Runs j tj ∧ tj.folder.refreshKey = k := by
    intro k j
    rw [h.nodup.mem_erase_iff, h.mem_held k j]
    constructor
    · rintro ⟨hne, tj, hj, hk⟩
      refine ⟨?_, tj, hj, hk⟩
      rintro rfl
      cases hi.1.symm.trans hj.1
      exact hne (by rw [hk])
    · rintro ⟨hji, hj⟩
      exact ⟨fun heq => hji (Prod.mk.inj heq).2, hj⟩
  cases hha : (s.slots.release refreshConcurrency refreshConcurrencyPerBackend task.folder.refreshKey).2 with
  | none =>
    have hwai := Slots.release_kept hha
    obtain ⟨hsc, hper, hused⟩ := fr_left h hi s.tasks fun j tj hj => ⟨tj, hj, rfl⟩
    rw [hha] at hac
    refine ⟨held.erase (task.folder.refreshKey, i), ?_⟩
    simp only [releaseRefresh, hha, grant]
    refine
      { accounts := hac
        nodup := h.nodup.erase _
        mem_held := fun k j => ?_
        waitersNodup := hwai ▸ h.waitersNodup
        mem_waiters := fun k j => ?_
        scheduled := hsc
        perFolder := hper
        used := hused }
    · rw [ho]
      by_cases hji : j = i
      · simp [hji, Runs]
      · simp [hji, Runs, erase_of_ne hji]
    rw [hwai, h.mem_waiters]
    by_cases hji : j = i
    · subst hji
      simp [hi.1, hi.2]
    · simp [erase_of_ne hji]
  | some w =>
    obtain ⟨k', j'⟩ := w
    obtain ⟨before, after, hold, hnew⟩ := Slots.release_handed hha
    obtain ⟨waiter, hwa, hwt, hkey⟩ := (h.mem_waiters k' j').1 (hold ▸ by simp)
    have hne : j' ≠ i := by
      rintro rfl
      cases hi.1.symm.trans hwa
      exact hi.2 hwt
    obtain ⟨hsc, hper, hused⟩ :=
      fr_left h hi (s.tasks.put j' { waiter with phase := .granted }) fun j tj hj => by
        rw [put_apply] at hj
        split at hj
        · rename_i hj'
          cases hj
          exact ⟨waiter, hj' ▸ hwa, rfl⟩
        · exact ⟨tj, hj, rfl⟩
    rw [hha] at hac
    have hwaitersNodup := h.waitersNodup
    rw [hold, List.nodup_middle, List.nodup_cons] at hwaitersNodup
    refine ⟨(k', j') :: held.erase (task.folder.refreshKey, i), ?_⟩
    simp only [releaseRefresh, hha, grant, hwa]
    refine
      { accounts := hac
        nodup := List.nodup_cons.2 ⟨fun hheld => ?_, h.nodup.erase _⟩
        mem_held := fun k j => ?_
        waitersNodup := hnew ▸ hwaitersNodup.2
        mem_waiters := fun k j => ?_
        scheduled := hsc
        perFolder := hper
        used := hused }
    · obtain ⟨_, tj, hj, _⟩ := (ho k' j').1 hheld
      cases hwa.symm.trans hj.1
      exact hj.2 hwt
    · rw [List.mem_cons, ho]
      by_cases hji : j = i
      · simp [hji, Runs, Prod.mk.injEq, Ne.symm hne]
      by_cases hjj : j = j'
      · subst hjj
        simp [Runs, erase_of_ne hji, hwa, hwt, hkey, hji, eq_comm]
      · simp [Runs, erase_of_ne hji, put_of_ne hjj, hji, hjj]
    · have hmid : (k, j) ∈ before ++ after ↔ (k, j) ∈ s.slots.waiters ∧ (k, j) ≠ (k', j') := by
        rw [hold]
        constructor
        · intro hin
          refine ⟨by simpa [or_left_comm] using .inr (List.mem_append.1 hin), fun heq => ?_⟩
          exact hwaitersNodup.1 (heq ▸ hin)
        · rintro ⟨hin, hnot⟩
          simpa [hnot] using hin
      rw [hnew, hmid, h.mem_waiters]
      by_cases hji : j = i
      · subst hji
        simp [hi.1, hi.2]
      by_cases hjj : j = j'
      · subst hjj
        simp [erase_of_ne hji, hwa, hkey, eq_comm]
      · simp [erase_of_ne hji, put_of_ne hjj, hjj]

theorem RefreshInv.endMeasurement (h : s.RefreshInv held) (m : FolderMeasurement) (outcome : FolderMeasure) :
    (s.endMeasurement m outcome).RefreshInv held := by
  cases outcome <;> exact h.frame rfl rfl rfl rfl

theorem endMeasurement_tasks (m : FolderMeasurement) (outcome : FolderMeasure) :
    (s.endMeasurement m outcome).tasks = s.tasks := by
  cases outcome <;> rfl

theorem endMeasurement_requests (m : FolderMeasurement) (outcome : FolderMeasure) :
    (s.endMeasurement m outcome).requests = s.requests := by
  cases outcome <;> rfl

theorem RefreshInv.cache (h : s.RefreshInv held) (cache : Table String CachedFolderSize) :
    { s with folderCache := cache }.RefreshInv held :=
  h.frame rfl rfl rfl rfl

theorem RefreshInv.read (h : s.RefreshInv held) (folder : Folder) (options : ReadFolderSizeOptions) :
    ∃ held', (s.readFolderSize folder options).1.RefreshInv held' := by
  unfold readFolderSize
  split
  · exact ⟨held, h⟩
  split
  · exact ⟨held, h⟩
  · rename_i known _ _
    unfold serveKnown
    simp only
    split
    · exact (h.cache _).begin folder
    · exact ⟨held, h.cache _⟩
  · split
    · exact ⟨held, h.frame rfl rfl rfl rfl⟩
    · exact h.begin folder

theorem RefreshInv.step (h : s.RefreshInv held) (e : FolderStatsEvent) : ∃ held', (s.step e).RefreshInv held' := by
  cases e with
  | tick ms | invalidate folderId => exact ⟨held, h.frame rfl rfl rfl rfl⟩
  | read folder options => exact h.read folder options
  | refresh folder => exact h.begin folder
  | start i =>
    simp only [FolderStats.step]
    split
    · rename_i folder hi
      exact ⟨held, h.goOn hi (by simp) (by simp)⟩
    · exact ⟨held, h⟩
  | finish i outcome =>
    simp only [FolderStats.step]
    split
    · rename_i folder m hi
      rw [← endMeasurement_tasks m outcome] at hi ⊢
      exact ⟨held, (h.endMeasurement m outcome).goOn hi (by simp) (by simp)⟩
    · exact ⟨held, h⟩
  | release i =>
    simp only [FolderStats.step]
    split
    · rename_i folder hi
      exact h.release ⟨hi, by simp⟩
    · exact ⟨held, h⟩
  | answer i outcome =>
    simp only [FolderStats.step]
    split
    · rename_i m _
      exact ⟨held, (h.endMeasurement m outcome).frame rfl rfl rfl rfl⟩
    · exact ⟨held, h⟩
  | restart =>
    have hnew := refreshInv_new s.now
    exact ⟨[], { hnew with used := fun _ _ hi => by cases hi }⟩

theorem RefreshInv.bounded (h : s.RefreshInv held) : s.Bounded where
  overall := by
    intro ids hids hruns
    have hsub : ids ⊆ held.map Prod.snd := by
      intro i hi
      obtain ⟨task, htask⟩ := hruns i hi
      exact List.mem_map.2 ⟨_, (h.mem_held _ i).2 ⟨task, htask, rfl⟩, rfl⟩
    calc ids.length ≤ (held.map Prod.snd).length := (hids.subperm hsub).length_le
      _ = held.length := List.length_map ..
      _ ≤ refreshConcurrency := h.accounts.bound
  perBackend := by
    intro i j ti tj hi hj hkey
    by_contra hij
    have hmem : ∀ x ∈ [(ti.folder.refreshKey, i), (ti.folder.refreshKey, j)], x ∈ held := by
      intro x hx
      rcases List.mem_pair.1 hx with rfl | rfl
      · exact (h.mem_held _ i).2 ⟨ti, hi, rfl⟩
      · exact (h.mem_held _ j).2 ⟨tj, hj, hkey.symm⟩
    have hsub := List.subperm_of_subset (by simp [hij]) hmem
    have hle := (hsub.countP_le fun x => x.1 = ti.folder.refreshKey).trans (h.accounts.boundBy ti.folder.refreshKey)
    simp [refreshConcurrencyPerBackend] at hle
  perFolder := h.perFolder
  idle := by
    intro i task hi hwt
    have hbusy := h.accounts.idle _ ((h.mem_waiters _ i).2 ⟨task, hi, hwt, rfl⟩)
    rcases Slots.not_free_iff.1 hbusy with hall | hby
    · rw [h.accounts.active] at hall
      obtain ⟨⟨k, j⟩, ⟨k', j'⟩, rest, hheld⟩ : ∃ a b rest, held = a :: b :: rest := by
        match held, hall with
        | a :: b :: rest, _ => exact ⟨a, b, rest, rfl⟩
      obtain ⟨tj, hj, hk⟩ := (h.mem_held k j).1 (hheld ▸ by simp)
      obtain ⟨tj', hj', hk'⟩ := (h.mem_held k' j').1 (hheld ▸ by simp)
      refine .inr ⟨j, j', tj, tj', ?_, hj, hj'⟩
      rintro rfl
      cases hj.1.symm.trans hj'.1
      have hnd := h.nodup
      rw [hheld, ← hk, ← hk'] at hnd
      simp at hnd
    · rw [h.accounts.activeBy] at hby
      obtain ⟨⟨k, j⟩, hmem, hk⟩ := List.countP_pos_iff.1 (Nat.lt_of_lt_of_le Nat.one_pos hby)
      obtain ⟨tj, hj, hkey⟩ := (h.mem_held k j).1 hmem
      exact .inl ⟨j, tj, hj, hkey.trans (by simpa using hk)⟩

end FolderStats

/-- In every run the counters are the numbers of the tasks that are past waiting, over all and for each backend, and the
queue lists exactly the tasks that wait, each once. -/
theorem refresh_slots_exact (now : Nat) (es : List FolderStatsEvent) :
    let s := run FolderStats.step (newFolderStats now) es
    ∃ held : List (String × Nat), (held.map Prod.snd).Nodup ∧
      (∀ k i, (k, i) ∈ held ↔ ∃ task, s.Runs i task ∧ task.folder.refreshKey = k) ∧
      s.slots.active = held.length ∧ (∀ k, s.slots.activeBy k = Slots.heldBy held k) ∧
      (s.slots.waiters.map Prod.snd).Nodup ∧ ∀ k i, (k, i) ∈ s.slots.waiters ↔
        ∃ task, s.tasks i = some task ∧ task.phase = .waiting ∧ task.folder.refreshKey = k := by
  intro s
  obtain ⟨held, hinv⟩ : ∃ held, s.RefreshInv held :=
    run_invariant (I := fun s : FolderStats => ∃ held, s.RefreshInv held) ⟨[], FolderStats.refreshInv_new now⟩
      fun _ e hI => hI.elim fun _ hheld => hheld.step e
  refine ⟨held, ?_, hinv.mem_held, hinv.accounts.active, hinv.accounts.activeBy, ?_, hinv.mem_waiters⟩
  · refine List.Nodup.map_on ?_ hinv.nodup
    rintro ⟨k, i⟩ hk ⟨k', j⟩ hk' (rfl : i = j)
    obtain ⟨task, hruns, rfl⟩ := (hinv.mem_held k i).1 hk
    obtain ⟨task', hruns', rfl⟩ := (hinv.mem_held k' i).1 hk'
    rw [Table.unique hruns.1 hruns'.1]
  · refine List.Nodup.map_on ?_ hinv.waitersNodup
    rintro ⟨k, i⟩ hk ⟨k', j⟩ hk' (rfl : i = j)
    obtain ⟨task, htask, -, rfl⟩ := (hinv.mem_waiters k i).1 hk
    obtain ⟨task', htask', -, rfl⟩ := (hinv.mem_waiters k' i).1 hk'
    rw [Table.unique htask htask']

end LamaSync
