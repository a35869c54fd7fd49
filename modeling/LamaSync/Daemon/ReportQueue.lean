import LamaSync.Lib.Table
import LamaSync.Lib.Trace
import Mathlib.Data.List.Basic

/-!
# The queue of reports that could not be sent

A report that the server did not take is appended to a file, which keeps the last thousand lines.  A flush reads the
file, sends line after line until a send fails, and then writes what is left over the file.  Every send is a request, so
anything can happen between the read and the write.

What a flush must not find when it writes is a report that was enqueued after its read
(`report_queue_keeps_reports`).
-/

namespace LamaSync

open Trace

variable {ρ : Type}

inductive QueueLine (ρ : Type) where
  | report (number : Nat) (report : ρ)
  | unparseable (text : String)
  deriving DecidableEq

def QueueLine.numbered : QueueLine ρ → Option (Nat × ρ)
  | .report number text => some (number, text)
  | .unparseable _ => none

structure ReportFlush (ρ : Type) where
  lines : List (QueueLine ρ)
  /-- The report in the request. -/
  number : Nat
  report : ρ
  rest : List (QueueLine ρ)
  sent : Nat

structure ReportQueue (ρ : Type) where
  file : List (QueueLine ρ)
  flushes : Table Nat (ReportFlush ρ)
  returned : Table Nat Nat
  enqueued : List (Nat × ρ)
  /-- The reports the server took. -/
  sent : List (Nat × ρ)
  trimmed : List (QueueLine ρ)

def maxQueueEntries : Nat := 1000

namespace ReportQueue

def opened (file : List (QueueLine ρ)) : ReportQueue ρ where
  file := file
  flushes := fun _ => none
  returned := fun _ => none
  enqueued := file.filterMap QueueLine.numbered
  sent := []
  trimmed := []

/-- The oldest lines go when there are more than the file may keep. -/
def trim (s : ReportQueue ρ) : ReportQueue ρ :=
  if maxQueueEntries < s.file.length then
    { s with file := s.file.drop (s.file.length - maxQueueEntries)
             trimmed := s.trimmed ++ s.file.take (s.file.length - maxQueueEntries) }
  else s

def enqueueReport (s : ReportQueue ρ) (report : ρ) : ReportQueue ρ :=
  let number := s.enqueued.length
  trim { s with file := s.file ++ [.report number report], enqueued := s.enqueued ++ [(number, report)] }

def nextReport (sent : Nat) : List (QueueLine ρ) → Nat × Option ((Nat × ρ) × List (QueueLine ρ))
  | [] => (sent, none)
  | .unparseable _ :: rest => nextReport (sent + 1) rest
  | .report number report :: rest => (sent, some ((number, report), rest))

def finishFlush (s : ReportQueue ρ) (id sent : Nat) (remaining : List (QueueLine ρ)) : ReportQueue ρ :=
  { s with file := remaining, flushes := s.flushes.erase id, returned := s.returned.put id sent }

def resumeFlush (s : ReportQueue ρ) (id : Nat) (lines : List (QueueLine ρ)) (sent : Nat) (todo : List (QueueLine ρ)) :
    ReportQueue ρ :=
  match nextReport sent todo with
  | (sent, none) => s.finishFlush id sent []
  | (sent, some ((number, report), rest)) => { s with flushes := s.flushes.put id ⟨lines, number, report, rest, sent⟩ }

def flushReports (s : ReportQueue ρ) (id : Nat) : ReportQueue ρ :=
  if s.file = [] then { s with returned := s.returned.put id 0 } else s.resumeFlush id s.file 0 s.file

def sendSettled (s : ReportQueue ρ) (id : Nat) (flush : ReportFlush ρ) (ok : Bool) : ReportQueue ρ :=
  if ok then
    ({ s with sent := s.sent ++ [(flush.number, flush.report)] } : ReportQueue ρ).resumeFlush id flush.lines (flush.sent + 1)
      flush.rest
  else s.finishFlush id flush.sent (.report flush.number flush.report :: flush.rest)

end ReportQueue

inductive ReportQueueEvent (ρ : Type) where
  | enqueue (report : ρ)
  /-- A call; each has its own id. -/
  | flush (id : Nat)
  | sendSettles (id : Nat) (ok : Bool)

/-- One piece of a call, from one request to the next. -/
def reportQueueStep (s : ReportQueue ρ) : ReportQueueEvent ρ → ReportQueue ρ
  | .enqueue report => s.enqueueReport report
  | .flush id => if (s.flushes id).isSome || (s.returned id).isSome then s else s.flushReports id
  | .sendSettles id ok =>
    match s.flushes id with
    | none => s
    | some flush => s.sendSettled id flush ok

def ReportQueue.Keeps (s : ReportQueue ρ) (number : Nat) (report : ρ) : Prop :=
  (number, report) ∈ s.sent ∨ .report number report ∈ s.file ∨ .report number report ∈ s.trimmed

def ReportQueue.Accounted (s : ReportQueue ρ) : Prop := ∀ number report, (number, report) ∈ s.enqueued → s.Keeps number report

/-- The answer ends the flush: the send failed, or no report is behind it. -/
def ReportFlush.EndsWith (flush : ReportFlush ρ) (ok : Bool) : Prop :=
  ok = false ∨ ∀ number report, .report number report ∉ flush.rest

def FlushesWhatItRead (s : ReportQueue ρ) : ReportQueueEvent ρ → Prop
  | .sendSettles id ok => ∀ flush, s.flushes id = some flush → flush.EndsWith ok →
      ∀ number report, .report number report ∈ s.file → .report number report ∈ flush.lines ∨
        (number, report) ∈ s.sent ∨ .report number report ∈ s.trimmed
  | _ => True

private theorem rq_nextReport (sent : Nat) (todo : List (QueueLine ρ)) :
    (∃ sent', ReportQueue.nextReport sent todo = (sent', none) ∧ ∀ number report, .report number report ∉ todo) ∨
    ∃ sent' number report rest, ReportQueue.nextReport sent todo = (sent', some ((number, report), rest)) ∧
      ∀ n r, .report n r ∈ todo ↔ (n, r) = (number, report) ∨ .report n r ∈ rest := by
  induction todo generalizing sent with
  | nil => exact .inl ⟨sent, rfl, fun _ _ h => by cases h⟩
  | cons line todo ih =>
    cases line with
    | unparseable text =>
      have hskip : ∀ n r, QueueLine.report n r ∈ QueueLine.unparseable text :: todo ↔ QueueLine.report n r ∈ todo := by
        intro n r
        simp
      rcases ih (sent + 1) with ⟨sent', hnext, hnone⟩ | ⟨sent', number, report, rest, hnext, hmem⟩
      · exact .inl ⟨sent', hnext, fun n r h => hnone n r ((hskip n r).1 h)⟩
      · exact .inr ⟨sent', number, report, rest, hnext, fun n r => (hskip n r).trans (hmem n r)⟩
    | report number report =>
      refine .inr ⟨sent, number, report, todo, rfl, fun n r => ?_⟩
      simp

private theorem rq_resume (s : ReportQueue ρ) (id : Nat) (lines : List (QueueLine ρ)) (sent : Nat)
    (todo : List (QueueLine ρ)) :
    ((∀ number report, .report number report ∉ todo) ∧
      ∃ sent', s.resumeFlush id lines sent todo = s.finishFlush id sent' []) ∨
    ∃ sent' number report rest, (∀ n r, .report n r ∈ todo ↔ (n, r) = (number, report) ∨ .report n r ∈ rest) ∧
      s.resumeFlush id lines sent todo = { s with flushes := s.flushes.put id ⟨lines, number, report, rest, sent'⟩ } := by
  rcases rq_nextReport sent todo with ⟨sent', hnext, hnone⟩ | ⟨sent', number, report, rest, hnext, hmem⟩
  · refine .inl ⟨hnone, sent', ?_⟩
    rw [ReportQueue.resumeFlush, hnext]
  · refine .inr ⟨sent', number, report, rest, hmem, ?_⟩
    rw [ReportQueue.resumeFlush, hnext]

structure ReportFlush.Fits (flush : ReportFlush ρ) (s : ReportQueue ρ) : Prop where
  enqueued : ∀ n r, .report n r ∈ flush.lines → (n, r) ∈ s.enqueued
  current : .report flush.number flush.report ∈ flush.lines
  rest : ∀ n r, .report n r ∈ flush.rest → .report n r ∈ flush.lines
  covers : ∀ n r, .report n r ∈ flush.lines →
    (n, r) ∈ s.sent ∨ (n, r) = (flush.number, flush.report) ∨ .report n r ∈ flush.rest

structure ReportQueueInv (s : ReportQueue ρ) : Prop where
  enqueued : ∀ n r, .report n r ∈ s.file → (n, r) ∈ s.enqueued
  flushes : ∀ id flush, s.flushes id = some flush → flush.Fits s

private theorem rq_opened {file : List (QueueLine ρ)} {n : Nat} {r : ρ} :
    (n, r) ∈ (ReportQueue.opened file).enqueued ↔ .report n r ∈ file := by
  show (n, r) ∈ file.filterMap QueueLine.numbered ↔ _
  rw [List.mem_filterMap]
  constructor
  · rintro ⟨line, hline, hnu⟩
    cases line with
    | report number report =>
      cases hnu
      exact hline
    | unparseable text => cases hnu
  · intro hline
    exact ⟨.report n r, hline, rfl⟩

theorem reportQueueInv_opened (file : List (QueueLine ρ)) : ReportQueueInv (ReportQueue.opened file) := by
  constructor
  · intro n r h
    exact rq_opened.2 h
  · intro id flush h
    cases h

variable {s s' : ReportQueue ρ} {flush : ReportFlush ρ}

theorem ReportFlush.Fits.mono (h : flush.Fits s) (henq : s.enqueued ⊆ s'.enqueued) (hsent : s.sent ⊆ s'.sent) :
    flush.Fits s' where
  enqueued n r hmem := henq (h.enqueued n r hmem)
  current := h.current
  rest := h.rest
  covers n r hmem := (h.covers n r hmem).imp_left fun hs => hsent hs

private theorem rq_finish (h : ReportQueueInv s) (id sent : Nat) {remaining : List (QueueLine ρ)}
    (hre : ∀ n r, .report n r ∈ remaining → (n, r) ∈ s.enqueued) :
    ReportQueueInv (s.finishFlush id sent remaining) where
  enqueued := hre
  flushes id' flush hfl := by
    have hne : id' ≠ id := by
      rintro rfl
      rw [show (s.finishFlush id' sent remaining).flushes = s.flushes.erase id' from rfl, Table.erase_self] at hfl
      cases hfl
    have hkept : s.flushes id' = some flush := (Table.erase_of_ne hne).symm.trans hfl
    exact (h.flushes id' flush hkept).mono (List.Subset.refl _) (List.Subset.refl _)

private theorem rq_resumed (h : ReportQueueInv s) (id sent : Nat) {lines todo : List (QueueLine ρ)}
    (hl : ∀ n r, .report n r ∈ lines → (n, r) ∈ s.enqueued) (htodo : ∀ n r, .report n r ∈ todo → .report n r ∈ lines)
    (hco : ∀ n r, .report n r ∈ lines → (n, r) ∈ s.sent ∨ .report n r ∈ todo) :
    ReportQueueInv (s.resumeFlush id lines sent todo) := by
  rcases rq_resume s id lines sent todo with ⟨-, sent', heq⟩ | ⟨sent', number, report, rest, hmem, heq⟩
  · rw [heq]
    exact rq_finish h id sent' fun n r hmem => by cases hmem
  rw [heq]
  refine ⟨h.enqueued, ?_⟩
  intro id' flush hfl
  by_cases hid : id' = id
  · subst hid
    have heqf := (Table.put_self (t := s.flushes)).symm.trans hfl
    cases heqf
    refine ⟨hl, htodo _ _ ((hmem _ _).2 (.inl rfl)), fun n r hr => htodo n r ((hmem n r).2 (.inr hr)), ?_⟩
    intro n r hr
    exact (hco n r hr).imp_right (hmem n r).1
  · have hkept : s.flushes id' = some flush := (Table.put_of_ne hid).symm.trans hfl
    exact (h.flushes id' flush hkept).mono (List.Subset.refl _) (List.Subset.refl _)

variable {id : Nat} {line : QueueLine ρ}

private theorem rq_step_none {ok : Bool} (hfl : s.flushes id = none) :
    reportQueueStep s (.sendSettles id ok) = s := by
  simp only [reportQueueStep, hfl]

private theorem rq_step_some {ok : Bool} (hfl : s.flushes id = some flush) :
    reportQueueStep s (.sendSettles id ok) = s.sendSettled id flush ok := by
  simp only [reportQueueStep, hfl]

private theorem rq_trim (s : ReportQueue ρ) (h : line ∈ s.file) :
    line ∈ s.trim.file ∨ line ∈ s.trim.trimmed := by
  unfold ReportQueue.trim
  split
  · have hsp : line ∈ s.file.take (s.file.length - maxQueueEntries) ++ s.file.drop (s.file.length - maxQueueEntries) := by
      rw [List.take_append_drop]
      exact h
    dsimp only
    rcases List.mem_append.1 hsp with hold | hnew
    · right
      exact List.mem_append_right _ hold
    · left
      exact hnew
  · left
    exact h

private theorem rq_trim_file (s : ReportQueue ρ) (h : line ∈ s.trim.file) : line ∈ s.file := by
  unfold ReportQueue.trim at h
  split at h
  · dsimp only at h
    exact List.mem_of_mem_drop h
  · exact h

private theorem rq_trim_trimmed (s : ReportQueue ρ) (h : line ∈ s.trimmed) : line ∈ s.trim.trimmed := by
  unfold ReportQueue.trim
  split
  · exact List.mem_append_left _ h
  · exact h

private theorem rq_trim_same (s : ReportQueue ρ) :
    s.trim.flushes = s.flushes ∧ s.trim.enqueued = s.enqueued ∧ s.trim.sent = s.sent := by
  unfold ReportQueue.trim
  split <;> exact ⟨rfl, rfl, rfl⟩

theorem ReportQueueInv.step (h : ReportQueueInv s) (e : ReportQueueEvent ρ) : ReportQueueInv (reportQueueStep s e) := by
  cases e with
  | enqueue report =>
    show ReportQueueInv (ReportQueue.trim _)
    constructor
    · intro n r hmem
      rw [(rq_trim_same _).2.1]
      rcases List.mem_append.1 (rq_trim_file _ hmem) with hold | hnew
      · exact List.mem_append_left _ (h.enqueued n r hold)
      · cases List.mem_singleton.1 hnew
        exact List.mem_append_right _ (.head _)
    · intro id flush hfl
      obtain ⟨hflu, henq, hsent⟩ := rq_trim_same { s with
        file := s.file ++ [.report s.enqueued.length report], enqueued := s.enqueued ++ [(s.enqueued.length, report)] }
      rw [hflu] at hfl
      refine (h.flushes id flush hfl).mono ?_ ?_
      · rw [henq]
        exact List.subset_append_left ..
      · rw [hsent]
        exact List.Subset.refl _
  | flush id =>
    show ReportQueueInv (if _ then s else s.flushReports id)
    split
    · exact h
    unfold ReportQueue.flushReports
    split
    · exact ⟨h.enqueued, fun id' flush hfl =>
        (h.flushes id' flush hfl).mono (List.Subset.refl _) (List.Subset.refl _)⟩
    · exact rq_resumed h id 0 h.enqueued (fun _ _ hmem => hmem) fun _ _ hmem => .inr hmem
  | sendSettles id ok =>
    cases hfl : s.flushes id with
    | none =>
      rw [rq_step_none hfl]
      exact h
    | some flush =>
      have hfits := h.flushes id flush hfl
      rw [rq_step_some hfl]
      unfold ReportQueue.sendSettled
      split
      · have hsent : ReportQueueInv { s with sent := s.sent ++ [(flush.number, flush.report)] } :=
          ⟨h.enqueued, fun id' other ho =>
            (h.flushes id' other ho).mono (List.Subset.refl _) (List.subset_append_left ..)⟩
        refine rq_resumed hsent id (flush.sent + 1) hfits.enqueued hfits.rest ?_
        intro n r hmem
        rcases hfits.covers n r hmem with hs | hs | hs
        · exact .inl (List.mem_append_left _ hs)
        · exact .inl (List.mem_append_right _ (List.mem_singleton.2 hs))
        · exact .inr hs
      · refine rq_finish h id flush.sent ?_
        intro n r hmem
        rcases List.mem_cons.1 hmem with hcur | hrest
        · cases hcur
          exact hfits.enqueued _ _ hfits.current
        · exact hfits.enqueued n r (hfits.rest n r hrest)

private theorem rq_settled (h : ReportQueueInv s) (ok : Bool) (hfl : s.flushes id = some flush) :
    (flush.EndsWith ok ∧
      (∀ n r, .report n r ∈ (s.sendSettled id flush ok).file → .report n r ∈ flush.lines) ∧
      (∀ n r, .report n r ∈ flush.lines →
        (n, r) ∈ (s.sendSettled id flush ok).sent ∨ .report n r ∈ (s.sendSettled id flush ok).file) ∨
      ¬flush.EndsWith ok ∧ (s.sendSettled id flush ok).file = s.file) ∧
    (s.sendSettled id flush ok).enqueued = s.enqueued ∧ (s.sendSettled id flush ok).trimmed = s.trimmed ∧
    (∀ n r, (n, r) ∈ (s.sendSettled id flush ok).sent → (n, r) ∈ s.sent ∨ .report n r ∈ flush.lines) ∧
    s.sent ⊆ (s.sendSettled id flush ok).sent := by
  have hfits := h.flushes id flush hfl
  cases ok with
  | false =>
    have heq : s.sendSettled id flush false = s.finishFlush id flush.sent (.report flush.number flush.report :: flush.rest) := rfl
    rw [heq]
    refine ⟨.inl ⟨.inl rfl, ?_, ?_⟩, rfl, rfl, fun n r hmem => .inl hmem, List.Subset.refl _⟩
    · intro n r hmem
      rcases List.mem_cons.1 hmem with hcur | hrest
      · cases hcur
        exact hfits.current
      · exact hfits.rest n r hrest
    intro n r hmem
    rcases hfits.covers n r hmem with hs | hs | hs
    · exact .inl hs
    · cases hs
      exact .inr (.head _)
    · exact .inr (.tail _ hs)
  | true =>
    have heq : s.sendSettled id flush true = ({ s with sent := s.sent ++ [(flush.number, flush.report)] } :
      ReportQueue ρ).resumeFlush id flush.lines (flush.sent + 1) flush.rest := rfl
    have hsent : ∀ n r, (n, r) ∈ s.sent ++ [(flush.number, flush.report)] → (n, r) ∈ s.sent ∨ .report n r ∈ flush.lines := by
      intro n r hmem
      rcases List.mem_append.1 hmem with hs | hs
      · exact .inl hs
      · cases List.mem_singleton.1 hs
        exact .inr hfits.current
    rw [heq]
    rcases rq_resume { s with sent := s.sent ++ [(flush.number, flush.report)] } id flush.lines (flush.sent + 1) flush.rest
      with ⟨hnone, sent', hends⟩ | ⟨sent', number, report, rest, hmem, hwt⟩
    · rw [hends]
      refine ⟨.inl ⟨.inr hnone, ?_, ?_⟩, rfl, rfl, hsent, List.subset_append_left ..⟩
      · intro n r hr
        cases hr
      intro n r hr
      left
      rcases hfits.covers n r hr with hs | hs | hs
      · exact List.mem_append_left _ hs
      · exact List.mem_append_right _ (List.mem_singleton.2 hs)
      · exact absurd hs (hnone n r)
    · rw [hwt]
      refine ⟨.inr ⟨?_, rfl⟩, rfl, rfl, hsent, List.subset_append_left ..⟩
      rintro (hfail | hnone)
      · cases hfail
      · exact hnone number report ((hmem number report).2 (.inl rfl))

private theorem rq_accounted_iff (h : ReportQueueInv s) (hs : s.Accounted) (e : ReportQueueEvent ρ) :
    (reportQueueStep s e).Accounted ↔ FlushesWhatItRead s e := by
  cases e with
  | enqueue report =>
    refine iff_of_true ?_ trivial
    show (ReportQueue.trim _).Accounted
    intro n r hmem
    obtain ⟨-, henq, hsent⟩ := rq_trim_same { s with
      file := s.file ++ [.report s.enqueued.length report], enqueued := s.enqueued ++ [(s.enqueued.length, report)] }
    rw [henq] at hmem
    unfold ReportQueue.Keeps
    rw [hsent]
    rcases List.mem_append.1 hmem with hold | hnew
    · rcases hs n r hold with hkp | hkp | hkp
      · exact .inl hkp
      · exact .inr (rq_trim _ (List.mem_append_left _ hkp))
      · exact .inr (.inr (rq_trim_trimmed _ hkp))
    · cases List.mem_singleton.1 hnew
      exact .inr (rq_trim _ (List.mem_append_right _ (.head _)))
  | flush id =>
    refine iff_of_true ?_ trivial
    show (if _ then s else s.flushReports id).Accounted
    split
    · exact hs
    unfold ReportQueue.flushReports
    split
    · exact hs
    rcases rq_resume s id s.file 0 s.file with ⟨hnone, sent', heq⟩ | ⟨sent', number, report, rest, -, heq⟩
    · rw [heq]
      intro n r hmem
      rcases hs n r hmem with hkp | hkp | hkp
      · exact .inl hkp
      · exact absurd hkp (hnone n r)
      · exact .inr (.inr hkp)
    · rw [heq]
      exact hs
  | sendSettles id ok =>
    cases hfl : s.flushes id with
    | none =>
      rw [rq_step_none hfl]
      refine iff_of_true hs fun flush hsome => ?_
      rw [hfl] at hsome
      cases hsome
    | some flush =>
      rw [rq_step_some hfl]
      show _ ↔ ∀ flush, s.flushes id = some flush → _
      rw [hfl]
      obtain ⟨hfile, henq, htrim, hsent, hgw⟩ := rq_settled h ok hfl
      rcases hfile with ⟨hends, honly, hco⟩ | ⟨hgoes, hsame⟩
      · constructor
        · -- a report of the file that is unread, unsent and not trimmed is nowhere afterwards
          rintro hac flush' hsome - n r hmem
          cases hsome
          have hkp := hac n r (henq ▸ h.enqueued n r hmem)
          rcases hkp with hkp | hkp | hkp
          · rcases hsent n r hkp with hbef | hread
            · exact .inr (.inl hbef)
            · exact .inl hread
          · exact .inl (honly n r hkp)
          · exact .inr (.inr (htrim ▸ hkp))
        · intro hcond n r hmem
          rw [henq] at hmem
          have hread : .report n r ∈ flush.lines → (s.sendSettled id flush ok).Keeps n r := fun hread =>
            (hco n r hread).imp_right .inl
          rcases hs n r hmem with hkp | hkp | hkp
          · exact .inl (hgw hkp)
          · rcases hcond flush rfl hends n r hkp with hin | hin | hin
            · exact hread hin
            · exact .inl (hgw hin)
            · exact .inr (.inr (htrim ▸ hin))
          · exact .inr (.inr (htrim ▸ hkp))
      · refine iff_of_true ?_ ?_
        · intro n r hmem
          rw [henq] at hmem
          rcases hs n r hmem with hkp | hkp | hkp
          · exact .inl (hgw hkp)
          · exact .inr (.inl (hsame ▸ hkp))
          · exact .inr (.inr (htrim ▸ hkp))
        · intro flush' hsome hends
          cases hsome
          exact absurd hends hgoes

/-- In a run from any file every enqueued report is sent, in the file or trimmed at every moment exactly when no flush
writes over a report that it did not read. -/
theorem report_queue_keeps_reports (file : List (QueueLine ρ)) (es : List (ReportQueueEvent ρ)) :
    Always reportQueueStep (fun s e => (reportQueueStep s e).Accounted) (.opened file) es ↔
      Always reportQueueStep FlushesWhatItRead (.opened file) es := by
  refine always_congr (I := fun s : ReportQueue ρ => ReportQueueInv s ∧ s.Accounted) ⟨reportQueueInv_opened file, ?_⟩ ?_ ?_
  · intro n r hmem
    exact .inr (.inl (rq_opened.1 hmem))
  · intro s e hI
    exact rq_accounted_iff hI.1 hI.2 e
  · intro s e hI hac
    exact ⟨hI.1.step e, hac⟩

/-- The report that is enqueued while a flush sends another one is gone when the flush writes. -/
theorem flush_overwrites_enqueued :
    let s := run reportQueueStep (ReportQueue.opened [] : ReportQueue String)
      [.enqueue "first", .flush 0, .enqueue "second", .sendSettles 0 true]
    (1, "second") ∈ s.enqueued ∧ ¬s.Keeps 1 "second" := by
  unfold ReportQueue.Keeps
  decide +kernel

end LamaSync
