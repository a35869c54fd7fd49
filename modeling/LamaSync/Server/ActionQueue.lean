import LamaSync.Server.Actions
import LamaSync.Lib.Trace
import Mathlib.Data.List.Nodup

/-!
# Runs of the action queue

Any number of hosts, administrators and daemons send requests to the queue in any order, with any clock.  Along every
such run a poll returns no action whose lease is unexpired, an outcome stays as it is, and the acknowledgements of an
action write one audit row if it has an outcome and none otherwise (`action_outcomes_exactly_once`).

`actionStep_rows` says once what a request can do to the rows.
-/

namespace LamaSync

open Trace

inductive ActionEvent where
  | enqueue (principal : Option AuthPrincipal) (hostKnown : Bool) (payloadError : Option String) (id hostId : String)
      (type : QueuedActionType) (payload : Option Json) (now : Int)
  | pending (principal : Option AuthPrincipal) (hostId : Option String) (requested : Option Rat) (reapedAt now : Int)
  | taken (principal : Option AuthPrincipal) (hostId : Option String)
  | lease (principal : Option AuthPrincipal) (id : String) (now : Int)
  | complete (principal : Option AuthPrincipal) (id : String) (status : CompletionStatus) (result : Option String)
      (now : Int)
  | reap (now : Int)

def actionStep (db : ActionDb) : ActionEvent → ActionDb
  | .enqueue principal hostKnown payloadError id hostId type payload now =>
    (enqueueRoute db principal hostKnown payloadError id hostId type payload now).1
  | .pending principal hostId requested reapedAt now => (pendingRoute db principal hostId requested reapedAt now).1
  | .taken principal hostId => (takenRoute db principal hostId).1
  | .lease principal id now => (actionLeaseRoute db principal id now).1
  | .complete principal id status result now => (completeActionRoute db principal id status result now).1
  | .reap now => reapStaleTakenActions db now

def emptyActionDb : ActionDb where
  actions := []
  operationLog := []

def auditRowsOf (id : String) (db : ActionDb) (e : ActionEvent) : List OperationLogRow :=
  match e with
  | .complete _ acked _ _ _ =>
    if acked = id then (actionStep db e).operationLog.drop db.operationLog.length else []
  | _ => []

/-- What one request does to one row. -/
inductive ActionRowStep (e : ActionEvent) (row : ActionRow) : ActionRow → Prop where
  | same : ActionRowStep e row row
  | release {now} (taken : row.status = .taken) (lapsed : row.leaseEnd < now) :
      ActionRowStep e row { row with status := .pending, takenAt := none, leaseExpiresAt := none }
  | claim {now} (free : row.status = .pending ∨ row.status = .taken) :
      ActionRowStep e row { row with
        status := .taken, takenAt := some now, leaseExpiresAt := some (now + actionLeaseMs) }
  | renew {now} (taken : row.status = .taken) :
      ActionRowStep e row { row with leaseExpiresAt := some (now + actionLeaseMs) }
  | complete {principal status result now} (event : e = .complete principal row.id status result now)
      (isOpen : row.status.isTerminal = false) : ActionRowStep e row (row.completed status result now)

structure FreshAction (row : ActionRow) : Prop where
  pending : row.status = .pending
  lease : row.leaseExpiresAt = none

/-- What one request does to the table: every row makes a step, and at most one row with a new id comes last. -/
def ActionsStep (e : ActionEvent) (db db' : ActionDb) : Prop :=
  ∃ f new, db'.actions = db.actions.map f ++ new ∧ (∀ row ∈ db.actions, ActionRowStep e row (f row)) ∧
    (∀ row ∈ new, FreshAction row ∧ getAction db row.id = none) ∧ new.length ≤ 1

section Step

variable {db db' : ActionDb} {id : String} {row row' : ActionRow} {e : ActionEvent}

theorem ActionRowStep.id_eq (h : ActionRowStep e row row') : row'.id = row.id := by
  cases h <;> rfl

theorem ActionRowStep.terminal (h : ActionRowStep e row row') (hrow : row.status.isTerminal = true) : row' = row := by
  cases h with
  | same => rfl
  | release taken | renew taken => rw [taken] at hrow; cases hrow
  | claim free => rcases free with hfree | hfree <;> rw [hfree] at hrow <;> cases hrow
  | complete _ isOpen => rw [isOpen] at hrow; cases hrow

private theorem aq_update {guard : ActionRow → Bool} {set : ActionRow → ActionRow}
    (h : ∀ row ∈ db.actions, guard row = true → ActionRowStep e row (set row)) : ActionsStep e db (db.update guard set) := by
  refine ⟨fun row => if guard row then set row else row, [], by simp [ActionDb.update], ?_, by simp, by simp⟩
  intro row hrow
  dsimp only
  split
  · rename_i hg; exact h row hrow hg
  · exact .same

private theorem aq_same (h : db'.actions = db.actions) : ActionsStep e db db' :=
  ⟨fun row => row, [], by simp [h], fun _ _ => .same, by simp, by simp⟩

private theorem aq_reap {now : Int} : ActionsStep e db (reapStaleTakenActions db now) := by
  refine aq_update ?_
  intro row _ hg
  rw [Bool.and_eq_true, beq_iff_eq, decide_eq_true_eq] at hg
  exact .release hg.1 hg.2

private theorem aq_claim {ids : List String} {reapedAt now : Int} :
    ActionsStep e db (claimActions (reapStaleTakenActions db reapedAt) ids now) := by
  refine ⟨fun row =>
    let reaped := if row.status == .taken && decide (row.leaseEnd < reapedAt) then
      { row with status := .pending, takenAt := none, leaseExpiresAt := none } else row
    if ids.contains reaped.id && reaped.status == .pending then
      { reaped with status := .taken, takenAt := some now, leaseExpiresAt := some (now + actionLeaseMs) } else reaped,
    [], ?_, ?_, by simp, by simp⟩
  · simp [claimActions, reapStaleTakenActions, ActionDb.update, Function.comp_def]
  intro row _
  dsimp only
  by_cases hlaps : (row.status == .taken && decide (row.leaseEnd < reapedAt)) = true
  · rw [if_pos hlaps]
    rw [Bool.and_eq_true, beq_iff_eq, decide_eq_true_eq] at hlaps
    split
    · exact .claim (.inr hlaps.1)
    · exact .release hlaps.1 hlaps.2
  rw [if_neg hlaps]
  split
  · rename_i hcl
    rw [Bool.and_eq_true, beq_iff_eq] at hcl
    exact .claim (.inl hcl.2)
  · exact .same

@[simp] theorem answerAction_db (db : ActionDb) (id error : String) : (answerAction db id error).1 = db := by
  unfold answerAction
  split <;> rfl

theorem completeActionRoute_cases (db : ActionDb) (principal : Option AuthPrincipal) (id : String)
    (status : CompletionStatus) (result : Option String) (now : Int) :
    (completeActionRoute db principal id status result now).1 = db ∨
    ∃ row, getAction db id = some row ∧ row.status.isTerminal = false ∧
      (completeActionRoute db principal id status result now).1 =
        { db.update (fun row => row.id == id) (fun row => row.completed status result now) with
          operationLog := db.operationLog ++ [row.auditRow status result now] } := by
  unfold completeActionRoute
  split
  · exact .inl rfl
  rename_i existing hf
  split
  · exact .inl rfl
  split
  · exact .inl (answerAction_db _ _ _)
  rename_i hopen
  refine .inr ⟨existing, hf, by simpa using hopen, ?_⟩
  rw [answerAction_db]
  rfl

theorem getAction_some (h : getAction db id = some row) : row ∈ db.actions ∧ row.id = id :=
  ⟨List.mem_of_find?_eq_some h, by simpa using List.find?_some h⟩

structure ActionQueueInv (db : ActionDb) : Prop where
  unique : (db.actions.map ActionRow.id).Nodup
  leased : ∀ row ∈ db.actions, row.status ≠ .taken → row.leaseExpiresAt = none

theorem ActionQueueInv.row_eq (h : ActionQueueInv db) (hrow : row ∈ db.actions) (hrow' : row' ∈ db.actions)
    (hid : row.id = row'.id) : row = row' := List.inj_on_of_nodup_map h.unique hrow hrow' hid

theorem ActionQueueInv.getAction_of_mem (h : ActionQueueInv db) (hrow : row ∈ db.actions) :
    getAction db row.id = some row := by
  have hsome : (getAction db row.id).isSome = true := by
    unfold getAction
    rw [List.find?_isSome]
    exact ⟨row, hrow, by simp⟩
  obtain ⟨found, hf⟩ := Option.isSome_iff_exists.1 hsome
  obtain ⟨hmem, hid⟩ := getAction_some hf
  rw [hf, h.row_eq hmem hrow hid]

theorem actionStep_rows (h : ActionQueueInv db) : ActionsStep e db (actionStep db e) := by
  cases e with
  | enqueue principal hostKnown payloadError id hostId type payload now =>
    simp only [actionStep, enqueueRoute]
    split
    · exact aq_same rfl
    split
    · exact aq_same rfl
    split
    · exact aq_same rfl
    split
    · exact aq_same rfl
    split
    · exact aq_same rfl
    rename_i hfr
    refine ⟨fun row => row, _, by rw [List.map_id'], fun _ _ => .same, ?_, by simp⟩
    intro row hrow
    rw [List.mem_singleton] at hrow
    subst hrow
    exact ⟨⟨rfl, rfl⟩, by simpa using hfr⟩
  | pending principal hostId requested reapedAt now =>
    simp only [actionStep, pendingRoute]
    split
    · exact aq_same rfl
    split
    · exact aq_same rfl
    · exact aq_same rfl
    split
    · exact aq_reap
    · exact aq_claim
  | taken principal hostId =>
    simp only [actionStep, takenRoute]
    split
    · exact aq_same rfl
    split <;> exact aq_same rfl
  | lease principal id now =>
    simp only [actionStep, actionLeaseRoute]
    split
    · exact aq_same rfl
    split
    · exact aq_same rfl
    split
    · exact aq_same rfl
    rw [answerAction_db]
    refine aq_update ?_
    intro row _ hg
    rw [Bool.and_eq_true, beq_iff_eq, beq_iff_eq] at hg
    exact .renew hg.2
  | complete principal id status result now =>
    rcases completeActionRoute_cases db principal id status result now with hsame | ⟨existing, hf, hopen, hac⟩
    · exact aq_same (congrArg ActionDb.actions hsame)
    obtain ⟨hmem, hid⟩ := getAction_some hf
    have hstep : ActionsStep (.complete principal id status result now) db
        (db.update (fun row => row.id == id) fun row => row.completed status result now) := by
      refine aq_update ?_
      intro row hrow hg
      rw [beq_iff_eq] at hg
      obtain rfl : row = existing := h.row_eq hrow hmem (hg.trans hid.symm)
      exact .complete (by rw [hid]) hopen
    obtain ⟨f, new, hacts, hrest⟩ := hstep
    refine ⟨f, new, ?_, hrest⟩
    simp only [actionStep, hac]
    exact hacts
  | reap now => exact aq_reap

theorem ActionRowStep.leased (h : ActionRowStep e row row')
    (hrow : row.status ≠ .taken → row.leaseExpiresAt = none) : row'.status ≠ .taken → row'.leaseExpiresAt = none := by
  intro hfree
  cases h with
  | same => exact hrow hfree
  | release | complete => rfl
  | claim => exact absurd rfl hfree
  | renew taken => exact absurd taken hfree

theorem ActionQueueInv.step (h : ActionQueueInv db) : ActionQueueInv (actionStep db e) := by
  obtain ⟨f, new, hacts, hf, hnew, hone⟩ := actionStep_rows (e := e) h
  have hids : (db.actions.map f).map ActionRow.id = db.actions.map ActionRow.id := by
    rw [List.map_map]
    exact List.map_congr_left fun row hrow => (hf row hrow).id_eq
  refine ⟨?_, ?_⟩
  · rw [hacts, List.map_append, hids]
    have hsi : (new.map ActionRow.id).Nodup := by
      rcases new with - | ⟨fresh, - | ⟨_, _⟩⟩
      · exact List.nodup_nil
      · exact List.nodup_singleton _
      · simp at hone
    refine h.unique.append hsi ?_
    · intro id hid hid'
      obtain ⟨row, hrow, rfl⟩ := List.mem_map.1 hid
      obtain ⟨fresh, hfr, hsame⟩ := List.mem_map.1 hid'
      have hnone := (hnew fresh hfr).2
      rw [hsame, h.getAction_of_mem hrow] at hnone
      cases hnone
  · rw [hacts]
    intro row' hrow'
    rcases List.mem_append.1 hrow' with hold | hfr
    · obtain ⟨row, hrow, rfl⟩ := List.mem_map.1 hold
      exact (hf row hrow).leased (h.leased row hrow)
    · exact fun _ => (hnew row' hfr).1.lease

theorem actionQueueInv_empty : ActionQueueInv emptyActionDb where
  unique := by simp [emptyActionDb]
  leased row hrow := by cases hrow

theorem ActionQueueInv.getAction_step (h : ActionQueueInv db) (hrow : getAction db id = some row) :
    ∃ row', getAction (actionStep db e) id = some row' ∧ ActionRowStep e row row' := by
  obtain ⟨f, new, hacts, hf, -⟩ := actionStep_rows (e := e) h
  obtain ⟨hmem, hid⟩ := getAction_some hrow
  have hmem' : f row ∈ (actionStep db e).actions := by
    rw [hacts]
    exact List.mem_append_left _ (List.mem_map_of_mem hmem)
  have hfo := (h.step (e := e)).getAction_of_mem hmem'
  rw [(hf row hmem).id_eq, hid] at hfo
  exact ⟨f row, hfo, hf row hmem⟩

theorem ActionQueueInv.getAction_new (h : ActionQueueInv db) (hrow : getAction db id = none)
    (hrow' : getAction (actionStep db e) id = some row') : row'.status = .pending := by
  obtain ⟨f, new, hacts, hf, hnew, -⟩ := actionStep_rows (e := e) h
  obtain ⟨hmem', hid'⟩ := getAction_some hrow'
  rw [hacts] at hmem'
  rcases List.mem_append.1 hmem' with hold | hfr
  · obtain ⟨row, hmem, rfl⟩ := List.mem_map.1 hold
    have hfo := h.getAction_of_mem hmem
    rw [← (hf row hmem).id_eq, hid', hrow] at hfo
    cases hfo
  · exact (hnew row' hfr).1.pending

def ActionRow.leaseUnexpired (row : ActionRow) (now : Int) : Bool :=
  match row.leaseExpiresAt with
  | some expiresAt => decide (now ≤ expiresAt)
  | none => row.status == .taken && decide (now ≤ row.leaseEnd)

private theorem aq_claimed {hostId : String} {limit : Nat} {reapedAt now : Int} {a : QueuedAction}
    (h : ActionQueueInv db) (hid : row.id = a.id) (hrow : row ∈ db.actions)
    (ha : a ∈ ((claimActions (reapStaleTakenActions db reapedAt)
        (((pendingRows (reapStaleTakenActions db reapedAt) hostId).take limit).map ActionRow.id) now).actions.filter
      fun row => (((pendingRows (reapStaleTakenActions db reapedAt) hostId).take limit).map ActionRow.id).contains
        row.id).map rowToAction) :
    row.status = .pending ∨ row.status = .taken ∧ row.leaseEnd < reapedAt := by
  obtain ⟨returned, hret, rfl⟩ := List.mem_map.1 ha
  have hin := (List.mem_filter.1 hret).2
  rw [List.contains_iff_mem] at hin
  obtain ⟨selected, hsel, hsame⟩ := List.mem_map.1 hin
  have hpend := List.mem_of_mem_take hsel
  rw [pendingRows, List.mem_mergeSort, List.mem_filter] at hpend
  obtain ⟨hre, hfree⟩ := hpend
  rw [Bool.and_eq_true, beq_iff_eq, beq_iff_eq] at hfree
  obtain ⟨before, hbef, rfl⟩ := List.mem_map.1 hre
  dsimp only at hfree hsame
  by_cases hlaps : (before.status == .taken && decide (before.leaseEnd < reapedAt)) = true
  · rw [if_pos hlaps] at hsame
    obtain rfl : row = before := h.row_eq hrow hbef (hid.trans hsame.symm)
    rw [Bool.and_eq_true, beq_iff_eq, decide_eq_true_eq] at hlaps
    exact .inr hlaps
  rw [if_neg hlaps] at hsame hfree
  obtain rfl : row = before := h.row_eq hrow hbef (hid.trans hsame.symm)
  exact .inl hfree.2

def PollRespectsLeases (db : ActionDb) (e : ActionEvent) : Prop :=
  ∀ principal hostId requested reapedAt now returned, e = .pending principal hostId requested reapedAt now →
    (pendingRoute db principal hostId requested reapedAt now).2 = .actions returned →
    ∀ a ∈ returned, ∀ row ∈ db.actions, row.id = a.id → row.leaseUnexpired reapedAt = false

theorem ActionQueueInv.poll (h : ActionQueueInv db) : PollRespectsLeases db e := by
  intro principal hostId requested reapedAt now returned _ hrp a ha row hrow hid
  have hfree : row.status = .pending ∨ row.status = .taken ∧ row.leaseEnd < reapedAt := by
    unfold pendingRoute at hrp
    split at hrp
    · cases hrp
    split at hrp
    · cases hrp
    · cases hrp
    dsimp only at hrp
    split at hrp
    · cases hrp
    · cases hrp
      exact aq_claimed h hid hrow ha
  unfold ActionRow.leaseUnexpired
  rcases hfree with hpend | ⟨htk, hlaps⟩
  · rw [h.leased row hrow (by rw [hpend]; exact QueuedActionStatus.noConfusion), hpend]
    rfl
  unfold ActionRow.leaseEnd at hlaps ⊢
  cases hle : row.leaseExpiresAt with
  | some expiresAt =>
    rw [hle] at hlaps
    simpa using hlaps
  | none =>
    rw [hle] at hlaps
    simpa [htk] using hlaps

def OutcomeKept (db : ActionDb) (e : ActionEvent) : Prop :=
  ∀ id row, getAction db id = some row → row.status.isTerminal = true → getAction (actionStep db e) id = some row

theorem ActionQueueInv.outcome (h : ActionQueueInv db) : OutcomeKept db e := by
  intro id row hrow hterm
  obtain ⟨row', hrow', hstep⟩ := h.getAction_step (e := e) hrow
  rw [hrow', hstep.terminal hterm]

def ActionRow.outcomeRow (row : ActionRow) : OperationLogRow where
  timestamp := row.completedAt.getD 0
  hostId := row.hostId
  operation := row.type.text
  status := row.status.text
  summary := row.result

def auditRowsDue (db : ActionDb) (id : String) : List OperationLogRow :=
  match getAction db id with
  | some row => if row.status.isTerminal then [row.outcomeRow] else []
  | none => []

private theorem aq_due_open (h : ActionQueueInv db)
    (hopen : ∀ row row', getAction db id = some row → getAction (actionStep db e) id = some row' →
      row.status.isTerminal = false → row'.status.isTerminal = false) :
    auditRowsDue (actionStep db e) id = auditRowsDue db id := by
  unfold auditRowsDue
  cases hrow : getAction db id with
  | some row =>
    obtain ⟨row', hrow', hstep⟩ := h.getAction_step (e := e) hrow
    rw [hrow']
    cases hterm : row.status.isTerminal with
    | true => simp [hstep.terminal hterm, hterm]
    | false => simp [hterm, hopen row row' hrow hrow' hterm]
  | none =>
    cases hrow' : getAction (actionStep db e) id with
    | none => rfl
    | some row' => simp [h.getAction_new hrow hrow', QueuedActionStatus.isTerminal]

private theorem aq_not_acked (hstep : ActionRowStep e row row')
    (hne : ∀ principal status result now, e ≠ .complete principal row.id status result now)
    (hopen : row.status.isTerminal = false) : row'.status.isTerminal = false := by
  cases hstep with
  | same | renew => exact hopen
  | release | claim => rfl
  | complete event => exact absurd event (hne _ _ _ _)

theorem ActionQueueInv.audit (h : ActionQueueInv db) :
    auditRowsDue (actionStep db e) id = auditRowsDue db id ++ auditRowsOf id db e := by
  have ho (hne : ∀ principal status result now, e ≠ .complete principal id status result now) :
      auditRowsDue (actionStep db e) id = auditRowsDue db id := by
    refine aq_due_open h ?_
    intro row row' hrow hrow' hopen
    obtain ⟨next, hnext, hstep⟩ := h.getAction_step (e := e) hrow
    rw [hrow'] at hnext
    cases hnext
    refine aq_not_acked hstep ?_ hopen
    rw [(getAction_some hrow).2]
    exact hne
  cases e with
  | complete principal acked status result now =>
    by_cases hid : acked = id
    · subst hid
      rcases completeActionRoute_cases db principal acked status result now with hsame | ⟨row, hrow, hopen, hac⟩
      · -- refused, or settled already
        have hstep : actionStep db (.complete principal acked status result now) = db := hsame
        simp [auditRowsOf, hstep]
      have hstep : actionStep db (.complete principal acked status result now) = _ := hac
      have hrow' : getAction (actionStep db (.complete principal acked status result now)) acked =
          some (row.completed status result now) := by
        rw [hstep]
        unfold getAction ActionDb.update at *
        rw [List.find?_map]
        have hcomp : ((fun row : ActionRow => row.id == acked) ∘ fun row : ActionRow =>
            if (row.id == acked) = true then row.completed status result now else row) =
            fun row => row.id == acked := by
          funext row
          simp only [Function.comp_apply]
          split <;> rfl
        rw [hcomp, hrow]
        simp [(getAction_some hrow).2]
      have hwr : auditRowsOf acked db (.complete principal acked status result now) =
          [row.auditRow status result now] := by
        simp [auditRowsOf, hstep, ActionDb.update]
      have hterm : status.status.isTerminal = true := by cases status <;> rfl
      rw [hwr]
      simp [auditRowsDue, hrow, hrow', hopen, ActionRow.completed, hterm, ActionRow.outcomeRow,
        ActionRow.auditRow]
    · have hsil : auditRowsOf id db (.complete principal acked status result now) = [] := by
        simp [auditRowsOf, hid]
      rw [hsil, List.append_nil]
      refine ho ?_
      intro p s r n heq
      cases heq
      exact hid rfl
  | enqueue | pending | taken | lease | reap =>
    have hdue := ho (fun _ _ _ _ => ActionEvent.noConfusion)
    simpa [auditRowsOf] using hdue

/-- Only an acknowledgement writes an audit row. -/
def LoggedByAcks (db : ActionDb) (e : ActionEvent) : Prop :=
  (∀ principal id status result now, e ≠ .complete principal id status result now) →
    (actionStep db e).operationLog = db.operationLog

theorem loggedByAcks (db : ActionDb) (e : ActionEvent) : LoggedByAcks db e := by
  intro hne
  cases e with
  | complete principal id status result now => exact absurd rfl (hne principal id status result now)
  | enqueue | pending | taken | lease | reap =>
    simp only [actionStep, enqueueRoute, pendingRoute, takenRoute, actionLeaseRoute]
    repeat' split
    all_goals first | rfl | rw [answerAction_db]; rfl

end Step

/-- Along every run of the queue: no poll returns an action with an unexpired lease, an outcome is never rewritten,
and the audit rows written for an action, all of them by its acknowledgements, are the one of its outcome when it has
one and none otherwise. -/
theorem action_outcomes_exactly_once (es : List ActionEvent) :
    Always actionStep PollRespectsLeases emptyActionDb es ∧
    Always actionStep OutcomeKept emptyActionDb es ∧
    Always actionStep LoggedByAcks emptyActionDb es ∧
    ∀ id, outputs actionStep (auditRowsOf id) emptyActionDb es = auditRowsDue (run actionStep emptyActionDb es) id := by
  have hstep : ∀ db e, ActionQueueInv db → True → ActionQueueInv (actionStep db e) := fun db e h _ => h.step
  refine ⟨?_, ?_, ?_, ?_⟩
  · exact always_true.of_invariant actionQueueInv_empty hstep fun db e h _ => h.poll
  · exact always_true.of_invariant actionQueueInv_empty hstep fun db e h _ => h.outcome
  · exact always_true.mono fun db e _ => loggedByAcks db e
  intro id
  have hdue : ∀ db e rows, ActionQueueInv db ∧ rows = auditRowsDue db id →
      ActionQueueInv (actionStep db e) ∧ rows ++ auditRowsOf id db e = auditRowsDue (actionStep db e) id := by
    rintro db e rows ⟨h, rfl⟩
    exact ⟨h.step, h.audit.symm⟩
  exact (outputs_invariant ⟨actionQueueInv_empty, rfl⟩ hdue).2

end LamaSync
