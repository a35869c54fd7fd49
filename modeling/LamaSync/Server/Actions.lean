import LamaSync.Core.Json
import LamaSync.Server.Principal
import Mathlib.Algebra.Order.Field.Rat
import Mathlib.Data.List.Basic

/-!
# Queued actions

The control plane enqueues actions for a host.  The host's daemon polls for them, renews its lease on the ones it is
executing, and acknowledges each with its outcome, which also writes a row of `operation_log`.  Every poll first
flips the taken actions whose lease has expired back to pending.

The handlers are synchronous, so each is one step.
-/

namespace LamaSync

inductive QueuedActionType where
  | triggerSync | triggerBackup | checkUpdate | refreshConfig | updateDaemon | diagnoseFolder | planFolder
  | folderIntervention | seedJob
  deriving DecidableEq, Repr

def QueuedActionType.text : QueuedActionType → String
  | .triggerSync => "trigger_sync"
  | .triggerBackup => "trigger_backup"
  | .checkUpdate => "check_update"
  | .refreshConfig => "refresh_config"
  | .updateDaemon => "update_daemon"
  | .diagnoseFolder => "diagnose_folder"
  | .planFolder => "plan_folder"
  | .folderIntervention => "folder_intervention"
  | .seedJob => "seed_job"

inductive QueuedActionStatus where
  | pending | taken | done | failed
  deriving DecidableEq, Repr

def QueuedActionStatus.text : QueuedActionStatus → String
  | .pending => "pending"
  | .taken => "taken"
  | .done => "done"
  | .failed => "failed"

def QueuedActionStatus.isTerminal : QueuedActionStatus → Bool
  | .done | .failed => true
  | .pending | .taken => false

/-- The statuses an acknowledgement may carry. -/
inductive CompletionStatus where
  | done | failed
  deriving DecidableEq, Repr

def CompletionStatus.status : CompletionStatus → QueuedActionStatus
  | .done => .done
  | .failed => .failed

structure ActionRow where
  id : String
  hostId : String
  type : QueuedActionType
  payload : Option Json
  status : QueuedActionStatus
  createdAt : Int
  takenAt : Option Int
  completedAt : Option Int
  result : Option String
  leaseExpiresAt : Option Int

structure QueuedAction where
  id : String
  hostId : String
  type : QueuedActionType
  payload : Option (List (String × Json))
  status : QueuedActionStatus
  createdAt : Int
  takenAt : Option Int
  completedAt : Option Int
  result : Option String

def rowToAction (row : ActionRow) : QueuedAction :=
  { row with
    payload := match row.payload with
      | some (.obj fields) => some fields
      | _ => none }

structure OperationLogRow where
  timestamp : Int
  hostId : String
  operation : String
  status : String
  summary : Option String
  deriving DecidableEq

/-- The two tables. -/
structure ActionDb where
  actions : List ActionRow
  operationLog : List OperationLogRow

inductive ActionReply where
  | refused (status : Nat) (error : String)
  | action (a : QueuedAction)
  | actions (as : List QueuedAction)

def actionLeaseMs : Int := 10 * 60000

def pendingTakeLimit : Nat := 10

def actionHistoryMaxLimit : Nat := 200

def ActionRow.leaseEnd (row : ActionRow) : Int := row.leaseExpiresAt.getD (row.takenAt.getD 0 + actionLeaseMs)

def getAction (db : ActionDb) (id : String) : Option ActionRow := db.actions.find? fun row => row.id == id

def ActionDb.update (db : ActionDb) (guard : ActionRow → Bool) (set : ActionRow → ActionRow) : ActionDb :=
  { db with actions := db.actions.map fun row => if guard row then set row else row }

def reapStaleTakenActions (db : ActionDb) (now : Int) : ActionDb :=
  db.update (fun row => row.status == .taken && decide (row.leaseEnd < now)) fun row =>
    { row with status := .pending, takenAt := none, leaseExpiresAt := none }

def enqueueRoute (db : ActionDb) (principal : Option AuthPrincipal) (hostKnown : Bool) (payloadError : Option String)
    (id hostId : String) (type : QueuedActionType) (payload : Option Json) (now : Int) : ActionDb × ActionReply :=
  if (requireAdmin principal).isNone then (db, .refused 403 "Forbidden")
  else if type = .updateDaemon ∧ payload.isSome then (db, .refused 400 "update_daemon does not accept a payload")
  else match payloadError with
    | some error => (db, .refused 400 error)
    | none =>
      if !hostKnown then (db, .refused 404 "Host not found")
      else if (getAction db id).isSome then (db, .refused 500 "UNIQUE constraint failed: queued_actions.id")
      else
        let row : ActionRow := {
          id := id, hostId := hostId, type := type, payload := payload, status := .pending, createdAt := now
          takenAt := none, completedAt := none, result := none, leaseExpiresAt := none }
        ({ db with actions := db.actions ++ [row] }, .action (rowToAction row))

def safeLimit (requested : Option Rat) : Option Nat :=
  match requested with
  | none => some pendingTakeLimit
  | some q =>
    let clamped := min (max 1 q) actionHistoryMaxLimit
    if clamped.den = 1 then some clamped.num.toNat else none

def pendingRows (db : ActionDb) (hostId : String) : List ActionRow :=
  (db.actions.filter fun row => row.hostId == hostId && row.status == .pending).mergeSort
    fun a b => decide (a.createdAt ≤ b.createdAt)

def claimActions (db : ActionDb) (ids : List String) (now : Int) : ActionDb :=
  db.update (fun row => ids.contains row.id && row.status == .pending) fun row =>
    { row with status := .taken, takenAt := some now, leaseExpiresAt := some (now + actionLeaseMs) }

def pendingRoute (db : ActionDb) (principal : Option AuthPrincipal) (hostId : Option String) (requested : Option Rat)
    (reapedAt now : Int) : ActionDb × ActionReply :=
  if !deviceMayAccessHost principal hostId then (db, .refused 403 "Forbidden")
  else match hostId with
    | none => (db, .refused 400 "hostId is required")
    | some "" => (db, .refused 400 "hostId is required")
    | some hostId =>
      let reaped := reapStaleTakenActions db reapedAt
      match safeLimit requested with
      | none => (reaped, .refused 500 "datatype mismatch")
      | some limit =>
        let ids := ((pendingRows reaped hostId).take limit).map ActionRow.id
        let claimed := claimActions reaped ids now
        (claimed, .actions ((claimed.actions.filter fun row => ids.contains row.id).map rowToAction))

def takenRoute (db : ActionDb) (principal : Option AuthPrincipal) (hostId : Option String) : ActionDb × ActionReply :=
  if !deviceMayAccessHost principal hostId then (db, .refused 403 "Forbidden")
  else match hostId with
    | none => (db, .refused 400 "hostId is required")
    | some "" => (db, .refused 400 "hostId is required")
    | some hostId =>
      let rows := (db.actions.filter fun row => row.hostId == hostId && row.status == .taken).mergeSort
        fun a b => decide (a.createdAt ≤ b.createdAt)
      (db, .actions (rows.map rowToAction))

def answerAction (db : ActionDb) (id error : String) : ActionDb × ActionReply :=
  match getAction db id with
  | none => (db, .refused 500 error)
  | some row => (db, .action (rowToAction row))

def actionLeaseRoute (db : ActionDb) (principal : Option AuthPrincipal) (id : String) (now : Int) :
    ActionDb × ActionReply :=
  match getAction db id with
  | none => (db, .refused 404 "Action not found")
  | some existing =>
    if !deviceMayAccessHost principal (some existing.hostId) then (db, .refused 403 "Forbidden")
    else if existing.status ≠ .taken then
      (db, .refused 409 s!"Action is no longer taken (status={existing.status.text})")
    else
      let renewed := db.update (fun row => row.id == id && row.status == .taken) fun row =>
        { row with leaseExpiresAt := some (now + actionLeaseMs) }
      answerAction renewed id "Failed to load action after lease renewal"

/-- The columns an acknowledgement sets. -/
def ActionRow.completed (row : ActionRow) (status : CompletionStatus) (result : Option String) (now : Int) : ActionRow :=
  { row with status := status.status, completedAt := some now, result := result, leaseExpiresAt := none }

def ActionRow.auditRow (row : ActionRow) (status : CompletionStatus) (result : Option String) (now : Int) :
    OperationLogRow where
  timestamp := now
  hostId := row.hostId
  operation := row.type.text
  status := status.status.text
  summary := result

def completeActionRoute (db : ActionDb) (principal : Option AuthPrincipal) (id : String) (status : CompletionStatus)
    (result : Option String) (now : Int) : ActionDb × ActionReply :=
  match getAction db id with
  | none => (db, .refused 404 "Action not found")
  | some existing =>
    if !deviceMayAccessHost principal (some existing.hostId) then (db, .refused 403 "Forbidden")
    else if existing.status.isTerminal then answerAction db id "Failed to load action after completion"
    else
      let acked := db.update (fun row => row.id == id) fun row => row.completed status result now
      let logged := { acked with operationLog := acked.operationLog ++ [existing.auditRow status result now] }
      answerAction logged id "Failed to load action after completion"

end LamaSync
