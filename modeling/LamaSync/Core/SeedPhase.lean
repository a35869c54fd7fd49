import LamaSync.Core.Json
import LamaSync.Core.Text

/-!
# Phases, leases and roles of a seed job

A seed job moves through ten phases, strictly forward by one, and ends in one of three terminal phases.  The source
device owns the first four phases and the target device the last six.  A lease names the host that drives the job
and the time until which it may; times are milliseconds since the epoch.  These are the pure rules the server routes,
the coordinator and the daemon share.
-/

namespace LamaSync

inductive SeedJobPhase where
  | preflight | measuringSource | archivingSource | uploadingArchive | downloadingArchive
  | verifyingArchive | extractingTarget | verifyingTarget | publishing | baselineValidation
  deriving DecidableEq, Repr

inductive SeedJobTerminalPhase where
  | completed | failed | cancelled
  deriving DecidableEq, Repr

inductive SeedJobPhaseOrTerminal where
  | phase (p : SeedJobPhase)
  | terminal (t : SeedJobTerminalPhase)
  deriving DecidableEq, Repr

instance : Coe SeedJobPhase SeedJobPhaseOrTerminal := ⟨.phase⟩

inductive SeedJobStatus where
  | planned | running | failed | completed | cancelled
  deriving DecidableEq, Repr

def SeedJobTerminalPhase.status : SeedJobTerminalPhase → SeedJobStatus
  | .completed => .completed
  | .failed => .failed
  | .cancelled => .cancelled

def SeedJobStatus.isOpen : SeedJobStatus → Bool
  | .planned | .running => true
  | .failed | .completed | .cancelled => false

def seedJobPhases : List SeedJobPhase :=
  [.preflight, .measuringSource, .archivingSource, .uploadingArchive, .downloadingArchive,
    .verifyingArchive, .extractingTarget, .verifyingTarget, .publishing, .baselineValidation]

def SeedJobPhase.text : SeedJobPhase → String
  | .preflight => "preflight"
  | .measuringSource => "measuring_source"
  | .archivingSource => "archiving_source"
  | .uploadingArchive => "uploading_archive"
  | .downloadingArchive => "downloading_archive"
  | .verifyingArchive => "verifying_archive"
  | .extractingTarget => "extracting_target"
  | .verifyingTarget => "verifying_target"
  | .publishing => "publishing"
  | .baselineValidation => "baseline_validation"

def SeedJobTerminalPhase.text : SeedJobTerminalPhase → String
  | .completed => "completed"
  | .failed => "failed"
  | .cancelled => "cancelled"

def SeedJobPhaseOrTerminal.text : SeedJobPhaseOrTerminal → String
  | .phase p => p.text
  | .terminal t => t.text

def isTerminalSeedPhase : SeedJobPhaseOrTerminal → Bool
  | .phase _ => false
  | .terminal _ => true

def seedPhaseIndex (p : SeedJobPhase) : Nat := seedJobPhases.idxOf p

def seedJobPhaseCount : Nat := seedJobPhases.length

def canTransitionSeedPhase (fromPhase next : SeedJobPhaseOrTerminal) : Bool :=
  match fromPhase, next with
  | .terminal _, _ => false
  | _, .terminal _ => true
  | .phase p, .phase q => p == q || seedPhaseIndex q == seedPhaseIndex p + 1

theorem canTransitionSeedPhase_phase {fromPhase : SeedJobPhaseOrTerminal} {q : SeedJobPhase}
    (h : canTransitionSeedPhase fromPhase q = true) :
    ∃ p : SeedJobPhase, fromPhase = p ∧ (q = p ∨ seedPhaseIndex q = seedPhaseIndex p + 1) := by
  cases fromPhase with
  | terminal t => simp [canTransitionSeedPhase] at h
  | phase p =>
    refine ⟨p, rfl, ?_⟩
    simp only [canTransitionSeedPhase, Bool.or_eq_true, beq_iff_eq] at h
    exact h.imp Eq.symm id

/-- The lease columns of a job. -/
structure SeedLeaseFacts where
  leaseOwner : Option String
  leaseExpiresAt : Option Int

structure SeedClaimFacts extends SeedLeaseFacts where
  status : SeedJobStatus
  phase : SeedJobPhaseOrTerminal

def expiresAfter (expiresAt : Option Int) (now : Int) : Bool :=
  match expiresAt with
  | some t => now < t
  | none => false

def hasLapsed (expiresAt : Option Int) (now : Int) : Bool :=
  match expiresAt with
  | some t => t ≤ now
  | none => false

variable {expiresAt : Option Int} {targetHostId : String}

theorem expiresAfter_iff {now : Int} :
    expiresAfter expiresAt now = true ↔ ∃ t, expiresAt = some t ∧ now < t := by
  cases expiresAt <;> simp [expiresAfter]

theorem expiresAfter_mono {now later : Int} (h : now ≤ later)
    (hl : expiresAfter expiresAt later = true) : expiresAfter expiresAt now = true := by
  rw [expiresAfter_iff] at hl ⊢
  obtain ⟨t, ht, hlt⟩ := hl
  exact ⟨t, ht, by omega⟩

def seedLeaseIsLive (lease : SeedLeaseFacts) (owner : String) (now : Int) : Bool :=
  lease.leaseOwner == some owner && expiresAfter lease.leaseExpiresAt now

def seedCleanupAllowed (facts : SeedClaimFacts) (owner : String) (now : Int) : Bool :=
  if isTerminalSeedPhase facts.phase then true
  else if !facts.status.isOpen then true
  else seedLeaseIsLive facts.toSeedLeaseFacts owner now

def seedJobLeaseMs : Int := 10 * 60000

def seedJobLeaseRenewIntervalMs : Int := 60000

def seedJobHandoverGraceMs : Int := 5 * 60000

inductive SeedJobRole where
  | source | target
  deriving DecidableEq, Repr

def seedJobRoleFor (targetHostId : String) (sourceHostId : Option String) (hostId : Option String) :
    Option SeedJobRole :=
  match hostId with
  | none => none
  | some h =>
    if h.isEmpty then none
    else if h == targetHostId then some .target
    else if sourceHostId == some h then some .source
    else none

theorem seedJobRoleFor_source {sourceHostId hostId : Option String}
    (h : seedJobRoleFor targetHostId sourceHostId hostId = some .source) :
    hostId = sourceHostId ∧ hostId ≠ some targetHostId := by
  unfold seedJobRoleFor at h
  split at h
  · cases h
  split at h
  · cases h
  · split at h
    · cases h
    · rename_i hne
      split at h
      · rename_i hs
        exact ⟨(beq_iff_eq.1 hs).symm, by simpa using hne⟩
      · cases h

theorem seedJobRoleFor_target {sourceHostId hostId : Option String}
    (h : seedJobRoleFor targetHostId sourceHostId hostId = some .target) : hostId = some targetHostId := by
  unfold seedJobRoleFor at h
  split at h
  · cases h
  split at h
  · cases h
  · split at h
    · rename_i hs; rw [beq_iff_eq.1 hs]
    · split at h <;> cases h

def seedJobPhaseRole : SeedJobPhase → SeedJobRole
  | .preflight | .measuringSource | .archivingSource | .uploadingArchive => .source
  | .downloadingArchive | .verifyingArchive | .extractingTarget | .verifyingTarget | .publishing
  | .baselineValidation => .target

def seedJobRoleMayEnterPhase (role : SeedJobRole) (p : SeedJobPhase) : Bool := seedJobPhaseRole p == role

def seedJobRoleMayReportArchive (role : Option SeedJobRole) : Bool := role == some .source

def seedJobRoleMayComplete (role : Option SeedJobRole) : Bool := role == some .target

structure SeedJobProgress where
  phase : SeedJobPhase
  phaseIndex : Nat
  phaseCount : Nat
  message : String
  bytesDone : Int
  bytesTotal : Option Int
  entriesDone : Int
  entriesTotal : Option Int
  updatedAt : Int

def startSeedProgress (p : SeedJobPhase) (now : Int) (message : String)
    (bytesTotal entriesTotal : Option Int) : SeedJobProgress where
  phase := p
  phaseIndex := seedPhaseIndex p
  phaseCount := seedJobPhaseCount
  message := message
  bytesDone := 0
  bytesTotal := bytesTotal
  entriesDone := 0
  entriesTotal := entriesTotal
  updatedAt := now

def Json.keys : Json → List String
  | .obj fields => fields.map Prod.fst
  | .arr items => (List.range items.length).map fun i => toString i
  | _ => []

structure SeedProgressPayload where
  phase : SeedJobPhase
  message : String
  bytesDone : Int
  bytesTotal : Option Int
  entriesDone : Int
  entriesTotal : Option Int
  leaseOwner : Option String
  leaseMs : Option Int

def boundedCount : Option Json → Option Int
  | some (.num q) => if q.floor < 0 then none else some (min q.floor maxSafeInteger)
  | _ => none

def seedProgressFields : List String :=
  ["phase", "message", "bytesDone", "bytesTotal", "entriesDone", "entriesTotal", "leaseOwner", "leaseMs"]

def SeedJobPhase.ofText (text : String) : Option SeedJobPhase := seedJobPhases.find? fun p => p.text == text

def parseSeedProgressPayload (value : Json) : Except String SeedProgressPayload :=
  if !value.isRecord then .error "payload must be an object"
  else match value.keys.find? fun key => !seedProgressFields.contains key with
    | some key => .error s!"unsupported field: {key}"
    | none =>
      match (Json.stringOrNull (value.field "phase")).bind SeedJobPhase.ofText with
      | none =>
        let names := ", ".intercalate (seedJobPhases.map SeedJobPhase.text)
        .error s!"phase must be one of {names}"
      | some p => .ok {
          phase := p
          message := sliceText ((Json.stringOrNull (value.field "message")).getD "") 300
          bytesDone := (boundedCount (value.field "bytesDone")).getD 0
          bytesTotal := boundedCount (value.field "bytesTotal")
          entriesDone := (boundedCount (value.field "entriesDone")).getD 0
          entriesTotal := boundedCount (value.field "entriesTotal")
          leaseOwner := (Json.stringOrNull (value.field "leaseOwner")).map fun owner => sliceText owner 128
          leaseMs := boundedCount (value.field "leaseMs") }

end LamaSync
