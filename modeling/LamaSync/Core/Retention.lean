import LamaSync.Core.Json
import LamaSync.Core.Text
import LamaSync.Lib.Calendar
import Mathlib.Data.List.Sort
import Mathlib.Data.Rat.Floor
import Mathlib.Data.String.Basic

/-!
# Snapshot retention

The evaluator of retention policies: guards are kept, then what the rules select, then a newest successful snapshot when
nothing successful is kept, and everything else is to be deleted.

The sort of the language and the calendar of a time zone are parameters.  Where the comparator of a sort is not consistent,
the order is up to the engine.
-/

namespace LamaSync

open Calendar

inductive NumberValue where
  | finite (q : ℚ)
  | infinite (positive : Bool)
  | nan
  deriving DecidableEq

namespace NumberValue

def isFinite : NumberValue → Bool
  | .finite _ => true
  | _ => false

def lt : NumberValue → NumberValue → Bool
  | .finite p, .finite q => p < q
  | .finite _, .infinite positive => positive
  | .infinite positive, .finite _ => !positive
  | .infinite a, .infinite b => !a && b
  | _, _ => false

end NumberValue

/-- On these elements the comparator tells a linear preorder. -/
def ConsistentOn {α : Type} (compare : α → α → Ordering) (l : List α) : Prop :=
  (∀ a ∈ l, ∀ b ∈ l, compare a b = (compare b a).swap) ∧
    ∀ a ∈ l, ∀ b ∈ l, ∀ c ∈ l, compare a b ≠ .gt → compare b c ≠ .gt → compare a c ≠ .gt

instance {α : Type} (compare : α → α → Ordering) (l : List α) : Decidable (ConsistentOn compare l) := by
  unfold ConsistentOn
  infer_instance

structure ArraySort (α : Type) where
  sort : (α → α → Ordering) → List α → List α
  perm : ∀ compare l, (sort compare l).Perm l
  sorted : ∀ compare l, ConsistentOn compare l → (sort compare l).Pairwise fun a b => compare a b ≠ .gt

def sortOr {α : Type} [DecidableEq α] (otherwise : List α) : ArraySort α where
  sort compare l :=
    if ConsistentOn compare l then l.insertionSort fun a b => compare a b ≠ .gt
    else if otherwise.Perm l then otherwise else l
  perm compare l := by
    split
    · exact List.perm_insertionSort _ l
    split
    · assumption
    · exact List.Perm.refl l
  sorted compare l h := by
    rw [if_pos h]
    -- the comparator is a linear preorder on the elements of the list
    let r : {a // a ∈ l} → {a // a ∈ l} → Prop := fun a b => compare a.1 b.1 ≠ .gt
    have htotal : Std.Total r := ⟨fun a b => by
      by_contra hno
      simp only [r, ne_eq, not_or, not_not] at hno
      have hswap := h.1 a.1 a.2 b.1 b.2
      rw [hno.1, hno.2] at hswap
      cases hswap⟩
    have htrans : IsTrans _ r := ⟨fun a b c hab hbc => h.2 a.1 a.2 b.1 b.2 c.1 c.2 hab hbc⟩
    have hmap : (l.attach.insertionSort r).map Subtype.val = l.insertionSort fun a b => compare a b ≠ .gt := by
      rw [List.map_insertionSort r (fun a b => compare a b ≠ .gt) Subtype.val l.attach fun _ _ _ _ => Iff.rfl,
        List.attach_map_subtype_val]
    rw [← hmap, List.pairwise_map]
    exact List.pairwise_insertionSort r l.attach

inductive CalendarUnit where
  | daily | weekly | monthly | yearly
  deriving DecidableEq

def CalendarUnit.text : CalendarUnit → String
  | .daily => "daily"
  | .weekly => "weekly"
  | .monthly => "monthly"
  | .yearly => "yearly"

inductive RetentionRule where
  | keepLast (count : Int)
  | keepAge (maxAgeMs : NumberValue)
  | calendar (unit : CalendarUnit) (count : Int)
  deriving DecidableEq

structure RetentionPolicy where
  enabled : Bool
  rules : List RetentionRule

structure RetentionSnapshotDescriptor where
  id : String
  timestamp : NumberValue
  sizeBytes : Option Int
  pinned : Bool
  rollback : Bool
  successful : Bool
  deriving DecidableEq

inductive RetentionAction where
  | keep | delete
  deriving DecidableEq

inductive RetentionDecisionKind where
  | guard | policy
  deriving DecidableEq

structure RetentionDecision where
  id : String
  action : RetentionAction
  reason : String
  kind : RetentionDecisionKind
  deriving DecidableEq

structure RetentionEvaluation where
  now : Int
  decisions : List RetentionDecision
  keptCount : Nat
  deleteCount : Nat
  reclaimableBytes : Int
  unknownSizeCount : Nat
  guardCount : Nat
  keptByGuarantee : Nat

/-- An integer from 1 to 3650. -/
def isRuleCount : Option Json → Bool
  | some (.num q) => q.den = 1 && 1 ≤ q && q ≤ 3650
  | _ => false

def validateRule (rule : Json) : Option String :=
  if !rule.isRecord then some "rule must be an object"
  else
    match rule.field "kind" with
    | some (.str "keepLast") =>
      if isRuleCount (rule.field "count") then none else some "keepLast.count must be an integer in 1..3650"
    | some (.str "keepAge") =>
      match rule.field "maxAgeMs" with
      | some (.num q) => if q ≤ 0 then some "keepAge.maxAgeMs must be a positive number of milliseconds" else none
      | _ => some "keepAge.maxAgeMs must be a positive number of milliseconds"
    | some (.str "calendar") =>
      match rule.field "unit" with
      | some (.str unit) =>
        if unit ≠ "daily" ∧ unit ≠ "weekly" ∧ unit ≠ "monthly" ∧ unit ≠ "yearly" then
          some "calendar.unit must be daily|weekly|monthly|yearly"
        else if isRuleCount (rule.field "count") then none
        else some "calendar.count must be an integer in 1..3650"
      | _ => some "calendar.unit must be daily|weekly|monthly|yearly"
    | _ => some "unknown rule kind"

def RetentionRule.toJson : RetentionRule → Json
  | .keepLast count => .obj [("kind", .str "keepLast"), ("count", .num count)]
  | .keepAge maxAgeMs => .obj [("kind", .str "keepAge"), ("maxAgeMs", match maxAgeMs with
      | .finite q => .num q
      | .infinite true => .overflow
      | _ => .null)]
  | .calendar unit count => .obj [("kind", .str "calendar"), ("unit", .str unit.text), ("count", .num count)]

/-- What `Intl.DateTimeFormat` makes of a time: the parts of the date, and the place of the weekday from Monday on. -/
structure DateParts where
  year : Int
  month : Int
  day : Int
  weekday : Int
  deriving DecidableEq

abbrev TimeZone := Int → DateParts

def dayMs : Int := 86400000

def fixedOffset (offset : Int) : TimeZone := fun ts =>
  let date := dateOfDay ((ts + offset) / dayMs)
  ⟨if 1 ≤ date.year then date.year else 1 - date.year, date.month, date.day, Calendar.weekday ((ts + offset) / dayMs)⟩

def dateUTC (year month day : Int) : Int := makeDay (if 0 ≤ year ∧ year ≤ 99 then 1900 + year else year) month day * dayMs

def utcFullYear (ms : Int) : Int := yearFromDay (ms / dayMs)

def pad (n : Int) : String := if n < 10 then "0" ++ toString n else toString n

def bucketKeyOf (zone : TimeZone) (unit : CalendarUnit) (ts : Int) : String :=
  let parts := zone ts
  match unit with
  | .daily => toString parts.year ++ "-" ++ pad parts.month ++ "-" ++ pad parts.day
  | .monthly => toString parts.year ++ "-" ++ pad parts.month
  | .yearly => toString parts.year
  | .weekly =>
    let isoDow := parts.weekday + 1
    let ms := dateUTC parts.year (parts.month - 1) parts.day
    let thursdayMs := ms + (4 - isoDow) * dayMs
    let tYear := utcFullYear thursdayMs
    let jan4Ms := dateUTC tYear 0 4
    let delta := (jan4Ms - ms) / dayMs
    let jan4Dow := (isoDow - 1 + (delta.tmod 7 + 7).tmod 7).tmod 7 + 1
    let mondayWeek1 := jan4Ms - (jan4Dow - 1) * dayMs
    let week := 1 + (thursdayMs - 3 * dayMs - mondayWeek1) / (7 * dayMs)
    toString tYear ++ "-W" ++ pad (min 53 (max 1 week))

def recentBucketTimes (zone : TimeZone) (unit : CalendarUnit) (count : Int) (now : Int) : List Int :=
  let parts := zone now
  (List.range count.toNat).map fun k : Nat =>
    match unit with
    | .daily => dateUTC parts.year (parts.month - 1) (parts.day - k)
    | .weekly => dateUTC parts.year (parts.month - 1) (parts.day - 7 * k)
    | .monthly => dateUTC parts.year (parts.month - 1 - k) 1
    | .yearly => dateUTC (parts.year - k) 0 1

def recentBucketKeys (zone : TimeZone) (unit : CalendarUnit) (count : Int) (now : Int) : List String :=
  (recentBucketTimes zone unit count now).map (bucketKeyOf zone unit)

def roundNumber (q : ℚ) : Int := (q + 1 / 2).floor

def plural (n : Int) (unit : String) : String := toString n ++ " " ++ unit ++ if n = 1 then "" else "s"

def humanDuration (ms : ℚ) : String :=
  let days := roundNumber (ms / dayMs)
  if 360 ≤ days ∧ days % 360 = 0 then plural (days / 360) "year"
  else if 90 ≤ days ∧ days % 30 = 0 then plural (days / 30) "month"
  else plural days "day"

section Rules

variable (zone : TimeZone) (now : Int)

def realTime (s : RetentionSnapshotDescriptor) : Option ℚ :=
  match s.timestamp with
  | .finite q => if q ≤ now then some q else none
  | _ => none

def eligible (s : RetentionSnapshotDescriptor) : Bool := s.successful && (realTime now s).isSome

def isGuarded (s : RetentionSnapshotDescriptor) : Bool := s.pinned || s.rollback

/-- In the future or unreadable. -/
def hasBadTime (s : RetentionSnapshotDescriptor) : Bool :=
  !s.timestamp.isFinite || (NumberValue.finite now).lt s.timestamp

def lastOf {α : Type} (count : Int) (l : List α) : List α := l.drop (l.length - count.toNat)

/-- `new Date(timestamp)` drops the fraction of a millisecond. -/
def truncate (q : ℚ) : Int := if 0 ≤ q then q.floor else -(-q).floor

def bucketOf (unit : CalendarUnit) (s : RetentionSnapshotDescriptor) : Option String :=
  match s.timestamp with
  | .finite q => some (bucketKeyOf zone unit (truncate q))
  | _ => none

def enterBucket (unit : CalendarUnit) (window : List String) (buckets : List (String × RetentionSnapshotDescriptor))
    (s : RetentionSnapshotDescriptor) : List (String × RetentionSnapshotDescriptor) :=
  match eligible now s, bucketOf zone unit s with
  | true, some key =>
    if key ∉ window then buckets
    else
      match buckets.lookup key with
      | none => buckets ++ [(key, s)]
      | some current =>
        if s.timestamp.lt current.timestamp then buckets
        else buckets.map fun entry => if entry.1 = key then (key, s) else entry
  | _, _ => buckets

def perBucket (unit : CalendarUnit) (window : List String) (snapshots : List RetentionSnapshotDescriptor) :
    List (String × RetentionSnapshotDescriptor) :=
  snapshots.foldl (enterBucket zone now unit window) []

def ruleSelection (snapshots : List RetentionSnapshotDescriptor) :
    RetentionRule → List (RetentionSnapshotDescriptor × String)
  | .keepAge maxAgeMs =>
    match maxAgeMs with
    | .finite age => (snapshots.filter fun s =>
        s.timestamp.isFinite && !s.timestamp.lt (.finite (now - age))).map fun s => (s, "within " ++ humanDuration age ++ " age window")
    | _ => []
  | .keepLast count =>
    if 0 < count then (lastOf count (snapshots.filter (eligible now))).map fun s => (s, "keep last " ++ toString count) else []
  | .calendar unit count =>
    if count ≤ 0 then []
    else (perBucket zone now unit (recentBucketKeys zone unit count now) snapshots).map fun entry =>
      (entry.2, "newest successful snapshot of " ++ unit.text ++ " bucket " ++ entry.1)

end Rules

def compareSnapshots (a b : RetentionSnapshotDescriptor) : Ordering :=
  if a.timestamp = .nan ∨ b.timestamp = .nan then .eq
  else if a.timestamp ≠ b.timestamp then (if a.timestamp.lt b.timestamp then .lt else .gt)
  else if utf16 a.id < utf16 b.id then .lt else if utf16 b.id < utf16 a.id then .gt else .eq

def hasDecision (decisions : List RetentionDecision) (id : String) : Bool := decisions.any fun d => d.id = id

def setDecision (decisions : List RetentionDecision) (d : RetentionDecision) : List RetentionDecision :=
  if hasDecision decisions d.id then decisions.map fun old => if old.id = d.id then d else old else decisions ++ [d]

def decideNew (choose : RetentionSnapshotDescriptor → Option RetentionDecision) (decisions : List RetentionDecision)
    (snapshots : List RetentionSnapshotDescriptor) : List RetentionDecision :=
  snapshots.foldl (fun decisions s => if hasDecision decisions s.id then decisions else decisions ++ (choose s).toList) decisions

def keepSelected (kept : List (String × Option String)) (selection : List (RetentionSnapshotDescriptor × String)) :
    List (String × Option String) :=
  selection.foldl (fun kept entry =>
    if kept.any fun k => k.1 = entry.1.id then kept else kept ++ [(entry.1.id, some entry.2)]) kept

def appliedRules (rules : List RetentionRule) : List RetentionRule :=
  rules.filter (fun | .keepAge _ => true | _ => false) ++ (rules.find? fun | .keepLast _ => true | _ => false).toList ++
    rules.filter fun | .calendar _ _ => true | _ => false

def summarize (decisions : List RetentionDecision) (snapshots : List RetentionSnapshotDescriptor) (now : Int)
    (guardCount keptByGuarantee : Nat) : RetentionEvaluation :=
  let deleted := decisions.filter fun d => d.action = .delete
  -- the last snapshot of an id counts
  let sizes := deleted.map fun d => (snapshots.reverse.find? fun s => s.id = d.id).bind RetentionSnapshotDescriptor.sizeBytes
  { now
    decisions := decisions.insertionSort fun a b => a.id ≤ b.id
    keptCount := decisions.length - deleted.length
    deleteCount := deleted.length
    reclaimableBytes := (sizes.map fun size => size.getD 0).sum
    unknownSizeCount := sizes.countP Option.isNone
    guardCount
    keptByGuarantee }

section Evaluate

variable (engine : ArraySort RetentionSnapshotDescriptor) (zone : TimeZone) (now : Int)

def guardDecisions (sorted : List RetentionSnapshotDescriptor) : List RetentionDecision :=
  (sorted.filter isGuarded).foldl (fun decisions s => setDecision decisions {
    id := s.id
    action := .keep
    reason := if s.pinned then "pinned / on hold" else "rollback artifact — kept until the rollback window expires"
    kind := .guard }) []

def safetyDecisions (sorted : List RetentionSnapshotDescriptor) : List RetentionDecision :=
  decideNew (fun s => if hasBadTime now s then
    some ⟨s.id, .keep, "future or unreadable timestamp — kept for safety", .guard⟩ else none) (guardDecisions sorted) sorted

def keptByRules (rules : List RetentionRule) (sorted : List RetentionSnapshotDescriptor) : List (String × Option String) :=
  (appliedRules rules).foldl (fun kept rule => keepSelected kept (ruleSelection zone now sorted rule))
    ((safetyDecisions now sorted).map fun d => (d.id, none))

def guaranteed (kept : List (String × Option String)) (sorted : List RetentionSnapshotDescriptor) :
    Option RetentionSnapshotDescriptor :=
  let successful := sorted.filter (eligible now)
  if successful.any fun s => kept.any fun k => k.1 = s.id then none else successful.getLast?

def evaluateRetention (policy : RetentionPolicy) (snapshots : List RetentionSnapshotDescriptor) : RetentionEvaluation :=
  let sorted := engine.sort compareSnapshots snapshots
  let guards := (sorted.filter isGuarded).length
  if !policy.enabled then
    summarize (decideNew (fun s => some ⟨s.id, .keep, "retention disabled", .policy⟩) (guardDecisions sorted) sorted) sorted now
      guards 0
  else
    let decisions := safetyDecisions now sorted
    let kept := keptByRules zone now policy.rules sorted
    let last := guaranteed now kept sorted
    let kept := kept ++ (last.map fun s => (s.id, some "newest successful snapshot (always keep at least one)")).toList
    summarize (decideNew (fun s => some (
      match kept.find? fun k => k.1 = s.id with
      | some (_, reason) => ⟨s.id, .keep, reason.getD "kept by policy", .policy⟩
      | none => ⟨s.id, .delete, "not covered by any retention rule", .policy⟩)) decisions sorted) sorted now
      (guards + (decisions.length - (guardDecisions sorted).length)) last.toList.length

end Evaluate

namespace RetentionEvaluation

def Keeps (e : RetentionEvaluation) (id : String) : Prop := ∃ d ∈ e.decisions, d.id = id ∧ d.action = .keep

def Deletes (e : RetentionEvaluation) (id : String) : Prop := ∃ d ∈ e.decisions, d.id = id ∧ d.action = .delete

end RetentionEvaluation

@[simp]
theorem mem_summarize_decisions (decisions : List RetentionDecision) (snapshots : List RetentionSnapshotDescriptor) (now : Int)
    (guards last : Nat) (d : RetentionDecision) :
    d ∈ (summarize decisions snapshots now guards last).decisions ↔ d ∈ decisions := by
  simp [summarize, List.mem_insertionSort]

theorem hasDecision_iff (decisions : List RetentionDecision) (id : String) :
    hasDecision decisions id = true ↔ ∃ d ∈ decisions, d.id = id := by
  simp [hasDecision]

theorem hasDecision_setDecision (decisions : List RetentionDecision) (d : RetentionDecision) (id : String) :
    hasDecision (setDecision decisions d) id = true ↔ hasDecision decisions id = true ∨ d.id = id := by
  unfold setDecision
  split
  case isTrue h =>
    simp only [hasDecision_iff, List.mem_map] at *
    constructor
    · rintro ⟨_, ⟨old, hold, rfl⟩, hid⟩
      split at hid
      · exact .inr hid
      · exact .inl ⟨old, hold, hid⟩
    rintro (⟨old, hold, hid⟩ | hid)
    · exact ⟨_, ⟨old, hold, rfl⟩, by split <;> simp_all⟩
    · obtain ⟨old, hold, heq⟩ := h
      exact ⟨d, ⟨old, hold, if_pos heq⟩, hid⟩
  case isFalse h =>
    simp [hasDecision_iff, or_and_right, exists_or]

theorem mem_setDecision {decisions : List RetentionDecision} {d e : RetentionDecision} (h : e ∈ setDecision decisions d) :
    e ∈ decisions ∨ e = d := by
  unfold setDecision at h
  split at h
  · obtain ⟨old, hold, rfl⟩ := List.mem_map.1 h
    split
    · exact .inr rfl
    · exact .inl hold
  · simpa using h

section DecideNew

variable {choose : RetentionSnapshotDescriptor → Option RetentionDecision}

theorem mem_decideNew {decisions : List RetentionDecision} {snapshots : List RetentionSnapshotDescriptor} {d : RetentionDecision}
    (h : d ∈ decideNew choose decisions snapshots) : d ∈ decisions ∨ ∃ s ∈ snapshots, choose s = some d := by
  induction snapshots generalizing decisions with
  | nil => exact .inl h
  | cons s rest ih =>
    rw [decideNew, List.foldl_cons] at h
    obtain hd | ⟨t, ht, hd⟩ := ih h
    · split at hd
      · exact .inl hd
      · obtain hd | hd := List.mem_append.1 hd
        · exact .inl hd
        · exact .inr ⟨s, .head _, by simpa using hd⟩
    · exact .inr ⟨t, .tail _ ht, hd⟩

theorem hasDecision_decideNew (hid : ∀ s d, choose s = some d → d.id = s.id) (decisions : List RetentionDecision)
    (snapshots : List RetentionSnapshotDescriptor) (id : String) :
    hasDecision (decideNew choose decisions snapshots) id = true ↔
      hasDecision decisions id = true ∨ ∃ s ∈ snapshots, s.id = id ∧ (choose s).isSome = true := by
  induction snapshots generalizing decisions with
  | nil => simp [decideNew]
  | cons s rest ih =>
    rw [decideNew, List.foldl_cons]
    refine (ih _).trans ?_
    have hstep : hasDecision (if hasDecision decisions s.id then decisions else decisions ++ (choose s).toList) id = true ↔
        hasDecision decisions id = true ∨ s.id = id ∧ (choose s).isSome = true := by
      cases hs : choose s with
      | none => simp
      | some d =>
        have heq := hid s d hs
        split
        case isTrue h =>
          simp only [Option.isSome_some, and_true]
          exact ⟨.inl, Or.rec (fun hd => hd) fun hid => hid ▸ h⟩
        case isFalse h =>
          simp [hasDecision, heq]
    rw [hstep]
    simp [or_assoc]

end DecideNew

def keptIds (kept : List (String × Option String)) (id : String) : Prop := ∃ k ∈ kept, k.1 = id

theorem keptIds_keepSelected (kept : List (String × Option String)) (selection : List (RetentionSnapshotDescriptor × String))
    (id : String) : keptIds (keepSelected kept selection) id ↔ keptIds kept id ∨ ∃ e ∈ selection, e.1.id = id := by
  induction selection generalizing kept with
  | nil => simp [keepSelected]
  | cons e rest ih =>
    rw [keepSelected, List.foldl_cons]
    refine (ih _).trans ?_
    have hstep : keptIds (if kept.any (fun k => k.1 = e.1.id) then kept else kept ++ [(e.1.id, some e.2)]) id ↔
        keptIds kept id ∨ e.1.id = id := by
      split
      case isTrue h =>
        refine ⟨.inl, Or.rec (fun hk => hk) ?_⟩
        rintro rfl
        simpa [keptIds] using h
      case isFalse h =>
        simp [keptIds, or_and_right, exists_or]
    rw [hstep]
    simp [or_assoc]

section Spec

variable (engine : ArraySort RetentionSnapshotDescriptor) (zone : TimeZone) (now : Int)

def isProtected (s : RetentionSnapshotDescriptor) : Bool := isGuarded s || hasBadTime now s

variable {sorted : List RetentionSnapshotDescriptor} {d : RetentionDecision}

theorem keep_of_mem_guardDecisions (h : d ∈ guardDecisions sorted) : d.action = .keep := by
  unfold guardDecisions at h
  suffices ∀ (l : List RetentionSnapshotDescriptor) (decisions : List RetentionDecision), (∀ e ∈ decisions, e.action = .keep) →
      ∀ e ∈ l.foldl (fun decisions s => setDecision decisions {
        id := s.id
        action := .keep
        reason := if s.pinned then "pinned / on hold" else "rollback artifact — kept until the rollback window expires"
        kind := .guard }) decisions, e.action = .keep from this _ [] (by simp) d h
  intro l
  induction l with
  | nil => exact fun _ hall => hall
  | cons s rest ih =>
    intro decisions hall
    refine ih _ fun e he => ?_
    obtain he | rfl := mem_setDecision he
    · exact hall e he
    · rfl

theorem hasDecision_guardDecisions (sorted : List RetentionSnapshotDescriptor) (id : String) :
    hasDecision (guardDecisions sorted) id = true ↔ ∃ s ∈ sorted, isGuarded s = true ∧ s.id = id := by
  suffices ∀ (l : List RetentionSnapshotDescriptor) (decisions : List RetentionDecision),
      hasDecision (l.foldl (fun decisions s => setDecision decisions {
        id := s.id
        action := .keep
        reason := if s.pinned then "pinned / on hold" else "rollback artifact — kept until the rollback window expires"
        kind := .guard }) decisions) id = true ↔ hasDecision decisions id = true ∨ ∃ s ∈ l, s.id = id by
    refine (this _ []).trans ?_
    simp [hasDecision, and_assoc]
  intro l
  induction l with
  | nil => simp
  | cons s rest ih =>
    intro decisions
    rw [List.foldl_cons, ih, hasDecision_setDecision]
    simp [or_assoc]

theorem keep_of_mem_safetyDecisions (h : d ∈ safetyDecisions now sorted) : d.action = .keep := by
  obtain hd | ⟨s, _, hs⟩ := mem_decideNew h
  · exact keep_of_mem_guardDecisions hd
  split at hs
  · cases hs
    rfl
  · cases hs

theorem hasDecision_safetyDecisions (sorted : List RetentionSnapshotDescriptor) (id : String) :
    hasDecision (safetyDecisions now sorted) id = true ↔ ∃ s ∈ sorted, s.id = id ∧ isProtected now s = true := by
  rw [safetyDecisions, hasDecision_decideNew, hasDecision_guardDecisions]
  · have hsome : ∀ s : RetentionSnapshotDescriptor, (if hasBadTime now s = true then
        some (⟨s.id, .keep, "future or unreadable timestamp — kept for safety", .guard⟩ : RetentionDecision)
        else none).isSome = true ↔ hasBadTime now s = true := by
      intro s
      split <;> simp_all
    simp only [hsome, isProtected, Bool.or_eq_true]
    constructor
    · rintro (⟨s, hs, hg, hid⟩ | ⟨s, hs, hid, hb⟩)
      · exact ⟨s, hs, hid, .inl hg⟩
      · exact ⟨s, hs, hid, .inr hb⟩
    rintro ⟨s, hs, hid, hg | hb⟩
    · exact .inl ⟨s, hs, hg, hid⟩
    · exact .inr ⟨s, hs, hid, hb⟩
  · intro s d hs
    split at hs
    · cases hs
      rfl
    · cases hs

/-- The rule keeps the id on its own. -/
def Selects (sorted : List RetentionSnapshotDescriptor) (rule : RetentionRule) (id : String) : Prop :=
  ∃ e ∈ ruleSelection zone now sorted rule, e.1.id = id

theorem keptIds_keptByRules (rules : List RetentionRule) (sorted : List RetentionSnapshotDescriptor) (id : String) :
    keptIds (keptByRules zone now rules sorted) id ↔
      (∃ s ∈ sorted, s.id = id ∧ isProtected now s = true) ∨ ∃ rule ∈ appliedRules rules, Selects zone now sorted rule id := by
  suffices ∀ (l : List RetentionRule) (kept : List (String × Option String)),
      keptIds (l.foldl (fun kept rule => keepSelected kept (ruleSelection zone now sorted rule)) kept) id ↔
        keptIds kept id ∨ ∃ rule ∈ l, Selects zone now sorted rule id by
    refine (this _ _).trans ?_
    rw [← hasDecision_safetyDecisions, hasDecision_iff]
    simp [keptIds]
  intro l
  induction l with
  | nil => simp
  | cons rule rest ih =>
    intro kept
    rw [List.foldl_cons, ih, keptIds_keepSelected]
    simp [or_assoc, Selects]

theorem guaranteed_eq_some (kept : List (String × Option String)) (sorted : List RetentionSnapshotDescriptor)
    (s : RetentionSnapshotDescriptor) :
    guaranteed now kept sorted = some s ↔
      (∀ t ∈ sorted, eligible now t = true → ¬ keptIds kept t.id) ∧ (sorted.filter (eligible now)).getLast? = some s := by
  unfold guaranteed
  dsimp only
  have hany : ((sorted.filter (eligible now)).any fun s => kept.any fun k => k.1 = s.id) = true ↔
      ∃ t ∈ sorted, eligible now t = true ∧ keptIds kept t.id := by
    simp [keptIds]
  split
  case isTrue h =>
    obtain ⟨t, ht, hel, hk⟩ := hany.1 h
    simp only [reduceCtorEq, false_iff, not_and]
    exact fun hnone => absurd hk (hnone t ht hel)
  case isFalse h =>
    have hnone : ∀ t ∈ sorted, eligible now t = true → ¬ keptIds kept t.id :=
      fun t ht hel hk => h (hany.2 ⟨t, ht, hel, hk⟩)
    exact ⟨fun hlast => ⟨hnone, hlast⟩, fun hlast => hlast.2⟩

def RulesKeep (rules : List RetentionRule) (sorted : List RetentionSnapshotDescriptor) (id : String) : Prop :=
  keptIds (keptByRules zone now rules sorted) id ∨
    ∃ s, guaranteed now (keptByRules zone now rules sorted) sorted = some s ∧ s.id = id

theorem hasDecision_decideAll (f : RetentionSnapshotDescriptor → RetentionDecision) (hf : ∀ s, (f s).id = s.id)
    (decisions : List RetentionDecision) (snapshots : List RetentionSnapshotDescriptor) (id : String) :
    hasDecision (decideNew (fun s => some (f s)) decisions snapshots) id = true ↔
      hasDecision decisions id = true ∨ ∃ s ∈ snapshots, s.id = id := by
  rw [hasDecision_decideNew]
  · simp
  intro s d hs
  cases hs
  exact hf s

variable (policy : RetentionPolicy) (snapshots : List RetentionSnapshotDescriptor) {s : RetentionSnapshotDescriptor}

theorem mem_sort : s ∈ engine.sort compareSnapshots snapshots ↔ s ∈ snapshots :=
  (engine.perm compareSnapshots snapshots).mem_iff

theorem keep_of_disabled (h : policy.enabled = false)
    (hd : d ∈ (evaluateRetention engine zone now policy snapshots).decisions) : d.action = .keep := by
  rw [evaluateRetention] at hd
  simp only [h, Bool.not_false, if_true, mem_summarize_decisions] at hd
  obtain hd | ⟨s, _, hs⟩ := mem_decideNew hd
  · exact keep_of_mem_guardDecisions hd
  · cases hs
    rfl

theorem exists_decision (hs : s ∈ snapshots) :
    ∃ d ∈ (evaluateRetention engine zone now policy snapshots).decisions, d.id = s.id := by
  have hsort := (mem_sort engine snapshots).2 hs
  rw [evaluateRetention]
  split
  all_goals
    simp only [mem_summarize_decisions]
    rw [← hasDecision_iff, hasDecision_decideAll]
    · exact .inr ⟨s, hsort, rfl⟩
    · intro t
      first | rfl | (split <;> rfl)

theorem action_of_enabled (h : policy.enabled = true)
    (hd : d ∈ (evaluateRetention engine zone now policy snapshots).decisions) : (∃ s ∈ snapshots, s.id = d.id) ∧
      (d.action = .keep ↔ RulesKeep zone now policy.rules (engine.sort compareSnapshots snapshots) d.id) := by
  rw [evaluateRetention] at hd
  simp only [h, Bool.not_true, Bool.false_eq_true, if_false, mem_summarize_decisions] at hd
  obtain hd | ⟨s, hs, heq⟩ := mem_decideNew hd
  · have hsafe := (hasDecision_safetyDecisions now (engine.sort compareSnapshots snapshots) d.id).1
      ((hasDecision_iff _ _).2 ⟨d, hd, rfl⟩)
    refine ⟨?_, ?_⟩
    · obtain ⟨s, hs, hid, _⟩ := hsafe
      exact ⟨s, (mem_sort engine snapshots).1 hs, hid⟩
    · exact iff_of_true (keep_of_mem_safetyDecisions now hd) (.inl ((keptIds_keptByRules ..).2 (.inl hsafe)))
  · refine ⟨⟨s, (mem_sort engine snapshots).1 hs, ?_⟩, ?_⟩
    · cases heq
      split <;> rfl
    · cases heq
      split
      case h_1 k reason hfind =>
        have hk : k = s.id := by simpa using List.find?_some hfind
        have hmem := List.mem_of_find?_eq_some hfind
        refine iff_of_true rfl ?_
        obtain hmem | hmem := List.mem_append.1 hmem
        · exact .inl ⟨_, hmem, hk⟩
        obtain ⟨t, ht, heq⟩ := Option.map_eq_some_iff.1 (Option.mem_toList.1 hmem)
        cases heq
        exact .inr ⟨t, ht, hk⟩
      case h_2 hfind =>
        refine iff_of_false (by simp) ?_
        rw [List.find?_eq_none] at hfind
        rintro (⟨k, hk, hid⟩ | ⟨t, ht, hid⟩)
        · exact hfind k (List.mem_append_left _ hk) (by simpa using hid)
        refine hfind (t.id, some "newest successful snapshot (always keep at least one)")
          (List.mem_append_right _ (Option.mem_toList.2 ?_)) (by simpa using hid)
        rw [ht]
        rfl

theorem keeps_iff (h : policy.enabled = true) (id : String) :
    (evaluateRetention engine zone now policy snapshots).Keeps id ↔
      (∃ s ∈ snapshots, s.id = id) ∧ RulesKeep zone now policy.rules (engine.sort compareSnapshots snapshots) id := by
  constructor
  · rintro ⟨d, hd, rfl, hkeep⟩
    obtain ⟨hs, hiff⟩ := action_of_enabled engine zone now policy snapshots h hd
    exact ⟨hs, hiff.1 hkeep⟩
  rintro ⟨⟨s, hs, rfl⟩, hkeep⟩
  obtain ⟨d, hd, hid⟩ := exists_decision engine zone now policy snapshots hs
  refine ⟨d, hd, hid, ?_⟩
  rw [(action_of_enabled engine zone now policy snapshots h hd).2, hid]
  exact hkeep

theorem not_deletes_of_rulesKeep (h : policy.enabled = true) {id : String}
    (hkeep : RulesKeep zone now policy.rules (engine.sort compareSnapshots snapshots) id) :
    ¬ (evaluateRetention engine zone now policy snapshots).Deletes id := by
  rintro ⟨d, hd, rfl, hdel⟩
  have hact := (action_of_enabled engine zone now policy snapshots h hd).2.2 hkeep
  rw [hdel] at hact
  cases hact

theorem not_deletes_of_disabled (h : policy.enabled = false) (id : String) :
    ¬ (evaluateRetention engine zone now policy snapshots).Deletes id := by
  rintro ⟨d, hd, _, hdel⟩
  have hact := keep_of_disabled engine zone now policy snapshots h hd
  rw [hdel] at hact
  cases hact

theorem eligible_of_not_protected (hs : s.successful = true) (h : isProtected now s = false) :
    eligible now s = true := by
  simp only [isProtected, hasBadTime, Bool.or_eq_false_iff, Bool.not_eq_false'] at h
  obtain ⟨_, hfin, hlt⟩ := h
  cases ht : s.timestamp with
  | finite q =>
    rw [ht] at hlt
    simp only [NumberValue.lt, decide_eq_false_iff_not, not_lt] at hlt
    simp [eligible, hs, realTime, ht, hlt]
  | infinite _ | nan => simp [ht, NumberValue.isFinite] at hfin

theorem rulesKeep_of_protected (rules : List RetentionRule) (hs : s ∈ sorted) (h : isProtected now s = true) :
    RulesKeep zone now rules sorted s.id :=
  .inl ((keptIds_keptByRules ..).2 (.inl ⟨s, hs, rfl, h⟩))

theorem exists_eligible_rulesKeep (rules : List RetentionRule) (hs : s ∈ sorted) (h : eligible now s = true) :
    ∃ t ∈ sorted, eligible now t = true ∧ RulesKeep zone now rules sorted t.id := by
  by_cases hkept : ∃ t ∈ sorted, eligible now t = true ∧ keptIds (keptByRules zone now rules sorted) t.id
  · obtain ⟨t, ht, hel, hk⟩ := hkept
    exact ⟨t, ht, hel, .inl hk⟩
  have hne : sorted.filter (eligible now) ≠ [] := List.ne_nil_of_mem (List.mem_filter.2 ⟨hs, h⟩)
  have hmem := List.mem_filter.1 (List.getLast_mem hne)
  refine ⟨_, hmem.1, hmem.2, .inr ⟨_, (guaranteed_eq_some ..).2 ⟨?_, List.getLast?_eq_some_getLast hne⟩, rfl⟩⟩
  exact fun t ht hel hk => hkept ⟨t, ht, hel, hk⟩

theorem successful_of_eligible (h : eligible now s = true) : s.successful = true := by
  simp only [eligible, Bool.and_eq_true] at h
  exact h.1

theorem exists_successful_rulesKeep (rules : List RetentionRule) (hs : s ∈ sorted) (h : s.successful = true) :
    ∃ t ∈ sorted, t.successful = true ∧ RulesKeep zone now rules sorted t.id := by
  by_cases hp : isProtected now s = true
  · exact ⟨s, hs, h, rulesKeep_of_protected zone now rules hs hp⟩
  obtain ⟨t, ht, hel, hk⟩ :=
    exists_eligible_rulesKeep zone now rules hs (eligible_of_not_protected now h (by simpa using hp))
  exact ⟨t, ht, successful_of_eligible now hel, hk⟩

/-- **No snapshot that is pinned, that a rollback needs, that is in the future or that has no readable time is deleted.** A
policy that is off deletes nothing, and of the successful snapshots one is kept. -/
theorem retention_never_deletes_protected :
    (policy.enabled = false → ∀ id, ¬ (evaluateRetention engine zone now policy snapshots).Deletes id) ∧
      (∀ s ∈ snapshots, s.pinned = true ∨ s.rollback = true ∨ hasBadTime now s = true →
        ¬ (evaluateRetention engine zone now policy snapshots).Deletes s.id) ∧
      ((∃ s ∈ snapshots, s.successful = true) →
        ∃ s ∈ snapshots, s.successful = true ∧ (evaluateRetention engine zone now policy snapshots).Keeps s.id ∧
          ¬ (evaluateRetention engine zone now policy snapshots).Deletes s.id) := by
  refine ⟨not_deletes_of_disabled engine zone now policy snapshots, ?_, ?_⟩
  · intro s hs hp
    by_cases hon : policy.enabled = true
    · refine not_deletes_of_rulesKeep engine zone now policy snapshots hon ?_
      refine rulesKeep_of_protected zone now policy.rules ((mem_sort engine snapshots).2 hs) ?_
      simpa [isProtected, isGuarded, or_assoc] using hp
    · exact not_deletes_of_disabled engine zone now policy snapshots (by simpa using hon) s.id
  · rintro ⟨s, hs, hsucc⟩
    by_cases hon : policy.enabled = true
    · obtain ⟨t, ht, hsucc, hk⟩ :=
        exists_successful_rulesKeep zone now policy.rules ((mem_sort engine snapshots).2 hs) hsucc
      have hmem := (mem_sort engine snapshots).1 ht
      exact ⟨t, hmem, hsucc, (keeps_iff engine zone now policy snapshots hon t.id).2 ⟨⟨t, hmem, rfl⟩, hk⟩,
        not_deletes_of_rulesKeep engine zone now policy snapshots hon hk⟩
    have hoff : policy.enabled = false := by simpa using hon
    obtain ⟨d, hd, hid⟩ := exists_decision engine zone now policy snapshots hs
    exact ⟨s, hs, hsucc, ⟨d, hd, hid, keep_of_disabled engine zone now policy snapshots hoff hd⟩,
      not_deletes_of_disabled engine zone now policy snapshots hoff s.id⟩

end Spec

end LamaSync
