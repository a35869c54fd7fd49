import LamaSync.Core.Retention

/-!
# The rules of a retention policy

Every rule selects snapshots on its own, and a policy keeps what is protected and what its rules select.
`rules_compose_iff` says when the rules of a policy are the union of the rules, and `newest_selected_iff` when a rule that
keeps the newest snapshots selects them.
-/

namespace LamaSync

theorem keepLast_pos_of_accepted {count : Int} (h : validateRule (RetentionRule.keepLast count).toJson = none) : 0 < count := by
  have hc : isRuleCount (some (.num count)) = true := by
    by_contra hno
    have href : validateRule (RetentionRule.keepLast count).toJson =
        some "keepLast.count must be an integer in 1..3650" := if_neg hno
    rw [href] at h
    cases h
  simp only [isRuleCount, Bool.and_eq_true, decide_eq_true_eq] at hc
  have hone : (1 : ℚ) ≤ count := hc.1.2
  exact_mod_cast hone

section Compose

variable (engine : ArraySort RetentionSnapshotDescriptor) (zone : TimeZone) (now : Int)
variable (snapshots : List RetentionSnapshotDescriptor)

/-- What an enabled policy with these rules keeps. -/
def KeptBy (rules : List RetentionRule) (id : String) : Prop :=
  (evaluateRetention engine zone now ⟨true, rules⟩ snapshots).Keeps id

/-- The rules, and all lists that are drawn from them, keep together what each keeps on its own and what is protected: in any
order, and the more the more rules there are. -/
structure ComposesAsUnion (rules : List RetentionRule) : Prop where
  union : ∀ drawn, drawn ⊆ rules → ∀ id, KeptBy engine zone now snapshots drawn id ↔
    KeptBy engine zone now snapshots [] id ∨ ∃ rule ∈ drawn, KeptBy engine zone now snapshots [rule] id
  unordered : ∀ drawn, drawn ⊆ rules → ∀ other, drawn.Perm other → ∀ id,
    KeptBy engine zone now snapshots drawn id ↔ KeptBy engine zone now snapshots other id
  monotone : ∀ drawn, drawn ⊆ rules → ∀ rule ∈ rules, ∀ id,
    KeptBy engine zone now snapshots drawn id → KeptBy engine zone now snapshots (rule :: drawn) id

/-- The successful snapshots with a real time, the newest last. -/
def eligibleSorted : List RetentionSnapshotDescriptor := (engine.sort compareSnapshots snapshots).filter (eligible now)

def ProtectedId (id : String) : Prop := ∃ t ∈ snapshots, t.id = id ∧ isProtected now t = true

def LastCountsAgree (rules : List RetentionRule) : Prop :=
  ∀ m n, .keepLast m ∈ rules → .keepLast n ∈ rules → ∀ s ∈ lastOf n (eligibleSorted engine now snapshots),
    (∃ t ∈ lastOf m (eligibleSorted engine now snapshots), t.id = s.id) ∨ ProtectedId now snapshots s.id

def NewestNotPassedOver (rules : List RetentionRule) : Prop :=
  (∃ s ∈ snapshots, eligible now s = true ∧ ProtectedId now snapshots s.id) ∨
    ∀ rule ∈ rules, ∀ newest, (eligibleSorted engine now snapshots).getLast? = some newest →
      (∃ s ∈ snapshots, eligible now s = true ∧ Selects zone now (engine.sort compareSnapshots snapshots) rule s.id) →
        Selects zone now (engine.sort compareSnapshots snapshots) rule newest.id

theorem mem_lastOf {α : Type} {count : Int} {l : List α} {a : α} (h : a ∈ lastOf count l) : a ∈ l := List.mem_of_mem_drop h

theorem mem_perBucket {unit : CalendarUnit} {window : List String} {sorted : List RetentionSnapshotDescriptor}
    {e : String × RetentionSnapshotDescriptor} (h : e ∈ perBucket zone now unit window sorted) : e.2 ∈ sorted := by
  suffices ∀ (l : List RetentionSnapshotDescriptor) (buckets : List (String × RetentionSnapshotDescriptor)),
      ∀ e ∈ l.foldl (enterBucket zone now unit window) buckets, e ∈ buckets ∨ e.2 ∈ l from
    (this sorted [] e h).resolve_left List.not_mem_nil
  intro l
  induction l with
  | nil => exact fun _ e he => .inl he
  | cons s rest ih =>
    intro buckets e he
    rw [List.foldl_cons] at he
    obtain he | he := ih _ e he
    · unfold enterBucket at he
      split at he
      · split at he
        · exact .inl he
        · split at he
          · obtain he | he := List.mem_append.1 he
            · exact .inl he
            · cases List.mem_singleton.1 he
              exact .inr (.head _)
          · split at he
            · exact .inl he
            · obtain ⟨old, hold, rfl⟩ := List.mem_map.1 he
              split
              · exact .inr (.head _)
              · exact .inl hold
      · exact .inl he
    · exact .inr (.tail _ he)

theorem selects_keepLast {count : Int} (h : 0 < count) (sorted : List RetentionSnapshotDescriptor) (id : String) :
    Selects zone now sorted (.keepLast count) id ↔ ∃ s ∈ lastOf count (sorted.filter (eligible now)), s.id = id := by
  simp [Selects, ruleSelection, h]

variable {rule : RetentionRule}

theorem exists_of_selects {sorted : List RetentionSnapshotDescriptor} {id : String}
    (h : Selects zone now sorted rule id) : ∃ s ∈ sorted, s.id = id := by
  obtain ⟨e, he, rfl⟩ := h
  refine ⟨e.1, ?_, rfl⟩
  cases rule with
  | keepLast count =>
    simp only [ruleSelection] at he
    split at he
    · obtain ⟨s, hs, rfl⟩ := List.mem_map.1 he
      exact (List.mem_filter.1 (mem_lastOf hs)).1
    · cases he
  | keepAge maxAgeMs =>
    simp only [ruleSelection] at he
    split at he
    · obtain ⟨s, hs, rfl⟩ := List.mem_map.1 he
      exact (List.mem_filter.1 hs).1
    · cases he
  | calendar unit count =>
    simp only [ruleSelection] at he
    split at he
    · cases he
    · obtain ⟨b, hb, rfl⟩ := List.mem_map.1 he
      exact mem_perBucket zone now hb

theorem getLast_mem_lastOf {α : Type} {count : Int} (h : 0 < count) {l : List α} {a : α} (ha : l.getLast? = some a) :
    a ∈ lastOf count l := by
  have hne : l ≠ [] := by
    rintro rfl
    cases ha
  have hlen := List.length_pos_iff.2 hne
  have hdrop : ¬ l.length ≤ l.length - count.toNat := by omega
  refine List.mem_of_getLast? (?_ : (l.drop (l.length - count.toNat)).getLast? = some a)
  rw [List.getLast?_drop, if_neg hdrop, ha]

variable {rules : List RetentionRule}

theorem mem_of_mem_appliedRules (h : rule ∈ appliedRules rules) : rule ∈ rules := by
  simp only [appliedRules, List.mem_append, List.mem_filter, Option.mem_toList] at h
  obtain (⟨h, _⟩ | h) | ⟨h, _⟩ := h
  · exact h
  · exact List.mem_of_find?_eq_some h
  · exact h

def RetentionRule.isKeepLast : RetentionRule → Bool
  | .keepLast _ => true
  | _ => false

theorem applied_or_keepLast (h : rule ∈ rules) :
    rule ∈ appliedRules rules ∨ ∃ m n, rule = .keepLast n ∧ .keepLast m ∈ appliedRules rules := by
  cases rule with
  | keepAge _ => exact .inl (List.mem_append_left _ (List.mem_append_left _ (List.mem_filter.2 ⟨h, rfl⟩)))
  | calendar _ _ => exact .inl (List.mem_append_right _ (List.mem_filter.2 ⟨h, rfl⟩))
  | keepLast n =>
    obtain ⟨first, hfi⟩ := Option.isSome_iff_exists.1
      (List.find?_isSome.2 ⟨_, h, rfl⟩ : (rules.find? RetentionRule.isKeepLast).isSome = true)
    have hmem : first ∈ appliedRules rules := List.mem_append_left _ (List.mem_append_right _ (Option.mem_toList.2 hfi))
    cases first with
    | keepLast m => exact .inr ⟨m, n, rfl, hmem⟩
    | keepAge _ | calendar _ _ => cases List.find?_some hfi

theorem rulesKeep_iff (rules : List RetentionRule) (id : String) :
    RulesKeep zone now rules (engine.sort compareSnapshots snapshots) id ↔
      ProtectedId now snapshots id ∨
        (∃ rule ∈ appliedRules rules, Selects zone now (engine.sort compareSnapshots snapshots) rule id) ∨
        ((∀ t ∈ snapshots, eligible now t = true → ¬ (ProtectedId now snapshots t.id ∨
            ∃ rule ∈ appliedRules rules, Selects zone now (engine.sort compareSnapshots snapshots) rule t.id)) ∧
          ∃ s, (eligibleSorted engine now snapshots).getLast? = some s ∧ s.id = id) := by
  simp only [RulesKeep, guaranteed_eq_some, keptIds_keptByRules, mem_sort, ProtectedId, eligibleSorted, or_assoc, and_assoc,
    exists_and_left]

theorem keptBy_iff (rules : List RetentionRule) (id : String) :
    KeptBy engine zone now snapshots rules id ↔ RulesKeep zone now rules (engine.sort compareSnapshots snapshots) id := by
  refine (keeps_iff engine zone now ⟨true, rules⟩ snapshots rfl id).trans (and_iff_right_of_imp fun h => ?_)
  rw [rulesKeep_iff] at h
  obtain ⟨s, hs, hid, _⟩ | ⟨rule, _, hsel⟩ | ⟨_, s, hs, hid⟩ := h
  · exact ⟨s, hs, hid⟩
  · obtain ⟨s, hs, hid⟩ := exists_of_selects zone now hsel
    exact ⟨s, (mem_sort engine snapshots).1 hs, hid⟩
  · have hmem := (List.mem_filter.1 (List.mem_of_getLast? hs)).1
    exact ⟨s, (mem_sort engine snapshots).1 hmem, hid⟩

theorem mem_eligibleSorted {s : RetentionSnapshotDescriptor} :
    s ∈ eligibleSorted engine now snapshots ↔ s ∈ snapshots ∧ eligible now s = true := by
  rw [eligibleSorted, List.mem_filter, mem_sort]

theorem appliedRules_singleton (rule : RetentionRule) : appliedRules [rule] = [rule] := by
  cases rule <;> rfl

theorem keptBy_nil_of_newest {newest : RetentionSnapshotDescriptor}
    (hnone : ¬ ∃ s ∈ snapshots, eligible now s = true ∧ ProtectedId now snapshots s.id)
    (hlast : (eligibleSorted engine now snapshots).getLast? = some newest) : KeptBy engine zone now snapshots [] newest.id := by
  rw [keptBy_iff, rulesKeep_iff]
  refine .inr (.inr ⟨fun t ht hel hk => ?_, newest, hlast, rfl⟩)
  obtain hk | ⟨rule, hrule, _⟩ := hk
  · exact hnone ⟨t, ht, hel, hk⟩
  · cases hrule

variable {drawn : List RetentionRule}

theorem keptBy_of_lastResort (hcond : NewestNotPassedOver engine zone now snapshots rules) (hd : drawn ⊆ rules)
    (hnone : ∀ t ∈ snapshots, eligible now t = true → ¬ ProtectedId now snapshots t.id) {newest : RetentionSnapshotDescriptor}
    (hlast : (eligibleSorted engine now snapshots).getLast? = some newest) :
    KeptBy engine zone now snapshots drawn newest.id := by
  rw [keptBy_iff, rulesKeep_iff]
  have hpass := hcond.resolve_left fun ⟨t, ht, hel, hp⟩ => hnone t ht hel hp
  by_cases hsel : ∃ rule ∈ appliedRules drawn, ∃ s ∈ snapshots, eligible now s = true ∧
      Selects zone now (engine.sort compareSnapshots snapshots) rule s.id
  · obtain ⟨rule, hrule, hs⟩ := hsel
    exact .inr (.inl ⟨rule, hrule, hpass rule (hd (mem_of_mem_appliedRules hrule)) newest hlast hs⟩)
  refine .inr (.inr ⟨fun t ht hel hk => ?_, newest, hlast, rfl⟩)
  obtain hp | ⟨rule, hrule, hs⟩ := hk
  · exact hnone t ht hel hp
  · exact hsel ⟨rule, hrule, t, ht, hel, hs⟩

theorem keptBy_of_selects (hpos : ∀ count, .keepLast count ∈ rules → 0 < count)
    (hcond : LastCountsAgree engine now snapshots rules) (hd : drawn ⊆ rules) (hrule : rule ∈ drawn) {id : String}
    (hsel : Selects zone now (engine.sort compareSnapshots snapshots) rule id) : KeptBy engine zone now snapshots drawn id := by
  rw [keptBy_iff, rulesKeep_iff]
  obtain happ | ⟨m, n, rfl, happ⟩ := applied_or_keepLast hrule
  · exact .inr (.inl ⟨rule, happ, hsel⟩)
  have hm := hd (mem_of_mem_appliedRules happ)
  have hn := hd hrule
  obtain ⟨s, hs, rfl⟩ := (selects_keepLast zone now (hpos n hn) _ _).1 hsel
  obtain hlast | hp := hcond m n hm hn s hs
  · exact .inr (.inl ⟨_, happ, (selects_keepLast zone now (hpos m hm) _ _).2 hlast⟩)
  · exact .inl hp

theorem union_of_conditions (hpos : ∀ count, .keepLast count ∈ rules → 0 < count)
    (hco : LastCountsAgree engine now snapshots rules) (hnew : NewestNotPassedOver engine zone now snapshots rules)
    (hd : drawn ⊆ rules) (id : String) : KeptBy engine zone now snapshots drawn id ↔
      KeptBy engine zone now snapshots [] id ∨ ∃ rule ∈ drawn, KeptBy engine zone now snapshots [rule] id := by
  constructor
  · intro h
    rw [keptBy_iff, rulesKeep_iff] at h
    obtain hp | ⟨rule, hrule, hsel⟩ | ⟨hnone, newest, hlast, rfl⟩ := h
    · exact .inl ((keptBy_iff ..).2 ((rulesKeep_iff ..).2 (.inl hp)))
    · refine .inr ⟨rule, mem_of_mem_appliedRules hrule, (keptBy_iff ..).2 ((rulesKeep_iff ..).2 (.inr (.inl ⟨rule, ?_, hsel⟩)))⟩
      rw [appliedRules_singleton]
      exact List.mem_singleton_self rule
    · exact .inl (keptBy_nil_of_newest engine zone now snapshots (fun ⟨t, ht, hel, hp⟩ => hnone t ht hel (.inl hp)) hlast)
  · -- a policy with at most one rule
    have hsm : ∀ small : List RetentionRule, (∀ rule ∈ small, rule ∈ drawn) → KeptBy engine zone now snapshots small id →
        KeptBy engine zone now snapshots drawn id := by
      intro small hsub h
      rw [keptBy_iff, rulesKeep_iff] at h
      obtain hp | ⟨rule, hrule, hsel⟩ | ⟨hnone, newest, hlast, rfl⟩ := h
      · exact (keptBy_iff ..).2 ((rulesKeep_iff ..).2 (.inl hp))
      · exact keptBy_of_selects engine zone now snapshots hpos hco hd (hsub rule (mem_of_mem_appliedRules hrule)) hsel
      · exact keptBy_of_lastResort engine zone now snapshots hnew hd (fun t ht hel hp => hnone t ht hel (.inl hp)) hlast
    rintro (h | ⟨rule, hrule, h⟩)
    · exact hsm [] (by simp) h
    · exact hsm [rule] (by simpa using hrule) h

theorem composesAsUnion_of_union (h : ∀ drawn, drawn ⊆ rules → ∀ id, KeptBy engine zone now snapshots drawn id ↔
      KeptBy engine zone now snapshots [] id ∨ ∃ rule ∈ drawn, KeptBy engine zone now snapshots [rule] id) :
    ComposesAsUnion engine zone now snapshots rules := by
  refine ⟨h, fun drawn hd other hperm id => ?_, fun drawn hd rule hrule id hk => ?_⟩
  · rw [h drawn hd, h other fun r hr => hd (hperm.mem_iff.2 hr)]
    simp only [hperm.mem_iff]
  · rw [h (rule :: drawn) (List.cons_subset.2 ⟨hrule, hd⟩)]
    exact ((h drawn hd id).1 hk).imp_right fun ⟨r, hr, hone⟩ => ⟨r, .tail _ hr, hone⟩

theorem lastCountsAgree_of_union (hpos : ∀ count, .keepLast count ∈ rules → 0 < count)
    (h : ComposesAsUnion engine zone now snapshots rules) : LastCountsAgree engine now snapshots rules := by
  intro m n hm hn s hs
  have hone : KeptBy engine zone now snapshots [.keepLast n] s.id :=
    (keptBy_iff ..).2 ((rulesKeep_iff ..).2 (.inr (.inl ⟨_, .head _,
      (selects_keepLast zone now (hpos n hn) _ _).2 ⟨s, hs, rfl⟩⟩)))
  have hboth := (h.union [.keepLast m, .keepLast n] (by simp [hm, hn]) s.id).2 (.inr ⟨_, by simp, hone⟩)
  rw [keptBy_iff, rulesKeep_iff] at hboth
  obtain hp | ⟨rule, hrule, hsel⟩ | ⟨hnone, newest, hlast, _⟩ := hboth
  · exact .inr hp
  · cases List.mem_singleton.1 (hrule : rule ∈ [RetentionRule.keepLast m])
    exact .inl ((selects_keepLast zone now (hpos m hm) _ _).1 hsel)
  -- the first count keeps the newest
  obtain ⟨hmem, hel⟩ := (mem_eligibleSorted ..).1 (List.mem_of_getLast? hlast)
  refine absurd (.inr ⟨.keepLast m, .head _, ?_⟩) (hnone newest hmem hel)
  exact (selects_keepLast zone now (hpos m hm) _ _).2 ⟨newest, getLast_mem_lastOf (hpos m hm) hlast, rfl⟩

theorem newestNotPassedOver_of_union (h : ComposesAsUnion engine zone now snapshots rules) :
    NewestNotPassedOver engine zone now snapshots rules := by
  by_cases hprot : ∃ s ∈ snapshots, eligible now s = true ∧ ProtectedId now snapshots s.id
  · exact .inl hprot
  refine .inr fun rule hrule newest hlast ⟨s, hs, hel, hsel⟩ => ?_
  have hkept := (h.union [rule] (by simpa using hrule) newest.id).2
    (.inl (keptBy_nil_of_newest engine zone now snapshots hprot hlast))
  rw [keptBy_iff, rulesKeep_iff, appliedRules_singleton] at hkept
  obtain hp | ⟨r, hr, hsel⟩ | ⟨hnone, _⟩ := hkept
  · obtain ⟨hmem, heln⟩ := (mem_eligibleSorted ..).1 (List.mem_of_getLast? hlast)
    exact absurd ⟨newest, hmem, heln, hp⟩ hprot
  · cases List.mem_singleton.1 hr
    exact hsel
  · exact absurd (.inr ⟨rule, List.mem_singleton_self rule, hsel⟩) (hnone s hs hel)

/-- **The rules of a policy compose as a union exactly when its counts agree and no rule passes over the newest.** Of several
counts to keep, the first is applied and the others are not. -/
theorem rules_compose_iff (rules : List RetentionRule) (haccepted : ∀ rule ∈ rules, validateRule rule.toJson = none) :
    ComposesAsUnion engine zone now snapshots rules ↔
      LastCountsAgree engine now snapshots rules ∧ NewestNotPassedOver engine zone now snapshots rules := by
  have hpos : ∀ count, .keepLast count ∈ rules → 0 < count := fun count hc => keepLast_pos_of_accepted (haccepted _ hc)
  refine ⟨fun h => ⟨lastCountsAgree_of_union engine zone now snapshots hpos h,
    newestNotPassedOver_of_union engine zone now snapshots h⟩, ?_⟩
  rintro ⟨hco, hnew⟩
  exact composesAsUnion_of_union engine zone now snapshots fun drawn hd id =>
    union_of_conditions engine zone now snapshots hpos hco hnew hd id

end Compose

instance (e : RetentionEvaluation) (id : String) : Decidable (e.Keeps id) := by
  unfold RetentionEvaluation.Keeps
  infer_instance

def snapshotAt (id : String) (timestamp : NumberValue) : RetentionSnapshotDescriptor := ⟨id, timestamp, none, false, false, true⟩

def twoSnapshots : List RetentionSnapshotDescriptor := [snapshotAt "a" (.finite 1), snapshotAt "b" (.finite 2)]

theorem rules_compose_three_kinds : ComposesAsUnion (sortOr []) (fixedOffset 0) 10 twoSnapshots
    [.keepLast 1, .keepAge (.finite 9), .calendar .daily 2] := by
  refine (rules_compose_iff (sortOr []) (fixedOffset 0) 10 twoSnapshots _ (by decide)).2 ⟨?_, .inr ?_⟩
  · intro m n hm hn s hs
    obtain rfl : m = 1 := by simpa using hm
    obtain rfl : n = 1 := by simpa using hn
    exact .inl ⟨s, hs, rfl⟩
  have hse : ∀ rule ∈ [RetentionRule.keepLast 1, .keepAge (.finite 9), .calendar .daily 2],
      ∃ e ∈ ruleSelection (fixedOffset 0) 10 ((sortOr []).sort compareSnapshots twoSnapshots) rule, e.1.id = "b" := by
    decide +kernel
  intro rule hrule newest hlast _
  have hnew : (eligibleSorted (sortOr []) 10 twoSnapshots).getLast? = some (snapshotAt "b" (.finite 2)) := by decide +kernel
  obtain rfl := Option.mem_unique hlast hnew
  exact hse rule hrule

/-- The validator takes two counts, and the second keeps nothing: before the first it does, and without the first. -/
theorem second_count_ignored :
    (∀ rule ∈ [RetentionRule.keepLast 1, .keepLast 2], validateRule rule.toJson = none) ∧
      ¬ ComposesAsUnion (sortOr []) (fixedOffset 0) 10 twoSnapshots [.keepLast 1, .keepLast 2] := by
  refine ⟨by decide, fun h => ?_⟩
  have hnot : ¬ KeptBy (sortOr []) (fixedOffset 0) 10 twoSnapshots [.keepLast 1, .keepLast 2] "a" := by
    unfold KeptBy
    decide +kernel
  have hone : KeptBy (sortOr []) (fixedOffset 0) 10 twoSnapshots [.keepLast 2] "a" := by
    unfold KeptBy
    decide +kernel
  exact hnot ((h.union _ (List.Subset.refl _) "a").2 (.inr ⟨_, by simp, hone⟩))

namespace NumberValue

theorem lt_trans {a b c : NumberValue} (hab : a.lt b = true) (hbc : b.lt c = true) : a.lt c = true := by
  cases a with
  | nan => cases hab
  | finite p =>
    cases b with
    | nan => cases hab
    | finite q =>
      cases c with
      | nan => cases hbc
      | finite r =>
        simp only [lt, decide_eq_true_eq] at *
        exact hab.trans hbc
      | infinite z => exact hbc
    | infinite y => cases c <;> simp_all [lt]
  | infinite x => cases b <;> cases c <;> simp_all [lt]

theorem lt_irrefl (a : NumberValue) : a.lt a = false := by
  cases a <;> simp [lt]

theorem lt_asymm {a b : NumberValue} (h : a.lt b = true) : b.lt a = false := by
  by_contra hgt
  have hcy := lt_trans h (by simpa using hgt)
  rw [lt_irrefl] at hcy
  cases hcy

theorem lt_or_eq_or_gt {a b : NumberValue} (ha : a ≠ .nan) (hb : b ≠ .nan) : a.lt b = true ∨ a = b ∨ b.lt a = true := by
  cases a with
  | nan => exact absurd rfl ha
  | finite p =>
    cases b with
    | nan => exact absurd rfl hb
    | finite q => simpa [lt] using lt_trichotomy p q
    | infinite y => cases y <;> simp [lt]
  | infinite x =>
    cases b with
    | nan => exact absurd rfl hb
    | finite q => cases x <;> simp [lt]
    | infinite y => cases x <;> cases y <;> simp [lt]

end NumberValue

/-- Where both times are readable, the comparator is the order of the times, and of the ids at the same time. -/
theorem compareSnapshots_ne_gt {a b : RetentionSnapshotDescriptor} (ha : a.timestamp ≠ .nan) (hb : b.timestamp ≠ .nan) :
    compareSnapshots a b ≠ .gt ↔ a.timestamp.lt b.timestamp = true ∨ a.timestamp = b.timestamp ∧ utf16 a.id ≤ utf16 b.id := by
  unfold compareSnapshots
  rw [if_neg (not_or.2 ⟨ha, hb⟩)]
  by_cases heq : a.timestamp = b.timestamp
  · rw [if_neg (not_not.2 heq), heq, NumberValue.lt_irrefl]
    split
    case isTrue h => simp [le_of_lt h]
    case isFalse h =>
      split
      case isTrue h => simp [h]
      case isFalse h' => simp [not_lt.1 h']
  · rw [if_pos heq]
    split
    case isTrue h => simp [h]
    case isFalse h => simp [h, heq]

theorem compareSnapshots_swap (a b : RetentionSnapshotDescriptor) : compareSnapshots a b = (compareSnapshots b a).swap := by
  by_cases hnan : a.timestamp = .nan ∨ b.timestamp = .nan
  · simp [compareSnapshots, hnan, hnan.symm]
  obtain ⟨ha, hb⟩ := not_or.1 hnan
  unfold compareSnapshots
  rw [if_neg hnan, if_neg (not_or.2 ⟨hb, ha⟩)]
  by_cases heq : a.timestamp = b.timestamp
  · rw [if_neg (not_not.2 heq), if_neg (not_not.2 heq.symm)]
    obtain h | h | h := lt_trichotomy (utf16 a.id) (utf16 b.id)
    · simp [h, h.not_gt]
    · simp [h]
    · simp [h, h.not_gt]
  rw [if_pos heq, if_pos (Ne.symm heq)]
  obtain h | h | h := NumberValue.lt_or_eq_or_gt ha hb
  · simp [h, NumberValue.lt_asymm h]
  · exact absurd h heq
  · simp [h, NumberValue.lt_asymm h]

theorem consistentOn_of_readable {l : List RetentionSnapshotDescriptor} (h : ∀ s ∈ l, s.timestamp ≠ .nan) :
    ConsistentOn compareSnapshots l := by
  refine ⟨fun a _ b _ => compareSnapshots_swap a b, fun a ha b hb c hc hab hbc => ?_⟩
  rw [compareSnapshots_ne_gt (h a ha) (h b hb)] at hab
  rw [compareSnapshots_ne_gt (h b hb) (h c hc)] at hbc
  rw [compareSnapshots_ne_gt (h a ha) (h c hc)]
  obtain hab | ⟨heq, hab⟩ := hab
  · obtain hbc | ⟨heq, _⟩ := hbc
    · exact .inl (NumberValue.lt_trans hab hbc)
    · exact .inl (heq ▸ hab)
  obtain hbc | ⟨heq', hbc⟩ := hbc
  · exact .inl (heq ▸ hbc)
  · exact .inr ⟨heq.trans heq', hab.trans hbc⟩

theorem not_consistentOn_of_nan {l : List RetentionSnapshotDescriptor} {bad s t : RetentionSnapshotDescriptor} (hbad : bad ∈ l)
    (hnan : bad.timestamp = .nan) (hs : s ∈ l) (ht : t ∈ l) (hlt : s.timestamp.lt t.timestamp = true) :
    ¬ ConsistentOn compareSnapshots l := by
  intro h
  have hgt : compareSnapshots t s ≠ .gt := by
    refine h.2 t ht bad hbad s hs ?_ ?_
    · simp [compareSnapshots, hnan]
    · simp [compareSnapshots, hnan]
  have hsnan : s.timestamp ≠ .nan := by
    intro heq
    rw [heq] at hlt
    cases hlt
  have htnan : t.timestamp ≠ .nan := by
    intro heq
    rw [heq] at hlt
    cases h' : s.timestamp <;> simp [h', NumberValue.lt] at hlt
  rw [compareSnapshots_ne_gt htnan hsnan] at hgt
  obtain hgt | ⟨heq, _⟩ := hgt
  · rw [NumberValue.lt_asymm hlt] at hgt
    cases hgt
  · rw [heq, NumberValue.lt_irrefl] at hlt
    cases hlt

section Newest

variable (zone : TimeZone) (now : Int)

def NewestOf (count : Int) (kept snapshots : List RetentionSnapshotDescriptor) : Prop :=
  ∃ rest, (rest ++ kept).Perm snapshots ∧ kept.length = min count.toNat snapshots.length ∧
    ∀ s ∈ kept, ∀ t ∈ rest, s.timestamp.lt t.timestamp = false

structure NewestOfBuckets (unit : CalendarUnit) (window : List String) (kept snapshots : List RetentionSnapshotDescriptor) :
    Prop where
  newest : ∀ s ∈ kept, s ∈ snapshots ∧ eligible now s = true ∧ ∃ key ∈ window, bucketOf zone unit s = some key ∧
    ∀ t ∈ snapshots, eligible now t = true → bucketOf zone unit t = some key → s.timestamp.lt t.timestamp = false
  covers : ∀ t ∈ snapshots, eligible now t = true → ∀ key ∈ window, bucketOf zone unit t = some key →
    ∃ s ∈ kept, bucketOf zone unit s = some key
  once : kept.Pairwise fun s t => bucketOf zone unit s ≠ bucketOf zone unit t

/-- The times are numbers, or every choice of that many eligible snapshots is one of the newest. -/
def CountSettled (count : Int) (snapshots : List RetentionSnapshotDescriptor) : Prop :=
  (∀ s ∈ snapshots, s.timestamp ≠ .nan) ∨ count ≤ 0 ∨ (snapshots.filter (eligible now)).length ≤ count ∨
    ∀ s ∈ snapshots.filter (eligible now), ∀ t ∈ snapshots.filter (eligible now), s.timestamp = t.timestamp

def selection (rule : RetentionRule) (sorted : List RetentionSnapshotDescriptor) : List RetentionSnapshotDescriptor :=
  (ruleSelection zone now sorted rule).map Prod.fst

variable {s : RetentionSnapshotDescriptor}

theorem exists_finite_of_eligible (h : eligible now s = true) : ∃ q, s.timestamp = .finite q := by
  cases ht : s.timestamp with
  | finite q => exact ⟨q, rfl⟩
  | infinite _ | nan => simp [eligible, realTime, ht] at h

theorem lt_false_trans {t u : RetentionSnapshotDescriptor} (hs : eligible now s = true) (ht : eligible now t = true)
    (hu : eligible now u = true) (hst : s.timestamp.lt t.timestamp = false) (htu : t.timestamp.lt u.timestamp = false) :
    s.timestamp.lt u.timestamp = false := by
  obtain ⟨p, hp⟩ := exists_finite_of_eligible now hs
  obtain ⟨q, hq⟩ := exists_finite_of_eligible now ht
  obtain ⟨r, hr⟩ := exists_finite_of_eligible now hu
  simp only [hp, hq, hr, NumberValue.lt, decide_eq_false_iff_not, not_lt] at *
  exact htu.trans hst

structure BucketsOf (unit : CalendarUnit) (window : List String) (buckets : List (String × RetentionSnapshotDescriptor))
    (seen : List RetentionSnapshotDescriptor) : Prop where
  nodup : buckets.Pairwise fun e f => e.1 ≠ f.1
  holds : ∀ e ∈ buckets, e.2 ∈ seen ∧ eligible now e.2 = true ∧ bucketOf zone unit e.2 = some e.1 ∧ e.1 ∈ window
  covers : ∀ t ∈ seen, eligible now t = true → ∀ key ∈ window, bucketOf zone unit t = some key →
    ∃ e ∈ buckets, e.1 = key ∧ e.2.timestamp.lt t.timestamp = false

variable {buckets : List (String × RetentionSnapshotDescriptor)}

theorem mem_of_lookup_eq_some {key : String} (h : buckets.lookup key = some s) : (key, s) ∈ buckets := by
  obtain ⟨a, b, rfl, _⟩ := List.lookup_eq_some_iff.1 h
  simp

variable {unit : CalendarUnit} {window : List String} {seen : List RetentionSnapshotDescriptor}

theorem BucketsOf.eq_of_key (h : BucketsOf zone now unit window buckets seen)
    {e f : String × RetentionSnapshotDescriptor} (he : e ∈ buckets) (hf : f ∈ buckets) (hkey : e.1 = f.1) : e = f :=
  List.inj_on_of_nodup_map (List.pairwise_map.2 h.nodup : (buckets.map Prod.fst).Nodup) he hf hkey

theorem BucketsOf.enter (h : BucketsOf zone now unit window buckets seen) (s : RetentionSnapshotDescriptor) :
    BucketsOf zone now unit window (enterBucket zone now unit window buckets s) (seen ++ [s]) := by
  have hmem : ∀ t, t ∈ seen → t ∈ seen ++ [s] := fun t ht => List.mem_append_left _ ht
  -- buckets that do not change are right when the new snapshot is covered
  have hsame : (∀ key ∈ window, eligible now s = true → bucketOf zone unit s = some key →
      ∃ e ∈ buckets, e.1 = key ∧ e.2.timestamp.lt s.timestamp = false) →
      BucketsOf zone now unit window buckets (seen ++ [s]) := by
    intro hs
    refine ⟨h.nodup, fun e he => ?_, fun t ht hel key hkey hb => ?_⟩
    · obtain ⟨hseen, hrest⟩ := h.holds e he
      exact ⟨hmem _ hseen, hrest⟩
    obtain ht | ht := List.mem_append.1 ht
    · exact h.covers t ht hel key hkey hb
    · cases List.mem_singleton.1 ht
      exact hs key hkey hel hb
  unfold enterBucket
  split
  case h_2 hno =>
    exact hsame fun key _ hel hb => absurd hb (hno key hel)
  case h_1 key hel hb =>
    split
    case isTrue hout =>
      refine hsame fun key' hkey _ hb' => ?_
      rw [hb] at hb'
      cases hb'
      exact absurd hkey hout
    case isFalse hin =>
      have hin : key ∈ window := not_not.1 hin
      have hself : s.timestamp.lt s.timestamp = false := NumberValue.lt_irrefl _
      split
      case h_1 hnone =>
        have hfr : ∀ e ∈ buckets, e.1 ≠ key := by
          rintro e he rfl
          have := List.lookup_eq_none_iff.1 hnone e he
          simp at this
        refine ⟨List.pairwise_append.2 ⟨h.nodup, List.pairwise_singleton _ _, ?_⟩, fun e he => ?_, fun t ht helt key' hkey hbt => ?_⟩
        · intro e he f hf
          cases List.mem_singleton.1 hf
          exact hfr e he
        · obtain he | he := List.mem_append.1 he
          · obtain ⟨hseen, hrest⟩ := h.holds e he
            exact ⟨hmem _ hseen, hrest⟩
          · cases List.mem_singleton.1 he
            exact ⟨by simp, hel, hb, hin⟩
        obtain ht | ht := List.mem_append.1 ht
        · obtain ⟨e, he, hrest⟩ := h.covers t ht helt key' hkey hbt
          exact ⟨e, List.mem_append_left _ he, hrest⟩
        · cases List.mem_singleton.1 ht
          rw [hb] at hbt
          cases hbt
          exact ⟨(key, s), by simp, rfl, hself⟩
      case h_2 current hcur =>
        have hcu := mem_of_lookup_eq_some hcur
        obtain ⟨_, helc, hbc, _⟩ := h.holds _ hcu
        split
        case isTrue hlt =>
          refine hsame fun key' _ _ hb' => ?_
          rw [hb] at hb'
          cases hb'
          exact ⟨_, hcu, rfl, NumberValue.lt_asymm hlt⟩
        case isFalse hge =>
          have hge : s.timestamp.lt current.timestamp = false := by simpa using hge
          refine ⟨?_, fun e he => ?_, fun t ht helt key' hkey hbt => ?_⟩
          · rw [List.pairwise_map]
            refine h.nodup.imp fun {e f} hne => ?_
            split <;> split <;> simp_all
          · obtain ⟨old, hold, rfl⟩ := List.mem_map.1 he
            split
            case isTrue => exact ⟨by simp, hel, hb, hin⟩
            case isFalse =>
              obtain ⟨hseen, hrest⟩ := h.holds old hold
              exact ⟨hmem _ hseen, hrest⟩
          · obtain ht | ht := List.mem_append.1 ht
            · obtain ⟨e, he, rfl, hnew⟩ := h.covers t ht helt key' hkey hbt
              refine ⟨_, List.mem_map.2 ⟨e, he, rfl⟩, ?_⟩
              split
              case isTrue heq =>
                cases h.eq_of_key zone now he hcu heq
                exact ⟨rfl, lt_false_trans now hel helc helt hge hnew⟩
              case isFalse => exact ⟨rfl, hnew⟩
            · cases List.mem_singleton.1 ht
              rw [hb] at hbt
              cases hbt
              exact ⟨(key, s), List.mem_map.2 ⟨_, hcu, if_pos rfl⟩, rfl, hself⟩

theorem bucketsOf_perBucket (unit : CalendarUnit) (window : List String) (sorted : List RetentionSnapshotDescriptor) :
    BucketsOf zone now unit window (perBucket zone now unit window sorted) sorted := by
  suffices ∀ (rest seen : List RetentionSnapshotDescriptor) (buckets : List (String × RetentionSnapshotDescriptor)),
      BucketsOf zone now unit window buckets seen →
        BucketsOf zone now unit window (rest.foldl (enterBucket zone now unit window) buckets) (seen ++ rest) by
    have hnil : BucketsOf zone now unit window [] [] := ⟨List.Pairwise.nil, by simp, by simp⟩
    simpa [perBucket] using this sorted [] [] hnil
  intro rest
  induction rest with
  | nil => exact fun seen buckets h => by simpa using h
  | cons s rest ih =>
    intro seen buckets h
    have hnext := ih (seen ++ [s]) _ (h.enter zone now s)
    rwa [List.append_assoc] at hnext

theorem BucketsOf.newestOfBuckets
    (h : BucketsOf zone now unit window buckets seen) : NewestOfBuckets zone now unit window (buckets.map Prod.snd) seen := by
  refine ⟨fun s hs => ?_, fun t ht hel key hkey hb => ?_, ?_⟩
  · obtain ⟨e, he, rfl⟩ := List.mem_map.1 hs
    obtain ⟨hseen, hel, hb, hin⟩ := h.holds e he
    refine ⟨hseen, hel, e.1, hin, hb, fun t ht helt hbt => ?_⟩
    obtain ⟨f, hf, hkey, hnew⟩ := h.covers t ht helt e.1 hin hbt
    cases h.eq_of_key zone now he hf hkey.symm
    exact hnew
  · obtain ⟨e, he, rfl, _⟩ := h.covers t ht hel key hkey hb
    exact ⟨e.2, List.mem_map_of_mem he, (h.holds e he).2.2.1⟩
  · rw [List.pairwise_map]
    refine h.nodup.imp_of_mem fun {e f} he hf hne => ?_
    rw [(h.holds e he).2.2.1, (h.holds f hf).2.2.1]
    simpa using hne

theorem NewestOfBuckets.perm {kept snapshots other : List RetentionSnapshotDescriptor}
    (h : NewestOfBuckets zone now unit window kept snapshots) (hperm : snapshots.Perm other) :
    NewestOfBuckets zone now unit window kept other := by
  refine ⟨fun s hs => ?_, fun t ht => h.covers t (hperm.mem_iff.2 ht), h.once⟩
  obtain ⟨hmem, hel, key, hin, hb, hnew⟩ := h.newest s hs
  exact ⟨hperm.mem_iff.1 hmem, hel, key, hin, hb, fun t ht => hnew t (hperm.mem_iff.2 ht)⟩

theorem newestOfBuckets_selection (unit : CalendarUnit) (count : Int) (sorted : List RetentionSnapshotDescriptor) :
    NewestOfBuckets zone now unit (recentBucketKeys zone unit count now) (selection zone now (.calendar unit count) sorted)
      sorted := by
  unfold selection ruleSelection
  dsimp only
  split
  case isTrue h =>
    have hwi : recentBucketKeys zone unit count now = [] := by
      simp [recentBucketKeys, recentBucketTimes, Int.toNat_of_nonpos h]
    rw [hwi]
    exact ⟨by simp, by simp, List.Pairwise.nil⟩
  case isFalse h =>
    rw [List.map_map]
    exact (bucketsOf_perBucket zone now unit _ sorted).newestOfBuckets zone now

theorem selection_keepLast (count : Int) (sorted : List RetentionSnapshotDescriptor) :
    selection zone now (.keepLast count) sorted = lastOf count (sorted.filter (eligible now)) := by
  unfold selection ruleSelection
  dsimp only
  split
  case isTrue => simp [Function.comp_def]
  case isFalse h => simp [lastOf, Int.toNat_of_nonpos (not_lt.1 h)]

theorem length_lastOf {α : Type} (count : Int) (l : List α) : (lastOf count l).length = min count.toNat l.length := by
  simp only [lastOf, List.length_drop]
  omega

theorem newestOf_lastOf {count : Int} {l snapshots : List RetentionSnapshotDescriptor} (hperm : l.Perm snapshots)
    (h : ∀ s ∈ lastOf count l, ∀ t ∈ l.take (l.length - count.toNat), s.timestamp.lt t.timestamp = false) :
    NewestOf count (lastOf count l) snapshots := by
  refine ⟨l.take (l.length - count.toNat), ?_, ?_, h⟩
  · rw [lastOf, List.take_append_drop]
    exact hperm
  · rw [length_lastOf, hperm.length_eq]

section Order

variable (count : Int) (snapshots : List RetentionSnapshotDescriptor)

theorem pairwise_sort_of_readable (engine : ArraySort RetentionSnapshotDescriptor) {order : List RetentionSnapshotDescriptor}
    (h : ∀ s ∈ order, s.timestamp ≠ .nan) :
    (engine.sort compareSnapshots order).Pairwise fun s t => t.timestamp.lt s.timestamp = false := by
  refine (engine.sorted compareSnapshots order (consistentOn_of_readable h)).imp_of_mem fun {s t} hs ht hle => ?_
  have hs := h s ((mem_sort engine order).1 hs)
  have ht := h t ((mem_sort engine order).1 ht)
  obtain hlt | ⟨heq, _⟩ := (compareSnapshots_ne_gt hs ht).1 hle
  · exact NumberValue.lt_asymm hlt
  · rw [heq]
    exact NumberValue.lt_irrefl _

theorem newestOf_of_settled (h : CountSettled now count snapshots) (engine : ArraySort RetentionSnapshotDescriptor)
    {order : List RetentionSnapshotDescriptor} (hor : order.Perm snapshots) :
    NewestOf count (selection zone now (.keepLast count) (engine.sort compareSnapshots order))
      (snapshots.filter (eligible now)) := by
  rw [selection_keepLast]
  have hperm : ((engine.sort compareSnapshots order).filter (eligible now)).Perm (snapshots.filter (eligible now)) :=
    ((engine.perm compareSnapshots order).trans hor).filter _
  refine newestOf_lastOf hperm fun s hs t ht => ?_
  have hsmem := hperm.mem_iff.1 (mem_lastOf hs)
  have htmem := hperm.mem_iff.1 (List.mem_of_mem_take ht)
  obtain hread | hpos | hall | hsame := h
  · have hsort := (pairwise_sort_of_readable engine fun s hs => hread s (hor.mem_iff.1 hs)).filter (eligible now)
    rw [← List.take_append_drop (((engine.sort compareSnapshots order).filter (eligible now)).length - count.toNat)
      ((engine.sort compareSnapshots order).filter (eligible now)), List.pairwise_append] at hsort
    exact hsort.2.2 t ht s hs
  · have hlen := List.length_pos_of_mem hs
    rw [length_lastOf] at hlen
    omega
  · have hlen := List.length_pos_of_mem ht
    rw [List.length_take, hperm.length_eq] at hlen
    omega
  · rw [hsame s hsmem t htmem]
    exact NumberValue.lt_irrefl _

theorem not_newestOf_of_not_settled (h : ¬ CountSettled now count snapshots) :
    ∃ engine : ArraySort RetentionSnapshotDescriptor,
      ¬ NewestOf count (selection zone now (.keepLast count) (engine.sort compareSnapshots snapshots))
        (snapshots.filter (eligible now)) := by
  simp only [CountSettled, not_or, not_forall, not_not, not_le] at h
  obtain ⟨⟨bad, hbad, hnan⟩, hpos, hlen, s, hs, t, ht, hne⟩ := h
  obtain ⟨old, new, hold, hnew, hlt⟩ : ∃ old new, old ∈ snapshots.filter (eligible now) ∧
      new ∈ snapshots.filter (eligible now) ∧ old.timestamp.lt new.timestamp = true := by
    obtain ⟨p, hp⟩ := exists_finite_of_eligible now (List.mem_filter.1 hs).2
    obtain ⟨q, hq⟩ := exists_finite_of_eligible now (List.mem_filter.1 ht).2
    obtain hlt | heq | hlt := @NumberValue.lt_or_eq_or_gt s.timestamp t.timestamp (by simp [hp]) (by simp [hq])
    · exact ⟨s, t, hs, ht, hlt⟩
    · exact absurd heq hne
    · exact ⟨t, s, ht, hs, hlt⟩
  obtain ⟨hol, holdel⟩ := List.mem_filter.1 hold
  obtain ⟨hnewmem, hnewel⟩ := List.mem_filter.1 hnew
  have hdiff : old ≠ new := by
    rintro rfl
    rw [NumberValue.lt_irrefl] at hlt
    cases hlt
  -- the newer snapshot comes first and the older one last
  let others := (snapshots.erase new).erase old
  have hperm : (new :: (others ++ [old])).Perm snapshots := by
    have hold' : old ∈ snapshots.erase new := (List.mem_erase_of_ne hdiff).2 hol
    refine ((List.Perm.cons new ?_).trans (List.perm_cons_erase hnewmem).symm)
    exact (List.perm_append_singleton old others).trans (List.perm_cons_erase hold').symm
  have hsort : (sortOr (new :: (others ++ [old]))).sort compareSnapshots snapshots = new :: (others ++ [old]) := by
    have hno := not_consistentOn_of_nan hbad hnan hol hnewmem hlt
    simp only [sortOr, if_neg hno, if_pos hperm]
  refine ⟨sortOr (new :: (others ++ [old])), ?_⟩
  rw [hsort, selection_keepLast]
  have hfilt : (new :: (others ++ [old])).filter (eligible now) = new :: (others.filter (eligible now) ++ [old]) := by
    simp [hnewel, holdel]
  have hpe := hperm.filter (eligible now)
  rw [hfilt] at hpe ⊢
  have hle := hpe.length_eq
  simp only [List.length_cons, List.length_append, List.length_nil, Nat.zero_add] at hle
  rintro ⟨rest, hrest, _, hno⟩
  -- what is left out is what stands before, and the newer one with it
  have holdkept : old ∈ lastOf count (new :: (others.filter (eligible now) ++ [old])) := by
    refine getLast_mem_lastOf (by omega) ?_
    rw [← List.cons_append, List.getLast?_concat]
  have hnewrest : new ∈ rest := by
    have hall : (rest ++ lastOf count (new :: (others.filter (eligible now) ++ [old]))).Perm
        ((new :: (others.filter (eligible now) ++ [old])).take
          ((new :: (others.filter (eligible now) ++ [old])).length - count.toNat) ++
            lastOf count (new :: (others.filter (eligible now) ++ [old]))) := by
      rw [lastOf, List.take_append_drop]
      exact hrest.trans hpe.symm
    refine ((List.perm_append_right_iff _).1 hall).mem_iff.2 ?_
    have hcut : (new :: (others.filter (eligible now) ++ [old])).length - count.toNat =
        (others.filter (eligible now)).length + 1 - count.toNat + 1 := by
      rw [List.length_cons, List.length_append, List.length_singleton]
      omega
    rw [hcut, List.take_succ_cons]
    exact .head _
  rw [hno old holdkept new hnewrest] at hlt
  cases hlt

end Order

/-- **The newest are selected, whatever the order of the input and whatever the engine does, exactly where the count is
settled**, and of every bucket always. -/
theorem newest_selected_iff (count : Int) (snapshots : List RetentionSnapshotDescriptor) :
    ((∀ engine : ArraySort RetentionSnapshotDescriptor, ∀ order : List RetentionSnapshotDescriptor, order.Perm snapshots →
        NewestOf count (selection zone now (.keepLast count) (engine.sort compareSnapshots order))
          (snapshots.filter (eligible now))) ↔ CountSettled now count snapshots) ∧
      ∀ engine : ArraySort RetentionSnapshotDescriptor, ∀ order : List RetentionSnapshotDescriptor, order.Perm snapshots →
        ∀ unit, NewestOfBuckets zone now unit (recentBucketKeys zone unit count now)
          (selection zone now (.calendar unit count) (engine.sort compareSnapshots order)) snapshots := by
  refine ⟨⟨fun h => ?_, fun h engine order hor => newestOf_of_settled zone now count snapshots h engine hor⟩, ?_⟩
  · by_contra hno
    obtain ⟨engine, hen⟩ := not_newestOf_of_not_settled zone now count snapshots hno
    exact hen (h engine snapshots (List.Perm.refl snapshots))
  · intro engine order hor unit
    exact (newestOfBuckets_selection zone now unit count _).perm zone now ((engine.perm compareSnapshots order).trans hor)

end Newest

/-- Beside a time that is no number the newest snapshots stand where they stood. -/
def unreadableBetween : List RetentionSnapshotDescriptor :=
  [snapshotAt "b" (.finite 6), snapshotAt "c" .nan, snapshotAt "a" (.finite 5)]

/-- The older snapshot is kept and the newer one is not. -/
theorem older_kept_beside_unreadable :
    selection (fixedOffset 0) 10 (.keepLast 1) ((sortOr []).sort compareSnapshots unreadableBetween) =
        [snapshotAt "a" (.finite 5)] ∧
      ¬ NewestOf 1 (selection (fixedOffset 0) 10 (.keepLast 1) ((sortOr []).sort compareSnapshots unreadableBetween))
        (unreadableBetween.filter (eligible 10)) := by
  have hsel : selection (fixedOffset 0) 10 (.keepLast 1) ((sortOr []).sort compareSnapshots unreadableBetween) =
      [snapshotAt "a" (.finite 5)] := by decide +kernel
  have hel : unreadableBetween.filter (eligible 10) = [snapshotAt "b" (.finite 6), snapshotAt "a" (.finite 5)] := by
    decide +kernel
  refine ⟨hsel, ?_⟩
  rw [hsel, hel]
  rintro ⟨rest, hperm, _, hno⟩
  have hmem : snapshotAt "b" (.finite 6) ∈ rest ++ [snapshotAt "a" (.finite 5)] := hperm.mem_iff.2 (by simp)
  obtain hmem | hmem := List.mem_append.1 hmem
  · exact absurd (hno (snapshotAt "a" (.finite 5)) (by simp) _ hmem) (by decide +kernel)
  · exact absurd (List.mem_singleton.1 hmem) (by decide +kernel)

end LamaSync
