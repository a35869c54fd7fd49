import LamaSync.Lib.Table
import Mathlib.Data.List.Sort

/-!
# The limits of enrollment exchanges

An exchange is counted against the address it comes from and against the enrollment it is for, each in a window of a minute
that its first attempt opens.  The buckets are in two maps that are swept now and then and that are capped, and the cap
evicts the bucket of the oldest window, also while its window lasts.

`exchange_attempts_limited` says that an enrollment has five attempts in a window, in every run in which no attempt comes
while 512 others have a window that lasts.
-/

namespace LamaSync

def exchangeAddressLimit : Nat := 10

def exchangeEnrollmentLimit : Nat := 5

def exchangeWindowMs : Int := 60000

def rateLimitPruneEvery : Nat := 64

def rateLimitMaxEntries : Nat := 512

structure RateBucket where
  windowStart : Int
  count : Nat
  deriving DecidableEq

/-- The map of a limit, in the order of its keys. -/
abbrev RateBuckets := List (String × RateBucket)

def RateBucket.Elapsed (bucket : RateBucket) (now : Int) : Prop := exchangeWindowMs ≤ now - bucket.windowStart

instance (bucket : RateBucket) (now : Int) : Decidable (bucket.Elapsed now) := by
  unfold RateBucket.Elapsed
  infer_instance

namespace RateBuckets

def set (buckets : RateBuckets) (key : String) (bucket : RateBucket) : RateBuckets :=
  if buckets.any fun e => e.1 = key then buckets.map fun e => if e.1 = key then (key, bucket) else e
  else buckets ++ [(key, bucket)]

def dropExpired (buckets : RateBuckets) (now : Int) : RateBuckets := buckets.filter fun e => ¬ e.2.Elapsed now

def enforceBucketCap (buckets : RateBuckets) : RateBuckets :=
  if buckets.length ≤ rateLimitMaxEntries then buckets
  else
    let byAge := buckets.insertionSort fun a b => a.2.windowStart ≤ b.2.windowStart
    let evicted := (byAge.take (buckets.length - rateLimitMaxEntries)).map Prod.fst
    buckets.filter fun e => e.1 ∉ evicted

def bump (buckets : RateBuckets) (key : String) (limit : Nat) (now : Int) : Bool × RateBuckets :=
  match buckets.lookup key with
  | none => (true, buckets.set key ⟨now, 1⟩)
  | some existing =>
    if existing.Elapsed now then (true, buckets.set key ⟨now, 1⟩)
    else if limit ≤ existing.count then (false, buckets)
    else (true, buckets.set key { existing with count := existing.count + 1 })

/-- An attempt is given back. -/
def refund (buckets : RateBuckets) (key : String) : RateBuckets :=
  match buckets.lookup key with
  | none => buckets
  | some bucket => buckets.set key { bucket with count := bucket.count - 1 }

end RateBuckets

structure ExchangeLimiter where
  addressBuckets : RateBuckets := []
  enrollmentBuckets : RateBuckets := []
  pruneCounter : Nat := 0
  deriving DecidableEq

namespace ExchangeLimiter

/-- The sweep of every sixty-fourth check. -/
def prune (s : ExchangeLimiter) (now : Int) : ExchangeLimiter :=
  let pruneCounter := (s.pruneCounter + 1) % rateLimitPruneEvery
  if pruneCounter = 0 then ⟨s.addressBuckets.dropExpired now, s.enrollmentBuckets.dropExpired now, pruneCounter⟩
  else { s with pruneCounter }

def mobileExchangeAllowed (s : ExchangeLimiter) (now : Int) (clientAddress enrollmentId : String) : Bool × ExchangeLimiter :=
  let s := s.prune now
  match s.addressBuckets.bump ("addr:" ++ clientAddress) exchangeAddressLimit now with
  | (false, addressBuckets) => (false, { s with addressBuckets := addressBuckets.enforceBucketCap })
  | (true, addressBuckets) =>
    let (enrollmentAllowed, enrollmentBuckets) :=
      s.enrollmentBuckets.bump ("enr:" ++ enrollmentId) exchangeEnrollmentLimit now
    let addressBuckets := if enrollmentAllowed then addressBuckets else addressBuckets.refund ("addr:" ++ clientAddress)
    (enrollmentAllowed,
      { s with addressBuckets := addressBuckets.enforceBucketCap, enrollmentBuckets := enrollmentBuckets.enforceBucketCap })

end ExchangeLimiter

/-- An attempt, so many milliseconds after the one before. -/
structure ExchangeAttempt where
  clientAddress : String
  enrollmentId : String
  after : Nat

/-- The limiter, the time, and the attempts that were allowed, with their times. -/
structure ExchangeRun where
  limiter : ExchangeLimiter := {}
  now : Int := 0
  allowed : List (String × Int) := []
  deriving DecidableEq

namespace ExchangeRun

def attempt (r : ExchangeRun) (a : ExchangeAttempt) : ExchangeRun :=
  let now := r.now + a.after
  let (allowed, limiter) := r.limiter.mobileExchangeAllowed now a.clientAddress a.enrollmentId
  ⟨limiter, now, if allowed then r.allowed ++ [(a.enrollmentId, now)] else r.allowed⟩

def attempts (r : ExchangeRun) (l : List ExchangeAttempt) : ExchangeRun := l.foldl attempt r

def timesOf (r : ExchangeRun) (enrollmentId : String) : List Int :=
  (r.allowed.filter fun e => e.1 = enrollmentId).map Prod.snd

end ExchangeRun

/-- The window that is open after some attempts: the first attempt opens one, and so does the first behind its end. -/
def nextWindow : Option RateBucket → Int → RateBucket
  | none, t => ⟨t, 1⟩
  | some w, t => if w.Elapsed t then ⟨t, 1⟩ else { w with count := w.count + 1 }

def windowOf (times : List Int) : Option RateBucket := times.foldl (fun w t => some (nextWindow w t)) none

/-- Fewer than 512 other enrollments have a window that lasts. -/
def RoomFor (r : ExchangeRun) (a : ExchangeAttempt) : Prop :=
  (r.limiter.enrollmentBuckets.filter fun e => e.1 ≠ "enr:" ++ a.enrollmentId ∧ ¬ e.2.Elapsed (r.now + a.after)).length <
    rateLimitMaxEntries

instance (r : ExchangeRun) (a : ExchangeAttempt) : Decidable (RoomFor r a) := by
  unfold RoomFor
  infer_instance

def RoomThroughout : ExchangeRun → List ExchangeAttempt → Prop
  | _, [] => True
  | r, a :: rest => RoomFor r a ∧ RoomThroughout (r.attempt a) rest

instance decidableRoomThroughout (r : ExchangeRun) : (l : List ExchangeAttempt) → Decidable (RoomThroughout r l)
  | [] => .isTrue trivial
  | a :: rest => @instDecidableAnd _ _ _ (decidableRoomThroughout (r.attempt a) rest)

namespace RateBuckets

variable {buckets : RateBuckets} {key other : String} {bucket : RateBucket} {now : Int}

def DistinctKeys (buckets : RateBuckets) : Prop := (buckets.map Prod.fst).Nodup

theorem lookup_eq_some_iff (h : buckets.DistinctKeys) : buckets.lookup key = some bucket ↔ (key, bucket) ∈ buckets := by
  induction buckets with
  | nil => simp
  | cons e rest ih =>
    obtain ⟨hnot, hrest⟩ := List.nodup_cons.1 (h : (e.1 :: rest.map Prod.fst).Nodup)
    obtain ⟨k, b⟩ := e
    by_cases hk : key = k
    · subst hk
      have hno : (key, bucket) ∉ rest := fun hmem => hnot (List.mem_map.2 ⟨_, hmem, rfl⟩)
      simp [hno, eq_comm]
    · have hne : (key == k) = false := by simpa using hk
      simp [List.lookup_cons, hne, ih hrest, hk]

theorem DistinctKeys.filter {p : String × RateBucket → Bool} (h : buckets.DistinctKeys) :
    RateBuckets.DistinctKeys (List.filter p buckets) :=
  List.Nodup.sublist (List.filter_sublist.map Prod.fst) h

theorem keys_set : (buckets.set key bucket).map Prod.fst =
    if key ∈ buckets.map Prod.fst then buckets.map Prod.fst else buckets.map Prod.fst ++ [key] := by
  have hany : (buckets.any fun e => e.1 = key) = true ↔ key ∈ buckets.map Prod.fst := by
    simp [List.any_eq_true]
  unfold set
  by_cases h : key ∈ buckets.map Prod.fst
  · rw [if_pos (hany.2 h), if_pos h, List.map_map]
    refine List.map_congr_left fun e _ => ?_
    simp only [Function.comp_apply]
    split
    case isTrue heq => exact heq.symm
    case isFalse => rfl
  · rw [if_neg (mt hany.1 h), if_neg h, List.map_append]
    rfl

theorem DistinctKeys.set (h : buckets.DistinctKeys) : (buckets.set key bucket).DistinctKeys := by
  unfold DistinctKeys
  rw [keys_set]
  split
  case isTrue => exact h
  case isFalse hno =>
    refine List.nodup_append.2 ⟨h, List.nodup_singleton key, fun k hk k' hk' => ?_⟩
    rw [List.mem_singleton.1 hk']
    exact fun heq => hno (heq ▸ hk)

theorem mem_set (e : String × RateBucket) :
    e ∈ buckets.set key bucket ↔ e = (key, bucket) ∨ e ∈ buckets ∧ e.1 ≠ key := by
  unfold RateBuckets.set
  split
  case isTrue h =>
    obtain ⟨old, hold, hkey⟩ := List.any_eq_true.1 h
    have hkey : old.1 = key := by simpa using hkey
    rw [List.mem_map]
    constructor
    · rintro ⟨e', he', rfl⟩
      split
      case isTrue => exact .inl rfl
      case isFalse hne => exact .inr ⟨he', hne⟩
    rintro (rfl | ⟨he, hne⟩)
    · exact ⟨old, hold, if_pos hkey⟩
    · exact ⟨e, he, if_neg hne⟩
  case isFalse h =>
    have hne : ∀ e ∈ buckets, e.1 ≠ key := fun e he heq => h (List.any_eq_true.2 ⟨e, he, by simpa using heq⟩)
    rw [List.mem_append, List.mem_singleton]
    constructor
    · rintro (he | rfl)
      · exact .inr ⟨he, hne e he⟩
      · exact .inl rfl
    rintro (rfl | ⟨he, _⟩)
    · exact .inr rfl
    · exact .inl he

theorem length_set_le : (buckets.set key bucket).length ≤ buckets.length + 1 := by
  unfold RateBuckets.set
  split <;> simp

theorem filter_set (p : String × RateBucket → Bool) (hp : ∀ e, p e = true → e.1 ≠ key) :
    List.filter p (buckets.set key bucket) = List.filter p buckets := by
  have hself : ∀ e : String × RateBucket, e.1 = key → p e = false := fun e heq => by
    by_contra hno
    exact hp e (by simpa using hno) heq
  unfold RateBuckets.set
  split
  case isTrue =>
    rw [List.filter_map]
    have hsame : (p ∘ fun e : String × RateBucket => if e.1 = key then (key, bucket) else e) = p := by
      funext e
      simp only [Function.comp_apply]
      split
      case isTrue heq => rw [hself e heq, hself _ rfl]
      case isFalse => rfl
    rw [hsame]
    refine (List.map_congr_left fun e he => ?_).trans (List.map_id _)
    exact if_neg (hp e (List.mem_filter.1 he).2)
  case isFalse => simp [hself (key, bucket) rfl]

theorem bump_cases (limit : Nat) :
    (buckets.bump key limit now = (true, buckets.set key (nextWindow (buckets.lookup key) now)) ∧
        ∀ existing, buckets.lookup key = some existing → ¬ existing.Elapsed now → existing.count < limit) ∨
      buckets.bump key limit now = (false, buckets) := by
  unfold bump
  cases buckets.lookup key with
  | none => exact .inl ⟨rfl, nofun⟩
  | some existing =>
    simp only [nextWindow]
    split
    case isTrue h =>
      refine .inl ⟨rfl, fun b hb hno => ?_⟩
      cases hb
      exact absurd h hno
    case isFalse =>
      split
      case isTrue => exact .inr rfl
      case isFalse h =>
        refine .inl ⟨rfl, fun b hb _ => ?_⟩
        cases hb
        exact Nat.lt_of_not_le h

theorem length_le_filter_ne (h : buckets.DistinctKeys) (key : String) :
    buckets.length ≤ (List.filter (fun e => e.1 ≠ key) buckets).length + 1 := by
  rw [List.length_eq_length_filter_add fun e : String × RateBucket => decide (e.1 ≠ key)]
  refine Nat.add_le_add_left ?_ _
  have hnd : ((List.filter (fun e => !decide (e.1 ≠ key)) buckets).map Prod.fst).Nodup :=
    h.filter
  rw [← List.length_map (f := Prod.fst)]
  have hall : ∀ k ∈ (List.filter (fun e : String × RateBucket => !decide (e.1 ≠ key)) buckets).map Prod.fst, k = key := by
    intro k hk
    obtain ⟨e, he, rfl⟩ := List.mem_map.1 hk
    simpa using (List.mem_filter.1 he).2
  rw [List.eq_replicate_of_mem hall] at hnd ⊢
  rw [List.nodup_replicate] at hnd
  simpa using hnd

theorem enforceBucketCap_subset {e : String × RateBucket} (he : e ∈ buckets.enforceBucketCap) : e ∈ buckets := by
  unfold enforceBucketCap at he
  split at he
  · exact he
  · exact (List.mem_filter.1 he).1

theorem DistinctKeys.enforceBucketCap (h : buckets.DistinctKeys) : (RateBuckets.enforceBucketCap buckets).DistinctKeys := by
  unfold RateBuckets.enforceBucketCap
  split
  · exact h
  · exact h.filter

theorem exists_oldest (hlen : buckets.length = rateLimitMaxEntries + 1) :
    ∃ oldest ∈ buckets, (∀ e ∈ buckets, oldest.2.windowStart ≤ e.2.windowStart) ∧
      buckets.enforceBucketCap = List.filter (fun e => e.1 ≠ oldest.1) buckets := by
  have hperm := List.perm_insertionSort (fun a b : String × RateBucket => a.2.windowStart ≤ b.2.windowStart) buckets
  have hto : Std.Total fun a b : String × RateBucket => a.2.windowStart ≤ b.2.windowStart :=
    ⟨fun a b => le_total a.2.windowStart b.2.windowStart⟩
  have htr : IsTrans _ fun a b : String × RateBucket => a.2.windowStart ≤ b.2.windowStart :=
    ⟨fun _ _ _ hab hbc => le_trans hab hbc⟩
  have hso := List.pairwise_insertionSort (fun a b : String × RateBucket => a.2.windowStart ≤ b.2.windowStart) buckets
  cases hsort : buckets.insertionSort fun a b => a.2.windowStart ≤ b.2.windowStart with
  | nil =>
    rw [hsort] at hperm
    rw [← hperm.length_eq] at hlen
    cases hlen
  | cons oldest rest =>
    rw [hsort] at hperm hso
    refine ⟨oldest, hperm.mem_iff.1 (.head _), fun e he => ?_, ?_⟩
    · obtain rfl | he := List.mem_cons.1 (hperm.mem_iff.2 he)
      · exact le_refl _
      · exact (List.pairwise_cons.1 hso).1 e he
    unfold enforceBucketCap
    rw [if_neg (by omega), hsort, hlen]
    simp

theorem mem_enforceBucketCap (h : buckets.DistinctKeys) (hlen : buckets.length ≤ rateLimitMaxEntries + 1)
    (hroom : (List.filter (fun e => e.1 ≠ key ∧ ¬ e.2.Elapsed now) buckets).length < rateLimitMaxEntries)
    {e : String × RateBucket} (he : e ∈ buckets) (hla : ¬ e.2.Elapsed now) : e ∈ buckets.enforceBucketCap := by
  by_cases hsm : buckets.length ≤ rateLimitMaxEntries
  · unfold enforceBucketCap
    rw [if_pos hsm]
    exact he
  obtain ⟨oldest, hmem, hold, hcap⟩ := exists_oldest (by omega : buckets.length = rateLimitMaxEntries + 1)
  rw [hcap]
  refine List.mem_filter.2 ⟨he, ?_⟩
  simp only [ne_eq, decide_not, Bool.not_eq_eq_eq_not, Bool.not_true, decide_eq_false_iff_not]
  intro heq
  have hsame : e = oldest := List.inj_on_of_nodup_map h he hmem heq
  -- if the oldest window lasts, all windows do
  have hall : ∀ f ∈ buckets, ¬ f.2.Elapsed now := by
    intro f hf hel
    have hle := hold f hf
    rw [← hsame] at hle
    simp only [RateBucket.Elapsed] at hla hel
    omega
  have hfilt : List.filter (fun e => e.1 ≠ key ∧ ¬ e.2.Elapsed now) buckets = List.filter (fun e => e.1 ≠ key) buckets :=
    List.filter_congr fun f hf => by simp [hall f hf]
  rw [hfilt] at hroom
  have hc := length_le_filter_ne h key
  omega

theorem length_enforceBucketCap (hlen : buckets.length ≤ rateLimitMaxEntries + 1) :
    buckets.enforceBucketCap.length ≤ rateLimitMaxEntries := by
  by_cases hsm : buckets.length ≤ rateLimitMaxEntries
  · unfold enforceBucketCap
    rw [if_pos hsm]
    exact hsm
  obtain ⟨oldest, hmem, _, hcap⟩ := exists_oldest (by omega : buckets.length = rateLimitMaxEntries + 1)
  rw [hcap]
  have hless : (List.filter (fun e => e.1 ≠ oldest.1) buckets).length < buckets.length :=
    List.length_filter_lt_length_iff_exists.2 ⟨oldest, hmem, by simp⟩
  omega

end RateBuckets

namespace ExchangeLimiter

variable (s : ExchangeLimiter) (now : Int)

theorem prune_enrollmentBuckets :
    (s.prune now).enrollmentBuckets = s.enrollmentBuckets ∨
      (s.prune now).enrollmentBuckets = s.enrollmentBuckets.dropExpired now := by
  unfold prune
  dsimp only
  split
  · exact .inr rfl
  · exact .inl rfl

theorem mobileExchangeAllowed_cases (clientAddress enrollmentId : String) :
    let swept := (s.prune now).enrollmentBuckets
    let result := s.mobileExchangeAllowed now clientAddress enrollmentId
    result.1 = false ∧ (result.2.enrollmentBuckets = swept ∨ result.2.enrollmentBuckets = swept.enforceBucketCap) ∨
      result.1 = true ∧
        result.2.enrollmentBuckets =
          (swept.set ("enr:" ++ enrollmentId) (nextWindow (swept.lookup ("enr:" ++ enrollmentId)) now)).enforceBucketCap ∧
        ∀ existing, swept.lookup ("enr:" ++ enrollmentId) = some existing → ¬ existing.Elapsed now →
          existing.count < exchangeEnrollmentLimit := by
  dsimp only
  unfold mobileExchangeAllowed
  dsimp only
  split
  case h_1 => exact .inl ⟨rfl, .inl rfl⟩
  case h_2 =>
    obtain ⟨hbump, hroom⟩ | hbump := @RateBuckets.bump_cases (s.prune now).enrollmentBuckets ("enr:" ++ enrollmentId) now
      exchangeEnrollmentLimit
    · rw [hbump]
      exact .inr ⟨rfl, rfl, hroom⟩
    · rw [hbump]
      exact .inl ⟨rfl, .inr rfl⟩

end ExchangeLimiter

theorem windowOf_concat (times : List Int) (t : Int) : windowOf (times ++ [t]) = some (nextWindow (windowOf times) t) := by
  simp [windowOf]

theorem elapsed_mono {w : RateBucket} {t t' : Int} (h : w.Elapsed t) (hle : t ≤ t') : w.Elapsed t' := by
  unfold RateBucket.Elapsed at *
  omega

structure ExchangeCounted (r : ExchangeRun) : Prop where
  keys : r.limiter.enrollmentBuckets.DistinctKeys
  size : r.limiter.enrollmentBuckets.length ≤ rateLimitMaxEntries
  window : ∀ id b, ("enr:" ++ id, b) ∈ r.limiter.enrollmentBuckets → windowOf (r.timesOf id) = some b
  gone : ∀ id w, windowOf (r.timesOf id) = some w → ("enr:" ++ id, w) ∈ r.limiter.enrollmentBuckets ∨ w.Elapsed r.now
  count : ∀ id w, windowOf (r.timesOf id) = some w → w.count ≤ exchangeEnrollmentLimit

theorem enr_inj {id id' : String} (h : "enr:" ++ id = "enr:" ++ id') : id = id' := String.append_right_inj _ |>.1 h

section Step

variable {r : ExchangeRun} {a : ExchangeAttempt}

theorem timesOf_refused (h : (r.limiter.mobileExchangeAllowed (r.now + a.after) a.clientAddress a.enrollmentId).1 = false)
    (id : String) : (r.attempt a).timesOf id = r.timesOf id := by
  simp [ExchangeRun.attempt, ExchangeRun.timesOf, h]

theorem timesOf_allowed (h : (r.limiter.mobileExchangeAllowed (r.now + a.after) a.clientAddress a.enrollmentId).1 = true)
    (id : String) :
    (r.attempt a).timesOf id = if a.enrollmentId = id then r.timesOf id ++ [r.now + a.after] else r.timesOf id := by
  have hok : (r.attempt a).allowed = r.allowed ++ [(a.enrollmentId, r.now + a.after)] := if_pos h
  unfold ExchangeRun.timesOf
  rw [hok, List.filter_append, List.map_append]
  by_cases hid : a.enrollmentId = id <;> simp [hid]

theorem mem_swept {e : String × RateBucket} (he : e ∈ r.limiter.enrollmentBuckets) {now : Int} (hla : ¬ e.2.Elapsed now) :
    e ∈ (r.limiter.prune now).enrollmentBuckets := by
  obtain heq | heq := r.limiter.prune_enrollmentBuckets now
  · rw [heq]
    exact he
  · rw [heq]
    exact List.mem_filter.2 ⟨he, by simpa using hla⟩

theorem swept_sublist (now : Int) :
    (r.limiter.prune now).enrollmentBuckets.Sublist r.limiter.enrollmentBuckets := by
  obtain heq | heq := r.limiter.prune_enrollmentBuckets now
  · rw [heq]
  · rw [heq]
    exact List.filter_sublist

theorem ExchangeCounted.refused (h : ExchangeCounted r)
    (hno : (r.limiter.mobileExchangeAllowed (r.now + a.after) a.clientAddress a.enrollmentId).1 = false)
    (hsub : ∀ e ∈ (r.attempt a).limiter.enrollmentBuckets, e ∈ r.limiter.enrollmentBuckets)
    (hkp : ∀ e ∈ r.limiter.enrollmentBuckets, ¬ e.2.Elapsed (r.now + a.after) → e ∈ (r.attempt a).limiter.enrollmentBuckets)
    (hkeys : (r.attempt a).limiter.enrollmentBuckets.DistinctKeys)
    (hsize : (r.attempt a).limiter.enrollmentBuckets.length ≤ rateLimitMaxEntries) : ExchangeCounted (r.attempt a) := by
  refine ⟨hkeys, hsize, fun id b hb => ?_, fun id w hw => ?_, fun id w hw => ?_⟩
  · rw [timesOf_refused hno]
    exact h.window id b (hsub _ hb)
  · rw [timesOf_refused hno] at hw
    by_cases hel : w.Elapsed (r.now + a.after)
    · exact .inr hel
    obtain hmem | hgone := h.gone id w hw
    · exact .inl (hkp _ hmem hel)
    · exact absurd (elapsed_mono hgone (by omega)) hel
  · rw [timesOf_refused hno] at hw
    exact h.count id w hw

theorem ExchangeCounted.attempt (h : ExchangeCounted r) (hroom : RoomFor r a) : ExchangeCounted (r.attempt a) := by
  obtain ⟨now, hnow⟩ : ∃ now, now = r.now + a.after := ⟨_, rfl⟩
  obtain ⟨swept, hsw⟩ : ∃ swept, swept = (r.limiter.prune now).enrollmentBuckets := ⟨_, rfl⟩
  have hsub : swept.Sublist r.limiter.enrollmentBuckets := hsw ▸ swept_sublist now
  have hkeys : swept.DistinctKeys := h.keys.sublist (hsub.map Prod.fst)
  have hsize : swept.length ≤ rateLimitMaxEntries := hsub.length_le.trans h.size
  have hlive : ∀ e ∈ r.limiter.enrollmentBuckets, ¬ e.2.Elapsed now → e ∈ swept := fun e he hel => hsw ▸ mem_swept he hel
  have hfew : (List.filter (fun e => e.1 ≠ "enr:" ++ a.enrollmentId ∧ ¬ e.2.Elapsed now) swept).length < rateLimitMaxEntries := by
    unfold RoomFor at hroom
    rw [← hnow] at hroom
    exact lt_of_le_of_lt (hsub.filter _).length_le hroom
  have hc := r.limiter.mobileExchangeAllowed_cases now a.clientAddress a.enrollmentId
  dsimp only at hc
  rw [← hsw, hnow] at hc
  have hbu : (r.attempt a).limiter.enrollmentBuckets =
      (r.limiter.mobileExchangeAllowed (r.now + a.after) a.clientAddress a.enrollmentId).2.enrollmentBuckets := rfl
  obtain ⟨hno, hsame | hcap⟩ | ⟨hyes, hset, hco⟩ := hc
  · rw [← hbu] at hsame
    refine h.refused hno ?_ ?_ ?_ ?_ <;> rw [hsame]
    · exact fun e he => hsub.subset he
    · rw [← hnow]
      exact hlive
    · exact hkeys
    · exact hsize
  · rw [← hbu] at hcap
    refine h.refused hno ?_ ?_ ?_ ?_ <;> rw [hcap]
    · exact fun e he => hsub.subset (RateBuckets.enforceBucketCap_subset he)
    · rw [← hnow]
      exact fun e he hel => RateBuckets.mem_enforceBucketCap hkeys (by omega) hfew (hlive e he hel) hel
    · exact hkeys.enforceBucketCap
    · exact RateBuckets.length_enforceBucketCap (by omega)
  · rw [← hbu, ← hnow] at hset
    rw [← hnow] at hco
    -- the new bucket is the window that the attempt is in
    have hnext : nextWindow (swept.lookup ("enr:" ++ a.enrollmentId)) now =
        nextWindow (windowOf (r.timesOf a.enrollmentId)) now := by
      cases hlook : swept.lookup ("enr:" ++ a.enrollmentId) with
      | some b => rw [h.window _ b (hsub.subset ((RateBuckets.lookup_eq_some_iff hkeys).1 hlook))]
      | none =>
        cases hw : windowOf (r.timesOf a.enrollmentId) with
        | none => rfl
        | some w =>
          have hel : w.Elapsed now := by
            by_contra hel
            obtain hmem | hgone := h.gone _ w hw
            · have hsome := (RateBuckets.lookup_eq_some_iff hkeys).2 (hlive _ hmem hel)
              rw [hlook] at hsome
              cases hsome
            · exact hel (elapsed_mono hgone (by omega))
          simp [nextWindow, hel]
    have hself : windowOf ((r.attempt a).timesOf a.enrollmentId) =
        some (nextWindow (swept.lookup ("enr:" ++ a.enrollmentId)) now) := by
      rw [timesOf_allowed hyes, if_pos rfl, windowOf_concat, hnext, hnow]
    have ho : ∀ id, id ≠ a.enrollmentId → (r.attempt a).timesOf id = r.timesOf id := fun id hid => by
      rw [timesOf_allowed hyes, if_neg (Ne.symm hid)]
    have hse : (swept.set ("enr:" ++ a.enrollmentId)
        (nextWindow (swept.lookup ("enr:" ++ a.enrollmentId)) now)).DistinctKeys := hkeys.set
    have hsetfew : (List.filter (fun e => e.1 ≠ "enr:" ++ a.enrollmentId ∧ ¬ e.2.Elapsed now) (swept.set ("enr:" ++ a.enrollmentId)
        (nextWindow (swept.lookup ("enr:" ++ a.enrollmentId)) now))).length < rateLimitMaxEntries := by
      rw [RateBuckets.filter_set]
      · exact hfew
      · intro e he
        simpa using (of_decide_eq_true he).1
    have hsetsize : (swept.set ("enr:" ++ a.enrollmentId)
        (nextWindow (swept.lookup ("enr:" ++ a.enrollmentId)) now)).length ≤ rateLimitMaxEntries + 1 :=
      RateBuckets.length_set_le.trans (by omega)
    refine ⟨?_, ?_, fun id b hb => ?_, fun id w hw => ?_, fun id w hw => ?_⟩
    · rw [hset]
      exact hse.enforceBucketCap
    · rw [hset]
      exact RateBuckets.length_enforceBucketCap hsetsize
    · rw [hset] at hb
      obtain heq | ⟨hmem, hne⟩ := (RateBuckets.mem_set _).1 (RateBuckets.enforceBucketCap_subset hb)
      · obtain ⟨hid, rfl⟩ := Prod.mk.inj heq
        rw [enr_inj hid, hself]
      · rw [ho id fun hid => hne (hid ▸ rfl)]
        exact h.window id b (hsub.subset hmem)
    · by_cases hel : w.Elapsed now
      · exact .inr (hnow ▸ hel : w.Elapsed (r.now + a.after))
      refine .inl ?_
      rw [hset]
      refine RateBuckets.mem_enforceBucketCap hse hsetsize hsetfew ((RateBuckets.mem_set _).2 ?_) hel
      by_cases hid : id = a.enrollmentId
      · rw [hid, hself] at hw
        cases hw
        exact .inl (by rw [hid])
      rw [ho id hid] at hw
      obtain hmem | hgone := h.gone id w hw
      · exact .inr ⟨hlive _ hmem hel, fun heq => hid (enr_inj heq)⟩
      · exact absurd (elapsed_mono hgone (by omega)) hel
    · by_cases hid : id = a.enrollmentId
      · rw [hid, hself] at hw
        cases hw
        cases hlook : swept.lookup ("enr:" ++ a.enrollmentId) with
        | none => exact (by decide : (1 : Nat) ≤ exchangeEnrollmentLimit)
        | some existing =>
          unfold nextWindow
          dsimp only
          split
          case isTrue => exact (by decide : (1 : Nat) ≤ exchangeEnrollmentLimit)
          case isFalse hel => exact hco existing hlook hel
      · rw [ho id hid] at hw
        exact h.count id w hw

end Step

theorem exchangeCounted_new : ExchangeCounted {} := by
  refine ⟨List.nodup_nil, by decide, by simp, fun id w hw => ?_, fun id w hw => ?_⟩ <;> cases hw

theorem ExchangeCounted.attempts {r : ExchangeRun} (h : ExchangeCounted r) {l : List ExchangeAttempt}
    (hroom : RoomThroughout r l) :
    ExchangeCounted (r.attempts l) := by
  induction l generalizing r with
  | nil => exact h
  | cons a rest ih => exact ih (h.attempt hroom.1) hroom.2

/-- **An enrollment has at most five attempts in a window**, in every run with room at every attempt. -/
theorem exchange_attempts_limited (l : List ExchangeAttempt) (h : RoomThroughout {} l) (enrollmentId : String) (w : RateBucket)
    (hw : windowOf ((ExchangeRun.attempts {} l).timesOf enrollmentId) = some w) : w.count ≤ exchangeEnrollmentLimit :=
  (exchangeCounted_new.attempts h).count enrollmentId w hw

/-- Two attempts in one window. -/
theorem exchange_attempts_limited_twice :
    windowOf ((ExchangeRun.attempts {} [⟨"10.0.0.1", "e", 0⟩, ⟨"10.0.0.1", "e", 5⟩]).timesOf "e") =
    some ⟨0, 2⟩ ∧ 2 ≤ exchangeEnrollmentLimit := by
  have hw : windowOf ((ExchangeRun.attempts {} [⟨"10.0.0.1", "e", 0⟩, ⟨"10.0.0.1", "e", 5⟩]).timesOf "e") = some ⟨0, 2⟩ := by
    decide +kernel
  exact ⟨hw, exchange_attempts_limited _ (by decide +kernel) "e" ⟨0, 2⟩ hw⟩

def floodName (n : Nat) : String := String.ofList (List.replicate n 'x')

variable {m n : Nat} {kind : String}

theorem floodName_inj (h : floodName m = floodName n) : m = n := by
  have hlen := congrArg List.length (String.ofList_injective h)
  simpa using hlen

def floodBuckets (kind : String) (count n : Nat) : RateBuckets :=
  (kind ++ floodName 0, ⟨0, count⟩) :: (List.range n).map fun k => (kind ++ floodName (k + 1), ⟨0, 1⟩)

theorem floodBuckets_succ (kind : String) (count n : Nat) :
    floodBuckets kind count (n + 1) = floodBuckets kind count n ++ [(kind ++ floodName (n + 1), ⟨0, 1⟩)] := by
  simp [floodBuckets, List.range_succ]

theorem mem_floodBuckets {count : Nat} {e : String × RateBucket} (he : e ∈ floodBuckets kind count n) :
    ∃ k ≤ n, e.1 = kind ++ floodName k ∧ e.2.windowStart = 0 := by
  obtain rfl | he := List.mem_cons.1 he
  · exact ⟨0, by omega, rfl, rfl⟩
  · obtain ⟨k, hk, rfl⟩ := List.mem_map.1 he
    exact ⟨k + 1, Nat.succ_le_of_lt (List.mem_range.1 hk), rfl, rfl⟩

theorem bump_new {buckets : RateBuckets} {key : String} (h : ∀ e ∈ buckets, e.1 ≠ key) (limit : Nat) (now : Int) :
    buckets.bump key limit now = (true, buckets ++ [(key, ⟨now, 1⟩)]) := by
  have hlook : buckets.lookup key = none := by
    rw [List.lookup_eq_none_iff]
    intro e he
    simpa using (h e he).symm
  have hset : buckets.set key ⟨now, 1⟩ = buckets ++ [(key, ⟨now, 1⟩)] := by
    unfold RateBuckets.set
    rw [if_neg]
    rw [List.any_eq_true]
    rintro ⟨e, he, heq⟩
    exact h e he (of_decide_eq_true heq)
  unfold RateBuckets.bump
  rw [hlook, hset]

theorem floodKey_ne (h : m ≠ n) : kind ++ floodName m ≠ kind ++ floodName n :=
  fun heq => h (floodName_inj ((String.append_right_inj _).1 heq))

theorem bump_floodBuckets (kind : String) (count n limit m : Nat) (hm : n < m) :
    (floodBuckets kind count n).bump (kind ++ floodName m) limit 0 =
      (true, floodBuckets kind count n ++ [(kind ++ floodName m, ⟨0, 1⟩)]) := by
  refine bump_new (fun e he => ?_) limit 0
  obtain ⟨k, hk, hkey, _⟩ := mem_floodBuckets he
  rw [hkey]
  exact floodKey_ne (by omega)

theorem prune_flood (addresses enrollments : RateBuckets) (p : Nat) (ha : ∀ e ∈ addresses, e.2.windowStart = 0)
    (he : ∀ e ∈ enrollments, e.2.windowStart = 0) :
    ∃ p', (ExchangeLimiter.mk addresses enrollments p).prune 0 = ⟨addresses, enrollments, p'⟩ := by
  have hkeep : ∀ buckets : RateBuckets, (∀ e ∈ buckets, e.2.windowStart = 0) → buckets.dropExpired 0 = buckets := by
    intro buckets h
    refine List.filter_eq_self.2 fun e he => ?_
    simp [RateBucket.Elapsed, h e he, exchangeWindowMs]
  unfold ExchangeLimiter.prune
  dsimp only
  split
  · exact ⟨_, by rw [hkeep addresses ha, hkeep enrollments he]⟩
  · exact ⟨_, rfl⟩

/-- Five attempts for one enrollment and one for each of so many others, all at one time. -/
def flooded (n p : Nat) : ExchangeRun where
  limiter := ⟨floodBuckets "addr:" 5 n, floodBuckets "enr:" 5 n, p⟩
  now := 0
  allowed := List.replicate 5 (floodName 0, 0) ++ (List.range n).map fun k => (floodName (k + 1), 0)

theorem mobileExchangeAllowed_flood (n p : Nat) : ∃ p',
    (flooded n p).limiter.mobileExchangeAllowed 0 (floodName (n + 1)) (floodName (n + 1)) =
      (true, ⟨(floodBuckets "addr:" 5 (n + 1)).enforceBucketCap, (floodBuckets "enr:" 5 (n + 1)).enforceBucketCap, p'⟩) := by
  obtain ⟨p', hp⟩ := prune_flood (floodBuckets "addr:" 5 n) (floodBuckets "enr:" 5 n) p
    (fun e he => (mem_floodBuckets he).elim fun _ h => h.2.2) (fun e he => (mem_floodBuckets he).elim fun _ h => h.2.2)
  refine ⟨p', ?_⟩
  unfold ExchangeLimiter.mobileExchangeAllowed flooded
  simp only [hp, bump_floodBuckets _ _ n _ (n + 1) (Nat.lt_succ_self n), floodBuckets_succ, if_true]

theorem length_floodBuckets (kind : String) (count n : Nat) : (floodBuckets kind count n).length = n + 1 := by
  simp [floodBuckets]

theorem flooded_attempt (hn : n + 1 < rateLimitMaxEntries) (p : Nat) :
    ∃ p', (flooded n p).attempt ⟨floodName (n + 1), floodName (n + 1), 0⟩ = flooded (n + 1) p' := by
  obtain ⟨p', h⟩ := mobileExchangeAllowed_flood n p
  have hcap : ∀ kind, (floodBuckets kind 5 (n + 1)).enforceBucketCap = floodBuckets kind 5 (n + 1) := fun kind => by
    unfold RateBuckets.enforceBucketCap
    rw [if_pos]
    rw [length_floodBuckets]
    omega
  rw [hcap, hcap] at h
  refine ⟨p', ?_⟩
  unfold ExchangeRun.attempt
  simp only [show (flooded n p).now + ((0 : Nat) : Int) = 0 from rfl, h, if_true]
  simp [flooded, List.range_succ]

theorem flooded_attempts (hn : n < rateLimitMaxEntries) (p : Nat) : ∃ p',
    (flooded 0 p).attempts ((List.range n).map fun k => ⟨floodName (k + 1), floodName (k + 1), 0⟩) = flooded n p' := by
  induction n with
  | zero => exact ⟨p, rfl⟩
  | succ n ih =>
    obtain ⟨p', h⟩ := ih (by omega)
    obtain ⟨p'', h'⟩ := flooded_attempt hn p'
    refine ⟨p'', ?_⟩
    rw [List.range_succ, List.map_append, ExchangeRun.attempts, List.foldl_append]
    rw [ExchangeRun.attempts] at h
    rw [h]
    exact h'

theorem enforceBucketCap_flood (kind : String) (count : Nat) :
    (floodBuckets kind count rateLimitMaxEntries).enforceBucketCap =
      (List.range rateLimitMaxEntries).map fun k => (kind ++ floodName (k + 1), ⟨0, 1⟩) := by
  have hsort : (floodBuckets kind count rateLimitMaxEntries).insertionSort
      (fun a b => a.2.windowStart ≤ b.2.windowStart) = floodBuckets kind count rateLimitMaxEntries := by
    refine List.Pairwise.insertionSort_eq (List.pairwise_of_forall_mem_list fun a ha b hb => ?_)
    obtain ⟨_, _, _, hza⟩ := mem_floodBuckets ha
    obtain ⟨_, _, _, hzb⟩ := mem_floodBuckets hb
    rw [hza, hzb]
  unfold RateBuckets.enforceBucketCap
  rw [if_neg (by rw [length_floodBuckets]; omega), hsort, length_floodBuckets, Nat.add_sub_cancel_left]
  unfold floodBuckets
  dsimp only
  rw [List.take_succ_cons, List.take_zero, List.filter_cons_of_neg (by simp)]
  refine List.filter_eq_self.2 fun e he => ?_
  obtain ⟨k, _, rfl⟩ := List.mem_map.1 he
  have hne : kind ++ floodName (k + 1) ≠ kind ++ floodName 0 := floodKey_ne (by omega)
  simpa using hne

def evictedBuckets (kind : String) : RateBuckets :=
  (List.range rateLimitMaxEntries).map fun k => (kind ++ floodName (k + 1), ⟨0, 1⟩)

theorem evictedBuckets_ne (hm : m = 0 ∨ rateLimitMaxEntries < m) :
    ∀ e ∈ evictedBuckets kind, e.1 ≠ kind ++ floodName m := by
  intro e he
  obtain ⟨k, hk, rfl⟩ := List.mem_map.1 he
  have hk := List.mem_range.1 hk
  exact floodKey_ne (by omega)

theorem evictedBuckets_start : ∀ e ∈ evictedBuckets kind, e.2.windowStart = 0 := by
  intro e he
  obtain ⟨k, _, rfl⟩ := List.mem_map.1 he
  rfl

def evictedRun (p : Nat) : ExchangeRun where
  limiter := ⟨evictedBuckets "addr:", evictedBuckets "enr:", p⟩
  now := 0
  allowed := (List.replicate 5 (floodName 0, 0) ++ (List.range 511).map fun k => (floodName (k + 1), 0)) ++ [(floodName 512, 0)]

theorem evictedRun_allows (p : Nat) : ((evictedRun p).limiter.mobileExchangeAllowed ((evictedRun p).now + (0 : Nat))
    (floodName 513) (floodName 0)).1 = true := by
  obtain ⟨p', hpr⟩ := prune_flood (evictedBuckets "addr:") (evictedBuckets "enr:") p evictedBuckets_start
    evictedBuckets_start
  have hnow : (evictedRun p).now + ((0 : Nat) : Int) = 0 := rfl
  rw [hnow]
  unfold ExchangeLimiter.mobileExchangeAllowed evictedRun
  simp only [hpr, bump_new (evictedBuckets_ne (.inr (by decide : rateLimitMaxEntries < 513))),
    bump_new (evictedBuckets_ne (.inl rfl))]

/-- Five attempts for one enrollment, 512 for others, and one for the first again, all at one time. -/
def floodAttempts : List ExchangeAttempt :=
  List.replicate 5 ⟨floodName 0, floodName 0, 0⟩ ++
    ((List.range 511).map fun k => ⟨floodName (k + 1), floodName (k + 1), 0⟩) ++
      [⟨floodName 512, floodName 512, 0⟩, ⟨floodName 513, floodName 0, 0⟩]

/-- A sixth attempt is allowed in the same window. -/
theorem flood_allows_sixth :
    windowOf ((ExchangeRun.attempts {} floodAttempts).timesOf (floodName 0)) = some ⟨0, 6⟩ := by
  have hfi : ExchangeRun.attempts {} (List.replicate 5 ⟨floodName 0, floodName 0, 0⟩) = flooded 0 5 := by decide +kernel
  obtain ⟨p, hfl⟩ := flooded_attempts (by decide : 511 < rateLimitMaxEntries) 5
  obtain ⟨p', hcap⟩ := mobileExchangeAllowed_flood 511 p
  have hev : ∀ kind, (floodBuckets kind 5 (511 + 1)).enforceBucketCap = evictedBuckets kind :=
    fun kind => enforceBucketCap_flood kind 5
  rw [hev, hev] at hcap
  have hbef : (flooded 511 p).attempt ⟨floodName 512, floodName 512, 0⟩ = evictedRun p' := by
    unfold ExchangeRun.attempt
    simp only [show (flooded 511 p).now + ((0 : Nat) : Int) = 0 from rfl, hcap, if_true]
    rfl
  have hrun : ExchangeRun.attempts {} floodAttempts =
      ((flooded 511 p).attempt ⟨floodName 512, floodName 512, 0⟩).attempt ⟨floodName 513, floodName 0, 0⟩ := by
    unfold floodAttempts
    rw [ExchangeRun.attempts, List.foldl_append, List.foldl_append]
    rw [ExchangeRun.attempts] at hfi hfl
    rw [hfi, hfl]
    rfl
  have hoth : ∀ k : Nat, (floodName (k + 1) = floodName 0) = False := fun k =>
    eq_false fun heq => absurd (floodName_inj heq) (by omega)
  have hti : (evictedRun p').timesOf (floodName 0) = List.replicate 5 0 := by
    unfold ExchangeRun.timesOf evictedRun
    rw [List.filter_append, List.filter_append, List.filter_map]
    simp only [Function.comp_def, hoth, decide_false, List.filter_false, List.map_nil, List.append_nil]
    simp [hoth 511]
  have hnow : (evictedRun p').now + ((0 : Nat) : Int) = 0 := rfl
  rw [hrun, hbef, @timesOf_allowed (evictedRun p') ⟨floodName 513, floodName 0, 0⟩ (evictedRun_allows p'), if_pos rfl,
    hti, hnow]
  decide

end LamaSync
