import LamaSync.Core.Retention
import LamaSync.Lib.Texts

/-!
# The calendar buckets of a retention rule

A calendar rule looks back over buckets: days, ISO weeks, months or years of a time zone.  A bucket is a number here, counted
in days, weeks from Monday on, months or years.  `recent_buckets_iff` says in which zones the keys of the last buckets are
those of the buckets up to the one that `now` is in.
-/

namespace LamaSync

open Calendar Texts

/-- A zone that is always ahead of UTC by the same time, which is less than a day. -/
structure FixedZone where
  offset : Int
  lower : -dayMs < offset
  upper : offset < dayMs

def bucketIndex : CalendarUnit → Int → Int
  | .daily, day => day
  | .weekly, day => (day + 3) / 7
  | .monthly, day => 12 * (dateOfDay day).year + ((dateOfDay day).month - 1)
  | .yearly, day => yearFromDay day

def bucketStart : CalendarUnit → Int → Int
  | .daily, i => i
  | .weekly, i => 7 * i - 3
  | .monthly, i => makeDay 0 i 1
  | .yearly, i => dayFromYear i

def modernDay : Int := dayFromYear 100

namespace FixedZone

variable (zone : FixedZone)

def toTimeZone : TimeZone := fixedOffset zone.offset

def localDay (ts : Int) : Int := (ts + zone.offset) / dayMs

def bucketOfTime (unit : CalendarUnit) (ts : Int) : Int := bucketIndex unit (zone.localDay ts)

def InWindow (unit : CalendarUnit) (count now ts : Int) : Prop :=
  zone.bucketOfTime unit now - count < zone.bucketOfTime unit ts ∧ zone.bucketOfTime unit ts ≤ zone.bucketOfTime unit now

structure WindowOfBuckets (unit : CalendarUnit) (count now : Int) : Prop where
  keys : ∀ key, key ∈ recentBucketKeys zone.toTimeZone unit count now ↔
    ∃ ts, zone.InWindow unit count now ts ∧ key = bucketKeyOf zone.toTimeZone unit ts
  distinct : ∀ ts ts', zone.InWindow unit count now ts → zone.InWindow unit count now ts' →
    (bucketKeyOf zone.toTimeZone unit ts = bucketKeyOf zone.toTimeZone unit ts' ↔
      zone.bucketOfTime unit ts = zone.bucketOfTime unit ts')

end FixedZone

section Index

variable {unit : CalendarUnit}

theorem bucketStart_monthly {y m : Int} (hlow : 0 ≤ m) (hhigh : m ≤ 11) :
    bucketStart .monthly (12 * y + m) = dayFromYear y + daysBefore y m := by
  have hdiv : (12 * y + m) / 12 = y := by omega
  have hmod : (12 * y + m) % 12 = m := by omega
  show makeDay 0 (12 * y + m) 1 = _
  rw [makeDay, hdiv, hmod, Int.zero_add]
  omega

theorem bucketStart_lt_succ (i : Int) : bucketStart unit i < bucketStart unit (i + 1) := by
  cases unit with
  | daily => exact Int.lt_add_one_of_le (Int.le_refl i)
  | weekly =>
    show 7 * i - 3 < 7 * (i + 1) - 3
    omega
  | monthly =>
    obtain ⟨y, m, hlow, hhigh, rfl⟩ : ∃ y m : Int, 0 ≤ m ∧ m ≤ 11 ∧ i = 12 * y + m :=
      ⟨i / 12, i % 12, by omega, by omega, by omega⟩
    rw [bucketStart_monthly hlow hhigh]
    by_cases hlast : m = 11
    · have hnext : 12 * y + m + 1 = 12 * (y + 1) + 0 := by omega
      have hless := daysBefore_lt_daysInYear y hlow hhigh
      have hzero : daysBefore (y + 1) 0 = 0 := rfl
      rw [hnext, bucketStart_monthly (by omega) (by omega), hzero]
      unfold daysInYear at hless
      omega
    · rw [Int.add_assoc, bucketStart_monthly (by omega) (by omega)]
      have hless := daysBefore_lt y hlow hhigh
      omega
  | yearly =>
    show dayFromYear i < dayFromYear (i + 1)
    obtain h | h := dayFromYear_succ i <;> omega

theorem bucketStart_mono {i j : Int} (h : i ≤ j) : bucketStart unit i ≤ bucketStart unit j := by
  obtain ⟨k, rfl⟩ : ∃ k : Nat, j = i + k := ⟨(j - i).toNat, by omega⟩
  clear h
  induction k with
  | zero => simp
  | succ k ih =>
    have hstep : bucketStart unit (i + k) < bucketStart unit (i + k + 1) := bucketStart_lt_succ _
    rw [Nat.cast_succ, ← Int.add_assoc]
    omega

theorem bucketIndex_spec (day : Int) :
    bucketStart unit (bucketIndex unit day) ≤ day ∧ day < bucketStart unit (bucketIndex unit day + 1) := by
  cases unit with
  | daily => exact ⟨Int.le_refl day, Int.lt_add_one_of_le (Int.le_refl day)⟩
  | weekly =>
    show 7 * ((day + 3) / 7) - 3 ≤ day ∧ day < 7 * ((day + 3) / 7 + 1) - 3
    omega
  | monthly =>
    obtain ⟨hyear, hyear'⟩ := yearFromDay_spec day
    have hin : day - dayFromYear (yearFromDay day) < daysInYear (yearFromDay day) := by
      unfold daysInYear
      omega
    obtain ⟨hlow, hhigh, hbef, haf⟩ := monthOf_spec (by omega : 0 ≤ day - dayFromYear (yearFromDay day)) hin
    have hind : bucketIndex .monthly day =
        12 * yearFromDay day + monthOf (yearFromDay day) (day - dayFromYear (yearFromDay day)) := by
      simp only [bucketIndex, dateOfDay, Int.add_sub_cancel]
    rw [hind]
    generalize monthOf (yearFromDay day) (day - dayFromYear (yearFromDay day)) = m at *
    generalize yearFromDay day = y at *
    rw [bucketStart_monthly hlow hhigh]
    refine ⟨by omega, ?_⟩
    by_cases hlast : m = 11
    · have hnext : 12 * y + m + 1 = 12 * (y + 1) + 0 := by omega
      have hzero : daysBefore (y + 1) 0 = 0 := rfl
      rw [hnext, bucketStart_monthly (by omega) (by omega), hzero]
      omega
    · rw [Int.add_assoc, bucketStart_monthly (by omega) (by omega)]
      omega
  | yearly => exact yearFromDay_spec day

theorem bucketIndex_eq {day i : Int} (hlow : bucketStart unit i ≤ day) (hhigh : day < bucketStart unit (i + 1)) :
    bucketIndex unit day = i := by
  obtain ⟨hlow', hhigh'⟩ := @bucketIndex_spec unit day
  obtain h | h | h := Int.lt_trichotomy (bucketIndex unit day) i
  · have hle : bucketStart unit (bucketIndex unit day + 1) ≤ bucketStart unit i := bucketStart_mono (by omega)
    omega
  · exact h
  · have hle : bucketStart unit (i + 1) ≤ bucketStart unit (bucketIndex unit day) := bucketStart_mono (by omega)
    omega

theorem bucketIndex_start (i : Int) : bucketIndex unit (bucketStart unit i) = i :=
  bucketIndex_eq (Int.le_refl _) (bucketStart_lt_succ i)

theorem bucketIndex_before (i : Int) : bucketIndex unit (bucketStart unit i - 1) = i - 1 := by
  have hless : bucketStart unit (i - 1) < bucketStart unit (i - 1 + 1) := bucketStart_lt_succ _
  rw [Int.sub_add_cancel] at hless
  refine bucketIndex_eq (by omega) ?_
  rw [Int.sub_add_cancel]
  omega

end Index

def bucketName : CalendarUnit → Int → String
  | .daily, i => toString (dateOfDay i).year ++ "-" ++ pad (dateOfDay i).month ++ "-" ++ pad (dateOfDay i).day
  | .weekly, i => toString (yearFromDay (7 * i)) ++ "-W" ++ pad (i - (dayFromYear (yearFromDay (7 * i)) + 6) / 7 + 1)
  | .monthly, i => toString (i / 12) ++ "-" ++ pad (i % 12 + 1)
  | .yearly, i => toString i

theorem year_of_modern {day : Int} (h : modernDay ≤ day) : 100 ≤ yearFromDay day := by
  obtain ⟨_, hhigh⟩ := yearFromDay_spec day
  by_contra hyear
  have hle : dayFromYear (yearFromDay day + 1) ≤ dayFromYear 100 := by
    unfold dayFromYear
    omega
  unfold modernDay at h
  omega

theorem dateUTC_modern {year : Int} (h : 100 ≤ year) (month day : Int) :
    dateUTC year month day = makeDay year month day * dayMs := by
  rw [dateUTC, if_neg (by omega)]

theorem week_range (i : Int) : 1 ≤ i - (dayFromYear (yearFromDay (7 * i)) + 6) / 7 + 1 ∧
    i - (dayFromYear (yearFromDay (7 * i)) + 6) / 7 + 1 ≤ 53 := by
  obtain ⟨hlow, hhigh⟩ := yearFromDay_spec (7 * i)
  obtain h | h := dayFromYear_succ (yearFromDay (7 * i)) <;> omega

section Names

theorem toString_no_dash {n : Int} (h : 0 ≤ n) : '-' ∉ (toString n).toList := notMem_toString (by decide) (.inr h)

theorem pad_no_dash {n : Int} (h : 0 ≤ n) : '-' ∉ (pad n).toList := by
  have hdash := toString_no_dash h
  unfold pad
  split
  · simpa using hdash
  · exact hdash

theorem pad_injective {n m : Int} (hn : 0 ≤ n) (hm : 0 ≤ m) (h : pad n = pad m) : n = m := by
  have hv : ∀ k : Int, 0 ≤ k → Nat.ofDigitChars 10 (pad k).toList 0 = k.toNat := by
    intro k hk
    have hdi : Nat.ofDigitChars 10 (Nat.toDigits 10 k.toNat) 0 = k.toNat := Nat.ofDigitChars_toDigits (by omega) (by omega)
    -- a zero before the digits says nothing
    have hzero : ∀ l : List Char, Nat.ofDigitChars 10 ("0".toList ++ l) 0 = Nat.ofDigitChars 10 l 0 := by
      intro l
      simp [Nat.ofDigitChars]
    unfold pad
    split
    · rw [String.toList_append, toList_toString, if_pos hk, hzero, hdi]
    · rw [toList_toString, if_pos hk, hdi]
  have hnm := hv n hn
  rw [h, hv m hm] at hnm
  omega

theorem append_dash_inj {a a' b b' : String} (ha : '-' ∉ a.toList) (ha' : '-' ∉ a'.toList)
    (h : a ++ "-" ++ b = a' ++ "-" ++ b') : a = a' ∧ b = b' := by
  have hlist : a.toList ++ '-' :: b.toList = a'.toList ++ '-' :: b'.toList := by
    simpa using congrArg String.toList h
  obtain ⟨hbef, haf⟩ := eq_of_first_separator ha ha' hlist
  exact ⟨String.toList_inj.1 hbef, String.toList_inj.1 haf⟩

theorem year_dash_inj {y y' : Int} {rest rest' : String} (hy : 0 ≤ y) (hy' : 0 ≤ y')
    (h : toString y ++ "-" ++ rest = toString y' ++ "-" ++ rest') : y = y' ∧ rest = rest' := by
  obtain ⟨hye, hrest⟩ := append_dash_inj (toString_no_dash hy) (toString_no_dash hy') h
  exact ⟨toString_injective hye, hrest⟩

theorem month_of_modern {i : Int} (h : modernDay ≤ bucketStart .monthly i) : 100 ≤ i / 12 := by
  have hyear := year_of_modern h
  rw [← (dateOfDay_spec _).1] at hyear
  simp only [bucketStart, dateOfDay_makeDay, Int.zero_add] at hyear
  exact hyear

theorem yearIndex_of_modern {i : Int} (h : modernDay ≤ bucketStart .yearly i) : 100 ≤ i := by
  simp only [modernDay, bucketStart, dayFromYear] at h
  omega

theorem bucketName_injective {unit : CalendarUnit} {i j : Int} (hi : modernDay ≤ bucketStart unit i)
    (hj : modernDay ≤ bucketStart unit j) (h : bucketName unit i = bucketName unit j) : i = j := by
  cases unit with
  | daily =>
    obtain ⟨hyear, hmonth, _, hday⟩ := dateOfDay_spec i
    obtain ⟨hyear', hmonth', _, hday'⟩ := dateOfDay_spec j
    have hmo : 100 ≤ yearFromDay i := year_of_modern hi
    have hmo' : 100 ≤ yearFromDay j := year_of_modern hj
    have htext : ∀ y m d : String, y ++ "-" ++ m ++ "-" ++ d = y ++ "-" ++ (m ++ "-" ++ d) := by
      intro y m d
      simp only [String.append_assoc]
    simp only [bucketName, htext] at h
    obtain ⟨hye, hrest⟩ := year_dash_inj (by omega) (by omega) h
    obtain ⟨hmon, hdays⟩ := append_dash_inj (pad_no_dash (by omega)) (pad_no_dash (by omega)) hrest
    have hdate := makeDay_dateOfDay i 0
    rw [hye, pad_injective (by omega) (by omega) hmon, pad_injective (by omega) (by omega) hdays, makeDay_dateOfDay] at hdate
    omega
  | weekly =>
    have hmo : 100 ≤ yearFromDay (7 * i) := year_of_modern (by simp only [bucketStart] at hi; omega)
    have hmo' : 100 ≤ yearFromDay (7 * j) := year_of_modern (by simp only [bucketStart] at hj; omega)
    have htext : ∀ y w : String, y ++ "-W" ++ w = y ++ "-" ++ ("W" ++ w) := by
      intro y w
      have hle : "-W" = "-" ++ "W" := by decide
      simp only [hle, String.append_assoc]
    simp only [bucketName, htext] at h
    obtain ⟨hye, hrest⟩ := year_dash_inj (by omega) (by omega) h
    obtain ⟨hweek, _⟩ := week_range i
    obtain ⟨hweek', _⟩ := week_range j
    have hwe := pad_injective (by omega) (by omega) ((String.append_right_inj _).1 hrest)
    rw [hye] at hwe
    omega
  | monthly =>
    have hmo := month_of_modern hi
    have hmo' := month_of_modern hj
    obtain ⟨hye, hmon⟩ := year_dash_inj (by omega) (by omega) h
    have hpad := pad_injective (by omega) (by omega) hmon
    omega
  | yearly => exact toString_injective h

end Names

theorem tmod_week (n : Int) : (n.tmod 7 + 7).tmod 7 = n % 7 := by
  have hlow := Int.lt_tmod_of_pos n (by decide : (0 : Int) < 7)
  have heq := Int.tmod_add_mul_tdiv n 7
  rw [Int.tmod_eq_emod_of_nonneg (by omega)]
  omega

namespace FixedZone

variable (zone : FixedZone)

theorem toTimeZone_modern {ts : Int} (h : modernDay ≤ zone.localDay ts) : zone.toTimeZone ts =
    ⟨(dateOfDay (zone.localDay ts)).year, (dateOfDay (zone.localDay ts)).month, (dateOfDay (zone.localDay ts)).day,
      weekday (zone.localDay ts)⟩ := by
  have hyear := year_of_modern h
  rw [← (dateOfDay_spec _).1] at hyear
  have hera : 1 ≤ (dateOfDay (zone.localDay ts)).year := by omega
  show fixedOffset zone.offset ts = _
  unfold localDay at hera ⊢
  simp only [fixedOffset, if_pos hera]

theorem dateUTC_local {ts : Int} (h : modernDay ≤ zone.localDay ts) (k : Int) :
    dateUTC (dateOfDay (zone.localDay ts)).year ((dateOfDay (zone.localDay ts)).month - 1)
      ((dateOfDay (zone.localDay ts)).day - k) =
      (zone.localDay ts - k) * dayMs := by
  have hyear := year_of_modern h
  rw [← (dateOfDay_spec _).1] at hyear
  rw [dateUTC_modern (by omega), makeDay_dateOfDay]

theorem bucketKeyOf_eq {unit : CalendarUnit} {ts : Int} (h : modernDay ≤ bucketStart unit (zone.bucketOfTime unit ts)) :
    bucketKeyOf zone.toTimeZone unit ts = bucketName unit (zone.bucketOfTime unit ts) := by
  have hlo : modernDay ≤ zone.localDay ts := Int.le_trans h (bucketIndex_spec _).1
  have hmi := zone.dateUTC_local hlo 0
  unfold bucketKeyOf
  rw [zone.toTimeZone_modern hlo]
  unfold bucketOfTime at h ⊢
  generalize zone.localDay ts = day at *
  rw [Int.sub_zero, Int.sub_zero] at hmi
  cases unit with
  | daily | yearly => rfl
  | weekly =>
    have hth : 100 ≤ yearFromDay (7 * ((day + 3) / 7)) :=
      year_of_modern (by simp only [bucketStart, bucketIndex] at h; omega)
    obtain ⟨hweek, hweek'⟩ := week_range ((day + 3) / 7)
    have hms : day * dayMs + (4 - (weekday day + 1)) * dayMs = 7 * ((day + 3) / 7) * dayMs := by
      unfold weekday dayMs
      omega
    have hyear : utcFullYear (7 * ((day + 3) / 7) * dayMs) = yearFromDay (7 * ((day + 3) / 7)) := by
      rw [utcFullYear, Int.mul_ediv_cancel _ (by decide : dayMs ≠ 0)]
    dsimp only
    rw [hmi, hms, hyear, dateUTC_modern (by omega)]
    generalize hi : (day + 3) / 7 = i at *
    generalize hst : dayFromYear (yearFromDay (7 * i)) = start at *
    have hjan4 : makeDay (yearFromDay (7 * i)) 0 4 = start + 3 := by
      rw [← hst]
      unfold makeDay
      simp [daysBefore]
      omega
    have hde : ((start + 3) * dayMs - day * dayMs) / dayMs = start + 3 - day := by
      rw [← Int.sub_mul, Int.mul_ediv_cancel _ (by decide : dayMs ≠ 0)]
    have hwe : (weekday day + 1 - 1 + (start + 3 - day) % 7).tmod 7 = (start + 6) % 7 := by
      unfold weekday
      rw [Int.tmod_eq_emod_of_nonneg (by omega)]
      omega
    simp only [hjan4, hde, tmod_week, hwe, bucketName, bucketIndex, hi, hst]
    have hnu : 1 + (7 * i * dayMs - 3 * dayMs - ((start + 3) * dayMs - ((start + 6) % 7 + 1 - 1) * dayMs)) / (7 * dayMs) =
        i - (start + 6) / 7 + 1 := by
      unfold dayMs
      omega
    rw [hnu, max_eq_right (by omega), min_eq_right (by omega)]
  | monthly =>
    simp only [bucketName, bucketIndex]
    obtain ⟨_, hmo, hmo', _⟩ := dateOfDay_spec day
    have hdiv : (12 * (dateOfDay day).year + ((dateOfDay day).month - 1)) / 12 = (dateOfDay day).year := by omega
    have hmod : (12 * (dateOfDay day).year + ((dateOfDay day).month - 1)) % 12 + 1 = (dateOfDay day).month := by omega
    rw [hdiv, hmod]

end FixedZone

def standDay (unit : CalendarUnit) (day : Int) (k : Nat) : Int :=
  match unit with
  | .daily => day - k
  | .weekly => day - 7 * k
  | .monthly => bucketStart .monthly (bucketIndex .monthly day - k)
  | .yearly => bucketStart .yearly (bucketIndex .yearly day - k)

theorem bucketIndex_standDay (unit : CalendarUnit) (day : Int) (k : Nat) :
    bucketIndex unit (standDay unit day k) = bucketIndex unit day - k := by
  cases unit with
  | daily => rfl
  | weekly =>
    simp only [bucketIndex, standDay]
    omega
  | monthly | yearly => exact bucketIndex_start _

theorem bucketIndex_standDay_before (unit : CalendarUnit) (day : Int) (k : Nat) :
    bucketIndex unit (standDay unit day k - 1) =
      bucketIndex unit day - k - if unit = .weekly ∧ weekday day ≠ 0 then 0 else 1 := by
  cases unit with
  | daily => rfl
  | weekly =>
    simp only [bucketIndex, standDay, weekday, true_and]
    split <;> omega
  | monthly | yearly => exact bucketIndex_before _

namespace FixedZone

variable (zone : FixedZone)

/-- The midnight, of UTC, of the date is in the bucket of that date in the zone. -/
def KeepsBucket (unit : CalendarUnit) (now : Int) : Prop :=
  0 ≤ zone.offset ∨ unit = .weekly ∧ weekday (zone.localDay now) ≠ 0

instance (unit : CalendarUnit) (now : Int) : Decidable (zone.KeepsBucket unit now) := by
  unfold KeepsBucket
  infer_instance

/-- The window is in the years from 100 on, and the bucket before it where the dates fall into the buckets before. -/
def Modern (unit : CalendarUnit) (count now : Int) : Prop :=
  0 < count → modernDay ≤ bucketStart unit (zone.bucketOfTime unit now - count + if zone.KeepsBucket unit now then 1 else 0)

theorem localDay_midnight (day : Int) : zone.localDay (day * dayMs) = if 0 ≤ zone.offset then day else day - 1 := by
  have hlo := zone.lower
  have hup := zone.upper
  unfold localDay
  unfold dayMs at *
  split <;> omega

theorem bucketOfTime_standDay (unit : CalendarUnit) (now : Int) (k : Nat) :
    zone.bucketOfTime unit (standDay unit (zone.localDay now) k * dayMs) =
      zone.bucketOfTime unit now - k - if zone.KeepsBucket unit now then 0 else 1 := by
  unfold bucketOfTime KeepsBucket
  rw [localDay_midnight]
  by_cases hof : 0 ≤ zone.offset
  · simp only [hof, if_true, true_or, bucketIndex_standDay, Int.sub_zero]
  · simp only [hof, if_false, false_or, bucketIndex_standDay_before]

variable {zone} {unit : CalendarUnit} {count now : Int}

theorem Modern.bucket (h : zone.Modern unit count now) {i : Int} (hc : 0 < count)
    (hi : zone.bucketOfTime unit now - count + (if zone.KeepsBucket unit now then 1 else 0) ≤ i) : modernDay ≤ bucketStart unit i :=
  Int.le_trans (h hc) (bucketStart_mono hi)

theorem Modern.window (h : zone.Modern unit count now) {i : Int} (hc : 0 < count)
    (hi : zone.bucketOfTime unit now - count < i) : modernDay ≤ bucketStart unit i :=
  h.bucket hc (by split <;> omega)

theorem Modern.localDay (h : zone.Modern unit count now) (hc : 0 < count) : modernDay ≤ zone.localDay now :=
  have hlast : zone.bucketOfTime unit now - count < zone.bucketOfTime unit now := by omega
  Int.le_trans (h.window hc hlast) (bucketIndex_spec _).1

theorem recentBucketTimes_eq (h : zone.Modern unit count now) : recentBucketTimes zone.toTimeZone unit count now =
    (List.range count.toNat).map fun k => standDay unit (zone.localDay now) k * dayMs := by
  unfold recentBucketTimes
  refine List.map_congr_left fun k hk => ?_
  have hk' : (k : Int) < count := by
    have := List.mem_range.1 hk
    omega
  have hlo := h.localDay (by omega)
  have hyear := year_of_modern hlo
  rw [← (dateOfDay_spec _).1] at hyear
  rw [zone.toTimeZone_modern hlo]
  cases unit with
  | daily => exact zone.dateUTC_local hlo k
  | weekly => exact zone.dateUTC_local hlo (7 * k)
  | monthly =>
    dsimp only
    rw [dateUTC_modern (by omega)]
    congr 1
    simp only [standDay, bucketStart, bucketIndex, makeDay]
    generalize (dateOfDay (zone.localDay now)).year = y at *
    generalize (dateOfDay (zone.localDay now)).month = m at *
    have hye : y + (m - 1 - (k : Int)) / 12 = 0 + (12 * y + (m - 1) - (k : Int)) / 12 := by omega
    have hmo : (m - 1 - (k : Int)) % 12 = (12 * y + (m - 1) - (k : Int)) % 12 := by omega
    rw [hye, hmo]
  | yearly =>
    have hfi : 100 ≤ yearFromDay (zone.localDay now) - k := yearIndex_of_modern (h.window (by omega) (by
      show yearFromDay (zone.localDay now) - count < _
      omega))
    dsimp only
    rw [(dateOfDay_spec _).1, dateUTC_modern (by omega)]
    congr 1
    simp [standDay, bucketStart, bucketIndex, makeDay, daysBefore]

theorem mem_recentBucketKeys (h : zone.Modern unit count now) (key : String) :
    key ∈ recentBucketKeys zone.toTimeZone unit count now ↔
      ∃ i, zone.bucketOfTime unit now - count < i ∧ i ≤ zone.bucketOfTime unit now ∧
        key = bucketName unit (i - if zone.KeepsBucket unit now then 0 else 1) := by
  have hkey : ∀ k : Nat, k < count → bucketKeyOf zone.toTimeZone unit (standDay unit (zone.localDay now) k * dayMs) =
      bucketName unit (zone.bucketOfTime unit now - k - if zone.KeepsBucket unit now then 0 else 1) := by
    intro k hk
    rw [zone.bucketKeyOf_eq, bucketOfTime_standDay]
    rw [bucketOfTime_standDay]
    exact h.bucket (by omega) (by split <;> omega)
  unfold recentBucketKeys
  rw [recentBucketTimes_eq h, List.map_map]
  constructor
  · intro hmem
    obtain ⟨k, hk, rfl⟩ := List.mem_map.1 hmem
    have hk' := List.mem_range.1 hk
    exact ⟨zone.bucketOfTime unit now - k, by omega, by omega, hkey k (by omega)⟩
  rintro ⟨i, hlow, hhigh, rfl⟩
  obtain ⟨k, rfl⟩ : ∃ k : Nat, i = zone.bucketOfTime unit now - k := ⟨(zone.bucketOfTime unit now - i).toNat, by omega⟩
  exact List.mem_map.2 ⟨k, List.mem_range.2 (by omega), hkey k (by omega)⟩

theorem exists_time (unit : CalendarUnit) (i : Int) : ∃ ts, zone.bucketOfTime unit ts = i := by
  refine ⟨bucketStart unit i * dayMs - zone.offset, ?_⟩
  unfold bucketOfTime localDay
  rw [Int.sub_add_cancel, Int.mul_ediv_cancel _ (by decide : dayMs ≠ 0), bucketIndex_start]

/-- **For a zone that is behind UTC the keys are of the buckets before**, but for a week that has begun. -/
theorem recent_buckets_iff (h : zone.Modern unit count now) :
    zone.WindowOfBuckets unit count now ↔ count ≤ 0 ∨ zone.KeepsBucket unit now := by
  have hname : ∀ ts, zone.InWindow unit count now ts →
      bucketKeyOf zone.toTimeZone unit ts = bucketName unit (zone.bucketOfTime unit ts) := by
    rintro ts ⟨hlow, hhigh⟩
    exact zone.bucketKeyOf_eq (h.window (by omega) hlow)
  constructor
  · intro hwi
    by_contra hnot
    rw [not_or] at hnot
    obtain ⟨hc, hkp⟩ := hnot
    have hnow : zone.InWindow unit count now now := ⟨by omega, Int.le_refl _⟩
    have hmem := (hwi.keys _).2 ⟨now, hnow, rfl⟩
    obtain ⟨i, hlow, hhigh, hkey⟩ := (mem_recentBucketKeys h _).1 hmem
    rw [hname now hnow, if_neg hkp] at hkey
    have hsame := bucketName_injective (h.window (by omega) (by omega))
      (h.bucket (by omega) (by rw [if_neg hkp]; omega)) hkey
    omega
  · intro hkp
    refine ⟨fun key => ?_, fun ts ts' hts hts' => ?_⟩
    · rw [mem_recentBucketKeys h]
      constructor
      · rintro ⟨i, hlow, hhigh, rfl⟩
        obtain ⟨ts, rfl⟩ := @exists_time zone unit i
        refine ⟨ts, ⟨hlow, hhigh⟩, ?_⟩
        rw [hname ts ⟨hlow, hhigh⟩, if_pos (hkp.resolve_left (by omega)), Int.sub_zero]
      rintro ⟨ts, hts, rfl⟩
      have hlow := hts.1
      have hhigh := hts.2
      refine ⟨zone.bucketOfTime unit ts, hlow, hhigh, ?_⟩
      rw [hname ts hts, if_pos (hkp.resolve_left (by omega)), Int.sub_zero]
    · rw [hname ts hts, hname ts' hts']
      refine ⟨fun heq => ?_, fun heq => by rw [heq]⟩
      obtain ⟨hlow, hhigh⟩ := hts
      obtain ⟨hlow', hhigh'⟩ := hts'
      exact bucketName_injective (h.window (by omega) hlow) (h.window (by omega) hlow') heq

/-- Three months up to November 2023, an hour ahead of UTC. -/
theorem recent_buckets_months : (⟨3600000, by decide, by decide⟩ : FixedZone).Modern .monthly 3 1700000000000 ∧
    (⟨3600000, by decide, by decide⟩ : FixedZone).WindowOfBuckets .monthly 3 1700000000000 :=
  have h : (⟨3600000, by decide, by decide⟩ : FixedZone).Modern .monthly 3 1700000000000 := fun _ => by decide
  ⟨h, (recent_buckets_iff h).2 (.inr (.inl (by decide)))⟩

/-- Five hours behind UTC the one day of the window, the 14th of November 2023, is taken for the day before. -/
theorem recent_buckets_behind : ∃ zone : FixedZone, zone.offset = -18000000 ∧
    recentBucketKeys zone.toTimeZone .daily 1 1700000000000 = ["2023-11-13"] ∧
    bucketKeyOf zone.toTimeZone .daily 1700000000000 = "2023-11-14" ∧ ¬ zone.WindowOfBuckets .daily 1 1700000000000 := by
  have hkeys : recentBucketKeys (fixedOffset (-18000000)) .daily 1 1700000000000 = ["2023-11-13"] := by decide +kernel
  have hkey : bucketKeyOf (fixedOffset (-18000000)) .daily 1700000000000 = "2023-11-14" := by decide +kernel
  refine ⟨⟨-18000000, by decide, by decide⟩, rfl, hkeys, hkey, fun hwi => ?_⟩
  have hmem := (hwi.keys "2023-11-14").2 ⟨1700000000000, ⟨by omega, Int.le_refl _⟩, hkey.symm⟩
  exact absurd (hkeys ▸ hmem : "2023-11-14" ∈ ["2023-11-13"]) (by decide)

end FixedZone

end LamaSync
