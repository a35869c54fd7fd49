import Mathlib.Data.Int.Lemmas
import Mathlib.Tactic.NormNum
import Mathlib.Tactic.IntervalCases
import Mathlib.Data.List.Basic

/-!
# Days and dates

Days are counted from the first of January 1970, and dates are of the proleptic Gregorian calendar with a year zero.
`dayFromYear` is the first day of a year and `yearFromDay` the year of a day; inside of a year the months start at
`daysBefore`.  `makeDay` takes a month and a day of the month that may lie outside of the year, and `dateOfDay` undoes it
(`dateOfDay_makeDay`, `makeDay_dateOfDay`).
-/

namespace Calendar

structure Date where
  year : Int
  month : Int
  day : Int
  deriving DecidableEq

def dayFromYear (y : Int) : Int := 365 * (y - 1970) + (y - 1969) / 4 - (y - 1901) / 100 + (y - 1601) / 400

def yearFromDay (n : Int) : Int :=
  let y := 1970 + n * 400 / 146097
  if n < dayFromYear y then y - 1 else if dayFromYear (y + 1) ≤ n then y + 1 else y

def daysInYear (y : Int) : Int := dayFromYear (y + 1) - dayFromYear y

def daysBefore (y m : Int) : Int :=
  let leap := daysInYear y - 365
  if m ≤ 0 then 0 else if m = 1 then 31 else if m = 2 then 59 + leap else if m = 3 then 90 + leap
  else if m = 4 then 120 + leap else if m = 5 then 151 + leap else if m = 6 then 181 + leap else if m = 7 then 212 + leap
  else if m = 8 then 243 + leap else if m = 9 then 273 + leap else if m = 10 then 304 + leap else if m = 11 then 334 + leap
  else 365 + leap

def monthFrom (y n : Int) : Nat → Int → Int
  | 0, m => m
  | more + 1, m => if n < daysBefore y (m + 1) then m else monthFrom y n more (m + 1)

/-- The month of a day of the year, both counted from zero. -/
def monthOf (y n : Int) : Int := monthFrom y n 11 0

def dateOfDay (n : Int) : Date :=
  let y := yearFromDay n
  let inYear := n - dayFromYear y
  let m := monthOf y inYear
  ⟨y, m + 1, inYear - daysBefore y m + 1⟩

/-- The day of a date whose month, counted from zero, and day may lie outside of their ranges. -/
def makeDay (y m d : Int) : Int := dayFromYear (y + m / 12) + daysBefore (y + m / 12) (m % 12) + d - 1

def weekday (n : Int) : Int := (n + 3) % 7

theorem dayFromYear_succ (y : Int) : dayFromYear (y + 1) = dayFromYear y + 365 ∨ dayFromYear (y + 1) = dayFromYear y + 366 := by
  unfold dayFromYear
  omega

variable {y n m : Int}

theorem dayFromYear_lt {z : Int} (h : y < z) : dayFromYear (y + 1) ≤ dayFromYear z := by
  unfold dayFromYear
  omega

theorem yearFromDay_spec (n : Int) : dayFromYear (yearFromDay n) ≤ n ∧ n < dayFromYear (yearFromDay n + 1) := by
  obtain ⟨y, hy⟩ : ∃ y, y = 1970 + n * 400 / 146097 := ⟨_, rfl⟩
  have hlow : dayFromYear (y - 1) ≤ n := by
    unfold dayFromYear
    omega
  have hhigh : n < dayFromYear (y + 1 + 1) := by
    unfold dayFromYear
    omega
  unfold yearFromDay
  rw [← hy]
  dsimp only
  split
  case isTrue h =>
    refine ⟨hlow, ?_⟩
    rwa [Int.sub_add_cancel]
  case isFalse h =>
    split
    case isTrue h' => exact ⟨h', hhigh⟩
    case isFalse h' => exact ⟨by omega, by omega⟩

theorem yearFromDay_eq (hlow : dayFromYear y ≤ n) (hhigh : n < dayFromYear (y + 1)) : yearFromDay n = y := by
  obtain ⟨hlow', hhigh'⟩ := yearFromDay_spec n
  obtain h | h | h := Int.lt_trichotomy (yearFromDay n) y
  · have := dayFromYear_lt h
    omega
  · exact h
  · have := dayFromYear_lt h
    omega

theorem daysInYear_eq (y : Int) : daysInYear y = 365 ∨ daysInYear y = 366 := by
  unfold daysInYear
  obtain h | h := dayFromYear_succ y <;> omega

theorem daysBefore_twelve (y : Int) : daysBefore y 12 = daysInYear y := by
  simp only [daysBefore]
  norm_num

theorem daysBefore_lt (y : Int) (hlow : 0 ≤ m) (hhigh : m ≤ 11) : daysBefore y m < daysBefore y (m + 1) := by
  have hleap := daysInYear_eq y
  interval_cases m <;> simp only [daysBefore] <;> norm_num <;> omega

theorem daysBefore_mono (y : Int) (hlow : 0 ≤ m) : ∀ k : Nat, m + k ≤ 12 → daysBefore y m ≤ daysBefore y (m + k)
  | 0, _ => by simp
  | k + 1, hhigh => by
    have hstep := daysBefore_lt y (by omega : 0 ≤ m + k) (by omega)
    have hle := daysBefore_mono y hlow k (by omega)
    rw [Nat.cast_succ, ← Int.add_assoc]
    omega

theorem monthFrom_spec (more : Nat) (hlow : daysBefore y m ≤ n) (hhigh : n < daysBefore y (m + more + 1)) :
    m ≤ monthFrom y n more m ∧ monthFrom y n more m ≤ m + more ∧ daysBefore y (monthFrom y n more m) ≤ n ∧
      n < daysBefore y (monthFrom y n more m + 1) := by
  induction more generalizing m with
  | zero => exact ⟨Int.le_refl m, by simp [monthFrom], hlow, by simpa [monthFrom] using hhigh⟩
  | succ more ih =>
    rw [monthFrom]
    split
    case isTrue h => exact ⟨Int.le_refl m, by omega, hlow, h⟩
    case isFalse h =>
      have hnext : m + 1 + (more : Int) + 1 = m + ((more + 1 : Nat) : Int) + 1 := by
        push_cast
        omega
      obtain ⟨hle, hmore, hbef, haf⟩ := ih (Int.not_lt.1 h) (hnext ▸ hhigh)
      exact ⟨by omega, by push_cast; omega, hbef, haf⟩

theorem monthOf_spec (hlow : 0 ≤ n) (hhigh : n < daysInYear y) :
    0 ≤ monthOf y n ∧ monthOf y n ≤ 11 ∧ daysBefore y (monthOf y n) ≤ n ∧ n < daysBefore y (monthOf y n + 1) :=
  monthFrom_spec 11 hlow (daysBefore_twelve y ▸ hhigh : n < daysBefore y 12)

theorem daysBefore_nonneg (y : Int) (hlow : 0 ≤ m) (hhigh : m ≤ 12) : 0 ≤ daysBefore y m := by
  obtain ⟨k, rfl⟩ : ∃ k : Nat, m = 0 + k := ⟨m.toNat, by omega⟩
  exact daysBefore_mono y (Int.le_refl 0) k hhigh

theorem daysBefore_lt_daysInYear (y : Int) (hlow : 0 ≤ m) (hhigh : m ≤ 11) : daysBefore y m < daysInYear y := by
  obtain ⟨k, hk⟩ : ∃ k : Nat, m + 1 + k = 12 := ⟨(11 - m).toNat, by omega⟩
  have hstep := daysBefore_lt y hlow hhigh
  have hle := daysBefore_mono y (by omega : 0 ≤ m + 1) k (by omega)
  rw [hk, daysBefore_twelve] at hle
  omega

theorem monthOf_daysBefore (y : Int) (hlow : 0 ≤ m) (hhigh : m ≤ 11) : monthOf y (daysBefore y m) = m := by
  have hlast := daysBefore_lt_daysInYear y hlow hhigh
  obtain ⟨hlow', hhigh', hbef, haf⟩ := monthOf_spec (daysBefore_nonneg y hlow (by omega)) hlast
  generalize monthOf y (daysBefore y m) = r at *
  obtain h | h | h := Int.lt_trichotomy r m
  · obtain ⟨k, rfl⟩ : ∃ k : Nat, m = r + 1 + k := ⟨(m - (r + 1)).toNat, by omega⟩
    have hle := daysBefore_mono y (by omega : 0 ≤ r + 1) k (by omega)
    omega
  · exact h
  obtain ⟨k, rfl⟩ : ∃ k : Nat, r = m + 1 + k := ⟨(r - (m + 1)).toNat, by omega⟩
  have hle := daysBefore_mono y (by omega : 0 ≤ m + 1) k (by omega)
  have hstep := daysBefore_lt y hlow hhigh
  omega

theorem dateOfDay_spec (n : Int) : (dateOfDay n).year = yearFromDay n ∧ 1 ≤ (dateOfDay n).month ∧ (dateOfDay n).month ≤ 12 ∧
    1 ≤ (dateOfDay n).day := by
  obtain ⟨hlow, hhigh⟩ := yearFromDay_spec n
  have hin : n - dayFromYear (yearFromDay n) < daysInYear (yearFromDay n) := by
    unfold daysInYear
    omega
  obtain ⟨hm, hm', hbef, _⟩ := monthOf_spec (by omega : 0 ≤ n - dayFromYear (yearFromDay n)) hin
  refine ⟨rfl, ?_, ?_, ?_⟩ <;> simp only [dateOfDay] <;> omega

theorem makeDay_dateOfDay (n k : Int) :
    makeDay (dateOfDay n).year ((dateOfDay n).month - 1) ((dateOfDay n).day - k) = n - k := by
  obtain ⟨_, hlow, hhigh, _⟩ := dateOfDay_spec n
  have hdiv : ((dateOfDay n).month - 1) / 12 = 0 := by omega
  have hmod : ((dateOfDay n).month - 1) % 12 = (dateOfDay n).month - 1 := by omega
  have hday : dayFromYear (dateOfDay n).year + daysBefore (dateOfDay n).year ((dateOfDay n).month - 1) + (dateOfDay n).day - 1 = n := by
    simp only [dateOfDay, Int.add_sub_cancel]
    omega
  rw [makeDay, hdiv, hmod, Int.add_zero]
  omega

theorem dateOfDay_makeDay (y m : Int) : dateOfDay (makeDay y m 1) = ⟨y + m / 12, m % 12 + 1, 1⟩ := by
  have hlow : 0 ≤ m % 12 := by omega
  have hhigh : m % 12 ≤ 11 := by omega
  have hday : makeDay y m 1 = dayFromYear (y + m / 12) + daysBefore (y + m / 12) (m % 12) := by
    unfold makeDay
    omega
  rw [hday]
  generalize y + m / 12 = z
  generalize m % 12 = month at *
  have hno := daysBefore_nonneg z hlow (by omega)
  have hless := daysBefore_lt_daysInYear z hlow hhigh
  have hyear : yearFromDay (dayFromYear z + daysBefore z month) = z := by
    unfold daysInYear at hless
    exact yearFromDay_eq (by omega) (by omega)
  have hrest : dayFromYear z + daysBefore z month - dayFromYear z = daysBefore z month := by omega
  simp only [dateOfDay, hyear, hrest, monthOf_daysBefore z hlow hhigh, Int.sub_self]
  rfl

end Calendar
