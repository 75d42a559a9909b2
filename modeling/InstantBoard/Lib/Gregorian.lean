import InstantBoard.Lib.Calendar
import Mathlib.Order.Monotone.Basic

/-!
# Instants of UTC times

The proleptic Gregorian calendar. A UTC time whose fields are a date has an instant, the microseconds
since the start of year 1. Years, months, days and the parts of a day are consecutive blocks, and places
compare block by block (`block_lt_iff`); so times compare as their instants do (`Utc.lt_iff`), and so do
their texts (`Utc.isoformat_lt_iff`).
-/

namespace Calendar

/-- A text is that of one time only. -/
lemma isoformat_inj {s t : Datetime} : s.isoformat = t.isoformat ↔ s = t := by
  constructor
  · intro h
    have hle : s ≤ t := isoformat_le_iff.1 (le_of_eq h)
    have hge : t ≤ s := isoformat_le_iff.1 (le_of_eq h.symm)
    have hfields : s.fields = t.fields := le_antisymm (not_lt.1 hle) (not_lt.1 hge)
    cases s
    cases t
    simp only [Datetime.fields, List.cons.injEq] at hfields
    simp only [hfields]
  · rintro rfl
    rfl

/-! ## Consecutive blocks -/

section

variable {start len : Nat → Nat} {n n' r r' : Nat}

/-- A place in an earlier part comes before a place in a later one. -/
lemma start_add_lt (h : ∀ n, start n + len n = start (n + 1)) (hr : r < len n) (hlt : n < n') :
    start n + r < start n' := by
  have hmono : Monotone start := monotone_nat_of_le_succ fun n => by
    rw [← h n]
    exact Nat.le_add_right _ _
  have hnext : start (n + 1) ≤ start n' := hmono hlt
  rw [← h n] at hnext
  exact lt_of_lt_of_le (Nat.add_lt_add_left hr _) hnext

/-- Places in consecutive blocks compare block by block. -/
lemma block_lt_iff (h : ∀ n, start n + len n = start (n + 1)) (hr : r < len n)
    (hr' : r' < len n') : start n + r < start n' + r' ↔ n < n' ∨ (n = n' ∧ r < r') := by
  rcases Nat.lt_trichotomy n n' with hlt | rfl | hgt
  · have hbefore := start_add_lt h hr hlt
    omega
  · omega
  · have hafter := start_add_lt h hr' hgt
    omega

end

/-- Blocks of one length. -/
lemma mul_add_lt_iff {k n n' r r' : Nat} (hr : r < k) (hr' : r' < k) :
    n * k + r < n' * k + r' ↔ n < n' ∨ (n = n' ∧ r < r') :=
  @block_lt_iff (· * k) (fun _ => k) n n' r r' (fun n => (Nat.succ_mul n k).symm) hr hr'

/-! ## Years and months -/

/-- A year with a 29th of February. -/
def IsLeap (year : Nat) : Prop :=
  year % 4 = 0 ∧ (year % 100 ≠ 0 ∨ year % 400 = 0)

instance (year : Nat) : Decidable (IsLeap year) :=
  inferInstanceAs (Decidable (_ ∧ _))

def yearLength (year : Nat) : Nat :=
  if IsLeap year then 366 else 365

/-- The days of so many years from year 1 on. -/
def daysOfYears (years : Nat) : Nat :=
  years * 365 + years / 4 - years / 100 + years / 400

/-- The days of one more year. -/
lemma daysOfYears_succ (years : Nat) :
    daysOfYears years + yearLength (years + 1) = daysOfYears (years + 1) := by
  have hle : years / 100 ≤ years := Nat.div_le_self _ _
  unfold daysOfYears yearLength IsLeap
  rw [@Nat.succ_div years 4, @Nat.succ_div years 100, @Nat.succ_div years 400]
  simp only [Nat.dvd_iff_mod_eq_zero]
  generalize years / 4 = fours at *
  generalize years / 100 = centuries at *
  generalize years / 400 = cycles at *
  by_cases h₄ : (years + 1) % 4 = 0
  · by_cases h₁₀₀ : (years + 1) % 100 = 0
    · by_cases h₄₀₀ : (years + 1) % 400 = 0
      · simp only [h₄, h₁₀₀, h₄₀₀, ne_eq, not_true_eq_false, false_or, and_self, if_true]
        omega
      · simp only [h₄, h₁₀₀, h₄₀₀, ne_eq, not_true_eq_false, or_self, and_false, if_true, if_false]
        omega
    · have h₄₀₀ : (years + 1) % 400 ≠ 0 := by omega
      simp only [h₄, h₁₀₀, h₄₀₀, ne_eq, not_false_eq_true, true_or, and_self, if_true, if_false]
      omega
  · have h₁₀₀ : (years + 1) % 100 ≠ 0 := by omega
    have h₄₀₀ : (years + 1) % 400 ≠ 0 := by omega
    simp only [h₄, h₁₀₀, h₄₀₀, false_and, if_false]
    omega

/-- The days of a month; there are twelve. -/
def monthLength (year : Nat) : Nat → Nat
  | 1 | 3 | 5 | 7 | 8 | 10 | 12 => 31
  | 4 | 6 | 9 | 11 => 30
  | 2 => if IsLeap year then 29 else 28
  | _ => 0

/-- The days of a year that are before a month. -/
def daysBeforeMonth (year : Nat) : Nat → Nat
  | 0 => 0
  | month + 1 => daysBeforeMonth year month + monthLength year month

/-- The days before the next month. -/
lemma daysBeforeMonth_succ (year month : Nat) :
    daysBeforeMonth year month + monthLength year month = daysBeforeMonth year (month + 1) :=
  rfl

/-- The months make up the year. -/
lemma daysBeforeMonth_thirteen (year : Nat) : daysBeforeMonth year 13 = yearLength year := by
  simp only [daysBeforeMonth, monthLength, yearLength]
  split <;> rfl

/-! ## Times of dates -/

/-- A UTC time whose fields are a date. -/
structure Utc extends Datetime where
  year_pos : 0 < year := by decide
  month_pos : 0 < month := by decide
  day_pos : 0 < day := by decide
  day_le_length : day ≤ monthLength year month := by decide

namespace Utc

/-- The days of the year that are before the time's own. -/
def dayOfYear (t : Utc) : Nat :=
  daysBeforeMonth t.year t.month + (t.day - 1)

/-- The days since the start of year 1. -/
def days (t : Utc) : Nat :=
  daysOfYears (t.year - 1) + t.dayOfYear

/-- The microseconds of the day. -/
def microsOfDay (t : Utc) : Nat :=
  t.hour * 3600000000 + (t.minute * 60000000 + (t.second * 1000000 + t.microsecond))

/-- The microseconds since the start of year 1. -/
def instant (t : Utc) : Nat :=
  t.days * 86400000000 + t.microsOfDay

variable (s t : Utc)

/-- The day is in its month. -/
lemma day_lt : t.day - 1 < monthLength t.year t.month := by
  have hpos := t.day_pos
  have hle := t.day_le_length
  omega

/-- The day is in its year. -/
lemma dayOfYear_lt : t.dayOfYear < yearLength (t.year - 1 + 1) := by
  have hbefore : t.dayOfYear < daysBeforeMonth t.year 13 :=
    start_add_lt (daysBeforeMonth_succ t.year) t.day_lt (Nat.lt_succ_of_le t.month_le)
  rw [daysBeforeMonth_thirteen] at hbefore
  rw [Nat.sub_add_cancel t.year_pos]
  exact hbefore

/-- The time is in its day. -/
lemma microsOfDay_lt : t.microsOfDay < 86400000000 := by
  have hhour := t.hour_lt
  have hminute := t.minute_lt
  have hsecond := t.second_lt
  have hmicro := t.microsecond_lt
  unfold microsOfDay
  omega

variable {s t}

/-- Days compare as the dates do. -/
lemma days_lt_iff : s.days < t.days ↔ s.year < t.year ∨ (s.year = t.year ∧
    (s.month < t.month ∨ (s.month = t.month ∧ s.day < t.day))) := by
  have hyear : s.year - 1 < t.year - 1 ↔ s.year < t.year := by
    have hpos := s.year_pos
    omega
  have hyear' : s.year - 1 = t.year - 1 ↔ s.year = t.year := by
    have hs := s.year_pos
    have ht := t.year_pos
    omega
  have hday : s.day - 1 < t.day - 1 ↔ s.day < t.day := by
    have hpos := s.day_pos
    omega
  unfold days
  rw [block_lt_iff daysOfYears_succ s.dayOfYear_lt t.dayOfYear_lt, hyear, hyear']
  apply or_congr_right
  apply and_congr_right
  intro heq
  have hlt := s.day_lt
  unfold dayOfYear
  rw [heq] at hlt ⊢
  rw [block_lt_iff (daysBeforeMonth_succ t.year) hlt t.day_lt, hday]

/-- The number of the day tells the date. -/
lemma days_inj : s.days = t.days ↔ s.year = t.year ∧ s.month = t.month ∧ s.day = t.day := by
  have hst := @days_lt_iff s t
  have hts := @days_lt_iff t s
  omega

/-- The times of a day compare as their parts do. -/
lemma microsOfDay_lt_iff : s.microsOfDay < t.microsOfDay ↔ s.hour < t.hour ∨ (s.hour = t.hour ∧
    (s.minute < t.minute ∨ (s.minute = t.minute ∧
      (s.second < t.second ∨ (s.second = t.second ∧ s.microsecond < t.microsecond))))) := by
  have hs₁ := s.minute_lt
  have hs₂ := s.second_lt
  have hs₃ := s.microsecond_lt
  have ht₁ := t.minute_lt
  have ht₂ := t.second_lt
  have ht₃ := t.microsecond_lt
  unfold microsOfDay
  rw [mul_add_lt_iff (by omega) (by omega), mul_add_lt_iff (by omega) (by omega),
    mul_add_lt_iff hs₃ ht₃]

/-- A time is before another exactly if its instant is. -/
lemma lt_iff : s.toDatetime < t.toDatetime ↔ s.instant < t.instant := by
  unfold instant
  rw [mul_add_lt_iff s.microsOfDay_lt t.microsOfDay_lt, days_lt_iff, days_inj, microsOfDay_lt_iff,
    Datetime.lt_def]
  simp only [Datetime.fields, List.cons_lt_cons_iff, List.not_lt_nil, and_false, or_false]
  omega

/-- Texts compare as instants do. -/
lemma isoformat_lt_iff : s.isoformat < t.isoformat ↔ s.instant < t.instant := by
  rw [Calendar.isoformat_lt_iff, lt_iff]

/-- The ISO texts are ordered like the instants. -/
lemma isoformat_le_iff : s.isoformat ≤ t.isoformat ↔ s.instant ≤ t.instant := by
  rw [← not_lt, isoformat_lt_iff, not_lt]

end Utc

/-- The 29th of February of a leap year, and the day after it. -/
example : (⟨⟨2024, 2, 29, 23, 59, 59, 999999, by decide, by decide, by decide, by decide, by decide,
    by decide, by decide⟩, by decide, by decide, by decide, by decide⟩ : Utc).instant + 1 =
    (⟨⟨2024, 3, 1, 0, 0, 0, 0, by decide, by decide, by decide, by decide, by decide, by decide,
      by decide⟩, by decide, by decide, by decide, by decide⟩ : Utc).instant := by
  decide

end Calendar
