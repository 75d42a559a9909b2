import InstantBoard.Lib.Decimal
import Mathlib.Data.String.Basic

/-!
# UTC wall-clock times

A UTC time of the proleptic Gregorian calendar to the microsecond, with the bounds of its fields
as part of the value, and its ISO 8601 text as Python's `datetime.isoformat` writes it (the
fraction is left out when it is zero). Texts compare as the times do (`isoformat_lt_iff`).
-/

namespace Calendar

/-- A UTC time, year 1 to 9999. -/
structure Datetime where
  year : Nat
  month : Nat
  day : Nat
  hour : Nat
  minute : Nat
  second : Nat
  microsecond : Nat
  year_le : year ≤ 9999 := by decide
  month_le : month ≤ 12 := by decide
  day_le : day ≤ 31 := by decide
  hour_lt : hour < 24 := by decide
  minute_lt : minute < 60 := by decide
  second_lt : second < 60 := by decide
  microsecond_lt : microsecond < 1000000 := by decide
  deriving DecidableEq

/-- The fields, the most significant first. -/
def Datetime.fields (t : Datetime) : List Nat :=
  [t.year, t.month, t.day, t.hour, t.minute, t.second, t.microsecond]

/-- Times are ordered by their fields. -/
instance : LT Datetime := ⟨fun s t => s.fields < t.fields⟩

instance : LE Datetime := ⟨fun s t => ¬ t < s⟩

/-- The order of two datetimes is that of their fields. -/
lemma Datetime.lt_def {s t : Datetime} : s < t ↔ s.fields < t.fields := Iff.rfl

/-- A datetime is at most another if the other is not before it. -/
lemma Datetime.le_def {s t : Datetime} : s ≤ t ↔ ¬ t < s := Iff.rfl

/-- The `.ffffff` part, absent for whole seconds. -/
def fraction (us : Nat) : List Char :=
  if us = 0 then [] else '.' :: Decimal.pad 6 us

/-- `datetime.isoformat` of a UTC time. -/
def Datetime.isoformat (t : Datetime) : String :=
  String.ofList
    (Decimal.pad 4 t.year ++ ('-' :: (Decimal.pad 2 t.month ++ ('-' :: (Decimal.pad 2 t.day ++
      ('T' :: (Decimal.pad 2 t.hour ++ (':' :: (Decimal.pad 2 t.minute ++
        (':' :: (Decimal.pad 2 t.second ++
          (fraction t.microsecond ++ "+00:00".toList))))))))))))

/-- The end of the text compares as the microseconds: `+` is below `.`. -/
lemma fraction_append_lt_iff {a b : Nat} {x : List Char} (ha : a < 1000000) (hb : b < 1000000) :
    fraction a ++ '+' :: x < fraction b ++ '+' :: x ↔ a < b := by
  by_cases h₁ : a = 0 <;> by_cases h₂ : b = 0
  · simp [fraction, h₁, h₂]
  · have : '+' < '.' := by decide
    simp [fraction, h₁, h₂, List.cons_lt_cons_iff, this]
    omega
  · have : ¬ '.' < '+' := by decide
    simp [fraction, h₁, h₂, List.cons_lt_cons_iff, this]
  · simp only [fraction, h₁, h₂, if_false, List.cons_append, List.cons_lt_cons_iff,
      Char.lt_irrefl, false_or, true_and]
    rw [Decimal.pad_append_lt_iff ha hb]
    simp

/-- The ISO text of one UTC time precedes another's exactly when the time does. -/
theorem isoformat_lt_iff {s t : Datetime} : s.isoformat < t.isoformat ↔ s < t := by
  have hs := s.year_le
  have ht := t.year_le
  have hs₁ := s.month_le
  have ht₁ := t.month_le
  have hs₂ := s.day_le
  have ht₂ := t.day_le
  have hs₃ := s.hour_lt
  have ht₃ := t.hour_lt
  have hs₄ := s.minute_lt
  have ht₄ := t.minute_lt
  have hs₅ := s.second_lt
  have ht₅ := t.second_lt
  have hus := fraction_append_lt_iff (x := "00:00".toList) s.microsecond_lt t.microsecond_lt
  rw [Datetime.lt_def, Datetime.isoformat, Datetime.isoformat, String.lt_iff_toList_lt]
  simp only [String.toList_ofList]
  rw [Decimal.pad_append_lt_iff (by omega) (by omega), List.cons_lt_cons_iff,
    Decimal.pad_append_lt_iff (by omega) (by omega), List.cons_lt_cons_iff,
    Decimal.pad_append_lt_iff (by omega) (by omega), List.cons_lt_cons_iff,
    Decimal.pad_append_lt_iff (by omega) (by omega), List.cons_lt_cons_iff,
    Decimal.pad_append_lt_iff (by omega) (by omega), List.cons_lt_cons_iff,
    Decimal.pad_append_lt_iff (by omega) (by omega)]
  simp only [Datetime.fields, List.cons_lt_cons_iff, Char.lt_irrefl, false_or, true_and]
  have hus' : fraction s.microsecond ++ "+00:00".toList < fraction t.microsecond ++ "+00:00".toList
      ↔ s.microsecond < t.microsecond := hus
  rw [hus']
  simp

/-- The same for the weak orders. -/
theorem isoformat_le_iff {s t : Datetime} : s.isoformat ≤ t.isoformat ↔ s ≤ t := by
  rw [Datetime.le_def, ← isoformat_lt_iff]
  exact not_lt.symm

example : (⟨2026, 8, 25, 10, 0, 4, 500000, by decide, by decide, by decide, by decide, by decide,
    by decide, by decide⟩ : Datetime).isoformat = "2026-08-25T10:00:04.500000+00:00" := by decide

end Calendar
