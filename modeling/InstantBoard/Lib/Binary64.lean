import Mathlib.Algebra.Order.Archimedean.Basic
import Mathlib.Algebra.Order.Field.Power
import Mathlib.Data.Int.Log
import Mathlib.Data.Rat.Floor
import Mathlib.Tactic.Lemma
import Mathlib.Tactic.Linarith
import Mathlib.Tactic.NormNum
import Mathlib.Tactic.Positivity
import Mathlib.Tactic.Ring

/-!
# Doubles

The finite doubles as rationals: the multiples of a power of two, at least `2 ^ -1074`, by at most
`2 ^ 53`. `fl` is the double next to a rational, of two the even one, and the operations of `Double`
round their exact results. No double is nearer (`abs_fl_sub_le`), so rounding keeps doubles
(`fl_eq_self`) and the order (`fl_mono`): a difference that is less than a double once it is rounded
was less before (`Double.abs_sub_lt`).

The exponent has no upper end here: a result that is too large is no infinity.
-/

namespace Binary64

/-- The nearest integer, of two the even one. -/
def nearest (x : ℚ) : ℤ :=
  if x - ⌊x⌋ < 1 / 2 then ⌊x⌋
  else if 1 / 2 < x - ⌊x⌋ then ⌊x⌋ + 1
  else if ⌊x⌋ % 2 = 0 then ⌊x⌋
  else ⌊x⌋ + 1

/-- The exponent of the last binary digit of a double that has the size of `x`. -/
def lastPlace (x : ℚ) : ℤ := max (Int.log 2 |x| - 52) (-1074)

/-- The nearest double. -/
def fl (x : ℚ) : ℚ := nearest (x / 2 ^ lastPlace x) * 2 ^ lastPlace x

def IsDouble (x : ℚ) : Prop := ∃ m e : ℤ, |m| ≤ 2 ^ 53 ∧ -1074 ≤ e ∧ x = m * 2 ^ e

variable {x y : ℚ}

/-! ## The nearest integer -/

/-- An integer is at most a half away. -/
lemma abs_nearest_sub_le_half (x : ℚ) : |(nearest x : ℚ) - x| ≤ 1 / 2 := by
  have hfloor := Int.floor_le x
  have hnext := Int.lt_floor_add_one x
  unfold nearest
  rw [abs_le]
  split_ifs
  · constructor <;> linarith
  · push_cast
    constructor <;> linarith
  · constructor <;> linarith
  · push_cast
    constructor <;> linarith

/-- No integer is nearer. -/
lemma abs_nearest_sub_le (x : ℚ) (k : ℤ) : |(nearest x : ℚ) - x| ≤ |(k : ℚ) - x| := by
  rcases eq_or_ne k (nearest x) with rfl | hne
  · exact le_refl _
  · have hapart : (1 : ℚ) ≤ |(nearest x : ℚ) - k| := by
      exact_mod_cast Int.one_le_abs (sub_ne_zero.2 hne.symm)
    have hhalf := abs_nearest_sub_le_half x
    have hsum : |(nearest x : ℚ) - k| ≤ |(nearest x : ℚ) - x| + |(k : ℚ) - x| := by
      rw [abs_sub_comm (k : ℚ) x]
      exact abs_sub_le _ _ _
    linarith

/-- An integer above is above the nearest one. -/
lemma nearest_le {k : ℤ} (h : x ≤ k) : nearest x ≤ k := by
  by_contra hlt
  have hnext : (k : ℚ) + 1 ≤ nearest x := by exact_mod_cast Int.add_one_le_of_lt (not_le.1 hlt)
  have hnear := abs_nearest_sub_le x k
  rw [abs_of_nonneg (by linarith), abs_of_nonneg (by linarith)] at hnear
  linarith

/-- An integer below is below the nearest one. -/
lemma le_nearest {k : ℤ} (h : k ≤ x) : k ≤ nearest x := by
  by_contra hlt
  have hnext : (nearest x : ℚ) + 1 ≤ k := by exact_mod_cast Int.add_one_le_of_lt (not_le.1 hlt)
  have hnear := abs_nearest_sub_le x k
  rw [abs_of_nonpos (by linarith), abs_of_nonpos (by linarith)] at hnear
  linarith

/-! ## The nearest double -/

/-- A power of two is positive. -/
lemma two_zpow_pos (e : ℤ) : (0 : ℚ) < 2 ^ e := zpow_pos (by norm_num) e

/-- A number is less than 53 binary digits long up to its last place. -/
lemma abs_lt_of_lastPlace (x : ℚ) : |x| < 2 ^ (53 : ℕ) * 2 ^ lastPlace x := by
  have hlog : |x| < (2 : ℚ) ^ (Int.log 2 |x| + 1) := Int.lt_zpow_succ_log_self (by norm_num) |x|
  have hle : Int.log 2 |x| + 1 ≤ 53 + lastPlace x := by
    unfold lastPlace
    omega
  calc |x| < (2 : ℚ) ^ (Int.log 2 |x| + 1) := hlog
    _ ≤ 2 ^ (53 + lastPlace x) := zpow_le_zpow_right₀ (by norm_num) hle
    _ = 2 ^ (53 : ℕ) * 2 ^ lastPlace x := by
      rw [zpow_add₀ (by norm_num)]
      rfl

/-- The result of rounding is a double. -/
lemma isDouble_fl (x : ℚ) : IsDouble (fl x) := by
  refine ⟨nearest (x / 2 ^ lastPlace x), lastPlace x, ?_, le_max_right _ _, rfl⟩
  have hsize : |x / 2 ^ lastPlace x| < 2 ^ (53 : ℕ) := by
    rw [abs_div, abs_of_pos (two_zpow_pos _), div_lt_iff₀ (two_zpow_pos _)]
    exact abs_lt_of_lastPlace x
  obtain ⟨hlow, hhigh⟩ := abs_lt.1 hsize
  rw [abs_le]
  constructor
  · apply le_nearest
    push_cast
    exact hlow.le
  · apply nearest_le
    push_cast
    exact hhigh.le

/-- Of the multiples of the last place, none is nearer. -/
lemma abs_fl_sub_le_mul (x : ℚ) (k : ℤ) : |fl x - x| ≤ |(k : ℚ) * 2 ^ lastPlace x - x| := by
  have hpos := two_zpow_pos (lastPlace x)
  have hscale : ∀ n : ℤ, |(n : ℚ) * 2 ^ lastPlace x - x| =
      |(n : ℚ) - x / 2 ^ lastPlace x| * 2 ^ lastPlace x := by
    intro n
    rw [← abs_of_pos hpos, ← abs_mul, abs_of_pos hpos, sub_mul, div_mul_cancel₀ _ hpos.ne']
  unfold fl
  rw [hscale, hscale]
  exact mul_le_mul_of_nonneg_right (abs_nearest_sub_le _ _) hpos.le

/-- Between a number and the doubles with a smaller last place there is a power of two. -/
lemma abs_le_of_lt_lastPlace (hx : x ≠ 0) {m e : ℤ} (hm : |m| ≤ 2 ^ 53) (he : -1074 ≤ e)
    (h : e < lastPlace x) :
    |(m : ℚ) * 2 ^ e| ≤ 2 ^ (52 : ℕ) * 2 ^ lastPlace x ∧ 2 ^ (52 : ℕ) * 2 ^ lastPlace x ≤ |x| := by
  have hplace : lastPlace x = Int.log 2 |x| - 52 := by
    unfold lastPlace at h ⊢
    omega
  have hsplit : ∀ k : ℤ, (2 : ℚ) ^ (52 : ℕ) * 2 ^ k = 2 ^ (52 + k) := by
    intro k
    rw [zpow_add₀ (by norm_num)]
    rfl
  constructor
  · have hm' : |(m : ℚ)| ≤ 2 ^ (53 : ℕ) := by exact_mod_cast hm
    calc |(m : ℚ) * 2 ^ e| = |(m : ℚ)| * 2 ^ e := by rw [abs_mul, abs_of_pos (two_zpow_pos e)]
      _ ≤ 2 ^ (53 : ℕ) * 2 ^ e := mul_le_mul_of_nonneg_right hm' (two_zpow_pos e).le
      _ = 2 ^ (52 : ℕ) * 2 ^ (e + 1) := by
        rw [zpow_add₀ (by norm_num)]
        ring
      _ ≤ 2 ^ (52 : ℕ) * 2 ^ lastPlace x :=
        mul_le_mul_of_nonneg_left (zpow_le_zpow_right₀ (by norm_num) h) (by positivity)
  · rw [hsplit, hplace, add_sub_cancel]
    exact Int.zpow_log_le_self (by norm_num) (abs_pos.2 hx)

/-- No double is nearer. -/
lemma abs_fl_sub_le {d : ℚ} (h : IsDouble d) : |fl x - x| ≤ |d - x| := by
  obtain ⟨m, e, hm, he, rfl⟩ := h
  rcases le_or_gt (lastPlace x) e with hle | hlt
  · -- a multiple of a greater power is a multiple of the last place
    obtain ⟨n, hn⟩ := Int.le.dest hle
    have hmul : (m : ℚ) * 2 ^ e = ((m * 2 ^ n : ℤ) : ℚ) * 2 ^ lastPlace x := by
      rw [← hn, zpow_add₀ (by norm_num), zpow_natCast]
      push_cast
      ring
    rw [hmul]
    exact abs_fl_sub_le_mul x _
  · -- the power of two next to the number is between them
    rcases eq_or_ne x 0 with rfl | hne
    · have hnear := abs_fl_sub_le_mul 0 0
      rw [Int.cast_zero, zero_mul, sub_self, abs_zero] at hnear
      exact hnear.trans (abs_nonneg _)
    obtain ⟨hsmall, hlarge⟩ := abs_le_of_lt_lastPlace hne hm he hlt
    obtain ⟨hlow, hhigh⟩ := abs_le.1 hsmall
    rcases le_total 0 x with hx | hx
    · have hnear := abs_fl_sub_le_mul x (2 ^ 52)
      push_cast at hnear
      rw [abs_of_nonneg hx] at hlarge
      apply hnear.trans
      rw [abs_of_nonpos (by linarith), abs_of_nonpos (by linarith)]
      linarith
    · have hnear := abs_fl_sub_le_mul x (-2 ^ 52)
      push_cast at hnear
      rw [abs_of_nonpos hx] at hlarge
      apply hnear.trans
      rw [abs_of_nonneg (by linarith), abs_of_nonneg (by linarith)]
      linarith

/-- A double is not rounded. -/
lemma fl_eq_self (h : IsDouble x) : fl x = x := by
  have hzero := @abs_fl_sub_le x x h
  rw [sub_self, abs_zero] at hzero
  exact sub_eq_zero.1 (abs_nonpos_iff.1 hzero)

/-- Rounding keeps the order. -/
lemma fl_mono (h : x ≤ y) : fl x ≤ fl y := by
  rcases h.eq_or_lt with rfl | hlt
  · exact le_rfl
  · by_contra hgt
    have hgt := not_le.1 hgt
    -- both are next to a double on the other side of the middle
    have hx := @abs_fl_sub_le x _ (isDouble_fl y)
    have hy := @abs_fl_sub_le y _ (isDouble_fl x)
    have hx' := sq_le_sq.2 hx
    have hy' := sq_le_sq.2 hy
    nlinarith

/-- The doubles are symmetric. -/
lemma IsDouble.neg (h : IsDouble x) : IsDouble (-x) := by
  obtain ⟨m, e, hm, he, rfl⟩ := h
  exact ⟨-m, e, (abs_neg m).trans_le hm, he, by push_cast; ring⟩

/-- The absolute value of a double is a double. -/
lemma IsDouble.abs (h : IsDouble x) : IsDouble |x| := by
  rcases abs_choice x with heq | heq
  · rw [heq]
    exact h
  · rw [heq]
    exact h.neg

/-! ## Operations -/

@[ext]
structure Double where
  value : ℚ
  isDouble : IsDouble value

namespace Double

instance : DecidableEq Double := fun _ _ => decidable_of_iff _ Double.ext_iff.symm

/-- The double next to a rational: a literal, or the result of an operation. -/
def ofRat (x : ℚ) : Double := ⟨fl x, isDouble_fl x⟩

instance : LE Double := ⟨fun x y => x.value ≤ y.value⟩

instance : LT Double := ⟨fun x y => x.value < y.value⟩

instance : DecidableLE Double := fun x y => inferInstanceAs (Decidable (x.value ≤ y.value))

instance : DecidableLT Double := fun x y => inferInstanceAs (Decidable (x.value < y.value))

instance : Zero Double := ⟨ofRat 0⟩

instance : Sub Double := ⟨fun x y => ofRat (x.value - y.value)⟩

instance : Div Double := ⟨fun x y => ofRat (x.value / y.value)⟩

def abs (x : Double) : Double := ⟨|x.value|, x.isDouble.abs⟩

/-- `round(x, n)`: the double next to the nearest decimal with `n` places. -/
def roundTo (n : ℕ) (x : Double) : Double := ofRat (nearest (x.value * 10 ^ n) / 10 ^ n)

/-- The order of the doubles is total. -/
lemma lt_of_not_le {x y : Double} (h : ¬ x ≤ y) : y < x := Rat.not_le.1 h

/-- A difference that is less than a double once it is rounded was less before. -/
lemma abs_sub_lt {t x y : Double} (h : (x - y).abs < t) : |x.value - y.value| < t.value := by
  by_contra hle
  rcases le_abs'.1 (not_lt.1 hle) with hneg | hpos
  · have hfl : fl (x.value - y.value) ≤ -t.value :=
      (fl_mono hneg).trans_eq (fl_eq_self t.isDouble.neg)
    exact absurd h (not_lt.2 (le_abs'.2 (.inl hfl)))
  · have hfl : t.value ≤ fl (x.value - y.value) :=
      (fl_eq_self t.isDouble).symm.trans_le (fl_mono hpos)
    exact absurd h (not_lt.2 (le_abs'.2 (.inr hfl)))

end Double

end Binary64
