import Mathlib.Algebra.Order.Field.Basic
import Mathlib.Order.Iterate
import Mathlib.Tactic.Lemma

/-!
# A value that rises at once and falls by half

`approach` takes a value to a target: at once when the target is above it, and by half at most when it
is below. Of a value that is not negative it is a maximum (`approach_eq_max`), and so are its iterates.
-/

namespace Halving

variable {α : Type*} [Field α] [LinearOrder α]

def approach (target current : α) : α :=
  if current > target then max target (current / 2) else target

variable {target current : α}

/-- The target is never undershot. -/
lemma le_approach (target current : α) : target ≤ approach target current := by
  unfold approach
  split
  · exact le_max_left _ _
  · exact le_refl target

/-- From below the target is reached at once. -/
lemma approach_of_le (h : current ≤ target) : approach target current = target :=
  if_neg (not_lt.2 h)

variable [IsStrictOrderedRing α]

/-- One approach halves, down to the target. -/
lemma approach_eq_max (h : 0 ≤ current) : approach target current = max target (current / 2) := by
  unfold approach
  split
  · rfl
  · rename_i hle
    symm
    apply max_eq_left
    exact (half_le_self h).trans (not_lt.1 hle)

/-- One approach never goes up. -/
lemma approach_le (h : 0 ≤ current) (hle : target ≤ current) : approach target current ≤ current := by
  rw [approach_eq_max h]
  exact max_le hle (half_le_self h)

/-- One approach at most halves. -/
lemma half_le_approach (h : 0 ≤ current) : current / 2 ≤ approach target current := by
  rw [approach_eq_max h]
  exact le_max_right _ _

/-- So many steps to one target. -/
lemma iterate_approach (htarget : 0 ≤ target) (h : 0 ≤ current) (n : ℕ) :
    (approach target)^[n + 1] current = max target (current / 2 ^ (n + 1)) := by
  induction n with
  | zero =>
    rw [Function.iterate_one, approach_eq_max h, pow_one]
  | succ n ih =>
    rw [Function.iterate_succ_apply', ih, approach_eq_max (htarget.trans (le_max_left _ _)),
      ← max_div_div_right zero_le_two, ← max_assoc, max_eq_left (half_le_self htarget), div_div,
      ← pow_succ]

/-- The target is reached once the value has been halved often enough. -/
lemma iterate_approach_of_le (htarget : 0 ≤ target) (h : 0 ≤ current) {n : ℕ}
    (hle : current / 2 ^ (n + 1) ≤ target) : (approach target)^[n + 1] current = target := by
  rw [iterate_approach htarget h, max_eq_left hle]

end Halving
