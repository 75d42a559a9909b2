import Mathlib.Data.List.Basic
import Mathlib.Tactic.Lemma
import Mathlib.Tactic.TypeStar

/-!
# The part of a log after an anchor

`after p l` is what follows the first element of `l` that satisfies `p`, and nothing when no
element does. In a log sorted by a key it is the filter of the log by "some anchor is earlier"
(`after_eq_filter`).
-/

namespace Anchor

variable {α : Type*}

/-- The elements after the first one satisfying `p`. -/
def after (p : α → Bool) (l : List α) : List α :=
  match l.findIdx? p with
  | none => []
  | some i => l.drop (i + 1)

/-- Nothing comes after in the empty list. -/
@[simp] lemma after_nil (p : α → Bool) : after p [] = [] := rfl

/-- After a match comes the rest. -/
lemma after_cons (p : α → Bool) (x : α) (l : List α) :
    after p (x :: l) = if p x then l else after p l := by
  unfold after
  rw [List.findIdx?_cons]
  by_cases h : p x
  · simp [h]
  · cases hf : l.findIdx? p <;> simp [h]

/-- What follows an anchor is the end of the log. -/
lemma after_suffix (p : α → Bool) (l : List α) : after p l <:+ l := by
  unfold after
  cases l.findIdx? p with
  | none => exact List.nil_suffix
  | some i => exact List.drop_suffix (i + 1) l

/-- In a log sorted by `key`, what follows the first anchor is what some anchor precedes. -/
lemma after_eq_filter {p : α → Bool} {key : α → Nat} {l : List α}
    (sorted : l.Pairwise (key · < key ·)) :
    after p l = l.filter (fun e => l.any fun a => p a && decide (key a < key e)) := by
  induction l with
  | nil => rfl
  | cons x l ih =>
    rw [List.pairwise_cons] at sorted
    obtain ⟨hx, hl⟩ := sorted
    -- the head is the least, so no anchor precedes it
    have hhead : ((x :: l).any fun a => p a && decide (key a < key x)) = false := by
      rw [List.any_eq_false]
      intro a ha h
      simp only [Bool.and_eq_true, decide_eq_true_eq] at h
      rcases List.mem_cons.1 ha with rfl | ha
      · exact Nat.lt_irrefl _ h.2
      · exact Nat.lt_asymm h.2 (hx a ha)
    rw [after_cons, List.filter_cons, hhead, if_neg (by decide : ¬ false = true)]
    by_cases hp : p x
    · rw [if_pos hp]
      symm
      rw [List.filter_eq_self]
      intro e he
      simp [hp, hx e he]
    · rw [if_neg hp, ih hl]
      refine List.filter_congr fun e _ => ?_
      simp [hp]

end Anchor
