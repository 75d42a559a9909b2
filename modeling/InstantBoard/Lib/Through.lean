import Mathlib.Data.List.Basic
import Mathlib.Tactic.Lemma
import Mathlib.Tactic.TypeStar

/-!
# The part of a list through its first stop

`through p l` is what a loop over `l` gets to when it ends at the first element that satisfies
`p`, that element included.
-/

namespace Through

variable {α : Type*}

/-- The elements up to and including the first one that satisfies `p`. -/
def through (p : α → Bool) : List α → List α
  | [] => []
  | x :: l => if p x then [x] else x :: through p l

/-- Nothing goes through the empty list. -/
@[simp] lemma through_nil (p : α → Bool) : through p [] = [] := rfl

/-- The list goes on until the first match. -/
lemma through_cons (p : α → Bool) (x : α) (l : List α) :
    through p (x :: l) = x :: if p x then [] else through p l := by
  rw [through]
  split <;> rfl

/-- A loop that meets no stop gets to the end. -/
lemma through_eq_self {p : α → Bool} {l : List α} (h : l.any p = false) : through p l = l := by
  induction l with
  | nil => rfl
  | cons x l ih =>
    rw [List.any_cons, Bool.or_eq_false_iff] at h
    obtain ⟨hx, hl⟩ := h
    rw [through_cons, hx, ih hl]
    rfl

/-- What the loop gets to comes first. -/
lemma through_prefix (p : α → Bool) (l : List α) : through p l <+: l := by
  induction l with
  | nil => exact List.nil_prefix
  | cons x l ih =>
    rw [through_cons, List.cons_prefix_cons]
    refine ⟨rfl, ?_⟩
    split
    · exact List.nil_prefix
    · exact ih

/-- Going through a mapped list. -/
lemma through_map {β : Type*} (p : β → Bool) (f : α → β) (l : List α) :
    through p (l.map f) = (through (fun x => p (f x)) l).map f := by
  induction l with
  | nil => rfl
  | cons x l ih =>
    rw [List.map_cons, through_cons, through_cons, ih]
    cases p (f x) <;> rfl

end Through
