import Mathlib.Algebra.BigOperators.Group.List.Basic
import Mathlib.Algebra.GroupWithZero.Nat
import Mathlib.Tactic.Lemma

/-!
# Weights of a pool of tasks

A pool is a list of tasks addressed by position. `weigh f` adds up what each task contributes;
the lemmas say how the total moves when one task is replaced (`weigh_set`), removed
(`weigh_eraseIdx`) or added (`weigh_append`), which is all a scheduler step ever does.
-/

namespace Pool

variable {α : Type*}

/-- What the tasks of a pool contribute together. -/
def weigh (f : α → Nat) (l : List α) : Nat :=
  (l.map f).sum

/-- Nothing weighs nothing. -/
@[simp] lemma weigh_nil (f : α → Nat) : weigh f [] = 0 := rfl

/-- The weight of one more. -/
@[simp] lemma weigh_cons (f : α → Nat) (x : α) (l : List α) :
    weigh f (x :: l) = f x + weigh f l := by
  simp [weigh]

/-- The weight of two lists. -/
@[simp] lemma weigh_append (f : α → Nat) (l m : List α) :
    weigh f (l ++ m) = weigh f l + weigh f m := by
  simp [weigh]

/-- Replacing a task trades its weight for the new one's. -/
lemma weigh_set {f : α → Nat} {l : List α} {i : Nat} {x y : α} (h : l[i]? = some x) :
    weigh f (l.set i y) + f x = weigh f l + f y := by
  induction l generalizing i with
  | nil => simp at h
  | cons z l ih =>
    cases i with
    | zero =>
      simp only [List.getElem?_cons_zero, Option.some.injEq] at h
      subst h
      simp only [List.set_cons_zero, weigh_cons]
      omega
    | succ i =>
      have h' := ih (i := i) (by simpa using h)
      simp only [List.set_cons_succ, weigh_cons]
      omega

/-- Removing a task takes its weight out. -/
lemma weigh_eraseIdx {f : α → Nat} {l : List α} {i : Nat} {x : α} (h : l[i]? = some x) :
    weigh f (l.eraseIdx i) + f x = weigh f l := by
  induction l generalizing i with
  | nil => simp at h
  | cons z l ih =>
    cases i with
    | zero =>
      simp only [List.getElem?_cons_zero, Option.some.injEq] at h
      subst h
      simp only [List.eraseIdx_cons_zero, weigh_cons]
      omega
    | succ i =>
      have h' := ih (i := i) (by simpa using h)
      simp only [List.eraseIdx_cons_succ, weigh_cons]
      omega

/-- Weights that agree on the tasks present give the same total. -/
lemma weigh_congr {f g : α → Nat} {l : List α} (h : ∀ x ∈ l, f x = g x) :
    weigh f l = weigh g l := by
  unfold weigh
  rw [List.map_congr_left h]

/-- What has no weight weighs nothing. -/
lemma weigh_eq_zero {f : α → Nat} {l : List α} (h : ∀ x ∈ l, f x = 0) : weigh f l = 0 := by
  rw [weigh_congr h]
  simp [weigh]

end Pool
