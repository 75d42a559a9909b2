import Mathlib.Tactic.Lemma
import Mathlib.Tactic.TypeStar

/-!
# Unwinding

Non-interference of a deterministic system by its steps. An observer has steps of its own and a view of
the state. When its own steps depend on the view only and the quiet steps of the others leave the view
as it is (`Unwinds`), a run whose other steps are all quiet comes to the same view as the observer's own
steps alone (`Unwinds.purge`), and so do two runs with the same own steps (`Unwinds.same_view`).
-/

namespace Unwinding

variable {σ α ν : Type*} {step : σ → α → σ} {view : σ → ν} {own : α → Bool} {quiet : σ → α → Prop}

variable (step view own quiet) in
structure Unwinds : Prop where
  consistent : ∀ s t a, own a = true → view s = view t → view (step s a) = view (step t a)
  silent : ∀ s a, own a = false → quiet s a → view (step s a) = view s

variable (step own quiet) in
/-- Every step of another in the run is quiet. -/
def Quiet : σ → List α → Prop
  | _, [] => True
  | s, a :: as => (own a = false → quiet s a) ∧ Quiet (step s a) as

/-- The steps of the others can be left out of a quiet run. -/
lemma Unwinds.purge (h : Unwinds step view own quiet) {s t : σ} {as : List α}
    (hquiet : Quiet step own quiet s as) (hview : view s = view t) :
    view (as.foldl step s) = view ((as.filter own).foldl step t) := by
  induction as generalizing s t with
  | nil => exact hview
  | cons a as ih =>
    obtain ⟨ha, hrest⟩ := hquiet
    cases hown : own a with
    | true =>
      rw [List.filter_cons_of_pos hown]
      exact ih hrest (h.consistent s t a hown hview)
    | false =>
      rw [List.filter_cons_of_neg (by rw [hown]; exact Bool.false_ne_true)]
      exact ih hrest ((h.silent s a hown (ha hown)).trans hview)

/-- Two quiet runs with the same own steps come to the same view. -/
lemma Unwinds.same_view (h : Unwinds step view own quiet) {s : σ} {as bs : List α}
    (has : Quiet step own quiet s as) (hbs : Quiet step own quiet s bs)
    (same : as.filter own = bs.filter own) : view (as.foldl step s) = view (bs.foldl step s) := by
  rw [h.purge has rfl, h.purge hbs rfl, same]

end Unwinding
