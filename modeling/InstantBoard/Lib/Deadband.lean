import Mathlib.Algebra.Order.Group.Abs
import Mathlib.Data.List.Chain
import Mathlib.Data.List.Induction
import Mathlib.Tactic.Lemma

/-!
# Values passed on when they jump

A receiver holds one value of a series and gets a new one only when the series jumps: when a value
is far from the one before it. `HeldFrom` says which value it holds then, that of the latest jump, and
`HeldFrom.distance_lt` how far that can be from the current one if what does not jump moves by less
than a threshold: a series of small changes in one direction adds up.
-/

namespace Deadband

variable {α β : Type*} {jumps : α → α → Prop}

/-- No value jumps from the one before it. -/
def Quiet (jumps : α → α → Prop) (values : List α) : Prop :=
  values.IsChain fun x y => ¬ jumps y x

/-- `held` is a value of the series after `before`, the latest one that jumped (or the first), and
`since` came quietly after it. -/
structure HeldFrom (jumps : α → α → Prop) (values : List α) (held : α) (before since : List α) :
    Prop where
  values_eq : values = before ++ held :: since
  jumped : ∀ prev ∈ before.getLast?, jumps held prev
  quiet : Quiet jumps (held :: since)

/-- The first value is held. -/
lemma HeldFrom.first (jumps : α → α → Prop) (x : α) : HeldFrom jumps [x] x [] [] where
  values_eq := rfl
  jumped := fun _ h => by cases h
  quiet := List.isChain_singleton _

/-- A value that jumps is held from then on. -/
lemma HeldFrom.jump {values : List α} {last x : α} (hlast : values.getLast? = some last)
    (h : jumps x last) : HeldFrom jumps (values ++ [x]) x values [] where
  values_eq := rfl
  jumped := by
    intro prev hprev
    rw [hlast] at hprev
    cases hprev
    exact h
  quiet := List.isChain_singleton _

/-- After a value that does not jump the same value is held. -/
lemma HeldFrom.keep {values before since : List α} {held last x : α}
    (hw : HeldFrom jumps values held before since) (hlast : values.getLast? = some last)
    (h : ¬ jumps x last) : HeldFrom jumps (values ++ [x]) held before (since ++ [x]) where
  values_eq := by
    rw [hw.values_eq, List.append_assoc, List.cons_append]
  jumped := hw.jumped
  quiet := by
    rw [hw.values_eq, List.getLast?_append_of_ne_nil _ (List.cons_ne_nil _ _)] at hlast
    show List.IsChain _ ((held :: since) ++ [x])
    apply List.IsChain.append hw.quiet (List.isChain_singleton _)
    intro y hy z hz
    rw [hlast] at hy
    cases hy
    cases hz
    exact h

variable [AddCommGroup β] [LinearOrder β] [IsOrderedAddMonoid β] {size : α → β} {t : β}

/-- Small changes add up to less than one threshold for each of them. -/
lemma Quiet.distance_lt (hsmall : ∀ x y, ¬ jumps y x → |size y - size x| < t) {first last : α}
    {rest : List α} (h : Quiet jumps (first :: (rest ++ [last]))) :
    |size last - size first| < (rest.length + 1) • t := by
  induction rest generalizing first with
  | nil =>
    have hpair := hsmall _ _ (List.isChain_cons_cons.1 h).1
    simpa [one_nsmul] using hpair
  | cons next rest ih =>
    obtain ⟨hstep, hrest⟩ := List.isChain_cons_cons.1 h
    have hlast := ih hrest
    calc |size last - size first| = |(size last - size next) + (size next - size first)| := by
          rw [sub_add_sub_cancel]
      _ ≤ |size last - size next| + |size next - size first| := abs_add_le _ _
      _ < (rest.length + 1) • t + t := add_lt_add hlast (hsmall _ _ hstep)
      _ = ((next :: rest).length + 1) • t := by rw [List.length_cons, succ_nsmul t (rest.length + 1)]

/-- The distance of the held value from the current one. -/
lemma HeldFrom.distance_lt (hsmall : ∀ x y, ¬ jumps y x → |size y - size x| < t)
    {values before since : List α} {held current : α}
    (h : HeldFrom jumps values held before since) (hcurrent : values.getLast? = some current) :
    (since = [] ∧ current = held) ∨ |size current - size held| < since.length • t := by
  rw [h.values_eq] at hcurrent
  cases since using List.reverseRecOn with
  | nil =>
    left
    exact ⟨rfl, by simpa [eq_comm] using hcurrent⟩
  | append_singleton since last =>
    right
    have hlast : last = current := by
      rw [← List.cons_append, ← List.append_assoc, List.getLast?_concat] at hcurrent
      exact Option.some.inj hcurrent
    subst hlast
    simpa using h.quiet.distance_lt hsmall

end Deadband
