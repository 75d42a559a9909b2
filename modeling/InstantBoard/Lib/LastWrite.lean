import Mathlib.Tactic.Lemma
import Mathlib.Tactic.TypeStar

/-!
# The last write wins

What a value becomes under a list of optional writes, applied in order: the last write there is
(`apply_of_mem`), or the value itself when there is none (`apply_of_not_mem`).
-/

namespace LastWrite

variable {β : Type*}

/-- The value after the writes. -/
def apply (writes : List (Option β)) (b : β) : β :=
  writes.foldl (fun b write => write.getD b) b

/-- Without writes the value stays. -/
@[simp] lemma apply_nil (b : β) : apply [] b = b := rfl

/-- The first write is applied first. -/
@[simp] lemma apply_cons (write : Option β) (writes : List (Option β)) (b : β) :
    apply (write :: writes) b = apply writes (write.getD b) := rfl

/-- A further write comes last. -/
@[simp] lemma apply_concat (writes : List (Option β)) (write : Option β) (b : β) :
    apply (writes ++ [write]) b = write.getD (apply writes b) := by
  simp [apply]

/-- Once something is written, the first value does not matter. -/
lemma apply_of_mem {writes : List (Option β)} {c : β} (h : some c ∈ writes) (b b' : β) :
    apply writes b = apply writes b' := by
  induction writes generalizing b b' with
  | nil => cases h
  | cons write writes ih =>
    rw [apply_cons, apply_cons]
    rcases List.mem_cons.1 h with rfl | h
    · rfl
    · exact ih h _ _

/-- Nothing is written. -/
lemma apply_of_not_mem {writes : List (Option β)} (h : ∀ c, some c ∉ writes) (b : β) :
    apply writes b = b := by
  induction writes generalizing b with
  | nil => rfl
  | cons write writes ih =>
    cases write with
    | none => exact ih (fun c hc => h c (List.mem_cons_of_mem _ hc)) b
    | some c => exact absurd List.mem_cons_self (h c)

end LastWrite
