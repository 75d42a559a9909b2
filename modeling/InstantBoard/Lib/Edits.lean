import Mathlib.Data.List.Nodup
import Mathlib.Tactic.Lemma
import Mathlib.Tactic.TypeStar

/-!
# Lists that are edited as sets

An edit adds an element at the end of a list, unless it is there, or takes it away. `replay` makes
the edits of a log one after the other: an element is there as the last edit that names it says, and
those that stay keep their order.
-/

namespace Edits

variable {α : Type*}

inductive Edit (α : Type*) where
  | add (t : α)
  | remove (t : α)
deriving DecidableEq

variable [DecidableEq α]

def Edit.apply (l : List α) : Edit α → List α
  | .add t => if t ∈ l then l else l ++ [t]
  | .remove t => l.filter (· ≠ t)

def replay (l : List α) (log : List (Edit α)) : List α :=
  log.foldl Edit.apply l

/-- Replaying no edits changes nothing. -/
@[simp] lemma replay_nil {l : List α} : replay l [] = l :=
  rfl

/-- The first edit is applied first. -/
@[simp] lemma replay_cons {l : List α} {e : Edit α} {log : List (Edit α)} :
    replay l (e :: log) = replay (e.apply l) log :=
  rfl

/-- Two logs are replayed one after the other. -/
@[simp] lemma replay_append {l : List α} {log log' : List (Edit α)} :
    replay l (log ++ log') = replay (replay l log) log' :=
  List.foldl_append

/-- Adding what is there changes nothing. -/
lemma apply_add_of_mem {l : List α} {t : α} (h : t ∈ l) : (Edit.add t).apply l = l :=
  if_pos h

/-- What is not there is added last. -/
lemma apply_add_of_not_mem {l : List α} {t : α} (h : t ∉ l) : (Edit.add t).apply l = l ++ [t] :=
  if_neg h

/-- Removing keeps all others in their order. -/
lemma apply_remove {l : List α} {t : α} : (Edit.remove t).apply l = l.filter (· ≠ t) :=
  rfl

/-- The members after an addition. -/
lemma mem_apply_add {l : List α} {t u : α} : u ∈ (Edit.add t).apply l ↔ u ∈ l ∨ u = t := by
  by_cases ht : t ∈ l
  · rw [apply_add_of_mem ht]
    apply Iff.symm
    apply or_iff_left_of_imp
    rintro rfl
    exact ht
  · rw [apply_add_of_not_mem ht, List.mem_append, List.mem_singleton]

/-- The members after a removal. -/
lemma mem_apply_remove {l : List α} {t u : α} : u ∈ (Edit.remove t).apply l ↔ u ∈ l ∧ u ≠ t := by
  rw [apply_remove]
  simp [List.mem_filter]

/-- An edit keeps the members distinct. -/
lemma nodup_apply {l : List α} (e : Edit α) (h : l.Nodup) : (e.apply l).Nodup := by
  cases e with
  | add t =>
    by_cases ht : t ∈ l
    · rw [apply_add_of_mem ht]
      exact h
    · rw [apply_add_of_not_mem ht]
      rw [← List.concat_eq_append]
      exact List.Nodup.concat ht h
  | remove t => exact h.filter _

/-- A log keeps the members distinct. -/
lemma nodup_replay {l : List α} {log : List (Edit α)} (h : l.Nodup) : (replay l log).Nodup := by
  induction log generalizing l with
  | nil => exact h
  | cons e log ih => exact ih (nodup_apply e h)

/-- What no later edit takes away stays. -/
lemma mem_replay_of_mem {l : List α} {log : List (Edit α)} {t : α} (h : t ∈ l)
    (hlog : Edit.remove t ∉ log) : t ∈ replay l log := by
  induction log generalizing l with
  | nil => exact h
  | cons e log ih =>
    obtain ⟨hne, hlog⟩ := List.ne_and_not_mem_of_not_mem_cons hlog
    apply ih ?_ hlog
    cases e with
    | add u => exact mem_apply_add.2 (.inl h)
    | remove u =>
      refine mem_apply_remove.2 ⟨h, ?_⟩
      rintro rfl
      exact hne rfl

/-- What no later edit adds stays away. -/
lemma not_mem_replay {l : List α} {log : List (Edit α)} {t : α} (h : t ∉ l)
    (hlog : Edit.add t ∉ log) : t ∉ replay l log := by
  induction log generalizing l with
  | nil => exact h
  | cons e log ih =>
    obtain ⟨hne, hlog⟩ := List.ne_and_not_mem_of_not_mem_cons hlog
    apply ih ?_ hlog
    cases e with
    | add u =>
      intro ht
      rcases mem_apply_add.1 ht with ht | rfl
      · exact h ht
      · exact hne rfl
    | remove u =>
      intro ht
      exact h (mem_apply_remove.1 ht).1

/-- An element that was added last is there. -/
lemma mem_replay_add {l : List α} {before after : List (Edit α)} {t : α}
    (h : Edit.remove t ∉ after) : t ∈ replay l (before ++ .add t :: after) := by
  rw [replay_append, replay_cons]
  exact mem_replay_of_mem (mem_apply_add.2 (.inr rfl)) h

/-- An element that was taken away last is not there. -/
lemma not_mem_replay_remove {l : List α} {before after : List (Edit α)} {t : α}
    (h : Edit.add t ∉ after) : t ∉ replay l (before ++ .remove t :: after) := by
  rw [replay_append, replay_cons]
  exact not_mem_replay (fun ht => (mem_apply_remove.1 ht).2 rfl) h

/-- An element that no edit names is there if it was. -/
lemma mem_replay_iff {l : List α} {log : List (Edit α)} {t : α} (hadd : Edit.add t ∉ log)
    (hremove : Edit.remove t ∉ log) : t ∈ replay l log ↔ t ∈ l := by
  constructor
  · intro h
    exact Decidable.by_contra fun hl => not_mem_replay hl hadd h
  · exact fun h => mem_replay_of_mem h hremove

/-- What stays keeps its order. -/
lemma sublist_replay {l : List α} {log : List (Edit α)} :
    (l.filter fun t => Edit.remove t ∉ log).Sublist (replay l log) := by
  induction log generalizing l with
  | nil => simp
  | cons e log ih =>
    rw [replay_cons]
    apply List.Sublist.trans ?_ ih
    cases e with
    | add u =>
      have hsub : l.Sublist ((Edit.add u).apply l) := by
        by_cases hu : u ∈ l
        · rw [apply_add_of_mem hu]
        · rw [apply_add_of_not_mem hu]
          exact List.sublist_append_left l [u]
      simpa using hsub.filter fun t => decide (Edit.remove t ∉ log)
    | remove u =>
      have hsame : l.filter (fun t => decide (Edit.remove t ∉ Edit.remove u :: log)) =
          ((Edit.remove u).apply l).filter fun t => decide (Edit.remove t ∉ log) := by
        rw [apply_remove, List.filter_filter]
        apply List.filter_congr
        intro t _
        simp [Bool.and_comm]
      rw [hsame]

end Edits
