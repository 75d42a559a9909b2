import Mathlib.Data.List.Nodup
import Mathlib.Tactic.Lemma
import Mathlib.Tactic.TypeStar

/-!
# Filling in what is missing

A list of seeds, each under a key, against the keys that are taken: `missing` are the seeds still to
be added. Once they are added every key is taken (`keys_covered`), so that filling in again adds
nothing (`missing_filled`), and a key that was free is taken once (`count_filled`).
-/

namespace Backfill

variable {α κ : Type*} [DecidableEq κ] {key : α → κ} {taken : List κ} {seeds : List α}

/-- The seeds whose key is not taken. -/
def missing (key : α → κ) (taken : List κ) (seeds : List α) : List α :=
  seeds.filter fun s => key s ∉ taken

/-- The keys once the missing seeds are there. -/
def filled (key : α → κ) (taken : List κ) (seeds : List α) : List κ :=
  taken ++ (missing key taken seeds).map key

/-- A seed is missing if its key is not taken. -/
lemma mem_missing {s : α} : s ∈ missing key taken seeds ↔ s ∈ seeds ∧ key s ∉ taken := by
  simp [missing]

/-- Nothing is missing where every seed's key is taken. -/
lemma missing_eq_nil_iff : missing key taken seeds = [] ↔ ∀ s ∈ seeds, key s ∈ taken := by
  simp [missing, List.filter_eq_nil_iff]

/-- A seed that is left out is one whose key is taken. -/
lemma mem_filled_of_mem {s : α} (hs : s ∈ seeds) : key s ∈ filled key taken seeds := by
  by_cases h : key s ∈ taken
  · exact List.mem_append_left _ h
  · exact List.mem_append_right _ (List.mem_map_of_mem (mem_missing.2 ⟨hs, h⟩))

/-- Filling in again adds nothing. -/
lemma missing_filled : missing key (filled key taken seeds) seeds = [] :=
  missing_eq_nil_iff.2 fun _ hs => mem_filled_of_mem hs

/-- The seeds that are added are no two of one key. -/
lemma nodup_map_missing (h : (seeds.map key).Nodup) : ((missing key taken seeds).map key).Nodup :=
  h.sublist (List.filter_sublist.map key)

/-- A key that is taken is not taken again, and the free key of a seed is taken once. -/
lemma count_filled (h : (seeds.map key).Nodup) {s : α} (hs : s ∈ seeds) :
    (filled key taken seeds).count (key s) = max 1 (taken.count (key s)) := by
  unfold filled
  rw [List.count_append]
  by_cases hk : key s ∈ taken
  · have hnot : key s ∉ (missing key taken seeds).map key := by
      intro hmem
      obtain ⟨s', hs', heq⟩ := List.mem_map.1 hmem
      rw [← heq] at hk
      exact (mem_missing.1 hs').2 hk
    rw [List.count_eq_zero.2 hnot]
    have := List.one_le_count_iff.2 hk
    omega
  · have hmem : key s ∈ (missing key taken seeds).map key :=
      List.mem_map_of_mem (mem_missing.2 ⟨hs, hk⟩)
    rw [List.count_eq_zero.2 hk, List.count_eq_one_of_mem (nodup_map_missing h) hmem]
    rfl

end Backfill
