import Mathlib.Data.Int.CardIntervalMod
import Mathlib.Data.Int.ConditionallyCompleteOrder
import Mathlib.Data.List.Rotate
import Mathlib.Data.Rat.Floor
import Mathlib.Tactic.Lemma

/-!
# Going round a list

A list used as a ring: the places of one lap from any start are the rotated list (`lap_eq_rotate`),
and a block of consecutive integers, as many as a number of whole laps, names each member of a
list without repetition equally often (`card_block`). `length_filter_log` carries such a count over
to a log in which each integer of the block has exactly one entry, in any order.
-/

namespace Cyclic

open Finset

variable {α β : Type*}

/-- One lap visits the rotated list. -/
lemma lap_eq_rotate (xs : List α) (start : ℕ) :
    (List.range xs.length).map (fun offset => xs[(start + offset) % xs.length]?) =
      (xs.rotate start).map some := by
  apply List.ext_getElem
  · simp
  · intro i h₁ h₂
    have hi : i < xs.length := by simpa using h₁
    have hlt : (start + i) % xs.length < xs.length := Nat.mod_lt _ (by omega)
    simp only [List.getElem_map, List.getElem_range, List.getElem_rotate,
      List.getElem?_eq_getElem hlt, Option.some.injEq]
    congr 2
    omega

/-- The place of an integer going round. -/
def place (n : ℕ) (i : ℤ) : ℕ := (i % n).toNat

/-- A place is in the ring. -/
lemma place_lt {n : ℕ} (h : 0 < n) (i : ℤ) : place n i < n := by
  have h₁ := Int.emod_nonneg i (b := n) (by omega)
  have h₂ := Int.emod_lt_of_pos i (b := n) (by omega)
  unfold place
  omega

/-- Whole laps from `a` name each place equally often, also when the places are shifted. -/
lemma card_place {n : ℕ} {k : ℕ} (h : k < n) (a d : ℤ) (m : ℕ) :
    #{i ∈ Ico a (a + m * n) | place n (i + d) = k} = m := by
  have hn : (0 : ℤ) < n := by omega
  have heq : ∀ i : ℤ, place n (i + d) = k ↔ i ≡ k - d [ZMOD n] := by
    intro i
    have h₁ := Int.emod_nonneg (i + d) (b := n) (by omega)
    have h₂ : (k : ℤ) % n = k := Int.emod_eq_of_lt (by omega) (by omega)
    have hshift : i ≡ k - d [ZMOD n] ↔ i + d ≡ k [ZMOD n] := by
      constructor
      · intro hmod
        simpa using hmod.add_right d
      · intro hmod
        simpa using hmod.sub_right d
    rw [hshift]
    unfold place Int.ModEq
    rw [h₂]
    omega
  have hcard := Int.Ico_filter_modEq_card a (a + m * n) hn (k - d)
  have hshift : (((a + m * n : ℤ) : ℚ) - ((k - d : ℤ) : ℚ)) / ((n : ℤ) : ℚ) =
      ((a : ℚ) - ((k - d : ℤ) : ℚ)) / ((n : ℤ) : ℚ) + m := by
    have hne : (n : ℚ) ≠ 0 := by exact_mod_cast hn.ne'
    push_cast
    field_simp
    ring
  rw [filter_congr fun i _ => heq i]
  rw [hshift, Int.ceil_add_natCast] at hcard
  omega

/-- Whole laps over a list without repetition name each member equally often. -/
lemma card_block {xs : List α} (nodup : xs.Nodup) {x : α} (hx : x ∈ xs) [DecidableEq α] (a d : ℤ)
    (m : ℕ) : #{i ∈ Ico a (a + m * xs.length) | xs[place xs.length (i + d)]? = some x} = m := by
  obtain ⟨k, hk, rfl⟩ := List.getElem_of_mem hx
  have heq : ∀ i : ℤ, xs[place xs.length (i + d)]? = some xs[k] ↔ place xs.length (i + d) = k := by
    intro i
    have hlt := place_lt (by omega : 0 < xs.length) (i + d)
    rw [List.getElem?_eq_getElem hlt, Option.some.injEq, nodup.getElem_inj_iff]
  rw [filter_congr fun i _ => heq i]
  exact card_place hk a d m

/-- In a log with one entry for each integer of a block, each of them with the value of its
integer, a value stands as often as the integers of the block have it. -/
lemma length_filter_log {log : List (ℤ × β)} [DecidableEq β] {f : ℤ → β} {a b : ℤ}
    (nodup : (log.map Prod.fst).Nodup) (value : ∀ e ∈ log, e.2 = f e.1)
    (covers : ∀ i, a ≤ i → i < b → i ∈ log.map Prod.fst) (y : β) :
    (log.filter fun e => a ≤ e.1 ∧ e.1 < b ∧ e.2 = y).length = #{i ∈ Ico a b | f i = y} := by
  have hset : ((log.filter fun e => a ≤ e.1 ∧ e.1 < b ∧ e.2 = y).map Prod.fst).toFinset =
      {i ∈ Ico a b | f i = y} := by
    ext i
    simp only [List.mem_toFinset, List.mem_map, List.mem_filter, decide_eq_true_eq, mem_filter,
      mem_Ico]
    constructor
    · rintro ⟨e, ⟨hin, hle, hlt, hy⟩, rfl⟩
      exact ⟨⟨hle, hlt⟩, (value e hin).symm.trans hy⟩
    · rintro ⟨⟨hle, hlt⟩, hy⟩
      obtain ⟨e, hin, rfl⟩ := List.mem_map.1 (covers i hle hlt)
      exact ⟨e, ⟨hin, hle, hlt, (value e hin).trans hy⟩, rfl⟩
  have hnodup : ((log.filter fun e => a ≤ e.1 ∧ e.1 < b ∧ e.2 = y).map Prod.fst).Nodup :=
    nodup.sublist (List.filter_sublist.map _)
  rw [← hset, List.toFinset_card_of_nodup hnodup, List.length_map]

end Cyclic
