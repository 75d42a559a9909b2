import Mathlib.Algebra.Group.Nat.Defs
import Mathlib.Data.List.Basic
import Mathlib.Order.Lex
import Mathlib.Tactic.Lemma

/-!
# Decimal numerals

Unpadded numerals (`toString`) joined by a separator, as in stamps such as `1719500000-42`: the
pair is determined by the text (`dashed_inj`). Numerals padded with zeros to a fixed width
(`pad`), as in ISO dates: on numbers that fit the width, the lexicographic order of the texts is
the order of the numbers, whatever text follows (`pad_append_lt_iff`).
-/

namespace Decimal

/-- Two numbers joined by a dash. -/
def dashed (a b : Nat) : String :=
  toString a ++ "-" ++ toString b

/-- The characters of two numbers with a dash between. -/
lemma toList_dashed (a b : Nat) :
    (dashed a b).toList = Nat.toDigits 10 a ++ '-' :: Nat.toDigits 10 b := by
  simp [dashed]

/-- There is no dash in the digits of a number. -/
lemma dash_notMem_toDigits (n : Nat) : '-' ∉ Nat.toDigits 10 n := by
  intro h
  have hd := Nat.isDigit_of_mem_toDigits (by decide) (by decide) h
  exact absurd hd (by decide)

/-- The digits tell the number. -/
lemma toDigits_inj {a b : Nat} (h : Nat.toDigits 10 a = Nat.toDigits 10 b) : a = b := by
  rw [← Nat.ofDigitChars_ten_toDigits (n := a), h, Nat.ofDigitChars_ten_toDigits]

/-- The text of a stamp determines both numbers. -/
lemma dashed_inj {a b a' b' : Nat} : dashed a b = dashed a' b' ↔ a = a' ∧ b = b' := by
  refine ⟨fun h => ?_, fun ⟨ha, hb⟩ => by rw [ha, hb]⟩
  have h' := congrArg String.toList h
  rw [toList_dashed, toList_dashed,
    List.append_cons_inj_of_notMem (dash_notMem_toDigits a) (dash_notMem_toDigits b)] at h'
  exact ⟨toDigits_inj h'.1, toDigits_inj h'.2.2⟩

/-- The last `w` decimal digits of `n`, padded with zeros. -/
def pad : Nat → Nat → List Char
  | 0, _ => []
  | w + 1, n => pad w (n / 10) ++ [(n % 10).digitChar]

/-- A padded number has its width. -/
@[simp] lemma length_pad (w n : Nat) : (pad w n).length = w := by
  induction w generalizing n with
  | zero => rfl
  | succ w ih => simp [pad, ih]

/-- Lists that start with blocks of one length compare block by block. -/
lemma append_lt_append_iff {l l' r r' : List Char} (h : l.length = l'.length) :
    l ++ r < l' ++ r' ↔ l < l' ∨ (l = l' ∧ r < r') := by
  induction l generalizing l' with
  | nil =>
    cases l' with
    | nil => simp
    | cons => simp at h
  | cons c l ih =>
    cases l' with
    | nil => simp at h
    | cons c' l' =>
      have ih' : l ++ r < l' ++ r' ↔ l < l' ∨ (l = l' ∧ r < r') := ih (by simpa using h)
      simp only [List.cons_append, List.cons_lt_cons_iff, ih', List.cons.injEq]
      tauto

/-- The digits are ordered like the numbers. -/
lemma digitChar_lt_iff : ∀ a < 10, ∀ b < 10,
    ([a.digitChar] < [b.digitChar] ↔ a < b) := by
  decide

/-- The digits differ like the numbers. -/
lemma digitChar_inj : ∀ a < 10, ∀ b < 10, (a.digitChar = b.digitChar ↔ a = b) := by
  decide

/-- Padded numerals of numbers that fit are equal only for equal numbers. -/
lemma pad_inj {w a b : Nat} (ha : a < 10 ^ w) (hb : b < 10 ^ w) : pad w a = pad w b ↔ a = b := by
  induction w generalizing a b with
  | zero => simp at ha hb; simp [ha, hb]
  | succ w ih =>
    rw [Nat.pow_succ] at ha hb
    have ih' := ih (a := a / 10) (b := b / 10) (by omega) (by omega)
    have hd := digitChar_inj (a % 10) (by omega) (b % 10) (by omega)
    simp only [pad, List.append_singleton_inj, ih', hd]
    omega

/-- Padded numerals of numbers that fit compare as the numbers do. -/
lemma pad_lt_iff {w a b : Nat} (ha : a < 10 ^ w) (hb : b < 10 ^ w) :
    pad w a < pad w b ↔ a < b := by
  induction w generalizing a b with
  | zero => simp at ha hb; simp [pad, ha, hb]
  | succ w ih =>
    rw [Nat.pow_succ] at ha hb
    have ih' := ih (a := a / 10) (b := b / 10) (by omega) (by omega)
    have hq := pad_inj (w := w) (a := a / 10) (b := b / 10) (by omega) (by omega)
    have hd := digitChar_lt_iff (a % 10) (by omega) (b % 10) (by omega)
    rw [pad, pad, append_lt_append_iff (by simp), ih', hq, hd]
    omega

/-- The order of padded numerals with texts after them. -/
lemma pad_append_lt_iff {w a b : Nat} {x y : List Char} (ha : a < 10 ^ w) (hb : b < 10 ^ w) :
    pad w a ++ x < pad w b ++ y ↔ a < b ∨ (a = b ∧ x < y) := by
  rw [append_lt_append_iff (by simp), pad_lt_iff ha hb, pad_inj ha hb]

end Decimal
