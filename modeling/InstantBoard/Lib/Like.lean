import Mathlib.Data.List.Infix
import Mathlib.Tactic.Lemma

/-!
# LIKE patterns

Matching a text with an SQL pattern: `%` is any characters, `_` is one, and a backslash takes away the
meaning of the character after it. A plain term, one without these three, matches between two `%` the
texts that contain it (`like_within`).
-/

namespace Like

/-- `text LIKE pattern` -/
def like : List Char → List Char → Bool
  | [], t => t.isEmpty
  | '%' :: p, t => t.tails.any (like p)
  | '_' :: p, t => t.head?.isSome && like p t.tail
  | '\\' :: c :: p, t => t.head? == some c && like p t.tail
  | c :: p, t => t.head? == some c && like p t.tail

/-- The characters that a pattern does not take as they are. -/
def SPECIAL : List Char :=
  ['%', '_', '\\']

/-- A term that stands for itself only. -/
def Plain (q : List Char) : Prop :=
  ∀ c ∈ q, c ∉ SPECIAL

instance (q : List Char) : Decidable (Plain q) :=
  List.decidableBAll _ _

variable {p q t : List Char}

/-- A percent sign skips any part of the text. -/
lemma like_percent : like ('%' :: p) t = true ↔ ∃ b, b <:+ t ∧ like p b = true := by
  rw [like, List.any_eq_true]
  simp only [List.mem_tails]

/-- A percent sign alone matches every text. -/
lemma like_all (t : List Char) : like ['%'] t = true :=
  like_percent.2 ⟨[], List.nil_suffix, rfl⟩

/-- What is not special matches itself. -/
lemma like_cons {c : Char} (hc : c ∉ SPECIAL) :
    like (c :: p) t = true ↔ ∃ b, t = c :: b ∧ like p b = true := by
  have hstep : like (c :: p) t = (t.head? == some c && like p t.tail) := by
    rw [like]
    · rintro rfl
      exact hc (by decide)
    · rintro rfl
      exact hc (by decide)
    · rintro c' p' rfl _
      exact hc (by decide)
  rw [hstep]
  cases t with
  | nil => simp
  | cons d t =>
    simp only [List.head?_cons, List.tail_cons, Bool.and_eq_true, beq_iff_eq, Option.some.injEq,
      List.cons.injEq]
    constructor
    · rintro ⟨rfl, h⟩
      exact ⟨t, ⟨rfl, rfl⟩, h⟩
    · rintro ⟨b, ⟨rfl, rfl⟩, h⟩
      exact ⟨rfl, h⟩

/-- A plain text before a pattern is matched as it is. -/
lemma like_append (hq : Plain q) :
    like (q ++ p) t = true ↔ ∃ b, t = q ++ b ∧ like p b = true := by
  induction q generalizing t with
  | nil => simp
  | cons c q ih =>
    rw [List.cons_append, like_cons (hq c List.mem_cons_self)]
    constructor
    · rintro ⟨b, rfl, hb⟩
      obtain ⟨r, rfl, hr⟩ := (ih fun c hc => hq c (List.mem_cons_of_mem _ hc)).1 hb
      exact ⟨r, rfl, hr⟩
    · rintro ⟨r, rfl, hr⟩
      exact ⟨q ++ r, rfl, (ih fun c hc => hq c (List.mem_cons_of_mem _ hc)).2 ⟨r, rfl, hr⟩⟩

/-- A plain term at the start of a text. -/
lemma like_start (hq : Plain q) : like (q ++ ['%']) t = true ↔ q <+: t := by
  rw [like_append hq]
  constructor
  · rintro ⟨b, rfl, _⟩
    exact List.prefix_append q b
  · rintro ⟨b, rfl⟩
    exact ⟨b, rfl, like_all b⟩

/-- A plain term anywhere in a text. -/
lemma like_within (hq : Plain q) :
    like ('%' :: (q ++ ['%'])) t = true ↔ q <:+: t := by
  rw [like_percent]
  simp only [like_start hq]
  constructor
  · rintro ⟨b, hb, hpre⟩
    exact hpre.isInfix.trans hb.isInfix
  · rintro ⟨a, b, rfl⟩
    exact ⟨q ++ b, ⟨a, (List.append_assoc a q b).symm⟩, List.prefix_append q b⟩

end Like
