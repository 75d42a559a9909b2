import Mathlib.Data.List.Sort
import Mathlib.Tactic.Lemma

/-!
# Lists in a strict order

A list that is pairwise in a strict order is known by its elements (`Pairwise.eq_of_mem_iff`).
`appendNew` appends what a list does not have yet, and keeps the order when that comes behind what is
there; `atFront` puts an element that a list does not have before the others. `Before` is the order of a
fixed list, with the other elements behind it in the order of their type, and `sortBy` makes the list of
some elements in that order.
-/

namespace Ordered

section

variable {α : Type*} {R : α → α → Prop}

/-- Two lists in one strict order are equal if they have the same members. -/
lemma eq_iff_of_pairwise [Std.Irrefl R] [Std.Antisymm R] {l l' : List α} (h : l.Pairwise R)
    (h' : l'.Pairwise R) : l = l' ↔ ∀ a, a ∈ l ↔ a ∈ l' := by
  constructor
  · rintro rfl a
    exact Iff.rfl
  · exact h.eq_of_mem_iff h'

variable [DecidableEq α]

/-- The elements of `l` that are not there yet, each once. -/
def appendNew (acc l : List α) : List α :=
  l.foldl (fun acc a => if a ∉ acc then acc ++ [a] else acc) acc

def atFront (a : α) (l : List α) : List α :=
  if a ∈ l then l else a :: l

/-- Appending the new ones that pass, one by one. -/
lemma foldl_if_and {p : α → Prop} [DecidablePred p] (acc l : List α) :
    l.foldl (fun acc a => if p a ∧ a ∉ acc then acc ++ [a] else acc) acc =
      appendNew acc (l.filter p) := by
  unfold appendNew
  rw [List.foldl_filter]
  congr 1
  funext acc a
  by_cases hp : p a
  · simp [hp]
  · simp [hp]

/-- The members after appending the new ones. -/
lemma mem_appendNew {acc l : List α} {a : α} : a ∈ appendNew acc l ↔ a ∈ acc ∨ a ∈ l := by
  induction l generalizing acc with
  | nil => simp [appendNew]
  | cons b l ih =>
    show a ∈ appendNew (if b ∉ acc then acc ++ [b] else acc) l ↔ _
    rw [ih]
    split
    · rw [List.mem_append, List.mem_singleton, List.mem_cons, or_assoc]
    · rename_i hb
      rw [List.mem_cons]
      constructor
      · exact Or.imp_right Or.inr
      · intro h
        rcases h with h | rfl | h
        · exact .inl h
        · exact .inl (not_not.1 hb)
        · exact .inr h

/-- Elements that are behind those before them stay so. -/
lemma pairwise_appendNew {acc l : List α} (hacc : acc.Pairwise R)
    (hl : l.Pairwise fun a b => a ∉ acc → b ∉ acc → a ≠ b → R a b)
    (hbehind : ∀ a ∈ acc, ∀ b ∈ l, b ∉ acc → R a b) : (appendNew acc l).Pairwise R := by
  induction l generalizing acc with
  | nil => exact hacc
  | cons b l ih =>
    show (appendNew (if b ∉ acc then acc ++ [b] else acc) l).Pairwise R
    obtain ⟨hb, hl⟩ := List.pairwise_cons.1 hl
    split
    · rename_i hnew
      apply ih
      · apply List.pairwise_append.2
        refine ⟨hacc, List.pairwise_singleton _ _, ?_⟩
        intro a ha c hc
        rw [List.mem_singleton.1 hc]
        exact hbehind a ha b List.mem_cons_self hnew
      · apply hl.imp
        intro a c h ha hc
        exact h (fun hmem => ha (List.mem_append_left _ hmem))
          (fun hmem => hc (List.mem_append_left _ hmem))
      · intro a ha c hc hnc
        have hnc' : c ∉ acc := fun hmem => hnc (List.mem_append_left _ hmem)
        rcases List.mem_append.1 ha with ha | ha
        · exact hbehind a ha c (List.mem_cons_of_mem _ hc) hnc'
        · obtain rfl := List.mem_singleton.1 ha
          apply hb c hc hnew hnc'
          rintro rfl
          exact hnc (List.mem_append_right _ (List.mem_singleton_self _))
    · exact ih hacc hl fun a ha c hc => hbehind a ha c (List.mem_cons_of_mem _ hc)

/-- Distinct elements that are all new are appended as they are. -/
lemma appendNew_of_disjoint {acc l : List α} (hl : l.Nodup) (h : acc.Disjoint l) :
    appendNew acc l = acc ++ l := by
  induction l generalizing acc with
  | nil => simp [appendNew]
  | cons b l ih =>
    obtain ⟨hb, hl⟩ := List.nodup_cons.1 hl
    have hnew : b ∉ acc := fun hmem => h hmem List.mem_cons_self
    show appendNew (if b ∉ acc then acc ++ [b] else acc) l = _
    rw [if_pos hnew, ih hl, List.append_assoc]
    · rfl
    · intro a ha hal
      rcases List.mem_append.1 ha with ha | ha
      · exact h ha (List.mem_cons_of_mem _ hal)
      · rw [List.mem_singleton.1 ha] at hal
        exact hb hal

section

variable [Std.Irrefl R] [Std.Antisymm R]

/-- The element at the front of one list has been put at the front of the other. -/
lemma eq_cons_iff {l l' : List α} {x : α} (h : l.Pairwise R) (h' : l'.Pairwise R) (hx : x ∈ l)
    (hx' : x ∉ l') :
    l = x :: l' ↔ (∀ a, a ≠ x → (a ∈ l ↔ a ∈ l')) ∧ ∀ a ∈ l, a ≠ x → R x a := by
  constructor
  · rintro rfl
    obtain ⟨hfirst, _⟩ := List.pairwise_cons.1 h
    constructor
    · intro a ha
      rw [List.mem_cons]
      exact or_iff_right ha
    · intro a ha hne
      exact hfirst a ((List.mem_cons.1 ha).resolve_left hne)
  · intro ⟨hsame, hfirst⟩
    have hcons : (x :: l').Pairwise R := by
      apply List.pairwise_cons.2
      refine ⟨fun a ha => ?_, h'⟩
      have hne : a ≠ x := by
        rintro rfl
        exact hx' ha
      exact hfirst a ((hsame a hne).2 ha) hne
    apply (eq_iff_of_pairwise h hcons).2
    intro a
    by_cases ha : a = x
    · rw [ha]
      exact ⟨fun _ => List.mem_cons_self, fun _ => hx⟩
    · rw [hsame a ha, List.mem_cons, or_iff_right ha]

/-- When two lists are the same with an element at their front. -/
lemma atFront_eq_iff {l l' : List α} {x : α} (h : l.Pairwise R) (h' : l'.Pairwise R) :
    atFront x l = atFront x l' ↔ (∀ a, a ≠ x → (a ∈ l ↔ a ∈ l')) ∧
      ((x ∈ l ↔ x ∈ l') ∨ ∀ a ∈ l, a ≠ x → R x a) := by
  -- where both have the element, or neither, the lists themselves are the same
  have hboth : (x ∈ l ↔ x ∈ l') →
      (l = l' ↔ (∀ a, a ≠ x → (a ∈ l ↔ a ∈ l')) ∧
        ((x ∈ l ↔ x ∈ l') ∨ ∀ a ∈ l, a ≠ x → R x a)) := by
    intro hx
    rw [eq_iff_of_pairwise h h']
    constructor
    · exact fun hsame => ⟨fun a _ => hsame a, .inl hx⟩
    · intro ⟨hsame, _⟩ a
      by_cases ha : a = x
      · rw [ha]
        exact hx
      · exact hsame a ha
  unfold atFront
  by_cases hx : x ∈ l
  · by_cases hx' : x ∈ l'
    · rw [if_pos hx, if_pos hx']
      exact hboth (iff_of_true hx hx')
    · rw [if_pos hx, if_neg hx', eq_cons_iff h h' hx hx']
      have hne : ¬ (x ∈ l ↔ x ∈ l') := fun hiff => hx' (hiff.1 hx)
      rw [or_iff_right hne]
  · by_cases hx' : x ∈ l'
    · rw [if_neg hx, if_pos hx', eq_comm, eq_cons_iff h' h hx' hx]
      have hne : ¬ (x ∈ l ↔ x ∈ l') := fun hiff => hx (hiff.2 hx')
      rw [or_iff_right hne]
      constructor
      · intro ⟨hsame, hfirst⟩
        exact ⟨fun a ha => (hsame a ha).symm, fun a ha hax => hfirst a ((hsame a hax).2 ha) hax⟩
      · intro ⟨hsame, hfirst⟩
        exact ⟨fun a ha => (hsame a ha).symm, fun a ha hax => hfirst a ((hsame a hax).2 ha) hax⟩
    · rw [if_neg hx, if_neg hx', List.cons_inj_right]
      exact hboth (iff_of_false hx hx')

end

/-- In the order of a list, and behind its elements in that of the type. -/
def Before [LT α] (order : List α) (a b : α) : Prop :=
  order.idxOf a < order.idxOf b ∨ (order.idxOf a = order.idxOf b ∧ a < b)

/-- Some elements in that order. -/
def sortBy [LE α] [DecidableLE α] (order l : List α) : List α :=
  appendNew (order.filter (· ∈ l)) (l.insertionSort (· ≤ ·))

/-- Sorting keeps the members. -/
lemma mem_sortBy [LE α] [DecidableLE α] {order l : List α} {a : α} : a ∈ sortBy order l ↔ a ∈ l := by
  unfold sortBy
  rw [mem_appendNew, List.mem_insertionSort, List.mem_filter, decide_eq_true_eq]
  exact or_iff_right_of_imp And.right

end

section

variable {α : Type*} [LinearOrder α] {order : List α}

instance (order : List α) : Std.Irrefl (Before order) where
  irrefl a h := by
    rcases h with h | ⟨_, h⟩
    · exact lt_irrefl _ h
    · exact lt_irrefl _ h

instance (order : List α) : Std.Antisymm (Before order) where
  antisymm a b h h' := by
    rcases h with h | ⟨heq, h⟩
    · rcases h' with h' | ⟨heq', _⟩
      · exact absurd h' (lt_asymm h)
      · exact absurd heq' h.ne'
    · rcases h' with h' | ⟨_, h'⟩
      · exact absurd heq h'.ne'
      · exact absurd h' (lt_asymm h)

/-- A list without duplicates is in its own order. -/
lemma pairwise_idxOf (h : order.Nodup) : order.Pairwise (Before order) := by
  apply List.pairwise_iff_getElem.2
  intro i j hi hj hij
  left
  rw [h.idxOf_getElem, h.idxOf_getElem]
  exact hij

/-- A sorted list is in the order it was sorted by. -/
lemma pairwise_sortBy (h : order.Nodup) (l : List α) : (sortBy order l).Pairwise (Before order) := by
  -- what is not yet there after the first pass is not in the list of the order
  have hother : ∀ a ∈ l, a ∉ order.filter (· ∈ l) → order.idxOf a = order.length := by
    intro a ha hnot
    apply List.idxOf_eq_length_iff.2
    intro hmem
    exact hnot (List.mem_filter.2 ⟨hmem, decide_eq_true ha⟩)
  apply pairwise_appendNew
  · exact (pairwise_idxOf h).sublist List.filter_sublist
  · apply List.Pairwise.imp_of_mem _ (List.pairwise_insertionSort (· ≤ ·) l)
    intro a b ha hb hle hna hnb hne
    right
    rw [hother a ((List.mem_insertionSort _).1 ha) hna, hother b ((List.mem_insertionSort _).1 hb) hnb]
    exact ⟨rfl, lt_of_le_of_ne hle hne⟩
  · intro a ha b hb hnb
    left
    rw [hother b ((List.mem_insertionSort _).1 hb) hnb]
    exact List.idxOf_lt_length_iff.2 (List.mem_filter.1 ha).1

/-- First the elements in the order of the list, then the others in that of the type. -/
lemma sortBy_eq_append (h : order.Nodup) (l : List α) :
    ∃ rest : List α, rest.Pairwise (· < ·) ∧ (∀ a, a ∈ rest ↔ a ∈ l ∧ a ∉ order) ∧
      sortBy order l = order.filter (· ∈ l) ++ rest := by
  have hmem : ∀ a, a ∈ (sortBy order l).filter (· ∉ order) ↔ a ∈ l ∧ a ∉ order := by
    intro a
    rw [List.mem_filter, mem_sortBy, decide_eq_true_eq]
  have hrest : ((sortBy order l).filter (· ∉ order)).Pairwise (Before order) :=
    (pairwise_sortBy h l).sublist List.filter_sublist
  refine ⟨(sortBy order l).filter (· ∉ order), ?_, hmem, ?_⟩
  · apply hrest.imp_of_mem
    intro a b ha hb hab
    have ha' := List.idxOf_eq_length_iff.2 ((hmem a).1 ha).2
    have hb' := List.idxOf_eq_length_iff.2 ((hmem b).1 hb).2
    rcases hab with hab | ⟨_, hab⟩
    · rw [ha', hb'] at hab
      exact absurd hab (lt_irrefl _)
    · exact hab
  · have hlist : (order.filter (· ∈ l) ++ (sortBy order l).filter (· ∉ order)).Pairwise
        (Before order) := by
      apply List.pairwise_append.2
      refine ⟨(pairwise_idxOf h).sublist List.filter_sublist, hrest, ?_⟩
      intro a ha b hb
      left
      rw [List.idxOf_eq_length_iff.2 ((hmem b).1 hb).2]
      exact List.idxOf_lt_length_iff.2 (List.mem_filter.1 ha).1
    apply (eq_iff_of_pairwise (pairwise_sortBy h l) hlist).2
    intro a
    rw [mem_sortBy, List.mem_append, hmem, List.mem_filter, decide_eq_true_eq]
    constructor
    · intro ha
      rcases em (a ∈ order) with horder | horder
      · exact .inl ⟨horder, ha⟩
      · exact .inr ⟨ha, horder⟩
    · intro ha
      rcases ha with ha | ha
      · exact ha.2
      · exact ha.1

end

end Ordered
