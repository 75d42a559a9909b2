import Mathlib.Algebra.BigOperators.Group.List.Basic
import Mathlib.Algebra.GroupWithZero.Nat
import Mathlib.Data.List.Sort
import Mathlib.Tactic.Lemma
import Mathlib.Tactic.TypeStar

/-!
# Queries over rows in no order

A query with an ORDER BY lists its rows in any order in which the keys are sorted: ties stand as they
like (`OrderBy`). Every ordering of some of the rows is part of an ordering of all of them
(`OrderBy.extend`), and two tables have the same listings exactly when they have the same rows
(`listings_same_iff`). The second part is about two tables that differ only in the rows of one owner.
-/

namespace Query

variable {α β γ : Type*}

/-! ## Listings -/

/-- A listing of the rows in the order `r`. -/
structure OrderBy (r : α → α → Prop) (rows out : List α) : Prop where
  perm : out.Perm rows
  sorted : out.Pairwise r

namespace OrderBy

variable {r : α → α → Prop} {rows rows' out : List α}

/-- The order of the rows does not matter for the result. -/
lemma of_perm (h : OrderBy r rows out) (hp : rows.Perm rows') : OrderBy r rows' out :=
  ⟨h.perm.trans hp, h.sorted⟩

/-- What is filtered stays in order. -/
lemma filter (h : OrderBy r rows out) (p : α → Bool) :
    OrderBy r (rows.filter p) (out.filter p) :=
  ⟨h.perm.filter p, h.sorted.filter p⟩

/-- What is left out can be put in at its place. -/
lemma filter_orderedInsert [DecidableRel r] {p : α → Bool} {a : α} (ha : p a = false)
    (l : List α) : (l.orderedInsert r a).filter p = l.filter p := by
  induction l with
  | nil => simp [ha]
  | cons b l ih =>
    rw [List.orderedInsert_cons]
    split
    · rw [List.filter_cons_of_neg (by simp [ha])]
    · rw [List.filter_cons, List.filter_cons, ih]

/-- An ordering of some of the rows is part of an ordering of all of them. -/
lemma extend [DecidableRel r] [Std.Total r] [IsTrans α r] {p : α → Bool} (rows : List α)
    {out : List α} (h : OrderBy r (rows.filter p) out) :
    ∃ out', OrderBy r rows out' ∧ out'.filter p = out := by
  -- the rows that the filter drops are inserted one by one
  have insert : ∀ dropped : List α, (∀ a ∈ dropped, p a = false) →
      ∃ out' : List α, out'.Perm (dropped ++ out) ∧ out'.Pairwise r ∧ out'.filter p = out := by
    intro dropped hdropped
    induction dropped with
    | nil =>
      refine ⟨out, List.Perm.refl _, h.sorted, ?_⟩
      apply List.filter_eq_self.2
      intro a ha
      exact (List.mem_filter.1 (h.perm.mem_iff.1 ha)).2
    | cons a dropped ih =>
      obtain ⟨out', hperm, hsorted, hfilter⟩ := ih (fun b hb => hdropped b (.tail _ hb))
      refine ⟨out'.orderedInsert r a, ?_, hsorted.orderedInsert a out', ?_⟩
      · exact (List.perm_orderedInsert r a out').trans (hperm.cons a)
      · rw [filter_orderedInsert (hdropped a List.mem_cons_self), hfilter]
  obtain ⟨out', hperm, hsorted, hfilter⟩ := insert (rows.filter fun a => !p a) (by
    intro a ha
    simpa using (List.mem_filter.1 ha).2)
  refine ⟨out', ⟨?_, hsorted⟩, hfilter⟩
  apply hperm.trans
  apply (h.perm.append_left _).trans
  exact List.perm_append_comm.trans (List.filter_append_perm p rows)

/-- A row that no other row may follow is the last one of every listing. -/
lemma last {a : α} (h : OrderBy r (rows ++ [a]) out) (hlast : ∀ b ∈ rows, ¬ r a b) :
    ∃ out', OrderBy r rows out' ∧ out = out' ++ [a] := by
  obtain ⟨before, after, rfl⟩ := List.append_of_mem
    (h.perm.mem_iff.2 (List.mem_append_right _ (List.mem_singleton_self a)))
  have hrest : (before ++ after).Perm rows := by
    have hmid : (a :: (before ++ after)).Perm (a :: rows) :=
      List.perm_middle.symm.trans (h.perm.trans (List.perm_append_singleton a rows))
    exact hmid.cons_inv
  obtain ⟨hbefore, hafter, _⟩ := List.pairwise_append.1 h.sorted
  cases after with
  | nil =>
    rw [List.append_nil] at hrest
    exact ⟨before, ⟨hrest, hbefore⟩, rfl⟩
  | cons b after =>
    have hb : b ∈ rows := hrest.mem_iff.1 (List.mem_append_right _ List.mem_cons_self)
    exact absurd ((List.pairwise_cons.1 hafter).1 b List.mem_cons_self) (hlast b hb)

/-- There is a result in order. -/
lemma exists_listing [DecidableRel r] [Std.Total r] [IsTrans α r] (rows : List α) :
    ∃ out, OrderBy r rows out := by
  have hnil : OrderBy r (rows.filter fun _ => false) [] := by
    rw [List.filter_false]
    exact ⟨List.Perm.refl _, List.Pairwise.nil⟩
  obtain ⟨out, h, _⟩ := extend rows hnil
  exact ⟨out, h⟩

end OrderBy

/-- Rows behind a permutation of their images. -/
lemma exists_map_of_perm {f : α → β} {o o' : List β} (h : o.Perm o') :
    ∀ rows : List α, rows.map f = o' → ∃ out : List α, out.Perm rows ∧ out.map f = o := by
  induction h with
  | nil =>
    intro rows hrows
    exact ⟨rows, List.Perm.refl _, hrows⟩
  | @cons b o o' _ ih =>
    intro rows hrows
    obtain ⟨a, rows, rfl, rfl, hrest⟩ := List.map_eq_cons_iff.1 hrows
    obtain ⟨out, hperm, hmap⟩ := ih rows hrest
    exact ⟨a :: out, hperm.cons a, by rw [List.map_cons, hmap]⟩
  | swap b b' o =>
    intro rows hrows
    obtain ⟨a, rows, rfl, rfl, hrest⟩ := List.map_eq_cons_iff.1 hrows
    obtain ⟨a', rows, rfl, rfl, rfl⟩ := List.map_eq_cons_iff.1 hrest
    exact ⟨a' :: a :: rows, List.Perm.swap a a' rows, rfl⟩
  | trans _ _ ih₁ ih₂ =>
    intro rows hrows
    obtain ⟨mid, hperm, hmap⟩ := ih₂ rows hrows
    obtain ⟨out, hperm', hmap'⟩ := ih₁ mid hmap
    exact ⟨out, hperm'.trans hperm, hmap'⟩

/-- Listing rows and then reading them is listing what is read, when the order is by what is read. -/
lemma orderBy_map_iff {f : α → β} {r : β → β → Prop} {rows : List α} {o : List β} :
    (∃ out, OrderBy (fun a b => r (f a) (f b)) rows out ∧ out.map f = o) ↔
      OrderBy r (rows.map f) o := by
  constructor
  · rintro ⟨out, h, rfl⟩
    exact ⟨h.perm.map f, List.pairwise_map.2 h.sorted⟩
  · intro h
    obtain ⟨out, hperm, rfl⟩ := exists_map_of_perm h.perm rows rfl
    exact ⟨out, ⟨hperm, List.pairwise_map.1 h.sorted⟩, rfl⟩

/-- Two tables have the same listings exactly when they have the same rows. -/
lemma listings_same_iff {r : α → α → Prop} [DecidableRel r] [Std.Total r] [IsTrans α r]
    {rows rows' : List α} : (∀ out, OrderBy r rows out ↔ OrderBy r rows' out) ↔
      rows.Perm rows' := by
  constructor
  · intro h
    obtain ⟨out, hout⟩ := OrderBy.exists_listing (r := r) rows
    exact hout.perm.symm.trans ((h out).1 hout).perm
  · intro hperm out
    exact ⟨fun h => h.of_perm hperm, fun h => h.of_perm hperm.symm⟩

/-- Answers made from listings are the same exactly when the listings are. -/
lemma answers_same_iff {mk : α → β} (hmk : Function.Injective mk) {P P' : α → Prop} :
    (∀ b, (∃ o, P o ∧ b = mk o) ↔ ∃ o, P' o ∧ b = mk o) ↔ ∀ o, P o ↔ P' o := by
  constructor
  · intro h o
    constructor
    · intro ho
      obtain ⟨o', ho', heq⟩ := (h (mk o)).1 ⟨o, ho, rfl⟩
      rw [hmk heq]
      exact ho'
    · intro ho
      obtain ⟨o', ho', heq⟩ := (h (mk o)).2 ⟨o, ho, rfl⟩
      rw [hmk heq]
      exact ho'
  · intro h b
    constructor
    · rintro ⟨o, ho, rfl⟩
      exact ⟨o, (h o).1 ho, rfl⟩
    · rintro ⟨o, ho, rfl⟩
      exact ⟨o, (h o).2 ho, rfl⟩

/-! ## Tables that differ in the rows of one owner -/

/-- The rows that are not the owner's are the same. -/
def AgreeOutside (own : α → Bool) (l l' : List α) : Prop :=
  (l.filter fun a => !own a).Perm (l'.filter fun a => !own a)

namespace AgreeOutside

variable {own : α → Bool} {l l' : List α}

/-- Agreement outside goes both ways. -/
lemma symm (h : AgreeOutside own l l') : AgreeOutside own l' l :=
  List.Perm.symm h

/-- The same rows of others are there. -/
lemma mem_iff (h : AgreeOutside own l l') {a : α} (ha : own a = false) : a ∈ l ↔ a ∈ l' := by
  have := List.Perm.mem_iff (a := a) h
  simpa [List.mem_filter, ha] using this

/-- A query that selects none of the owner's rows finds the same. -/
lemma filter_perm (h : AgreeOutside own l l') {p : α → Bool} (hp : ∀ a, p a = true → own a = false) :
    (l.filter p).Perm (l'.filter p) := by
  have hfilter : ∀ l : List α, (l.filter fun a => !own a).filter p = l.filter p := by
    intro l
    rw [List.filter_filter]
    apply List.filter_congr
    intro a _
    cases hpa : p a with
    | false => rfl
    | true => simp [hp a hpa]
  rw [← hfilter l, ← hfilter l']
  exact List.Perm.filter p h

/-- A table is the rows of others and one's own. -/
lemma split (own : α → Bool) (l : List α) :
    l.Perm ((l.filter fun a => !own a) ++ l.filter own) :=
  (List.filter_append_perm own l).symm.trans List.perm_append_comm

/-- What is read off the selected rows agrees exactly when it agrees on the owner's. -/
lemma map_filter_perm_iff (h : AgreeOutside own l l') (p : α → Bool) (f : α → β) :
    ((l.filter p).map f).Perm ((l'.filter p).map f) ↔
      (((l.filter own).filter p).map f).Perm (((l'.filter own).filter p).map f) := by
  have read : ∀ l : List α, ((l.filter p).map f).Perm
      (((l.filter fun a => !own a).filter p).map f ++ ((l.filter own).filter p).map f) := by
    intro l
    rw [← List.map_append, ← List.filter_append]
    exact ((split own l).filter p).map f
  have hrest := (List.Perm.filter p h).map f
  constructor
  · intro hperm
    have := (read l).symm.trans (hperm.trans (read l'))
    exact (List.perm_append_left_iff _).1 (this.trans (hrest.symm.append_right _))
  · intro hperm
    exact (read l).trans ((hrest.append hperm).trans (read l').symm)

/-- A measure that adds up over the rows agrees exactly when it agrees on the owner's. -/
lemma measure_eq_iff (h : AgreeOutside own l l') {m : List α → ℕ}
    (happend : ∀ l l', m (l ++ l') = m l + m l') (hperm : ∀ l l', l.Perm l' → m l = m l') :
    m l = m l' ↔ m (l.filter own) = m (l'.filter own) := by
  have total : ∀ l, m l = m (l.filter fun a => !own a) + m (l.filter own) := by
    intro l
    rw [← happend]
    exact hperm _ _ (split own l)
  rw [total l, total l', hperm _ _ h]
  exact Nat.add_left_cancel_iff

/-- Two counts are equal if those of one's own rows are. -/
lemma length_filter_eq_iff (h : AgreeOutside own l l') (p : α → Bool) :
    (l.filter p).length = (l'.filter p).length ↔
      ((l.filter own).filter p).length = ((l'.filter own).filter p).length := by
  apply h.measure_eq_iff (m := fun l => (l.filter p).length)
  · intro l l'
    rw [List.filter_append, List.length_append]
  · intro l l' hperm
    exact (hperm.filter p).length_eq

/-- Two sums are equal if those of one's own rows are. -/
lemma sum_filter_eq_iff (h : AgreeOutside own l l') (p : α → Bool) (f : α → ℕ) :
    ((l.filter p).map f).sum = ((l'.filter p).map f).sum ↔
      (((l.filter own).filter p).map f).sum = (((l'.filter own).filter p).map f).sum := by
  apply h.measure_eq_iff (m := fun l => ((l.filter p).map f).sum)
  · intro l l'
    rw [List.filter_append, List.map_append, List.sum_append]
  · intro l l' hperm
    exact ((hperm.filter p).map f).sum_eq

end AgreeOutside

end Query
