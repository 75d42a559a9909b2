import InstantBoard.Lib.Query
import Mathlib.Data.List.Perm.Basic

/-!
# Pages of listings with ties

Pages are cut by offset and limit, each from a listing of its own: the rows are the same, but rows
that tie in the order may stand differently every time. Two listings have tied rows at each place
(`tied`), so the pages one after the other are in order whatever the ties (`pages_sorted`). That
they have every row once needs more: that no group of tied rows straddles a cut
(`take_perm_of_clean`), or that the listings are the same (`pages_perm`).
-/

namespace Query

variable {α : Type*} {r : α → α → Prop}

/-- Some group of tied rows stands on both sides of the cut after `n` rows: the rows before the
group are fewer than `n`, and with the group they are more. -/
def Straddles (r : α → α → Prop) [DecidableRel r] (rows : List α) (n : ℕ) : Prop :=
  ∃ a ∈ rows, rows.countP (fun x => ¬ r a x) < n ∧ n < rows.countP (fun x => r x a)

instance [DecidableRel r] (rows : List α) (n : ℕ) : Decidable (Straddles r rows n) :=
  inferInstanceAs (Decidable (∃ a ∈ rows, _))

/-- The page that starts after `i` pages of `k` rows. -/
def page (k i : ℕ) (out : List α) : List α := (out.drop (i * k)).take k

/-- The first `n` pages, each cut from a listing of its own. -/
def pages (k n : ℕ) (out : ℕ → List α) : List α :=
  (List.range n).flatMap fun i => page k i (out i)

namespace OrderBy

variable {rows out out' : List α}

/-- What stands before a place and what stands behind it, in a listing. -/
lemma cut (h : OrderBy r rows out) {n : ℕ} {a b : α} (ha : a ∈ out.take n) (hb : b ∈ out.drop n) :
    r a b := by
  have hsorted := h.sorted
  rw [← List.take_append_drop n out, List.pairwise_append] at hsorted
  exact hsorted.2.2 a ha b hb

/-- The rows of a listing are counted on the two sides of a cut. -/
lemma countP_cut (h : OrderBy r rows out) (p : α → Bool) (n : ℕ) :
    rows.countP p = (out.take n).countP p + (out.drop n).countP p := by
  rw [← List.countP_append, List.take_append_drop]
  exact h.perm.symm.countP_eq p

variable [DecidableRel r] [Std.Total r]

/-- Where no group of ties straddles a cut, a row stands before it exactly if all that come before it
or tie with it have room there. -/
lemma mem_take_iff (h : OrderBy r rows out) {n : ℕ} (clean : ¬ Straddles r rows n) {a : α}
    (ha : a ∈ rows) : a ∈ out.take n ↔ rows.countP (fun x => r x a) ≤ n := by
  constructor
  · intro hin
    by_contra hmany
    apply clean
    refine ⟨a, ha, ?_, by omega⟩
    -- the rows strictly before `a` are before the cut, and so is `a`
    have hnone : (out.drop n).countP (fun x => ¬ r a x) = 0 := by
      rw [List.countP_eq_zero]
      intro x hx hax
      exact of_decide_eq_true hax (h.cut hin hx)
    rw [h.countP_cut _ n, hnone, Nat.add_zero]
    have hle : (out.take n).length ≤ n := List.length_take_le _ _
    have hne : (out.take n).countP (fun x => ¬ r a x) ≠ (out.take n).length := by
      intro heq
      exact of_decide_eq_true (List.countP_eq_length.1 heq a hin) (refl_of r a)
    have hlen : (out.take n).countP (fun x => ¬ r a x) ≤ (out.take n).length :=
      List.countP_le_length
    omega
  · intro hroom
    by_contra hout
    have hin : a ∈ out.drop n := by
      have hmem := h.perm.mem_iff.2 ha
      rw [← List.take_append_drop n out, List.mem_append] at hmem
      exact hmem.resolve_left hout
    have hall : (out.take n).countP (fun x => r x a) = (out.take n).length := by
      rw [List.countP_eq_length]
      intro x hx
      exact decide_eq_true (h.cut hx hin)
    have hself : 0 < (out.drop n).countP (fun x => r x a) :=
      List.countP_pos_iff.2 ⟨a, hin, decide_eq_true (refl_of r a)⟩
    have hlong : (out.take n).length = n := by
      have hpos := List.length_pos_of_mem hin
      rw [List.length_drop] at hpos
      rw [List.length_take]
      omega
    rw [h.countP_cut _ n, hall, hlong] at hroom
    omega

/-- Where no group of ties straddles a cut, all listings have the same rows before it. -/
lemma take_perm_of_clean (nodup : rows.Nodup) (h : OrderBy r rows out) (h' : OrderBy r rows out')
    {n : ℕ} (clean : ¬ Straddles r rows n) : (out'.take n).Perm (out.take n) := by
  have hnodup : ∀ {l}, OrderBy r rows l → (l.take n).Nodup := fun hl =>
    (hl.perm.nodup_iff.2 nodup).sublist (List.take_sublist _ _)
  rw [List.perm_ext_iff_of_nodup (hnodup h') (hnodup h)]
  intro a
  by_cases ha : a ∈ rows
  · rw [h'.mem_take_iff clean ha, h.mem_take_iff clean ha]
  · have hnot : ∀ {l}, OrderBy r rows l → a ∉ l.take n := fun hl hin =>
      ha (hl.perm.mem_iff.1 (List.mem_of_mem_take hin))
    exact iff_of_false (hnot h') (hnot h)

variable [IsTrans α r]

/-- At one place, the rows of two listings do not come one strictly after the other. -/
lemma le_of_getElem? (h : OrderBy r rows out) (h' : OrderBy r rows out') {j : ℕ} {a b : α}
    (ha : out[j]? = some a) (hb : out'[j]? = some b) : r a b := by
  by_contra hab
  -- up to `b` there are more than `j` rows in the one listing, and at most `j` in the other
  obtain ⟨hj, hbj⟩ := List.getElem?_eq_some_iff.1 hb
  obtain ⟨hj', haj⟩ := List.getElem?_eq_some_iff.1 ha
  have hmany : j + 1 ≤ rows.countP fun x => r x b := by
    rw [h'.countP_cut _ (j + 1)]
    have hall : (out'.take (j + 1)).countP (fun x => r x b) = (out'.take (j + 1)).length := by
      rw [List.countP_eq_length]
      intro x hx
      rw [List.take_add_one, hb, List.mem_append] at hx
      rcases hx with hx | hx
      · have hbd : b ∈ out'.drop j := by
          rw [List.drop_eq_getElem_cons hj, hbj]
          exact List.mem_cons_self
        exact decide_eq_true (h'.cut hx hbd)
      · cases Option.mem_toList.1 hx
        exact decide_eq_true (refl_of r b)
    rw [hall, List.length_take]
    omega
  have hfew : rows.countP (fun x => r x b) ≤ j := by
    rw [h.countP_cut _ j]
    have hnone : (out.drop j).countP (fun x => r x b) = 0 := by
      rw [List.countP_eq_zero]
      intro x hx hxb
      have hxb : r x b := of_decide_eq_true hxb
      rw [List.drop_eq_getElem_cons hj', haj] at hx
      rcases List.mem_cons.1 hx with rfl | hx
      · exact hab hxb
      · have hax : r a x := by
          apply h.cut (n := j + 1) _ hx
          rw [List.take_add_one, ha]
          simp
        exact hab (trans_of r hax hxb)
    rw [hnone, Nat.add_zero]
    exact List.countP_le_length.trans (List.length_take_le _ _)
  omega

/-- Two listings have tied rows at each place, so what one lists before a place comes before what
the other lists behind it. -/
lemma across (h : OrderBy r rows out) (h' : OrderBy r rows out') {i j : ℕ} {a b : α} (hij : i < j)
    (ha : out[i]? = some a) (hb : out'[j]? = some b) : r a b := by
  obtain ⟨hj, hbj⟩ := List.getElem?_eq_some_iff.1 hb
  have hi : i < out'.length := by omega
  have htied : r a out'[i] := h.le_of_getElem? h' ha (List.getElem?_eq_getElem hi)
  have hnext : r out'[i] b := by
    rw [← hbj]
    exact List.pairwise_iff_getElem.1 h'.sorted i j hi hj hij
  exact trans_of r htied hnext

end OrderBy

/-! ## The pages one after the other -/

variable {k : ℕ} {rows : List α} {out : ℕ → List α}

/-- What is on a page has its place there in the list. -/
lemma getElem?_of_mem_page {i : ℕ} {l : List α} {a : α} (h : a ∈ page k i l) :
    ∃ j, i * k ≤ j ∧ j < (i + 1) * k ∧ l[j]? = some a := by
  obtain ⟨j, hj⟩ := List.mem_iff_getElem?.1 h
  unfold page at hj
  rw [List.getElem?_take] at hj
  split at hj
  · rename_i hlt
    rw [List.getElem?_drop] at hj
    refine ⟨i * k + j, Nat.le_add_right _ _, ?_, hj⟩
    rw [Nat.succ_mul]
    omega
  · cases hj

/-- The rows of an earlier page come before those of a later one, whatever the ties. -/
lemma page_across [DecidableRel r] [Std.Total r] [IsTrans α r] {l l' : List α}
    (h : OrderBy r rows l) (h' : OrderBy r rows l') {i i' : ℕ} (hlt : i < i') {a b : α}
    (ha : a ∈ page k i l) (hb : b ∈ page k i' l') : r a b := by
  obtain ⟨j, _, hj, haj⟩ := getElem?_of_mem_page ha
  obtain ⟨j', hj', _, hbj⟩ := getElem?_of_mem_page hb
  have hpages : (i + 1) * k ≤ i' * k := Nat.mul_le_mul_right k hlt
  exact h.across h' (by omega) haj hbj

/-- The pages one after the other are in order, whatever the ties. -/
lemma pages_sorted [DecidableRel r] [Std.Total r] [IsTrans α r] (h : ∀ i, OrderBy r rows (out i))
    (n : ℕ) : (pages k n out).Pairwise r := by
  unfold pages
  rw [List.pairwise_flatMap]
  constructor
  · intro i _
    exact ((h i).sorted.sublist (List.drop_sublist _ _)).sublist (List.take_sublist _ _)
  · apply List.Pairwise.imp _ List.pairwise_lt_range
    intro i i' hlt a ha b hb
    exact page_across (h i) (h i') hlt ha hb

/-- Where the listings agree on what stands before each cut, the pages are a listing cut in pages. -/
lemma pages_perm {l : List α} (agree : ∀ i n, (∃ m, n = m * k) → ((out i).take n).Perm (l.take n))
    (n : ℕ) : (pages k n out).Perm (l.take (n * k)) := by
  induction n with
  | zero => simp [pages]
  | succ n ih =>
    have hlast : (page k n (out n)).Perm (page k n l) := by
      have hcut := agree n ((n + 1) * k) ⟨n + 1, rfl⟩
      rw [Nat.succ_mul, List.take_add, List.take_add] at hcut
      have hfront := (agree n (n * k) ⟨n, rfl⟩).symm
      exact (List.perm_append_left_iff _).1 ((hfront.append_right _).trans hcut)
    have hsplit : pages k (n + 1) out = pages k n out ++ page k n (out n) := by
      unfold pages
      rw [List.range_succ, List.flatMap_append, List.flatMap_singleton]
    rw [hsplit, Nat.succ_mul, List.take_add]
    exact ih.append hlast

end Query
