import Mathlib.Data.List.Basic
import Mathlib.Tactic.Lemma
import Mathlib.Tactic.TypeStar

/-!
# Rounds of a log

A log of events of which some count and some open a round. The rounds of a counter that restarts only
when it has been left alone for a while are far apart: an opener comes more than a window after the
one before it (`Round.former`). A log is cut at its last opener (`Round`), and grows in the round
(`Round.grow`) or by a new one (`Round.next`). As long as no round has more than `limit` events, no
more than `limit` fall into the window that an opener starts (`Limited.grow`, `Limited.next`).
-/

namespace Rounds

/-- What is read off an event. -/
structure Reading (α : Type*) where
  time : α → Nat
  counts : α → Bool
  opens : α → Bool

variable {α : Type*} (r : Reading α)

/-- An event that counts, at a time from `t` to `u`. -/
def Reading.countsIn (t u : Nat) (e : α) : Bool :=
  r.counts e && decide (t ≤ r.time e) && decide (r.time e ≤ u)

variable {r}

/-- What counts in a span of time. -/
lemma Reading.countsIn_iff {t u : Nat} {e : α} :
    r.countsIn t u e = true ↔ r.counts e = true ∧ t ≤ r.time e ∧ r.time e ≤ u := by
  unfold Reading.countsIn
  rw [Bool.and_eq_true, Bool.and_eq_true, decide_eq_true_iff, decide_eq_true_iff, and_assoc]

/-- At most as many count in a span as count at all. -/
lemma countP_countsIn_le {t u : Nat} {l : List α} : l.countP (r.countsIn t u) ≤ l.countP r.counts :=
  List.countP_mono_left fun _ _ h => (Reading.countsIn_iff.1 h).1

variable (r) in
/-- The log is cut at its last opener. -/
structure Round (window : Nat) (log before : List α) (x : α) (after : List α) : Prop where
  split : log = before ++ x :: after
  opens : r.opens x = true
  single : ∀ e ∈ after, r.opens e = false
  later : ∀ e ∈ after, r.time x ≤ r.time e
  former : ∀ e ∈ before, r.opens e = true → r.time e + window < r.time x

variable (r) in
/-- The window of every opener has at most `limit` events, the opener among them. -/
def Limited (window limit : Nat) (log : List α) : Prop :=
  ∀ before x after, log = before ++ x :: after → r.opens x = true →
    1 + after.countP (r.countsIn (r.time x) (r.time x + window)) ≤ limit

variable {window limit : Nat} {log before after : List α} {x e : α}

/-- An element of a list with one more is the new one, or it stands where it stood. -/
lemma split_snoc {b a : List α} {y : α} (h : log ++ [e] = b ++ y :: a) :
    (b = log ∧ y = e ∧ a = []) ∨ ∃ a', a = a' ++ [e] ∧ log = b ++ y :: a' := by
  rcases List.eq_nil_or_concat a with rfl | ⟨a', e', rfl⟩
  · obtain ⟨hb, he⟩ := List.append_inj' h rfl
    exact .inl ⟨hb.symm, (List.singleton_inj.1 he).symm, rfl⟩
  · rw [List.concat_eq_append, ← List.cons_append, ← List.append_assoc] at h
    obtain ⟨hlog, he⟩ := List.append_inj' h rfl
    rw [List.singleton_inj.1 he]
    exact .inr ⟨a', List.concat_eq_append, hlog⟩

/-- The openers of a log: those before the last, and the last. -/
lemma Round.opener_cases (h : Round r window log before x after) {b a : List α} {y : α}
    (hsplit : log = b ++ y :: a) (hopens : r.opens y = true) :
    y ∈ before ∨ b = before ∧ y = x ∧ a = after := by
  rw [h.split] at hsplit
  rcases List.append_eq_append_iff.1 hsplit with ⟨c, hb, hx⟩ | ⟨c, hbefore, hy⟩
  · cases c with
    | nil =>
      obtain ⟨hxy, haa⟩ := List.cons.inj hx
      rw [List.append_nil] at hb
      exact .inr ⟨hb, hxy.symm, haa.symm⟩
    | cons z c =>
      obtain ⟨-, hafter⟩ := List.cons.inj hx
      have hmem : y ∈ after := by
        rw [hafter]
        exact List.mem_append_right _ List.mem_cons_self
      rw [h.single y hmem] at hopens
      cases hopens
  · cases c with
    | nil =>
      obtain ⟨hyx, haa⟩ := List.cons.inj hy
      rw [List.append_nil] at hbefore
      exact .inr ⟨hbefore.symm, hyx, haa⟩
    | cons z c =>
      obtain ⟨rfl, -⟩ := List.cons.inj hy
      rw [hbefore]
      exact .inl (List.mem_append_right _ List.mem_cons_self)

/-- An event that opens no round belongs to the last one. -/
lemma Round.grow (h : Round r window log before x after) (hopens : r.opens e = false)
    (hlater : r.time x ≤ r.time e) : Round r window (log ++ [e]) before x (after ++ [e]) where
  split := by
    rw [h.split, List.append_assoc, List.cons_append]
  opens := h.opens
  single := by
    intro e' he'
    rcases List.mem_append.1 he' with hmem | hmem
    · exact h.single e' hmem
    · rwa [List.mem_singleton.1 hmem]
  later := by
    intro e' he'
    rcases List.mem_append.1 he' with hmem | hmem
    · exact h.later e' hmem
    · rwa [List.mem_singleton.1 hmem]
  former := h.former

/-- A round opens after all others. -/
lemma Round.start (hopens : r.opens e = true)
    (h : ∀ e' ∈ log, r.opens e' = true → r.time e' + window < r.time e) :
    Round r window (log ++ [e]) log e [] where
  split := rfl
  opens := hopens
  single := fun _ h => nomatch h
  later := fun _ h => nomatch h
  former := h

/-- More than a window after the last opener, every opener is as far back. -/
lemma Round.former_all (h : Round r window log before x after) {t : Nat}
    (hlate : r.time x + window < t) : ∀ e ∈ log, r.opens e = true → r.time e + window < t := by
  intro e he hopens
  rw [h.split] at he
  rcases List.mem_append.1 he with hmem | hmem
  · have := h.former e hmem hopens
    omega
  · rcases List.mem_cons.1 hmem with rfl | hmem
    · exact hlate
    · rw [h.single e hmem] at hopens
      cases hopens

/-- The events of the last round are recent when its opener is. -/
lemma Round.recent (h : Round r window log before x after) (hx : r.counts x = true) {t u : Nat}
    (ht : t ≤ r.time x) (hu : ∀ e ∈ log, r.time e ≤ u) :
    1 + after.countP r.counts ≤ log.countP (r.countsIn t u) := by
  have hmem : ∀ e ∈ x :: after, e ∈ log := by
    intro e he
    rw [h.split]
    exact List.mem_append_right _ he
  have hround : ∀ e ∈ x :: after, r.counts e = true → r.countsIn t u e = true := by
    intro e he hcounts
    refine Reading.countsIn_iff.2 ⟨hcounts, ?_, hu e (hmem e he)⟩
    rcases List.mem_cons.1 he with rfl | he
    · exact ht
    · exact Nat.le_trans ht (h.later e he)
  have hle := List.countP_mono_left hround
  rw [List.countP_cons_of_pos hx] at hle
  rw [h.split, List.countP_append]
  omega

/-- A window opens no wider than the round. -/
lemma Limited.grow (hlimited : Limited r window limit log)
    (h : Round r window log before x after) (hopens : r.opens e = false)
    (hlater : r.time x ≤ r.time e) (hroom : 1 + after.countP r.counts < limit) :
    Limited r window limit (log ++ [e]) := by
  intro b y a hsplit hy
  rcases split_snoc hsplit with ⟨-, rfl, -⟩ | ⟨a', rfl, hlog⟩
  · rw [hopens] at hy
    cases hy
  · rw [List.countP_append, List.countP_singleton]
    rcases h.opener_cases hlog hy with hbefore | ⟨-, rfl, rfl⟩
    · have hfar := h.former y hbefore hy
      have hout : ¬ r.countsIn (r.time y) (r.time y + window) e = true := by
        intro hin
        have := (Reading.countsIn_iff.1 hin).2.2
        omega
      rw [if_neg hout]
      exact hlimited b y a' hlog hy
    · have hle := countP_countsIn_le (r := r) (t := r.time y) (u := r.time y + window) (l := a')
      split <;> omega

/-- The window of an opener is over when the next round opens, or when an event comes that does not
count. -/
lemma Limited.next (hlimited : Limited r window limit log) (hlimit : r.opens e = true → 1 ≤ limit)
    (hout : ∀ y ∈ log, r.opens y = true →
      r.counts e = false ∨ r.time y + window < r.time e) :
    Limited r window limit (log ++ [e]) := by
  intro b y a hsplit hy
  rcases split_snoc hsplit with ⟨-, rfl, rfl⟩ | ⟨a', rfl, hlog⟩
  · exact hlimit hy
  · have hmem : y ∈ log := by
      rw [hlog]
      exact List.mem_append_right _ List.mem_cons_self
    have hnot : ¬ r.countsIn (r.time y) (r.time y + window) e = true := by
      intro hin
      obtain ⟨hcounts, -, hle⟩ := Reading.countsIn_iff.1 hin
      rcases hout y hmem hy with hnone | hfar
      · rw [hnone] at hcounts
        cases hcounts
      · omega
    rw [List.countP_append, List.countP_singleton, if_neg hnot]
    exact hlimited b y a' hlog hy

end Rounds
