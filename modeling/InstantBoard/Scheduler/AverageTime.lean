import InstantBoard.Scheduler.Health
import InstantBoard.Scheduler.Jobs

/-!
# The average response time

A success moves the average by its own part of all fetches counted, failures too, so from between the
times of the successes it stays between them (`Between.update`). It is so from the first success with a
response time on when the failures counted before that leave nothing to move: `average_iff` says when.
-/

namespace InstantBoard

section

variable {a n t m : Nat}

/-- The average is not below all that is averaged. -/
lemma le_runningAverage (ha : m ≤ a) (ht : m ≤ t) : m ≤ runningAverage a (n + 1) t := by
  unfold runningAverage
  rw [Nat.le_div_iff_mul_le n.succ_pos, Nat.add_sub_cancel, Nat.mul_succ]
  exact Nat.add_le_add (Nat.mul_le_mul_right n ha) ht

/-- The average is not above all that is averaged. -/
lemma runningAverage_le (ha : a ≤ m) (ht : t ≤ m) : runningAverage a (n + 1) t ≤ m := by
  unfold runningAverage
  apply Nat.div_le_of_le_mul
  rw [Nat.add_sub_cancel, Nat.succ_mul, Nat.mul_comm n m]
  exact Nat.add_le_add (Nat.mul_le_mul_right n ha) ht

/-- The first average is the first time. -/
lemma runningAverage_one (t : Nat) : runningAverage 0 1 t = t := by
  unfold runningAverage
  rw [Nat.zero_mul, Nat.zero_add, Nat.div_one]

/-- The first time in an average, from above. -/
lemma runningAverage_le_self (hn : 0 < n) : runningAverage a (n + 1) t ≤ t ↔ a ≤ t + 1 := by
  unfold runningAverage
  rw [← Nat.lt_succ_iff, Nat.div_lt_iff_lt_mul n.succ_pos, Nat.add_sub_cancel]
  have hprod : (t + 1) * (n + 1) = (t + 1) * n + (t + 1) := Nat.mul_succ _ _
  constructor
  · intro h
    apply Nat.le_of_mul_le_mul_right _ hn
    show a * n ≤ (t + 1) * n
    rw [Nat.succ_eq_add_one, hprod] at h
    omega
  · intro h
    have hle := Nat.mul_le_mul_right n h
    rw [Nat.succ_eq_add_one, hprod]
    omega

/-- And from below. -/
lemma le_runningAverage_self (hn : 0 < n) :
    t ≤ runningAverage a (n + 1) t + 1 ↔ t ≤ a + 1 ∨ (n = 1 ∧ t ≤ a + 2) := by
  unfold runningAverage
  cases t with
  | zero => exact iff_of_true (Nat.zero_le _) (.inl (Nat.zero_le _))
  | succ s =>
    rw [Nat.succ_le_succ_iff, Nat.le_div_iff_mul_le n.succ_pos, Nat.add_sub_cancel, Nat.mul_succ]
    have hkey : s * n + s ≤ a * n + (s + 1) ↔ s * n ≤ a * n + 1 := by omega
    rw [hkey]
    constructor
    · intro h
      rcases Nat.lt_or_ge a s with hlt | hle
      · right
        have hprod : (a + 1) * n = a * n + n := Nat.succ_mul _ _
        have hle := Nat.mul_le_mul_right n hlt
        have hone : n = 1 := by
          rw [Nat.succ_eq_add_one, hprod] at hle
          omega
        rw [hone] at h
        omega
      · left
        omega
    · intro h
      rcases h with h | ⟨rfl, h⟩
      · have hle := Nat.mul_le_mul_right n (Nat.succ_le_succ_iff.1 h)
        omega
      · omega

end

namespace AsyncSchedulerManager

open Calendar (Datetime)

/-- A success with a response time, which moves the average. -/
def Counted (o : Collected) : Prop :=
  o.2.success = true ∧ 0 < o.2.responseTimeMs

instance : DecidablePred Counted :=
  fun _ => inferInstanceAs (Decidable (_ ∧ _))

/-- The average is between the response times of successes, but for less than a millisecond that
truncation takes. -/
structure Between (outcomes : List Collected) (row : SourceHealth) : Prop where
  low : ∃ o ∈ outcomes, o.2.success = true ∧ o.2.responseTimeMs ≤ row.avgResponseTimeMs + 1
  high : ∃ o ∈ outcomes, o.2.success = true ∧ row.avgResponseTimeMs ≤ o.2.responseTimeMs

/-- The average the first counted success finds is next to its own time, or it is the first outcome of
all, or a success without a response time came before. -/
def Anchored (source : Source) (absent : Bool) (before : List Collected) (o : Collected) : Prop :=
  before = [] ∨ ∃ row, reached source absent before = some row ∧
    row.avgResponseTimeMs ≤ o.2.responseTimeMs + 1 ∧
    (o.2.responseTimeMs ≤ row.avgResponseTimeMs + 1 ∨
      (before.length = 1 ∧ o.2.responseTimeMs ≤ row.avgResponseTimeMs + 2) ∨
      ∃ o' ∈ before, o'.2.success = true)

variable {source : Source} {absent : Bool} {before outcomes : List Collected} {o : Collected}
variable {row : SourceHealth}

/-- Every outcome is counted as a fetch. -/
lemma totalFetches_reached (h : reached source absent outcomes = some row) :
    row.totalFetches24h = outcomes.length := by
  induction outcomes using List.reverseRecOn generalizing row with
  | nil =>
    cases absent with
    | true => cases h
    | false =>
      cases h
      rfl
  | append_singleton outcomes o ih =>
    rw [reached_concat] at h
    cases h
    rw [List.length_append, List.length_singleton]
    cases hrow : reached source absent outcomes with
    | none =>
      rw [eq_nil_of_reached hrow]
      rfl
    | some row =>
      rw [← ih hrow]
      cases hs : o.2.success <;> simp only [healthAfter, hs, if_true, Bool.false_eq_true, if_false]

/-- The average after an outcome of a row. -/
lemma average_healthAfter (o : Collected) (row : SourceHealth) :
    (healthAfter o.1 o.2 (some row)).avgResponseTimeMs =
      if Counted o then
        runningAverage row.avgResponseTimeMs (row.totalFetches24h + 1) o.2.responseTimeMs
      else row.avgResponseTimeMs := by
  cases hs : o.2.success with
  | false => simp only [healthAfter, Counted, hs, Bool.false_eq_true, if_false, false_and]
  | true => simp only [healthAfter, Counted, hs, if_true, true_and, gt_iff_lt]

/-- An average between the times of successes stays there. -/
lemma Between.update (h : Between outcomes row) (o : Collected) :
    Between (outcomes ++ [o]) (healthAfter o.1 o.2 (some row)) := by
  obtain ⟨⟨low, hlow, hlows, hle⟩, high, hhigh, hhighs, hge⟩ := h
  have hlow' : low ∈ outcomes ++ [o] := List.mem_append_left _ hlow
  have hhigh' : high ∈ outcomes ++ [o] := List.mem_append_left _ hhigh
  have ho : o ∈ outcomes ++ [o] := List.mem_append_right _ (List.mem_singleton_self o)
  constructor
  · rw [average_healthAfter]
    split
    · rename_i hcounted
      rcases Nat.lt_or_ge (o.2.responseTimeMs + 1) low.2.responseTimeMs with hlt | hge
      · refine ⟨o, ho, hcounted.1, Nat.le_succ_of_le ?_⟩
        exact le_runningAverage (by omega) (Nat.le_refl _)
      · refine ⟨low, hlow', hlows, Nat.sub_le_iff_le_add.1 ?_⟩
        exact le_runningAverage (by omega) (by omega)
    · exact ⟨low, hlow', hlows, hle⟩
  · rw [average_healthAfter]
    split
    · rename_i hcounted
      rcases Nat.lt_or_ge high.2.responseTimeMs o.2.responseTimeMs with hlt | hle
      · exact ⟨o, ho, hcounted.1, runningAverage_le (by omega) (Nat.le_refl _)⟩
      · exact ⟨high, hhigh', hhighs, runningAverage_le hge hle⟩
    · exact ⟨high, hhigh', hhighs, hge⟩

/-- The very first fetch takes the average to its own time. -/
lemma between_singleton (ho : Counted o) :
    Between [o] (healthAfter o.1 o.2 (reached source absent [])) := by
  have havg : (healthAfter o.1 o.2 (reached source absent [])).avgResponseTimeMs =
      o.2.responseTimeMs := by
    cases absent with
    | true => rfl
    | false =>
      show (healthAfter o.1 o.2 (some .created)).avgResponseTimeMs = _
      rw [average_healthAfter, if_pos ho]
      exact runningAverage_one _
  refine ⟨⟨o, List.mem_cons_self, ho.1, ?_⟩, o, List.mem_cons_self, ho.1, ?_⟩
  · rw [havg]
    exact Nat.le_succ _
  · rw [havg]

/-- What the first counted success makes of the average. -/
lemma between_first_iff (ho : Counted o) (hbefore : ∀ o' ∈ before, ¬ Counted o') :
    Between (before ++ [o]) (healthAfter o.1 o.2 (reached source absent before)) ↔
      Anchored source absent before o := by
  have hmem : o ∈ before ++ [o] := List.mem_append_right _ (List.mem_singleton_self o)
  rcases List.eq_nil_or_concat' before with rfl | ⟨earlier, last, rfl⟩
  · exact iff_of_true (between_singleton ho) (.inl rfl)
  · generalize hbefore_eq : earlier ++ [last] = before at *
    have hpos : 0 < before.length := by
      rw [← hbefore_eq, List.length_append]
      exact Nat.succ_pos _
    obtain ⟨row, hrow⟩ : ∃ row, reached source absent before = some row := by
      rw [← hbefore_eq, reached_concat]
      exact ⟨_, rfl⟩
    have havg := average_healthAfter o row
    rw [if_pos ho, totalFetches_reached hrow] at havg
    -- a success among the earlier ones has no response time
    have hzero : ∀ o' ∈ before, o'.2.success = true → o'.2.responseTimeMs = 0 := by
      intro o' ho' hs
      have hnot := hbefore o' ho'
      by_contra hne
      exact hnot ⟨hs, Nat.pos_of_ne_zero hne⟩
    rw [hrow]
    constructor
    · intro ⟨⟨low, hlow, hlows, hle⟩, high, hhigh, hhighs, hge⟩
      right
      rw [havg] at hle hge
      refine ⟨row, hrow, ?_, ?_⟩
      · rw [← runningAverage_le_self hpos]
        rcases List.mem_append.1 hhigh with hhigh | hhigh
        · rw [hzero high hhigh hhighs] at hge
          exact hge.trans (Nat.zero_le _)
        · rw [List.mem_singleton.1 hhigh] at hge
          exact hge
      · rcases List.mem_append.1 hlow with hlow | hlow
        · exact .inr (.inr ⟨low, hlow, hlows⟩)
        · rw [List.mem_singleton.1 hlow, le_runningAverage_self hpos] at hle
          exact hle.imp_right .inl
    · intro h
      obtain ⟨row', hrow', hhigh, hlow⟩ := h.resolve_left (List.ne_nil_of_length_pos hpos)
      obtain rfl : row = row' := Option.some.inj (hrow.symm.trans hrow')
      constructor
      · rw [havg]
        rcases hlow with hlow | hlow | ⟨o', ho', hs⟩
        · exact ⟨o, hmem, ho.1, (le_runningAverage_self hpos).2 (.inl hlow)⟩
        · exact ⟨o, hmem, ho.1, (le_runningAverage_self hpos).2 (.inr hlow)⟩
        · refine ⟨o', List.mem_append_left _ ho', hs, ?_⟩
          rw [hzero o' ho' hs]
          exact Nat.zero_le _
      · rw [havg]
        exact ⟨o, hmem, ho.1, (runningAverage_le_self hpos).2 hhigh⟩

/-- From the first counted success on the average is between the times of the successes, if it is so
after that one. -/
lemma between_reached (hfirst : ∀ before o, before ++ [o] <+: outcomes → Counted o →
      (∀ o' ∈ before, ¬ Counted o') → Anchored source absent before o)
    (hcounted : ∃ o ∈ outcomes, Counted o) (hrow : reached source absent outcomes = some row) :
    Between outcomes row := by
  induction outcomes using List.reverseRecOn generalizing row with
  | nil =>
    obtain ⟨o, ho, _⟩ := hcounted
    cases ho
  | append_singleton outcomes o ih =>
    rw [reached_concat] at hrow
    cases hrow
    have hfirst' : ∀ before o', before ++ [o'] <+: outcomes → Counted o' →
        (∀ o'' ∈ before, ¬ Counted o'') → Anchored source absent before o' := fun before o' h =>
      hfirst before o' (h.trans (List.prefix_append _ _))
    rcases em (∃ o' ∈ outcomes, Counted o') with hearlier | hnone
    · cases hrow : reached source absent outcomes with
      | none =>
        obtain ⟨o', ho', _⟩ := hearlier
        rw [eq_nil_of_reached hrow] at ho'
        cases ho'
      | some row => exact (ih hfirst' hearlier hrow).update o
    · have hbefore : ∀ o' ∈ outcomes, ¬ Counted o' := fun o' ho' hc => hnone ⟨o', ho', hc⟩
      have ho : Counted o := by
        obtain ⟨o', ho', hc⟩ := hcounted
        rcases List.mem_append.1 ho' with ho' | ho'
        · exact absurd hc (hbefore o' ho')
        · rwa [List.mem_singleton.1 ho'] at hc
      exact (between_first_iff ho hbefore).2 (hfirst outcomes o List.prefix_rfl ho hbefore)

/-- In every state a source reaches the average is between the times of its successes, exactly if the
first counted success finds it so. -/
theorem average_iff (source : Source) (absent : Bool) (outcomes : List Collected) :
    (∀ l, l <+: outcomes → (∃ o ∈ l, Counted o) →
      ∀ row, reached source absent l = some row → Between l row) ↔
    ∀ before o, before ++ [o] <+: outcomes → Counted o → (∀ o' ∈ before, ¬ Counted o') →
      Anchored source absent before o := by
  constructor
  · intro h before o hle ho hbefore
    rw [← between_first_iff ho hbefore]
    apply h (before ++ [o]) hle ⟨o, List.mem_append_right _ (List.mem_singleton_self o), ho⟩
    exact reached_concat
  · intro h l hl hcounted row hrow
    apply between_reached _ hcounted hrow
    exact fun before o hle => h before o (hle.trans hl)

/-- 2027-07-19T13:47:51.25Z. -/
def collectedAt : Datetime :=
  { year := 2031, month := 7, day := 19, hour := 13, minute := 47, second := 51,
    microsecond := 250000 }

def failed : Collected :=
  (collectedAt, ⟨[], false, 0, some "timeout", "7"⟩)

def fetched : Collected :=
  (collectedAt, ⟨[], true, 100, none, "7"⟩)

/-- After a fetch that failed, one that took 100 ms has an average of 50 ms. -/
theorem average_below_all_times :
    ¬ ∀ (source : Source) (absent : Bool) (outcomes : List Collected),
      (∃ o ∈ outcomes, Counted o) →
        ∀ row, reached source absent outcomes = some row → Between outcomes row := by
  intro h
  have hbetween := h .sample false [failed, fetched]
    ⟨fetched, List.mem_cons_of_mem _ List.mem_cons_self, by decide⟩ _ rfl
  obtain ⟨⟨o, ho, hs, hle⟩, _⟩ := hbetween
  rcases List.mem_pair.1 ho with rfl | rfl
  · cases hs
  · exact absurd hle (by decide)

end AsyncSchedulerManager

end InstantBoard
