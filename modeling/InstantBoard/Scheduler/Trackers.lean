import InstantBoard.Scheduler.Health

/-!
# Two health trackers

`record_health` keeps a source's health in Redis, `_update_health_after_collection` keeps it in the
database, and one collection updates both. They part when a call is refused by the rate limit,
which only the database counts, at a success after ten failures, which Redis takes for full
recovery, and at a failure of a source without a row, which the database calls degraded at once;
`agree_iff` says that they part at no other place.
-/

namespace InstantBoard.AsyncSchedulerManager

open Calendar (Datetime)

/-- What is kept about one source. -/
structure Trackers where
  redis : Option HealthData
  row : Option SourceHealth

/-- The moment `record_health` writes, the moment the row is written, and the outcome. -/
structure Collection where
  recordedAt : Datetime
  updatedAt : Datetime
  outcome : CollectOutcome

/-- Nothing in Redis, and no row or a new one. -/
def Trackers.start (absent : Bool) : Trackers :=
  ⟨none, firstRow absent⟩

/-- One collection: `collect` records the outcome, the pipeline enters its result. -/
def Trackers.collect (source : Source) (t : Trackers) (c : Collection) : Trackers :=
  { redis := c.outcome.record c.recordedAt t.redis
    row := some (updateHealthAfterCollection source c.updatedAt t.row
      (c.outcome.result source.id)).1 }

def Trackers.after (source : Source) (absent : Bool) (cs : List Collection) : Trackers :=
  cs.foldl (Trackers.collect source) (.start absent)

/-- The two status values and the two failure counts are equal; an entry or a row that is missing
counts as a new one. -/
structure Trackers.Agree (t : Trackers) : Prop where
  status : (t.redis.getD .new).status = (t.row.getD .created).status
  failures : (t.redis.getD .new).consecutiveFailures = (t.row.getD .created).consecutiveFailures

/-- How many failures the collections end with. -/
def failing (cs : List Collection) : Nat :=
  (cs.reverse.takeWhile fun c => !c.outcome.isSuccess).length

/-- The trackers do not part at this collection. -/
structure Keeps (absent : Bool) (cs : List Collection) (c : Collection) : Prop where
  unlimited : c.outcome.isRateLimited = false
  recovery : c.outcome.isSuccess = true → failing cs < 10
  first : absent = true → cs = [] → c.outcome.isSuccess = true

/-- The trackers after one more collection. -/
lemma after_concat {source : Source} {absent : Bool} {cs : List Collection} {c : Collection} :
    Trackers.after source absent (cs ++ [c]) = (Trackers.after source absent cs).collect source c := by
  rw [Trackers.after, List.foldl_append]
  rfl

/-- The row is the one its own rules speak of. -/
lemma row_after (source : Source) (absent : Bool) (cs : List Collection) :
    (Trackers.after source absent cs).row =
      reached source absent (cs.map fun c => (c.updatedAt, c.outcome.result source.id)) := by
  induction cs using List.reverseRecOn with
  | nil => rfl
  | append_singleton cs c ih =>
    rw [after_concat, List.map_append, List.map_singleton, reached_concat, ← ih]
    rfl

/-- The failures in a row are those of the outcomes. -/
lemma failing_eq (source : Source) (cs : List Collection) :
    failing cs = failuresInARow (cs.map fun c => (c.updatedAt, c.outcome.result source.id)) := by
  induction cs using List.reverseRecOn with
  | nil => rfl
  | append_singleton cs c ih =>
    rw [List.map_append, List.map_singleton, failuresInARow_concat, ← ih]
    unfold failing
    rw [List.reverse_append, List.reverse_singleton, List.singleton_append, List.takeWhile_cons]
    cases h : c.outcome.isSuccess <;> simp [CollectOutcome.result, h]

/-- A row whose status is down has just failed ten times. -/
lemma down_iff_failing {source : Source} {absent : Bool} {cs : List Collection} {row : SourceHealth}
    (h : (Trackers.after source absent cs).row = some row) :
    row.status = .down ↔ 10 ≤ failing cs := by
  rw [row_after] at h
  have hlaw := lawful_reached source absent _ row h
  rw [hlaw.down_iff, hlaw.counts, failing_eq source]

/-- There is no row only before the first collection. -/
lemma row_none {source : Source} {absent : Bool} {cs : List Collection}
    (h : (Trackers.after source absent cs).row = none) : cs = [] ∧ absent = true := by
  rw [row_after] at h
  have hnil := eq_nil_of_reached h
  rw [List.map_eq_nil_iff] at hnil
  subst hnil
  cases absent with
  | true => exact ⟨rfl, rfl⟩
  | false => cases h

/-- A refusal is counted by the database alone. -/
lemma not_agree_rateLimited {source : Source} {t : Trackers} (h : t.Agree) {c : Collection}
    (hc : c.outcome.isRateLimited = true) : ¬ (t.collect source c).Agree := by
  intro hagree
  have hf := hagree.failures
  have hredis : (t.collect source c).redis = t.redis := if_pos hc
  have hsuccess : c.outcome.isSuccess = false := by
    cases ho : c.outcome with
    | rateLimited => rfl
    | _ => rw [ho] at hc; cases hc
  rw [hredis, h.failures] at hf
  cases hrow : t.row with
  | none =>
    simp [Trackers.collect, updateHealthAfterCollection, healthAfter, CollectOutcome.result, hrow,
      hsuccess, SourceHealth.created] at hf
  | some row =>
    simp [Trackers.collect, updateHealthAfterCollection, healthAfter, CollectOutcome.result, hrow,
      hsuccess] at hf

/-- A success is full recovery for Redis and one level for the database. -/
lemma agree_success_iff {source : Source} {t : Trackers} {c : Collection}
    (hc : c.outcome.isSuccess = true) :
    (t.collect source c).Agree ↔ ∀ row, t.row = some row → row.status ≠ .down := by
  have hlimit : c.outcome.isRateLimited = false := by
    cases ho : c.outcome with
    | rateLimited => rw [ho] at hc; cases hc
    | _ => rfl
  have hredis : (t.collect source c).redis =
      some (recordHealth c.recordedAt t.redis true c.outcome.elapsedMs c.outcome.error) := by
    simp [Trackers.collect, CollectOutcome.record, hlimit, hc]
  constructor
  · intro h row hrow hdown
    -- Redis goes from down to healthy, the row to degraded
    have hs := h.status
    rw [hredis] at hs
    simp [Trackers.collect, updateHealthAfterCollection, healthAfter, CollectOutcome.result, hrow, hc,
      recordHealth, hdown, HealthStatus.recovered] at hs
  · intro h
    constructor <;> rw [hredis] <;> cases hrow : t.row with
    | none =>
      simp [Trackers.collect, updateHealthAfterCollection, healthAfter, CollectOutcome.result, hrow,
        hc, recordHealth]
    | some row =>
      have hup := h row hrow
      cases hstatus : row.status <;>
        simp [Trackers.collect, updateHealthAfterCollection, healthAfter, CollectOutcome.result,
          hrow, hc, recordHealth, hstatus, HealthStatus.recovered] at hup ⊢

/-- A failure is the same to both, unless there is no row. -/
lemma agree_failure_iff {source : Source} {t : Trackers} (h : t.Agree) {c : Collection}
    (hc : c.outcome.isSuccess = false) (hlimit : c.outcome.isRateLimited = false) :
    (t.collect source c).Agree ↔ t.row ≠ none := by
  have hredis : (t.collect source c).redis =
      some (recordHealth c.recordedAt t.redis false c.outcome.elapsedMs c.outcome.error) := by
    simp [Trackers.collect, CollectOutcome.record, hlimit, hc]
  have hstatus := h.status
  have hfailures := h.failures
  cases hrow : t.row with
  | none =>
    rw [hrow] at hstatus hfailures
    refine iff_of_false (fun hagree => ?_) (fun hne => hne rfl)
    -- the new row is degraded at once; Redis waits for the third failure
    have hs := hagree.status
    rw [hredis] at hs
    simp [Trackers.collect, updateHealthAfterCollection, healthAfter, CollectOutcome.result, hrow, hc,
      recordHealth, hstatus, hfailures, SourceHealth.created, HealthStatus.worsened] at hs
  | some row =>
    rw [hrow] at hstatus hfailures
    refine iff_of_true ?_ (by simp)
    constructor <;> rw [hredis] <;>
      simp [Trackers.collect, updateHealthAfterCollection, healthAfter, CollectOutcome.result, hrow,
        hc, recordHealth, hstatus, hfailures]

/-- Trackers that agree still agree after a collection exactly when it is one that keeps them
together. -/
lemma agree_collect_iff {source : Source} {absent : Bool} {cs : List Collection} {c : Collection}
    (h : (Trackers.after source absent cs).Agree) :
    (Trackers.after source absent (cs ++ [c])).Agree ↔ Keeps absent cs c := by
  rw [after_concat]
  cases hlimit : c.outcome.isRateLimited with
  | true =>
    refine iff_of_false (not_agree_rateLimited h hlimit) (fun hkeeps => ?_)
    rw [hkeeps.unlimited] at hlimit
    cases hlimit
  | false =>
    cases hc : c.outcome.isSuccess with
    -- a row is down exactly after ten failures in a row
    | true =>
      rw [agree_success_iff hc]
      constructor
      · intro hup
        refine ⟨hlimit, fun _ => ?_, fun _ _ => hc⟩
        cases hrow : (Trackers.after source absent cs).row with
        | none =>
          obtain ⟨rfl, _⟩ := row_none hrow
          decide
        | some row =>
          by_contra hten
          exact hup row hrow ((down_iff_failing hrow).2 (by omega))
      · intro hkeeps row hrow hdown
        have hten := (down_iff_failing hrow).1 hdown
        have hlt := hkeeps.recovery hc
        omega
    | false =>
      rw [agree_failure_iff h hc hlimit]
      constructor
      · intro hrow
        refine ⟨hlimit, fun hs => ?_, fun habsent hnil => ?_⟩
        · rw [hc] at hs
          cases hs
        · subst habsent hnil
          exact absurd rfl hrow
      · intro hkeeps hrow
        obtain ⟨hnil, habsent⟩ := row_none hrow
        have hs := hkeeps.first habsent hnil
        rw [hc] at hs
        cases hs

/-- The trackers agree after every collection if and only if every collection keeps them together. -/
theorem agree_iff (source : Source) (absent : Bool) (cs : List Collection) :
    (∀ ps, ps <+: cs → (Trackers.after source absent ps).Agree) ↔
      ∀ ps c, ps ++ [c] <+: cs → Keeps absent ps c := by
  induction cs using List.reverseRecOn with
  | nil =>
    constructor
    · intro _ ps c hps
      simp at hps
    · intro _ ps hps
      rw [List.prefix_nil.1 hps]
      cases absent <;> exact ⟨rfl, rfl⟩
  | append_singleton cs c ih =>
    constructor
    · intro h
      have hcs : ∀ ps, ps <+: cs → (Trackers.after source absent ps).Agree :=
        fun ps hps => h ps (hps.trans (List.prefix_append _ _))
      intro ps c' hps
      rcases List.prefix_concat_iff.1 hps with heq | hps
      · obtain ⟨rfl, hc⟩ := List.append_inj' heq rfl
        cases hc
        exact (agree_collect_iff (hcs ps (List.prefix_refl _))).1 (h _ (List.prefix_refl _))
      · exact ih.1 hcs ps c' hps
    · intro h
      have hcs : ∀ ps, ps <+: cs → (Trackers.after source absent ps).Agree :=
        ih.2 fun ps c' hps => h ps c' (hps.trans (List.prefix_append _ _))
      intro ps hps
      rcases List.prefix_concat_iff.1 hps with rfl | hps
      · exact (agree_collect_iff (hcs cs (List.prefix_refl _))).2 (h cs c (List.prefix_refl _))
      · exact hcs ps hps

namespace LateRecovery

def moment : Datetime :=
  { year := 2025, month := 9, day := 24, hour := 11, minute := 30, second := 15,
    microsecond := 500000 }

def source : Source :=
  { id := "s", tenantId := "t", categoryId := "c", name := "feed", sourceType := "rss",
    url := "https://example.com/feed", config := [], refreshIntervalSeconds := none,
    isActive := true, priority := 0 }

def failure : Collection := ⟨moment, moment, .fetchFailed 30⟩

def success : Collection := ⟨moment, moment, .validated 30 []⟩

/-- Ten failures and a success. -/
def collections : List Collection :=
  List.replicate 10 failure ++ [success]

end LateRecovery

open LateRecovery in
/-- After ten failures and a success Redis says healthy and the database degraded. -/
theorem lateRecovery_not_agree :
    ¬ ∀ (source : Source) (absent : Bool) (cs ps : List Collection), ps <+: cs →
      (Trackers.after source absent ps).Agree := by
  intro h
  have hagree := h source false collections collections (List.prefix_refl _)
  exact absurd hagree.status (by decide)

end InstantBoard.AsyncSchedulerManager
