import InstantBoard.Collectors.Base
import InstantBoard.Models
import Mathlib.Data.List.Induction

/-!
# The health of a source

`_update_health_after_collection`: the row of `source_health` after a collection, and the event
published about it. `health_rules` is what holds of the row a source reaches, whatever outcomes it
has had, and of the next update of it.
-/

namespace InstantBoard

open Calendar (Datetime)

/-- The row of a source in `source_health`. -/
structure SourceHealth where
  status : HealthStatus
  consecutiveFailures : Nat
  totalFetches24h : Nat
  successCount24h : Nat
  avgResponseTimeMs : Nat
  lastSuccessAt : Option Datetime
  lastFailureAt : Option Datetime
  lastErrorMessage : Option String

/-- The row made together with its source. -/
def SourceHealth.created : SourceHealth :=
  { status := .healthy, consecutiveFailures := 0, totalFetches24h := 0, successCount24h := 0,
    avgResponseTimeMs := 0, lastSuccessAt := none, lastFailureAt := none, lastErrorMessage := none }

/-- `build_source_health_update_payload` and the tenant it is published for; the success rate is
the quotient of the row's two counts. -/
structure SourceHealthUpdate where
  sourceId : String
  name : String
  sourceType : String
  previousStatus : HealthStatus
  health : SourceHealth
  tenantId : String

/-- One level up. -/
def HealthStatus.recovered : HealthStatus → HealthStatus
  | .healthy => .healthy
  | .degraded => .healthy
  | .down => .degraded

/-- A source gets down at ten failures. -/
lemma HealthStatus.worsened_eq_down_iff {s : HealthStatus} {n : Nat} (h : s = .down → 10 ≤ n) :
    s.worsened n = .down ↔ 10 ≤ n := by
  unfold worsened
  split
  · exact iff_of_true rfl ‹_›
  · split
    · exact iff_of_false (by simp) ‹_›
    · exact ⟨h, fun hn => absurd hn ‹_›⟩

/-- From three failures on a source is not healthy. -/
lemma HealthStatus.worsened_ne_healthy {s : HealthStatus} {n : Nat} (h : 3 ≤ n) :
    s.worsened n ≠ .healthy := by
  unfold worsened
  split
  · simp
  · simp

namespace AsyncSchedulerManager

/-- The row after a collection; without a row one is made. -/
def healthAfter (now : Datetime) (result : CollectionResult) : Option SourceHealth → SourceHealth
  | some health =>
    if result.success then
      { health with
        status := health.status.recovered
        consecutiveFailures := 0
        totalFetches24h := health.totalFetches24h + 1
        successCount24h := health.successCount24h + 1
        avgResponseTimeMs :=
          if result.responseTimeMs > 0 then
            runningAverage health.avgResponseTimeMs (health.totalFetches24h + 1) result.responseTimeMs
          else health.avgResponseTimeMs
        lastSuccessAt := some now }
    else
      { health with
        status := health.status.worsened (health.consecutiveFailures + 1)
        consecutiveFailures := health.consecutiveFailures + 1
        totalFetches24h := health.totalFetches24h + 1
        lastFailureAt := some now
        lastErrorMessage := result.error }
  | none =>
    { status := if result.success then .healthy else .degraded
      consecutiveFailures := if result.success then 0 else 1
      totalFetches24h := 1
      successCount24h := if result.success then 1 else 0
      avgResponseTimeMs := result.responseTimeMs
      lastSuccessAt := if result.success then some now else none
      lastFailureAt := if result.success then none else some now
      lastErrorMessage := if result.success then none else result.error }

/-- `previous_status`. -/
def previousStatus (health : Option SourceHealth) : HealthStatus :=
  match health with
  | some health => health.status
  | none => .healthy

/-- `_update_health_after_collection`: the row and the event. -/
def updateHealthAfterCollection (source : Source) (now : Datetime) (health : Option SourceHealth)
    (result : CollectionResult) : SourceHealth × Option SourceHealthUpdate :=
  let after := healthAfter now result health
  let update : SourceHealthUpdate :=
    { sourceId := source.id, name := source.name, sourceType := source.sourceType,
      previousStatus := previousStatus health, health := after, tenantId := source.tenantId }
  (after, if after.status ≠ previousStatus health then some update else none)

/-- A collection and the moment its outcome is entered. -/
abbrev Collected := Datetime × CollectionResult

/-- The row a source has at first: none, or the one made together with it. -/
def firstRow (absent : Bool) : Option SourceHealth :=
  if absent then none else some .created

/-- The row after some collections. -/
def reached (source : Source) (absent : Bool) (outcomes : List Collected) : Option SourceHealth :=
  outcomes.foldl (fun health o => some (updateHealthAfterCollection source o.1 health o.2).1)
    (firstRow absent)

/-- How many failures the outcomes end with. -/
def failuresInARow (outcomes : List Collected) : Nat :=
  (outcomes.reverse.takeWhile fun o => !o.2.success).length

/-! ## The rules -/

/-- What holds of the row after some outcomes. -/
structure Lawful (outcomes : List Collected) (row : SourceHealth) : Prop where
  counts : row.consecutiveFailures = failuresInARow outcomes
  down_iff : row.status = .down ↔ 10 ≤ row.consecutiveFailures
  notHealthy : 3 ≤ row.consecutiveFailures → row.status ≠ .healthy
  successes_le : row.successCount24h ≤ row.totalFetches24h
  failures_le : row.consecutiveFailures ≤ row.totalFetches24h

/-- What holds of one update of a row. -/
structure LawfulUpdate (before : Option SourceHealth) (result : CollectionResult)
    (after : SourceHealth) (published : Option SourceHealthUpdate) : Prop where
  /-- A healthy row is degraded at its third failure in a row and not before. -/
  degrades : ∀ row, before = some row → row.status = .healthy → result.success = false →
    (after.status = .degraded ↔ after.consecutiveFailures = 3) ∧
      (after.status = .healthy ↔ after.consecutiveFailures < 3)
  /-- A success ends the failures and raises the status by one level. -/
  recovers : result.success = true →
    after.consecutiveFailures = 0 ∧ after.status = (previousStatus before).recovered
  /-- The event carries the row and is published exactly when the status has changed. -/
  publishes : published.isSome = true ↔ after.status ≠ previousStatus before
  payload : ∀ update, published = some update →
    update.health = after ∧ update.previousStatus = previousStatus before

/-- The health after one more outcome. -/
lemma reached_concat {source : Source} {absent : Bool} {outcomes : List Collected} {o : Collected} :
    reached source absent (outcomes ++ [o]) =
      some (healthAfter o.1 o.2 (reached source absent outcomes)) := by
  rw [reached, List.foldl_append]
  rfl

/-- Only a source without outcomes has no row. -/
lemma eq_nil_of_reached {source : Source} {absent : Bool} {outcomes : List Collected}
    (h : reached source absent outcomes = none) : outcomes = [] := by
  induction outcomes using List.reverseRecOn with
  | nil => rfl
  | append_singleton outcomes o _ =>
    rw [reached_concat] at h
    cases h

/-- The failures in a row after one more outcome. -/
lemma failuresInARow_concat {outcomes : List Collected} {o : Collected} :
    failuresInARow (outcomes ++ [o]) = if o.2.success then 0 else failuresInARow outcomes + 1 := by
  unfold failuresInARow
  rw [List.reverse_append, List.reverse_singleton, List.singleton_append, List.takeWhile_cons]
  cases o.2.success <;> simp

/-- A row that keeps the rules keeps them through an update. -/
lemma Lawful.update {outcomes : List Collected} {row : SourceHealth} (h : Lawful outcomes row)
    (o : Collected) : Lawful (outcomes ++ [o]) (healthAfter o.1 o.2 (some row)) := by
  obtain ⟨hcounts, hdown, hhealthy, hsuccesses, hfailures⟩ := h
  cases hs : o.2.success with
  | true =>
    have hlow : row.status.recovered ≠ .down := by cases row.status <;> simp [HealthStatus.recovered]
    simp only [healthAfter, hs, if_true]
    refine ⟨?_, ?_, ?_, ?_, ?_⟩
    · simp [failuresInARow_concat, hs]
    · simp [hlow]
    · simp
    · exact Nat.succ_le_succ hsuccesses
    · exact Nat.zero_le _
  | false =>
    simp only [healthAfter, hs, Bool.false_eq_true, if_false]
    refine ⟨?_, ?_, ?_, ?_, ?_⟩
    · simp [failuresInARow_concat, hs, hcounts]
    · apply HealthStatus.worsened_eq_down_iff
      intro h
      have hten := hdown.1 h
      omega
    · exact HealthStatus.worsened_ne_healthy
    · exact Nat.le_succ_of_le hsuccesses
    · exact Nat.succ_le_succ hfailures

/-- The first outcome of a source without a row. -/
lemma lawful_first (o : Collected) : Lawful [o] (healthAfter o.1 o.2 none) := by
  have hcount : failuresInARow [o] = if o.2.success then 0 else 1 :=
    @failuresInARow_concat [] o
  cases hs : o.2.success <;> rw [hs] at hcount
  · refine ⟨?_, ?_, ?_, ?_, ?_⟩ <;> simp [healthAfter, hs, hcount]
  · refine ⟨?_, ?_, ?_, ?_, ?_⟩ <;> simp [healthAfter, hs, hcount]

/-- The health that is created is lawful. -/
lemma lawful_created : Lawful [] SourceHealth.created := by
  refine ⟨rfl, ?_, ?_, Nat.le_refl _, Nat.le_refl _⟩ <;> simp [SourceHealth.created]

/-- The rules hold of every row reached. -/
lemma lawful_reached (source : Source) (absent : Bool) (outcomes : List Collected) :
    ∀ row, reached source absent outcomes = some row → Lawful outcomes row := by
  induction outcomes using List.reverseRecOn with
  | nil =>
    intro row hrow
    cases absent with
    | true => cases hrow
    | false =>
      cases hrow
      exact lawful_created
  | append_singleton outcomes o ih =>
    intro row hrow
    rw [reached_concat] at hrow
    cases hrow
    cases hbefore : reached source absent outcomes with
    | some row => exact (ih row hbefore).update o
    | none =>
      cases eq_nil_of_reached hbefore
      exact lawful_first o

/-- An update of a row that keeps the rules is lawful. -/
lemma lawfulUpdate (source : Source) (now : Datetime) (before : Option SourceHealth)
    (result : CollectionResult)
    (h : ∀ row, before = some row → ∃ outcomes, Lawful outcomes row) :
    LawfulUpdate before result (updateHealthAfterCollection source now before result).1
      (updateHealthAfterCollection source now before result).2 := by
  constructor
  · rintro row rfl hstatus hs
    obtain ⟨outcomes, hrow⟩ := h row rfl
    have hlt : row.consecutiveFailures < 3 := by
      by_contra hge
      exact hrow.notHealthy (by omega) hstatus
    simp only [updateHealthAfterCollection, healthAfter, hs, Bool.false_eq_true, if_false, hstatus,
      HealthStatus.worsened]
    have hten : ¬ row.consecutiveFailures + 1 ≥ 10 := by omega
    rw [if_neg hten]
    split
    · simp
      omega
    · simp
      omega
  · intro hs
    cases before with
    | some row => simp [updateHealthAfterCollection, healthAfter, hs, previousStatus]
    | none =>
      simp [updateHealthAfterCollection, healthAfter, hs, previousStatus, HealthStatus.recovered]
  · simp only [updateHealthAfterCollection]
    split <;> simp_all
  · intro update hupdate
    simp only [updateHealthAfterCollection] at hupdate ⊢
    split at hupdate
    · cases hupdate
      exact ⟨rfl, rfl⟩
    · cases hupdate

/-- The health rules: the row a source reaches is lawful, so is its next update, and after two
successes the source is healthy. -/
theorem health_rules (source : Source) (absent : Bool) (outcomes : List Collected) :
    (∀ row, reached source absent outcomes = some row → Lawful outcomes row) ∧
    (∀ o : Collected, LawfulUpdate (reached source absent outcomes) o.2
      (updateHealthAfterCollection source o.1 (reached source absent outcomes) o.2).1
      (updateHealthAfterCollection source o.1 (reached source absent outcomes) o.2).2) ∧
    ∀ o o' : Collected, o.2.success = true → o'.2.success = true →
      ∃ row, reached source absent (outcomes ++ [o, o']) = some row ∧ row.status = .healthy := by
  refine ⟨lawful_reached source absent outcomes, ?_, ?_⟩
  · intro o
    apply lawfulUpdate
    exact fun row hrow => ⟨outcomes, lawful_reached source absent outcomes row hrow⟩
  · intro o o' hs hs'
    have hconcat : outcomes ++ [o, o'] = (outcomes ++ [o]) ++ [o'] := by simp
    rw [hconcat, reached_concat, reached_concat]
    refine ⟨_, rfl, ?_⟩
    have hfirst : (healthAfter o.1 o.2 (reached source absent outcomes)).status ≠ .down := by
      cases reached source absent outcomes with
      | some row => cases h : row.status <;> simp [healthAfter, hs, h, HealthStatus.recovered]
      | none => simp [healthAfter, hs]
    cases h : (healthAfter o.1 o.2 (reached source absent outcomes)).status with
    | healthy => simp [healthAfter.eq_1, hs', h, HealthStatus.recovered]
    | degraded => simp [healthAfter.eq_1, hs', h, HealthStatus.recovered]
    | down => exact absurd h hfirst

end AsyncSchedulerManager

end InstantBoard
