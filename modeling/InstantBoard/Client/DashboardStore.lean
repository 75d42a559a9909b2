import Mathlib.Data.List.Nodup
import Mathlib.Tactic.Lemma
import Mathlib.Tactic.TypeStar

/-!
# The dashboard store

The source table of the frontend's `useDashboardStore` and what a `source_health_update` event does
to it. An event is matched to a row by the row's id, the fields that change are merged into that row
and the three counters are counted again. One event keeps the identity columns (`update_identity`),
so a run of events does, and with them the distinct ids that make the matching row the only one
(`follows_events`).

The numbers of a row are copied and never computed with, so their type is a parameter.
-/

namespace InstantBoard.Client

inductive SourceStatus where
  | healthy
  | degraded
  | down
  deriving DecidableEq

/-- A row of the table. -/
structure DataSourceHealthDetail (Number : Type*) where
  id : String
  name : String
  sourceType : Option String
  status : SourceStatus
  successRate24h : Number
  avgResponseTimeMs : Number
  lastSuccessAt : Option String
  lastFailureAt : Option String
  consecutiveFailures : Number
  totalFetches24h : Number
  lastError : Option String

/-- The answer of `GET /dashboard/data-sources`. -/
structure DataSourceHealthSummary (Number : Type*) where
  totalSources : Nat
  healthy : Nat
  degraded : Nat
  down : Nat
  sources : List (DataSourceHealthDetail Number)

/-- The payload of a `source_health_update` event. A number that is null or missing is `none`. -/
structure SourceHealthUpdateEvent (Number : Type*) where
  sourceId : String
  name : String
  sourceType : Option String
  status : SourceStatus
  lastError : Option String
  lastSuccessAt : Option String
  lastFailureAt : Option String
  avgResponseTimeMs : Option Number
  consecutiveFailures : Option Number
  totalFetches24h : Option Number
  successRate24h : Option Number

variable {Number : Type*}

namespace DataSourceHealthDetail

/-- The columns that no event changes. -/
def identity (row : DataSourceHealthDetail Number) : String × String × Option String :=
  (row.id, row.name, row.sourceType)

/-- The object literal `{ ...row, status: data.status, … }`. -/
def merge (data : SourceHealthUpdateEvent Number) (row : DataSourceHealthDetail Number) :
    DataSourceHealthDetail Number :=
  { row with
    status := data.status
    lastError := data.lastError
    lastSuccessAt := data.lastSuccessAt.or row.lastSuccessAt
    lastFailureAt := data.lastFailureAt.or row.lastFailureAt
    avgResponseTimeMs := data.avgResponseTimeMs.getD row.avgResponseTimeMs
    consecutiveFailures := data.consecutiveFailures.getD row.consecutiveFailures
    totalFetches24h := data.totalFetches24h.getD row.totalFetches24h
    successRate24h := data.successRate24h.getD row.successRate24h }

/-- An event leaves a row its identity. -/
@[simp] lemma merge_identity (data : SourceHealthUpdateEvent Number)
    (row : DataSourceHealthDetail Number) : (row.merge data).identity = row.identity := rfl

end DataSourceHealthDetail

namespace DataSourceHealthSummary

/-- `sources.filter((s) => s.status === status).length` -/
def count (status : SourceStatus) (sources : List (DataSourceHealthDetail Number)) : Nat :=
  (sources.filter fun s => s.status = status).length

/-- The table with its counters counted again. -/
def recount (t : DataSourceHealthSummary Number) : DataSourceHealthSummary Number :=
  { t with
    healthy := count .healthy t.sources
    degraded := count .degraded t.sources
    down := count .down t.sources }

/-- `updateSourceHealthFromSSE` on a table that is there. -/
def update (t : DataSourceHealthSummary Number) (data : SourceHealthUpdateEvent Number) :
    DataSourceHealthSummary Number :=
  match t.sources.findIdx? (·.id = data.sourceId) with
  | none => t
  | some index =>
    recount { t with sources := t.sources.modify index (DataSourceHealthDetail.merge data) }

end DataSourceHealthSummary

/-- `updateSourceHealthFromSSE` -/
def updateSourceHealthFromSSE (dataSources : Option (DataSourceHealthSummary Number))
    (data : SourceHealthUpdateEvent Number) : Option (DataSourceHealthSummary Number) :=
  dataSources.map (·.update data)

/-- The store after a sequence of events. -/
def updates (dataSources : Option (DataSourceHealthSummary Number))
    (events : List (SourceHealthUpdateEvent Number)) : Option (DataSourceHealthSummary Number) :=
  events.foldl updateSourceHealthFromSSE dataSources

/-! ## One event -/

/-- What the matching row says after an event: the status, the error and every number of the event,
and its own value where the event has none. -/
structure Carries (data : SourceHealthUpdateEvent Number) (row row' : DataSourceHealthDetail Number) :
    Prop where
  identity : row'.identity = row.identity
  status : row'.status = data.status
  lastError : row'.lastError = data.lastError
  lastSuccessAt : ∀ {time}, data.lastSuccessAt = some time → row'.lastSuccessAt = some time
  lastFailureAt : ∀ {time}, data.lastFailureAt = some time → row'.lastFailureAt = some time
  noSuccessAt : data.lastSuccessAt = none → row'.lastSuccessAt = row.lastSuccessAt
  noFailureAt : data.lastFailureAt = none → row'.lastFailureAt = row.lastFailureAt
  numbers : row'.avgResponseTimeMs = data.avgResponseTimeMs.getD row.avgResponseTimeMs ∧
    row'.consecutiveFailures = data.consecutiveFailures.getD row.consecutiveFailures ∧
    row'.totalFetches24h = data.totalFetches24h.getD row.totalFetches24h ∧
    row'.successRate24h = data.successRate24h.getD row.successRate24h

/-- A merged row carries what the event says. -/
lemma Carries.of_merge (data : SourceHealthUpdateEvent Number)
    (row : DataSourceHealthDetail Number) : Carries data row (row.merge data) where
  identity := rfl
  status := rfl
  lastError := rfl
  lastSuccessAt := fun h => by simp [DataSourceHealthDetail.merge, h]
  lastFailureAt := fun h => by simp [DataSourceHealthDetail.merge, h]
  noSuccessAt := fun h => by simp [DataSourceHealthDetail.merge, h]
  noFailureAt := fun h => by simp [DataSourceHealthDetail.merge, h]
  numbers := ⟨rfl, rfl, rfl, rfl⟩

namespace DataSourceHealthSummary

variable {t : DataSourceHealthSummary Number} {data : SourceHealthUpdateEvent Number}

/-- What an event does: nothing, or a merge into the first row with its id and a recount. -/
lemma update_cases (t : DataSourceHealthSummary Number) (data : SourceHealthUpdateEvent Number) :
    (t.update data = t ∧ ∀ row ∈ t.sources, row.id ≠ data.sourceId) ∨
    ∃ index row, t.sources[index]? = some row ∧ row.id = data.sourceId ∧
      t.update data = recount
        { t with sources := t.sources.modify index (DataSourceHealthDetail.merge data) } := by
  cases hfind : t.sources.findIdx? (·.id = data.sourceId) with
  | none =>
    left
    refine ⟨by simp only [update, hfind], ?_⟩
    intro row hrow
    simpa using List.findIdx?_eq_none_iff.1 hfind row hrow
  | some index =>
    right
    obtain ⟨hlt, hid, _⟩ := List.findIdx?_eq_some_iff_getElem.1 hfind
    exact ⟨index, t.sources[index], List.getElem?_eq_getElem hlt, by simpa using hid,
      by simp only [update, hfind]⟩

/-- One event keeps the identity columns and the order of the rows. -/
lemma update_identity (t : DataSourceHealthSummary Number) (data : SourceHealthUpdateEvent Number) :
    (t.update data).sources.map (·.identity) = t.sources.map (·.identity) := by
  obtain ⟨heq, _⟩ | ⟨index, row, _, _, heq⟩ := update_cases t data
  · rw [heq]
  · rw [heq]
    apply List.ext_getElem?
    intro i
    simp only [recount, List.getElem?_map, List.getElem?_modify]
    cases t.sources[i]? with
    | none => rfl
    | some row => by_cases hi : index = i <;> simp [hi]

/-- An event leaves the number of sources. -/
lemma update_totalSources (t : DataSourceHealthSummary Number)
    (data : SourceHealthUpdateEvent Number) : (t.update data).totalSources = t.totalSources := by
  obtain ⟨heq, _⟩ | ⟨_, _, _, _, heq⟩ := update_cases t data
  · rw [heq]
  · rw [heq]
    rfl

/-- The ids of the rows are distinct. -/
def Distinct (t : DataSourceHealthSummary Number) : Prop :=
  (t.sources.map (·.id)).Nodup

/-- Rows at two places have two ids. -/
lemma Distinct.index_eq (h : t.Distinct) {i j : Nat} {row row' : DataSourceHealthDetail Number}
    (hi : t.sources[i]? = some row) (hj : t.sources[j]? = some row') (hid : row.id = row'.id) :
    i = j := by
  have hlt : i < (t.sources.map (·.id)).length := by
    rw [List.length_map]
    exact (List.getElem?_eq_some_iff.1 hi).1
  apply (List.getElem?_inj hlt h).1
  rw [List.getElem?_map, List.getElem?_map, hi, hj, Option.map_some, Option.map_some, hid]

/-- The ids are part of the identity columns. -/
lemma ids_of_identity {t t' : DataSourceHealthSummary Number}
    (h : t'.sources.map (·.identity) = t.sources.map (·.identity)) :
    t'.sources.map (·.id) = t.sources.map (·.id) := by
  have hfst := congrArg (List.map Prod.fst) h
  rw [List.map_map, List.map_map] at hfst
  exact hfst

/-- What an event makes of a table whose ids are distinct. -/
structure Refreshed (data : SourceHealthUpdateEvent Number) (t t' : DataSourceHealthSummary Number) :
    Prop where
  matching : ∀ {i : Nat} {row}, t.sources[i]? = some row → row.id = data.sourceId →
    (∃ row', t'.sources[i]? = some row' ∧ Carries data row row') ∧
    t'.healthy = count .healthy t'.sources ∧ t'.degraded = count .degraded t'.sources ∧
    t'.down = count .down t'.sources
  others : ∀ {i : Nat} {row}, t.sources[i]? = some row → row.id ≠ data.sourceId →
    t'.sources[i]? = some row
  unknown : (∀ row ∈ t.sources, row.id ≠ data.sourceId) → t' = t

/-- An update refreshes the row of its source and no other. -/
lemma Refreshed.of_update (h : t.Distinct) (data : SourceHealthUpdateEvent Number) :
    Refreshed data t (t.update data) := by
  obtain ⟨heq, hunknown⟩ | ⟨index, row, hrow, hid, heq⟩ := update_cases t data
  · rw [heq]
    refine ⟨?_, fun hi _ => hi, fun _ => rfl⟩
    intro i row hi hid
    exact absurd hid (hunknown row (List.mem_of_getElem? hi))
  · rw [heq]
    refine ⟨?_, ?_, ?_⟩
    · intro i row' hi hid'
      have hindex : index = i := h.index_eq hrow hi (hid.trans hid'.symm)
      subst hindex
      refine ⟨⟨row'.merge data, ?_, .of_merge data row'⟩, rfl, rfl, rfl⟩
      simp only [recount, List.getElem?_modify, hi, if_true]
      rfl
    · intro i row' hi hid'
      have hne : index ≠ i := by
        rintro rfl
        rw [hrow] at hi
        cases hi
        exact hid' hid
      simp only [recount, List.getElem?_modify, hi, if_neg hne]
      rfl
    · intro hunknown
      exact absurd hid (hunknown row (List.mem_of_getElem? hrow))

end DataSourceHealthSummary

/-! ## A run of events -/

open DataSourceHealthSummary

/-- A run of events keeps the identity columns, the order of the rows and the number of sources. -/
lemma updates_identity (t : DataSourceHealthSummary Number)
    (events : List (SourceHealthUpdateEvent Number)) :
    ∃ t', updates (some t) events = some t' ∧
      t'.sources.map (·.identity) = t.sources.map (·.identity) ∧
      t'.totalSources = t.totalSources := by
  induction events generalizing t with
  | nil => exact ⟨t, rfl, rfl, rfl⟩
  | cons data events ih =>
    obtain ⟨t', hrun, hidentity, htotal⟩ := ih (t.update data)
    exact ⟨t', hrun, hidentity.trans (update_identity t data),
      htotal.trans (update_totalSources t data)⟩

/-- After any events on a table with distinct ids, however stale its counters: the next event keeps
the rows, their identity columns and their order, refreshes the row it names and recounts, leaves
every other row alone, and changes nothing if no row has its id. -/
theorem follows_events {t₀ : DataSourceHealthSummary Number} (distinct : t₀.Distinct)
    (events : List (SourceHealthUpdateEvent Number)) (data : SourceHealthUpdateEvent Number) :
    ∃ t t', updates (some t₀) events = some t ∧ updates (some t₀) (events ++ [data]) = some t' ∧
      t'.sources.map (·.identity) = t₀.sources.map (·.identity) ∧
      t'.totalSources = t₀.totalSources ∧ Refreshed data t t' := by
  obtain ⟨t, hrun, hidentity, htotal⟩ := updates_identity t₀ events
  have hdistinct : t.Distinct := by
    unfold Distinct
    rw [ids_of_identity hidentity]
    exact distinct
  refine ⟨t, t.update data, hrun, ?_, (update_identity t data).trans hidentity,
    (update_totalSources t data).trans htotal, .of_update hdistinct data⟩
  show (events ++ [data]).foldl _ _ = _
  rw [List.foldl_append]
  show updateSourceHealthFromSSE (updates (some t₀) events) data = _
  rw [hrun]
  rfl

/-- A row of a source that is `status`, without any fetch in the last 24 hours. -/
def quietRow (id name : String) (status : SourceStatus) : DataSourceHealthDetail Nat :=
  { id, name, sourceType := some "rss", status, successRate24h := 0, avgResponseTimeMs := 250,
    lastSuccessAt := some "2026-08-11T07:00:00+00:00", lastFailureAt := none,
    consecutiveFailures := 0, totalFetches24h := 0, lastError := none }

/-- Two healthy rows under stale counters, and the first row's source goes down: the event's null
time leaves the time of the last success. -/
theorem stale_table_follows :
    let table : DataSourceHealthSummary Nat :=
      { totalSources := 2, healthy := 0, degraded := 7, down := 0,
        sources := [quietRow "a" "Hacker News" .healthy, quietRow "b" "arXiv" .healthy] }
    let data : SourceHealthUpdateEvent Nat :=
      { sourceId := "a", name := "HN", sourceType := none, status := .down,
        lastError := some "timeout", lastSuccessAt := none,
        lastFailureAt := some "2026-08-11T08:05:00+00:00", avgResponseTimeMs := some 432,
        consecutiveFailures := some 3, totalFetches24h := some 23, successRate24h := none }
    ∃ t t', updates (some table) [] = some t ∧ updates (some table) [data] = some t' ∧
      t'.sources.map (·.identity) = table.sources.map (·.identity) ∧
      t'.totalSources = table.totalSources ∧ Refreshed data t t' := by
  intro table data
  have distinct : table.Distinct := List.nodup_iff_pairwise_ne.2 (by decide)
  exact follows_events distinct [] data

end InstantBoard.Client
