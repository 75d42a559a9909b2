import InstantBoard.Lib.Query
import InstantBoard.Lib.Table
import InstantBoard.Lib.Transition
import InstantBoard.Scheduler.Health
import InstantBoard.Services.Source
import Mathlib.Data.List.Dedup

/-!
# What the endpoints say of the sources

Four endpoints show the health of the sources to a tenant: the list with its status filter, the health
of one source, the dashboard's table with its counters (computed in one of two ways, with Redis or
without), and the detail behind a line of that table. They read two tables with different joins, and
take a missing health row in different ways.

`views_agree`: in every run of the service, the collections, the seed and the deletions that cascade, no
source is ever without its health row, so the four never disagree, and the counters add up.
-/

namespace InstantBoard.HealthViews

open AsyncSchedulerManager Calendar Query Table Transition

/-! ## The tables -/

/-- A row of `source_health`. -/
structure HealthRow where
  sourceId : String
  health : SourceHealth

/-- The tables of the endpoints, the two times of a source apart from its row. -/
structure HealthTables where
  db : Tables
  health : List HealthRow
  createdAt : String → Datetime
  updatedAt : String → Datetime

def statusText : HealthStatus → String
  | .healthy => "healthy"
  | .degraded => "degraded"
  | .down => "down"

/-- The scope of every query: the tenant's own sources and the system's. -/
def accessible (tenantId : String) (s : Source) : Bool :=
  s.tenantId = tenantId ∨ s.tenantId = SYSTEM_TENANT_ID

namespace HealthTables

/-- `select(Source, SourceHealth).join(SourceHealth, ...)` -/
def joined (t : HealthTables) : List (Source × SourceHealth) :=
  t.db.sources.flatMap fun s => (t.health.filter (·.sourceId = s.id)).map fun h => (s, h.health)

/-- The health row of a source, `source.health`. -/
def healthOf (t : HealthTables) (sourceId : String) : Option SourceHealth :=
  (t.health.find? (·.sourceId = sourceId)).map (·.health)

end HealthTables

/-! ## `SourceService` -/

structure SourceResponse where
  id : String
  name : String
  categoryId : String
  sourceType : String
  url : String
  config : Dict
  refreshIntervalSeconds : Int
  isActive : Bool
  priority : Int
  collectorAvailable : Bool
  healthStatus : Option HealthStatus
  lastFetchAt : Option Datetime
  lastError : Option String
  createdAt : Datetime
  updatedAt : Datetime

/-- `_source_to_response` -/
def sourceToResponse (t : HealthTables) (source : Source) : SourceResponse where
  id := source.id
  name := source.name
  categoryId := source.categoryId
  sourceType := source.sourceType
  url := source.url
  config := source.config
  refreshIntervalSeconds := source.refreshIntervalSeconds.getD
    (((t.db.category? source.categoryId).map (·.refreshIntervalSeconds)).getD 300)
  isActive := source.isActive
  priority := source.priority
  collectorAvailable := (SourceService.resolveCollector source.sourceType source.config).isSome
  healthStatus := (t.healthOf source.id).map (·.status)
  lastFetchAt := (t.healthOf source.id).bind (·.lastSuccessAt)
  lastError := (t.healthOf source.id).bind (·.lastErrorMessage)
  createdAt := t.createdAt source.id
  updatedAt := t.updatedAt source.id

/-- The quotient of two counts. -/
structure Rate where
  successes : Nat
  fetches : Nat

def successRate (h : SourceHealth) : Option Rate :=
  if h.totalFetches24h > 0 then some ⟨h.successCount24h, h.totalFetches24h⟩ else none

structure SourceHealthResponse where
  sourceId : String
  status : HealthStatus
  successRate24h : Option Rate
  avgResponseTimeMs : Nat
  lastSuccessAt : Option Datetime
  lastFailureAt : Option Datetime
  consecutiveFailures : Nat
  totalFetches24h : Nat
  lastError : Option String

/-- `_health_to_response` -/
def healthToResponse (sourceId : String) (h : SourceHealth) : SourceHealthResponse where
  sourceId
  status := h.status
  successRate24h := successRate h
  avgResponseTimeMs := h.avgResponseTimeMs
  lastSuccessAt := h.lastSuccessAt
  lastFailureAt := h.lastFailureAt
  consecutiveFailures := h.consecutiveFailures
  totalFetches24h := h.totalFetches24h
  lastError := h.lastErrorMessage

/-- The parameters of `list_sources`. -/
structure ListParams where
  categoryId : Option String
  sourceType : Option String
  statusFilter : Option String
  isActive : Option Bool
  page : Nat
  pageSize : Nat
  sortBy : Option String
  sortOrder : String

/-- A condition that is made where the parameter is there and not empty. -/
def whereGiven (param : Option String) (p : String → Bool) : Bool :=
  match param with
  | none => true
  | some value => value = "" || p value

def ListParams.conditions (q : ListParams) (tenantId : String) (s : Source) : Bool :=
  accessible tenantId s && whereGiven q.categoryId (· = s.categoryId) &&
    whereGiven q.sourceType (· = s.sourceType) && q.isActive.all (· = s.isActive)

/-- The rows of the query, joined with the health rows only where a status is asked for. -/
def selected (t : HealthTables) (tenantId : String) (q : ListParams) : List Source :=
  match q.statusFilter with
  | none | some "" => t.db.sources.filter (q.conditions tenantId)
  | some status =>
    (t.joined.filter fun r => q.conditions tenantId r.1 && statusText r.2.status = status).map (·.1)

inductive SortField where
  | createdAt
  | name
  | priority

def SOURCE_SORT_FIELDS : List (String × SortField) :=
  [("created_at", .createdAt), ("name", .name), ("priority", .priority)]

/-- `apply_sort`: the column, and whether it ascends. -/
def applySort (sortBy sortOrder : String) : Except AppError (SortField × Bool) :=
  let fields := ", ".intercalate (SOURCE_SORT_FIELDS.map (·.1))
  match SOURCE_SORT_FIELDS.lookup sortBy with
  | none => .error (.validationError
      ("Invalid sort_by value '" ++ sortBy ++ "'. Allowed fields: " ++ fields)
      [("sort_by", "Must be one of: " ++ fields)])
  | some field =>
    if sortOrder.toLower = "asc" then .ok (field, true)
    else if sortOrder.toLower = "desc" then .ok (field, false)
    else .error (.validationError
      ("Invalid sort_order value '" ++ sortOrder ++ "'. Must be 'asc' or 'desc'")
      [("sort_order", "Must be 'asc' or 'desc'")])

section

-- the collation of the database
variable (collation : String → String → Prop)

/-- The order of a column. -/
def SortField.le (t : HealthTables) : SortField → Source → Source → Prop
  | .createdAt, s, s' => t.createdAt s.id ≤ t.createdAt s'.id
  | .name, s, s' => collation s.name s'.name
  | .priority, s, s' => s.priority ≤ s'.priority

/-- The ORDER BY of `list_sources`. -/
def listOrder (t : HealthTables) (q : ListParams) : Except AppError (Source → Source → Prop) :=
  match q.sortBy with
  | none => .ok fun s s' =>
      s.priority < s'.priority ∨ s.priority = s'.priority ∧ collation s.name s'.name
  | some sortBy => (applySort sortBy q.sortOrder).map fun (field, ascending) s s' =>
      if ascending = true then field.le collation t s s' else field.le collation t s' s

structure SourcePage where
  data : List SourceResponse
  total : Nat
  page : Nat
  pageSize : Nat

/-- What `list_sources` may answer: the database lists ties as it likes. -/
def ListSources (t : HealthTables) (tenantId : String) (q : ListParams)
    (answer : Except AppError SourcePage) : Prop :=
  match listOrder collation t q with
  | .error e => answer = .error e
  | .ok r => ∃ out, OrderBy r (selected t tenantId q) out ∧
      answer = .ok
        { data := ((out.drop ((q.page - 1) * q.pageSize)).take q.pageSize).map (sourceToResponse t)
          total := (selected t tenantId q).length
          page := q.page
          pageSize := q.pageSize }

end

def sourceNotAccessible : AppError :=
  .sourceNotFound "Source not accessible for this tenant"

def getSource (t : HealthTables) (sourceId tenantId : String) : Except AppError SourceResponse :=
  match t.db.source? sourceId with
  | none => .error (.sourceNotFound "Source not found")
  | some source =>
    if source.tenantId ≠ tenantId ∧ source.tenantId ≠ SYSTEM_TENANT_ID then
      .error sourceNotAccessible
    else .ok (sourceToResponse t source)

/-- `get_source_health`: the source is looked up after its health row. -/
def getSourceHealth (t : HealthTables) (sourceId tenantId : String) :
    Except AppError SourceHealthResponse :=
  let health := t.healthOf sourceId
  match t.db.source? sourceId with
  | none => .error (.sourceNotFound "Source not found")
  | some source =>
    if source.tenantId ≠ tenantId ∧ source.tenantId ≠ SYSTEM_TENANT_ID then
      .error sourceNotAccessible
    else match health with
      | none => .ok
          { sourceId, status := .healthy, successRate24h := none, avgResponseTimeMs := 0,
            lastSuccessAt := none, lastFailureAt := none, consecutiveFailures := 0,
            totalFetches24h := 0, lastError := none }
      | some h => .ok (healthToResponse sourceId h)

/-- The counters of the sources. -/
structure Summary where
  totalSources : Nat
  healthy : Nat
  degraded : Nat
  down : Nat

def Summary.count (s : Summary) : HealthStatus → Nat
  | .healthy => s.healthy
  | .degraded => s.degraded
  | .down => s.down

/-- `summary[status] = count` -/
def Summary.set (s : Summary) (status : HealthStatus) (count : Nat) : Summary :=
  match status with
  | .healthy => { s with healthy := count }
  | .degraded => { s with degraded := count }
  | .down => { s with down := count }

/-- `select(SourceHealth.status, func.count())` over the rows in scope, with its GROUP BY. -/
def statusGroups (t : HealthTables) (tenantId : String) : List (HealthStatus × Nat) :=
  let statuses := (t.joined.filter fun r => accessible tenantId r.1).map (·.2.status)
  statuses.dedup.map fun status => (status, statuses.count status)

/-- `get_all_sources_health_summary` -/
def getAllSourcesHealthSummary (t : HealthTables) (tenantId : String) : Summary :=
  (statusGroups t tenantId).foldl (fun summary r => summary.set r.1 r.2)
    { totalSources := (t.db.sources.filter (accessible tenantId)).length
      healthy := 0, degraded := 0, down := 0 }

/-! ## `DashboardService` -/

structure DataSourceHealth where
  id : String
  name : String
  sourceType : String
  categoryId : String
  status : HealthStatus
  successRate24h : Option Rate
  avgResponseTimeMs : Nat
  lastSuccessAt : Option Datetime
  lastFailureAt : Option Datetime
  consecutiveFailures : Nat
  totalFetches24h : Nat
  lastError : Option String

structure DataSourcesHealth where
  summary : Summary
  sources : List DataSourceHealth

def dataSourceHealth (source : Source) (h : SourceHealth) : DataSourceHealth where
  id := source.id
  name := source.name
  sourceType := source.sourceType
  categoryId := source.categoryId
  status := h.status
  successRate24h := successRate h
  avgResponseTimeMs := h.avgResponseTimeMs
  lastSuccessAt := h.lastSuccessAt
  lastFailureAt := h.lastFailureAt
  consecutiveFailures := h.consecutiveFailures
  totalFetches24h := h.totalFetches24h
  lastError := h.lastErrorMessage

/-- `CASE source_health.status WHEN 'down' THEN 1 WHEN 'degraded' THEN 2 ELSE 3 END` -/
def severity : HealthStatus → Nat
  | .down => 1
  | .degraded => 2
  | .healthy => 3

/-- The counters without Redis: the same queries in the other order. -/
def summaryWithoutRedis (t : HealthTables) (tenantId : String) : Summary :=
  let total := (t.db.sources.filter (accessible tenantId)).length
  (statusGroups t tenantId).foldl (fun summary r => summary.set r.1 r.2)
    { totalSources := total, healthy := 0, degraded := 0, down := 0 }

section

variable (collation : String → String → Prop)

/-- The ORDER BY of the dashboard's table. -/
def worstFirst (r r' : Source × SourceHealth) : Prop :=
  severity r.2.status < severity r'.2.status ∨
    severity r.2.status = severity r'.2.status ∧ collation r.1.name r'.1.name

/-- What `get_data_sources_health_summary` may answer. -/
def GetDataSourcesHealthSummary (t : HealthTables) (redis : Bool) (tenantId : String)
    (answer : DataSourcesHealth) : Prop :=
  ∃ out, OrderBy (worstFirst collation) (t.joined.filter fun r => accessible tenantId r.1) out ∧
    answer =
      { summary :=
          if redis = true then getAllSourcesHealthSummary t tenantId
          else summaryWithoutRedis t tenantId
        sources := out.map fun r => dataSourceHealth r.1 r.2 }

end

structure DataSourceHealthDetail where
  sourceId : String
  name : String
  sourceType : String
  status : HealthStatus
  successRate24h : Option Rate
  avgResponseTimeMs : Nat
  lastSuccessAt : Option Datetime
  lastFailureAt : Option Datetime
  consecutiveFailures : Nat
  totalFetches24h : Nat
  lastError : Option String
  healthHistory : List Json
  responseTimeTrend : Json

/-- `get_data_source_health_detail`; `record` and `trend` are what Redis has of the source, where that is
JSON. -/
def getDataSourceHealthDetail (t : HealthTables) (tenantId sourceId : String)
    (record trend : Option Json) : Except MultipleResultsFound (Option DataSourceHealthDetail) :=
  match Table.scalarOneOrNone (t.joined.filter fun r => r.1.id = sourceId ∧ accessible tenantId r.1) with
  | .error e => .error e
  | .ok none =>
    match Table.scalarOneOrNone (t.db.sources.filter fun s => s.id = sourceId ∧ accessible tenantId s) with
    | .error e => .error e
    | .ok none => .ok none
    | .ok (some source) => .ok (some
        { sourceId := source.id, name := source.name, sourceType := source.sourceType,
          status := .healthy, successRate24h := none, avgResponseTimeMs := 0, lastSuccessAt := none,
          lastFailureAt := none, consecutiveFailures := 0, totalFetches24h := 0, lastError := none,
          healthHistory := [], responseTimeTrend := .arr [] })
  | .ok (some (source, h)) => .ok (some
      { sourceId := source.id, name := source.name, sourceType := source.sourceType,
        status := h.status, successRate24h := successRate h,
        avgResponseTimeMs := h.avgResponseTimeMs, lastSuccessAt := h.lastSuccessAt,
        lastFailureAt := h.lastFailureAt, consecutiveFailures := h.consecutiveFailures,
        totalFetches24h := h.totalFetches24h, lastError := h.lastErrorMessage,
        healthHistory := record.toList, responseTimeTrend := trend.getD (.arr []) })

/-! ## Runs -/

namespace HealthTables

/-- `_update_health_after_collection`: the row of the source, or a new one. -/
def collect (t : HealthTables) (sourceId : String) (now : Datetime) (result : CollectionResult) :
    HealthTables :=
  match t.health.find? (·.sourceId = sourceId) with
  | some row =>
    { t with health := replace (·.sourceId) ⟨sourceId, healthAfter now result (some row.health)⟩ t.health }
  | none => { t with health := t.health ++ [⟨sourceId, healthAfter now result none⟩] }

/-- The health rows after a request; a source that is deleted takes its row with it. -/
def healthAfterRequest (t : HealthTables) : SourceService.Request → List HealthRow
  | .create _ _ id => t.health ++ [⟨id, .created⟩]
  | .update _ _ _ => t.health
  | .delete sourceId _ => t.health.filter (·.sourceId ≠ sourceId)

end HealthTables

inductive Label where
  | request (r : SourceService.Request)
  | collected (sourceId : String) (now : Datetime) (result : CollectionResult)
  /-- `seed_default_data` and its missing sources -/
  | seeded (sources : List Source)
  /-- Tenants and categories are written; what is deleted takes its sources with it. -/
  | administered (keep : Source → Bool)

inductive Step : HealthTables → Label → HealthTables → Prop where
  | request {t r db notice createdAt updatedAt} :
      SourceService.handle t.db r = .ok (db, notice) →
      (∀ data tenantId id, r = .create data tenantId id → Free (·.id) id t.db.sources) →
      Step t (.request r) ⟨db, t.healthAfterRequest r, createdAt, updatedAt⟩
  | collected {t s now result} : s ∈ t.db.sources →
      Step t (.collected s.id now result) (t.collect s.id now result)
  | seeded {t tenants categories sources createdAt} :
      Unique (·.id) (t.db.sources ++ sources) →
      Step t (.seeded sources)
        ⟨⟨tenants, categories, t.db.sources ++ sources⟩,
          t.health ++ sources.map fun s => ⟨s.id, .created⟩, createdAt, t.updatedAt⟩
  | administered {t tenants categories keep} :
      Step t (.administered keep)
        { t with
          db := ⟨tenants, categories, t.db.sources.filter keep⟩
          health := t.health.filter fun h => t.db.sources.any fun s => s.id = h.sourceId && keep s }

/-! ## Every source has its health row -/

/-- The constraints of the tables, and a health row for every source. -/
structure HealthTables.Complete (t : HealthTables) : Prop where
  ids : Unique (·.id) t.db.sources
  rows : Unique (·.sourceId) t.health
  owned : ∀ h ∈ t.health, ∃ s ∈ t.db.sources, s.id = h.sourceId
  covered : ∀ s ∈ t.db.sources, ∃ h ∈ t.health, h.sourceId = s.id

namespace HealthTables.Complete

variable {t : HealthTables}

/-- A collection finds the row of its source. -/
lemma collect {s : Source} {now : Datetime} {result : CollectionResult} (h : t.Complete)
    (hs : s ∈ t.db.sources) : (t.collect s.id now result).Complete := by
  obtain ⟨row, hrow, hid⟩ := h.covered s hs
  unfold HealthTables.collect
  cases hfind : t.health.find? (·.sourceId = s.id) with
  | none =>
    have := List.find?_eq_none.1 hfind row hrow
    exact absurd hid (by simpa using this)
  | some found =>
    refine ⟨h.ids, h.rows.replace_id _, fun r hr => ?_, fun s' hs' => ?_⟩
    · rcases mem_replace.1 hr with ⟨rfl, -⟩ | ⟨hr, -⟩
      · exact ⟨s, hs, rfl⟩
      · exact h.owned r hr
    · obtain ⟨r, hr, hr'⟩ := h.covered s' hs'
      by_cases hsame : r.sourceId = s.id
      · exact ⟨_, mem_replace.2 (.inl ⟨rfl, r, hr, hsame⟩), hsame.symm.trans hr'⟩
      · exact ⟨r, mem_replace.2 (.inr ⟨hr, hsame⟩), hr'⟩

/-- A source that is created is given a row. -/
lemma create {db : Tables} {createdAt updatedAt : String → Datetime} {source : Source}
    (h : t.Complete) (hdb : db.sources = t.db.sources ++ [source])
    (hfree : Free (·.id) source.id t.db.sources) :
    HealthTables.Complete ⟨db, t.health ++ [⟨source.id, .created⟩], createdAt, updatedAt⟩ := by
  have hfree' : Free (·.sourceId) source.id t.health := by
    intro r hr hid
    obtain ⟨s, hs, hs'⟩ := h.owned r hr
    exact hfree s hs (hs'.trans hid)
  refine ⟨?_, h.rows.append hfree', fun r hr => ?_, fun s hs => ?_⟩
  · rw [hdb]
    exact h.ids.append hfree
  · rw [hdb]
    rcases List.mem_append.1 hr with hr | hr
    · obtain ⟨s, hs, hs'⟩ := h.owned r hr
      exact ⟨s, List.mem_append_left _ hs, hs'⟩
    · rw [List.mem_singleton.1 hr]
      exact ⟨source, List.mem_append_right _ List.mem_cons_self, rfl⟩
  · rw [hdb] at hs
    rcases List.mem_append.1 hs with hs | hs
    · obtain ⟨r, hr, hr'⟩ := h.covered s hs
      exact ⟨r, List.mem_append_left _ hr, hr'⟩
    · rw [List.mem_singleton.1 hs]
      exact ⟨_, List.mem_append_right _ List.mem_cons_self, rfl⟩

/-- Sources that go take their rows with them. -/
lemma removed {db : Tables} {createdAt updatedAt : String → Datetime} {health : List HealthRow}
    {keep : Source → Bool} (h : t.Complete) (hdb : db.sources = t.db.sources.filter keep)
    (hhealth : ∀ r, r ∈ health ↔ r ∈ t.health ∧ ∃ s ∈ t.db.sources, s.id = r.sourceId ∧ keep s = true)
    (hsub : health.Sublist t.health) :
    HealthTables.Complete ⟨db, health, createdAt, updatedAt⟩ := by
  refine ⟨?_, h.rows.sublist (hsub.map _), fun r hr => ?_, fun s hs => ?_⟩
  · rw [hdb]
    exact h.ids.sublist (List.filter_sublist.map _)
  · obtain ⟨-, s, hs, hid, hkeep⟩ := (hhealth r).1 hr
    rw [hdb]
    exact ⟨s, List.mem_filter.2 ⟨hs, hkeep⟩, hid⟩
  · rw [hdb] at hs
    obtain ⟨hs, hkeep⟩ := List.mem_filter.1 hs
    obtain ⟨r, hr, hr'⟩ := h.covered s hs
    exact ⟨r, (hhealth r).2 ⟨hr, s, hs, hr'.symm, hkeep⟩, hr'⟩

/-- Sources that are rewritten in place keep their rows. -/
lemma rewritten {db : Tables} {createdAt updatedAt : String → Datetime} (h : t.Complete)
    (hdb : db.sources.map (·.id) = t.db.sources.map (·.id)) :
    HealthTables.Complete ⟨db, t.health, createdAt, updatedAt⟩ := by
  have hmem (id : String) : (∃ s ∈ db.sources, s.id = id) ↔ ∃ s ∈ t.db.sources, s.id = id := by
    rw [← List.mem_map, ← List.mem_map, hdb]
  refine ⟨?_, h.rows, fun r hr => (hmem r.sourceId).2 (h.owned r hr), fun s hs => ?_⟩
  · show (db.sources.map (·.id)).Nodup
    rw [hdb]
    exact h.ids
  · obtain ⟨s', hs', hid⟩ := (hmem s.id).1 ⟨s, hs, rfl⟩
    obtain ⟨r, hr, hr'⟩ := h.covered s' hs'
    exact ⟨r, hr, hr'.trans hid⟩

/-- The tables stay complete when seed sources get their health. -/
lemma seeded {tenants : List Tenant} {categories : List Category} {sources : List Source}
    {createdAt updatedAt : String → Datetime} (h : t.Complete)
    (hids : Unique (·.id) (t.db.sources ++ sources)) :
    HealthTables.Complete ⟨⟨tenants, categories, t.db.sources ++ sources⟩,
      t.health ++ sources.map fun s => ⟨s.id, .created⟩, createdAt, updatedAt⟩ := by
  refine ⟨hids, ?_, fun r hr => ?_, fun s hs => ?_⟩
  · unfold Table.Unique at hids ⊢
    rw [List.map_append] at hids ⊢
    rw [List.map_map]
    obtain ⟨-, hnew, hdisjoint⟩ := List.nodup_append.1 hids
    refine List.nodup_append.2 ⟨h.rows, hnew, fun id hold id' hid' => ?_⟩
    obtain ⟨r, hr, rfl⟩ := List.mem_map.1 hold
    obtain ⟨s, hs, hid⟩ := h.owned r hr
    exact hdisjoint _ (List.mem_map.2 ⟨s, hs, hid⟩) id' hid'
  · rcases List.mem_append.1 hr with hr | hr
    · obtain ⟨s, hs, hid⟩ := h.owned r hr
      exact ⟨s, List.mem_append_left _ hs, hid⟩
    · obtain ⟨s, hs, rfl⟩ := List.mem_map.1 hr
      exact ⟨s, List.mem_append_right _ hs, rfl⟩
  · rcases List.mem_append.1 hs with hs | hs
    · obtain ⟨r, hr, hid⟩ := h.covered s hs
      exact ⟨r, List.mem_append_left _ hr, hid⟩
    · exact ⟨_, List.mem_append_right _ (List.mem_map_of_mem hs), rfl⟩

end HealthTables.Complete

/-- No step leaves a source without its row. -/
lemma step_complete {t t' : HealthTables} {l : Label} (h : t.Complete) (step : Step t l t') :
    t'.Complete := by
  cases step with
  | @request r db notice _ _ hhandle hfree =>
    cases r with
    | create data tenantId id =>
      obtain ⟨source, slug, rfl, -, rfl, -⟩ := SourceService.createSource_eq_ok hhandle
      exact h.create rfl (hfree _ _ _ rfl)
    | update sourceId data tenantId =>
      obtain ⟨source, hsource, rfl, -⟩ := SourceService.updateSource_eq_ok hhandle
      refine h.rewritten ?_
      show (t.db.sources.map _).map _ = _
      rw [List.map_map]
      apply List.map_congr_left
      intro s hs
      show (if s.id = sourceId then _ else s : Source).id = s.id
      split
      · rename_i hid
        have hfound := List.find?_some hsource
        exact (eq_of_beq hfound).trans hid.symm
      · rfl
    | delete sourceId tenantId =>
      obtain ⟨source, -, rfl, -⟩ := SourceService.deleteSource_eq_ok hhandle
      refine h.removed rfl (fun r => ?_) List.filter_sublist
      show r ∈ t.health.filter _ ↔ _
      rw [List.mem_filter]
      constructor
      · rintro ⟨hr, hne⟩
        obtain ⟨s, hs, hid⟩ := h.owned r hr
        exact ⟨hr, s, hs, hid, by simpa [hid] using hne⟩
      · rintro ⟨hr, s, -, hid, hkeep⟩
        exact ⟨hr, by simpa [hid] using hkeep⟩
  | collected hs => exact h.collect hs
  | seeded hids => exact h.seeded hids
  | @administered _ _ keep =>
    refine h.removed rfl (fun r => ?_) List.filter_sublist
    simp only [List.mem_filter, List.any_eq_true, Bool.and_eq_true, decide_eq_true_eq]

/-! ## The endpoints agree -/

/-- A line of the dashboard, as an answer about its source. -/
def DataSourceHealth.report (line : DataSourceHealth) : SourceHealthResponse where
  sourceId := line.id
  status := line.status
  successRate24h := line.successRate24h
  avgResponseTimeMs := line.avgResponseTimeMs
  lastSuccessAt := line.lastSuccessAt
  lastFailureAt := line.lastFailureAt
  consecutiveFailures := line.consecutiveFailures
  totalFetches24h := line.totalFetches24h
  lastError := line.lastError

def DataSourceHealthDetail.report (detail : DataSourceHealthDetail) : SourceHealthResponse where
  sourceId := detail.sourceId
  status := detail.status
  successRate24h := detail.successRate24h
  avgResponseTimeMs := detail.avgResponseTimeMs
  lastSuccessAt := detail.lastSuccessAt
  lastFailureAt := detail.lastFailureAt
  consecutiveFailures := detail.consecutiveFailures
  totalFetches24h := detail.totalFetches24h
  lastError := detail.lastError

def SourceResponse.agrees (r : SourceResponse) (report : SourceHealthResponse) : Prop :=
  r.id = report.sourceId ∧ r.healthStatus = some report.status ∧
    r.lastFetchAt = report.lastSuccessAt ∧ r.lastError = report.lastError

/-- What a tenant is told, wherever it asks. -/
structure Agree (collation : String → String → Prop) (t : HealthTables) (tenantId : String) :
    Prop where
  /-- The counters add up. -/
  sum : (getAllSourcesHealthSummary t tenantId).healthy +
    (getAllSourcesHealthSummary t tenantId).degraded +
    (getAllSourcesHealthSummary t tenantId).down =
      (getAllSourcesHealthSummary t tenantId).totalSources
  /-- They are the totals of the lists by status, and of the list without a filter. -/
  totals : ∀ q page, q.categoryId = none → q.sourceType = none → q.isActive = none →
    ListSources collation t tenantId q (.ok page) →
      (q.statusFilter = none → page.total = (getAllSourcesHealthSummary t tenantId).totalSources) ∧
      ∀ status, q.statusFilter = some (statusText status) →
        page.total = (getAllSourcesHealthSummary t tenantId).count status
  /-- Whatever the other filters, a line of a list is what the endpoints of its source say. -/
  listed : ∀ q page, ListSources collation t tenantId q (.ok page) → ∀ r ∈ page.data,
    getSource t r.id tenantId = .ok r ∧
      ∃ report, getSourceHealth t r.id tenantId = .ok report ∧ r.agrees report ∧
        ∀ status, q.statusFilter = some status → status = "" ∨ statusText report.status = status
  /-- The dashboard shows each source once, with or without Redis, and says what the others say. -/
  dashboard : ∀ redis answer, GetDataSourcesHealthSummary collation t redis tenantId answer →
    answer.summary = getAllSourcesHealthSummary t tenantId ∧
      (answer.sources.map (·.id)).Perm
        ((t.db.sources.filter (accessible tenantId)).map (·.id)) ∧
      ∀ line ∈ answer.sources,
        getSourceHealth t line.id tenantId = .ok line.report ∧
        ∀ record trend, ∃ detail,
          getDataSourceHealthDetail t tenantId line.id record trend = .ok (some detail) ∧
            detail.report = line.report
  /-- No endpoint knows a source out of scope. -/
  hidden : ∀ sourceId, (∀ s ∈ t.db.sources, s.id = sourceId → accessible tenantId s = false) →
    (∃ e, getSource t sourceId tenantId = .error (.sourceNotFound e)) ∧
    (∃ e, getSourceHealth t sourceId tenantId = .error (.sourceNotFound e)) ∧
    ∀ record trend, getDataSourceHealthDetail t tenantId sourceId record trend = .ok none

/-! ### The counters -/

/-- Setting one count leaves the others. -/
lemma Summary.count_set (s : Summary) (status status' : HealthStatus) (n : Nat) :
    (s.set status n).count status' = if status' = status then n else s.count status' := by
  cases status <;> cases status' <;> rfl

/-- Setting a count leaves the total. -/
lemma Summary.totalSources_set (s : Summary) (status : HealthStatus) (n : Nat) :
    (s.set status n).totalSources = s.totalSources := by
  cases status <;> rfl

/-- Groups that are written one after the other. -/
lemma Summary.count_foldl (keys : List HealthStatus) (n : HealthStatus → Nat) (s : Summary)
    (status : HealthStatus) :
    ((keys.map fun k => (k, n k)).foldl (fun s r => s.set r.1 r.2) s).count status =
      if status ∈ keys then n status else s.count status := by
  induction keys generalizing s with
  | nil => rfl
  | cons k keys ih =>
    rw [List.map_cons, List.foldl_cons, ih, count_set]
    by_cases hmem : status ∈ keys
    · rw [if_pos hmem, if_pos (List.mem_cons_of_mem _ hmem)]
    · rw [if_neg hmem]
      by_cases hk : status = k
      · rw [if_pos hk, if_pos (hk ▸ List.mem_cons_self), hk]
      · rw [if_neg hk, if_neg (by simp [hk, hmem])]

/-- Setting counts leaves the total. -/
lemma Summary.totalSources_foldl (groups : List (HealthStatus × Nat)) (s : Summary) :
    (groups.foldl (fun s r => s.set r.1 r.2) s).totalSources = s.totalSources := by
  induction groups generalizing s with
  | nil => rfl
  | cons r groups ih => rw [List.foldl_cons, ih, totalSources_set]

variable {t : HealthTables} {tenantId : String}

/-- The total is the number of accessible sources. -/
lemma totalSources_summary : (getAllSourcesHealthSummary t tenantId).totalSources =
    (t.db.sources.filter (accessible tenantId)).length :=
  Summary.totalSources_foldl _ _

/-- The counts are those of the accessible sources. -/
lemma count_summary (status : HealthStatus) :
    (getAllSourcesHealthSummary t tenantId).count status =
      ((t.joined.filter fun r => accessible tenantId r.1).map (·.2.status)).count status := by
  have h := Summary.count_foldl
    ((t.joined.filter fun r => accessible tenantId r.1).map (·.2.status)).dedup
    (fun k => ((t.joined.filter fun r => accessible tenantId r.1).map (·.2.status)).count k)
    ⟨(t.db.sources.filter (accessible tenantId)).length, 0, 0, 0⟩ status
  refine h.trans ?_
  split
  · rfl
  · rename_i hmem
    rw [List.count_eq_zero.2 fun hin => hmem (List.mem_dedup.2 hin)]
    cases status <;> rfl

/-- The three counts add up. -/
lemma length_eq_counts (l : List HealthStatus) :
    l.count .healthy + l.count .degraded + l.count .down = l.length := by
  induction l with
  | nil => rfl
  | cons status l ih => cases status <;> simp <;> omega

/-! ### The joined rows -/

namespace HealthTables.Complete

variable {s : Source}

/-- The health a source is shown with. -/
lemma exists_health (h : t.Complete) (hs : s ∈ t.db.sources) :
    ∃ health, t.healthOf s.id = some health := by
  obtain ⟨row, hrow, hid⟩ := h.covered s hs
  unfold healthOf
  cases hfind : t.health.find? (·.sourceId = s.id) with
  | none => exact absurd hid (by simpa using List.find?_eq_none.1 hfind row hrow)
  | some found => exact ⟨found.health, rfl⟩

/-- A source is joined with its one row. -/
lemma filter_health (h : t.Complete) (hs : s ∈ t.db.sources) :
    (t.health.filter (·.sourceId = s.id)).map (fun r => (s, r.health)) =
      [(s, (t.healthOf s.id).getD .created)] := by
  have hunique := h.rows.scalarOneOrNone (p := fun r => decide (r.sourceId = s.id)) (k := s.id)
    fun r _ hr => by simpa using hr
  obtain ⟨row, hrow, hid, hone⟩ | ⟨hnone, -⟩ := hunique
  · have hfilter := Table.scalarOneOrNone_eq_some.1 hone
    have hfind : t.health.find? (·.sourceId = s.id) = some row := by
      rw [← List.head?_filter, hfilter]
      rfl
    rw [hfilter, healthOf, hfind]
    rfl
  · obtain ⟨row, hrow, hid⟩ := h.covered s hs
    exact absurd hid (by simpa using hnone row hrow)

/-- In complete tables the join has every source once. -/
lemma joined_eq (h : t.Complete) :
    t.joined = t.db.sources.map fun s => (s, (t.healthOf s.id).getD .created) := by
  unfold joined
  rw [← List.flatMap_singleton' (t.db.sources.map _), List.flatMap_map]
  exact List.flatMap_congr fun s hs => h.filter_health hs

/-- The joined rows that meet a condition on the source. -/
lemma filter_joined (h : t.Complete) (p : Source → Bool) :
    t.joined.filter (fun r => p r.1) =
      (t.db.sources.filter p).map fun s => (s, (t.healthOf s.id).getD .created) := by
  rw [h.joined_eq, List.filter_map]
  rfl

/-- A source of complete tables is found by its id. -/
lemma source? (h : t.Complete) (hs : s ∈ t.db.sources) : t.db.source? s.id = some s := by
  unfold Tables.source?
  cases hfind : t.db.sources.find? (·.id == s.id) with
  | none => exact absurd (beq_self_eq_true s.id) (List.find?_eq_none.1 hfind s hs)
  | some found =>
    have hid := List.find?_some hfind
    rw [h.ids.eq_of_mem (List.mem_of_find?_eq_some hfind) hs (eq_of_beq hid)]

/-! ### The endpoints of one source -/

/-- What there is to say about the health of a source in scope. -/
lemma getSourceHealth_eq (h : t.Complete) (hs : s ∈ t.db.sources)
    (hscope : accessible tenantId s = true) :
    getSourceHealth t s.id tenantId =
      .ok (healthToResponse s.id ((t.healthOf s.id).getD .created)) := by
  obtain ⟨health, hhealth⟩ := h.exists_health hs
  have hown : ¬ (s.tenantId ≠ tenantId ∧ s.tenantId ≠ SYSTEM_TENANT_ID) := by
    simpa [accessible, Classical.or_iff_not_imp_left] using hscope
  simp only [getSourceHealth, h.source? hs, if_neg hown, hhealth]
  rfl

/-- An accessible source is shown. -/
lemma getSource_eq (h : t.Complete) (hs : s ∈ t.db.sources)
    (hscope : accessible tenantId s = true) :
    getSource t s.id tenantId = .ok (sourceToResponse t s) := by
  have hown : ¬ (s.tenantId ≠ tenantId ∧ s.tenantId ≠ SYSTEM_TENANT_ID) := by
    simpa [accessible, Classical.or_iff_not_imp_left] using hscope
  simp only [getSource, h.source? hs, if_neg hown]

/-- An accessible source's detail shows its health. -/
lemma detail_eq (h : t.Complete) (hs : s ∈ t.db.sources) (hscope : accessible tenantId s = true)
    (record trend : Option Json) : ∃ detail,
      getDataSourceHealthDetail t tenantId s.id record trend = .ok (some detail) ∧
        detail.report = healthToResponse s.id ((t.healthOf s.id).getD .created) := by
  have hone := h.ids.scalarOneOrNone (p := fun r => decide (r.id = s.id ∧ accessible tenantId r = true))
    (k := s.id) fun r _ hr => (by simpa using hr : r.id = s.id ∧ accessible tenantId r = true).1
  obtain ⟨found, hfound, hid, hone⟩ | ⟨hnone, -⟩ := hone
  · have hsame : found = s :=
      h.ids.eq_of_mem hfound hs (by simpa using hid : found.id = s.id ∧ _).1
    subst hsame
    have hjoined := h.filter_joined fun r => decide (r.id = found.id ∧ accessible tenantId r = true)
    rw [Table.scalarOneOrNone_eq_some.1 hone] at hjoined
    have hrow : Table.scalarOneOrNone (t.joined.filter fun r =>
        decide (r.1.id = found.id ∧ accessible tenantId r.1 = true)) =
          .ok (some (found, (t.healthOf found.id).getD .created)) := by
      rw [hjoined]
      rfl
    simp only [getDataSourceHealthDetail, hrow]
    exact ⟨_, rfl, rfl⟩
  · have hmatch := hnone s hs
    simp [hscope] at hmatch

/-- A response to a list names the health of its source. -/
lemma agrees (h : t.Complete) (hs : s ∈ t.db.sources) :
    (sourceToResponse t s).agrees
      (healthToResponse s.id ((t.healthOf s.id).getD .created)) := by
  obtain ⟨health, hhealth⟩ := h.exists_health hs
  unfold SourceResponse.agrees sourceToResponse
  rw [hhealth]
  exact ⟨rfl, rfl, rfl, rfl⟩

/-- What is not accessible is shown by no endpoint. -/
lemma hidden (h : t.Complete) {sourceId : String}
    (hscope : ∀ s ∈ t.db.sources, s.id = sourceId → accessible tenantId s = false) :
    (∃ e, getSource t sourceId tenantId = .error (.sourceNotFound e)) ∧
    (∃ e, getSourceHealth t sourceId tenantId = .error (.sourceNotFound e)) ∧
    ∀ record trend, getDataSourceHealthDetail t tenantId sourceId record trend = .ok none := by
  have hnone : t.db.sources.filter (fun r => decide (r.id = sourceId ∧ accessible tenantId r = true)) =
      [] := by
    apply List.filter_eq_nil_iff.2
    intro s hs hmatch
    obtain ⟨hid, hin⟩ : s.id = sourceId ∧ accessible tenantId s = true := by simpa using hmatch
    exact nomatch hin.symm.trans (hscope s hs hid)
  have hdetail : ∀ record trend,
      getDataSourceHealthDetail t tenantId sourceId record trend = .ok none := by
    intro record trend
    have hjoined := h.filter_joined fun r => decide (r.id = sourceId ∧ accessible tenantId r = true)
    rw [hnone] at hjoined
    simp only [getDataSourceHealthDetail, hjoined, hnone]
    rfl
  cases hfind : t.db.source? sourceId with
  | none =>
    exact ⟨⟨_, by rw [getSource, hfind]⟩, ⟨_, by rw [getSourceHealth, hfind]⟩, hdetail⟩
  | some s =>
    have hs : s ∈ t.db.sources := List.mem_of_find?_eq_some hfind
    have hid := List.find?_some hfind
    have hown : s.tenantId ≠ tenantId ∧ s.tenantId ≠ SYSTEM_TENANT_ID := by
      simpa [accessible] using hscope s hs (eq_of_beq hid)
    exact ⟨⟨_, by simp only [getSource, hfind, if_pos hown]; rfl⟩,
      ⟨_, by simp only [getSourceHealth, hfind, if_pos hown]; rfl⟩, hdetail⟩

/-! ### The lists -/

/-- The rows of a list, as one selection of the sources. -/
lemma selected_eq (h : t.Complete) (q : ListParams) :
    selected t tenantId q = t.db.sources.filter fun s => q.conditions tenantId s &&
      whereGiven q.statusFilter (statusText ((t.healthOf s.id).getD .created).status = ·) := by
  have hjoin (status : String) :
      (t.joined.filter fun r => q.conditions tenantId r.1 && statusText r.2.status = status).map (·.1) =
        t.db.sources.filter fun s => q.conditions tenantId s &&
          statusText ((t.healthOf s.id).getD .created).status = status := by
    rw [h.joined_eq, List.filter_map, List.map_map]
    exact List.map_id _
  unfold selected
  split
  · rename_i hnone
    simp [hnone, whereGiven]
  · rename_i hempty
    simp [hempty, whereGiven]
  · rename_i status hne hstatus
    rw [hjoin, hstatus]
    have hgiven : ¬ status = "" := hne
    simp [whereGiven, hgiven]

/-- A count is the number of accessible sources of the status. -/
lemma count_eq (h : t.Complete) (status : HealthStatus) :
    (getAllSourcesHealthSummary t tenantId).count status =
      (t.db.sources.filter fun s => accessible tenantId s &&
        ((t.healthOf s.id).getD .created).status = status).length := by
  rw [count_summary, h.filter_joined, List.map_map, List.count, List.countP_map,
    List.countP_filter, List.countP_eq_length_filter]
  congr 1
  apply List.filter_congr
  intro s _
  exact Bool.and_comm _ _

end HealthTables.Complete

/-- The texts tell the statuses apart. -/
lemma statusText_inj {status status' : HealthStatus} :
    statusText status = statusText status' ↔ status = status' := by
  cases status <;> cases status' <;> simp [statusText]

/-- No status is an empty text. -/
lemma statusText_ne_empty (status : HealthStatus) : statusText status ≠ "" := by
  cases status <;> simp [statusText]

namespace HealthTables.Complete

variable {collation : String → String → Prop}

/-- The counts of the summary add up to its total. -/
lemma sum (h : t.Complete) : (getAllSourcesHealthSummary t tenantId).healthy +
    (getAllSourcesHealthSummary t tenantId).degraded +
    (getAllSourcesHealthSummary t tenantId).down =
      (getAllSourcesHealthSummary t tenantId).totalSources := by
  have hcount (status : HealthStatus) := @count_summary t tenantId status
  have hlength := length_eq_counts
    ((t.joined.filter fun r => accessible tenantId r.1).map (·.2.status))
  rw [← hcount, ← hcount, ← hcount, h.filter_joined, List.map_map, List.length_map] at hlength
  rw [totalSources_summary]
  exact hlength

/-- The totals of the list are those of the summary. -/
lemma total_list (h : t.Complete) {q : ListParams} (hcategory : q.categoryId = none)
    (htype : q.sourceType = none) (hactive : q.isActive = none) :
    (q.statusFilter = none →
        (selected t tenantId q).length = (getAllSourcesHealthSummary t tenantId).totalSources) ∧
      ∀ status, q.statusFilter = some (statusText status) →
        (selected t tenantId q).length = (getAllSourcesHealthSummary t tenantId).count status := by
  have hconditions (s : Source) : q.conditions tenantId s = accessible tenantId s := by
    simp [ListParams.conditions, hcategory, htype, hactive, whereGiven]
  rw [h.selected_eq]
  refine ⟨fun hstatus => ?_, fun status hstatus => ?_⟩
  · rw [totalSources_summary]
    simp [hstatus, hconditions, whereGiven]
  · rw [h.count_eq]
    simp [hstatus, hconditions, whereGiven, statusText_ne_empty, statusText_inj]

/-- A line of a list is a source in scope, with the status that was asked for. -/
lemma line_of_list (h : t.Complete) {q : ListParams} {page : SourcePage}
    (hlist : ListSources collation t tenantId q (.ok page)) {r : SourceResponse}
    (hr : r ∈ page.data) : ∃ s ∈ t.db.sources, accessible tenantId s = true ∧
      r = sourceToResponse t s ∧
      whereGiven q.statusFilter (statusText ((t.healthOf s.id).getD .created).status = ·) = true := by
  unfold ListSources at hlist
  split at hlist
  · cases hlist
  · obtain ⟨out, hout, hpage⟩ := hlist
    cases hpage
    obtain ⟨s, hs, rfl⟩ := List.mem_map.1 hr
    have hselected := hout.perm.mem_iff.1 (List.mem_of_mem_drop (List.mem_of_mem_take hs))
    rw [h.selected_eq] at hselected
    obtain ⟨hs, hwhere⟩ := List.mem_filter.1 hselected
    obtain ⟨hconditions, hstatus⟩ := Bool.and_eq_true_iff.1 hwhere
    have hscope : accessible tenantId s = true := by
      simp only [ListParams.conditions, Bool.and_eq_true] at hconditions
      exact hconditions.1.1.1
    exact ⟨s, hs, hscope, rfl, hstatus⟩

/-- A page's total is the number of sources selected. -/
lemma total_of_list {q : ListParams} {page : SourcePage}
    (hlist : ListSources collation t tenantId q (.ok page)) :
    page.total = (selected t tenantId q).length := by
  unfold ListSources at hlist
  split at hlist
  · cases hlist
  · obtain ⟨out, -, hpage⟩ := hlist
    cases hpage
    rfl

/-- The lines of the dashboard. -/
lemma lines (h : t.Complete) {redis : Bool} {answer : DataSourcesHealth}
    (hanswer : GetDataSourcesHealthSummary collation t redis tenantId answer) :
    ∃ out : List Source, out.Perm (t.db.sources.filter (accessible tenantId)) ∧
      answer.sources = out.map fun s => dataSourceHealth s ((t.healthOf s.id).getD .created) := by
  obtain ⟨rows, hrows, rfl⟩ := hanswer
  have hperm := hrows.perm
  rw [h.filter_joined] at hperm
  refine ⟨rows.map (·.1), ?_, ?_⟩
  · have := hperm.map (·.1)
    rw [List.map_map] at this
    exact this.trans (List.Perm.of_eq (List.map_id _))
  · show rows.map _ = _
    rw [List.map_map]
    apply List.map_congr_left
    intro r hr
    obtain ⟨s, -, rfl⟩ := List.mem_map.1 (hperm.mem_iff.1 hr)
    rfl

/-- Tables in which every source has its row. -/
lemma agree (h : t.Complete) : Agree collation t tenantId where
  sum := h.sum
  totals q page hcategory htype hactive hlist := by
    rw [total_of_list hlist]
    exact h.total_list hcategory htype hactive
  listed q page hlist r hr := by
    obtain ⟨s, hs, hscope, rfl, hstatus⟩ := h.line_of_list hlist hr
    refine ⟨h.getSource_eq hs hscope, _, h.getSourceHealth_eq hs hscope, h.agrees hs, ?_⟩
    intro status hfilter
    rw [hfilter] at hstatus
    simp only [whereGiven, Bool.or_eq_true, decide_eq_true_eq] at hstatus
    exact hstatus
  dashboard redis answer hanswer := by
    obtain ⟨out, hout, hlines⟩ := h.lines hanswer
    refine ⟨?_, ?_, fun line hline => ?_⟩
    · obtain ⟨rows, -, rfl⟩ := hanswer
      cases redis <;> rfl
    · rw [hlines, List.map_map]
      exact hout.map _
    · rw [hlines] at hline
      obtain ⟨s, hs, rfl⟩ := List.mem_map.1 hline
      obtain ⟨hs, hscope⟩ := List.mem_filter.1 (hout.mem_iff.1 hs)
      exact ⟨h.getSourceHealth_eq hs hscope, fun record trend => h.detail_eq hs hscope record trend⟩
  hidden sourceId hscope := h.hidden hscope

end HealthTables.Complete

/-- In every run the endpoints tell a tenant the same of its sources. -/
theorem views_agree {collation : String → String → Prop} {t₀ t : HealthTables} (h₀ : t₀.Complete)
    (h : Reachable Step t₀ t) (tenantId : String) : Agree collation t tenantId :=
  (h.invariant (fun h step => step_complete h step) h₀).agree

namespace Sample

/-- A feed of the system. -/
def feed : Source where
  id := "feed"
  tenantId := SYSTEM_TENANT_ID
  categoryId := "tech"
  name := "Feed"
  sourceType := "rss"
  url := "https://feed.example/rss"
  config := []
  refreshIntervalSeconds := some 300
  isActive := true
  priority := 5

def morning : Datetime :=
  { year := 2029, month := 5, day := 11, hour := 9, minute := 17, second := 43, microsecond := 5 }

def empty : HealthTables := ⟨⟨[], [], []⟩, [], fun _ => morning, fun _ => morning⟩

def seeded : HealthTables :=
  ⟨⟨[], [], [feed]⟩, [⟨"feed", .created⟩], fun _ => morning, fun _ => morning⟩

/-- The empty tables are complete. -/
lemma empty_complete : empty.Complete :=
  ⟨List.nodup_nil, List.nodup_nil, (fun _ h => nomatch h), (fun _ h => nomatch h)⟩

end Sample

/-- A seeded feed, after its first collection has failed. -/
theorem views_agree_feed :
    Agree (fun _ _ => True)
      (Sample.seeded.collect "feed" Sample.morning ⟨[], false, 0, some "timeout", "feed"⟩) "tenant" := by
  have hseed : Step Sample.empty (.seeded [Sample.feed]) Sample.seeded :=
    .seeded (List.nodup_singleton "feed")
  exact views_agree Sample.empty_complete
    ((Reachable.refl.step hseed).step (.collected (List.mem_singleton_self Sample.feed))) "tenant"

end InstantBoard.HealthViews
