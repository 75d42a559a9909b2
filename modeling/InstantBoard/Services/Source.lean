import InstantBoard.Lib.Fallible
import InstantBoard.Models
import Mathlib.Tactic.Lemma

/-!
# Source administration

`SourceService.create_source`, `update_source` and `delete_source`: their checks in the order of
the source, the row they write, and the lifecycle notice they publish on `channel:dashboard`. The
notice goes out through `redis_publish` directly, so its payload is built here and nowhere else:
no notice carries an `event_type` or a `tenant_id` (`LifecycleNotice.payload_event_type`,
`LifecycleNotice.payload_tenant_id`).
-/

namespace InstantBoard

/-- The exceptions the service raises, with their messages and details. -/
inductive AppError where
  | validationError (message : String) (details : List (String × String))
  | noCollectorAvailable (message : String)
  | categoryNotFound (message : String)
  | sourceNotFound (message : String)
  | forbidden (message : String)
  deriving DecidableEq

/-- A lifecycle notice of a source, with the slug of its category. -/
inductive LifecycleNotice where
  | created (source : Source) (categorySlug : String)
  | toggled (source : Source) (categorySlug : String)
  | deleted (source : Source) (categorySlug : String)

/-- The `source` object of a notice. -/
def sourcePayload (source : Source) (categorySlug : String) : Dict :=
  [("id", .str source.id),
   ("tenant_id", .str source.tenantId),
   ("category_id", .str source.categoryId),
   ("category_slug", .str categorySlug),
   ("name", .str source.name),
   ("source_type", .str source.sourceType),
   ("url", .str source.url),
   ("config", .obj source.config),
   ("refresh_interval_seconds", (source.refreshIntervalSeconds.map Json.int).getD .null),
   ("is_active", .bool source.isActive),
   ("priority", .int source.priority)]

/-- The message each lifecycle operation publishes. -/
def LifecycleNotice.payload : LifecycleNotice → Dict
  | .created source slug =>
    [("event", .str "source_created"),
     ("source_id", .str source.id),
     ("category_id", .str source.categoryId),
     ("name", .str source.name),
     ("source", .obj (sourcePayload source slug))]
  | .toggled source slug =>
    [("event", .str (if source.isActive then "source_enabled" else "source_disabled")),
     ("source_id", .str source.id),
     ("source", .obj (sourcePayload source slug))]
  | .deleted source slug =>
    [("event", .str "source_deleted"),
     ("source_id", .str source.id),
     ("category_slug", .str slug)]

/-- The payload itself has no `event_type`. -/
@[simp] lemma LifecycleNotice.payload_event_type (n : LifecycleNotice) :
    n.payload.get? "event_type" = none := by
  cases n <;> rfl

/-- The payload itself has no `tenant_id`. -/
@[simp] lemma LifecycleNotice.payload_tenant_id (n : LifecycleNotice) :
    n.payload.get? "tenant_id" = none := by
  cases n <;> rfl

/-- The payload itself has no `event_id`. -/
@[simp] lemma LifecycleNotice.payload_event_id (n : LifecycleNotice) :
    n.payload.get? "event_id" = none := by
  cases n <;> rfl

namespace SourceService

open Fallible

/-- `COLLECTOR_REGISTRY`: the collectors by name. -/
def COLLECTOR_REGISTRY : List String :=
  ["yfinance", "alpha_vantage", "eastmoney", "finnhub", "iex_cloud", "rss", "hackernews", "arxiv",
   "reddit", "web_scrape"]

/-- The registry entry `resolve_collector` returns: `config.library` first when it names a
registered collector (any other value of it names none), then the source type. -/
def resolveCollector (sourceType : String) (config : Dict) : Option String :=
  match config.get? "library" with
  | some (.str library) =>
    if library ∈ COLLECTOR_REGISTRY then some library
    else if sourceType ∈ COLLECTOR_REGISTRY then some sourceType else none
  | _ => if sourceType ∈ COLLECTOR_REGISTRY then some sourceType else none

/-- `SOURCE_TYPE_CONFIG_RULES[source_type]["required_fields"]`. -/
def requiredFields : String → Option (List String)
  | "rss" => some ["url"]
  | "api" => some ["url", "method"]
  | "web_scrape" => some ["url", "selector"]
  | "social" => some ["platform", "query"]
  | _ => none

/-- `_validate_source_config`. -/
def validateSourceConfig (sourceType : String) (config : Dict) : Except AppError Unit :=
  if config.isEmpty then .ok ()
  else match requiredFields sourceType with
    | none => .ok ()
    | some required =>
      let missing := required.filter fun f => (config.get? f).isNone
      if missing.isEmpty then .ok ()
      else .error (.validationError
        ("Source config missing required fields for " ++ sourceType ++ ": "
          ++ ", ".intercalate missing)
        (missing.map fun f => (f, "Required for source_type '" ++ sourceType ++ "'")))

/-- `_check_collector_available`. -/
def checkCollectorAvailable (sourceType : String) (config : Dict) : Except AppError Unit :=
  if (resolveCollector sourceType config).isSome then .ok ()
  else .error (.noCollectorAvailable
    ("No collector available for source_type '" ++ sourceType ++ "'. " ++
     "Set config.library to a supported collector " ++
     "(yfinance, alpha_vantage, eastmoney, finnhub, iex_cloud, rss, " ++
     "hackernews, arxiv, reddit) or keep the source inactive."))

/-- The body of `POST /sources`. -/
structure SourceCreate where
  name : String
  categoryId : String
  sourceType : String
  url : String
  config : Option Dict
  refreshIntervalSeconds : Option Int
  isActive : Bool

/-- The fields set in the body of `PUT /sources/{id}`. Only for `config` does the code tell an
absent field from an explicit null. -/
structure SourceUpdate where
  name : Option String
  sourceType : Option String
  url : Option String
  config : Option (Option Dict)
  refreshIntervalSeconds : Option Int
  isActive : Option Bool
  priority : Option Int

/-- `create_source`; `id` is the key the flush gives the row. -/
def createSource (db : Tables) (data : SourceCreate) (tenantId id : String) :
    Except AppError (Tables × Option LifecycleNotice) := do
  let some tenant := db.tenant? tenantId
    | throw (.validationError "Tenant not found" [])
  let currentCount := (db.sources.filter (·.tenantId == tenantId)).length
  if tenant.maxSources ≤ currentCount then
    throw (.validationError ("Source limit reached (max " ++ toString tenant.maxSources ++ ")")
      [("name", "Tenant already has " ++ toString currentCount ++ " sources (max "
        ++ toString tenant.maxSources ++ ")")])
  let some category := db.category? data.categoryId
    | throw (.categoryNotFound "Referenced category not found")
  if category.tenantId ≠ tenantId ∧ category.tenantId ≠ SYSTEM_TENANT_ID then
    throw (.validationError "Cannot add sources to categories from other tenants" [])
  let config := data.config.getD []
  validateSourceConfig data.sourceType config
  if data.isActive then
    checkCollectorAvailable data.sourceType config
  let source : Source :=
    { id, tenantId, categoryId := data.categoryId, name := data.name,
      sourceType := data.sourceType, url := data.url, config,
      refreshIntervalSeconds := some (data.refreshIntervalSeconds.getD
        category.refreshIntervalSeconds),
      isActive := data.isActive, priority := 5 }
  return ({ db with sources := db.sources ++ [source] }, some (.created source category.slug))

/-- The category slug of a source, `""` without a category. -/
def slugOf (db : Tables) (source : Source) (missing : String) : String :=
  ((db.category? source.categoryId).map (·.slug)).getD missing

/-- The `setattr` loop of `update_source`: null fields are not written. -/
def applyUpdate (source : Source) (data : SourceUpdate) : Source :=
  { source with
    name := data.name.getD source.name
    sourceType := data.sourceType.getD source.sourceType
    url := data.url.getD source.url
    config := (data.config.getD none).getD source.config
    refreshIntervalSeconds := data.refreshIntervalSeconds.or source.refreshIntervalSeconds
    isActive := data.isActive.getD source.isActive
    priority := data.priority.getD source.priority }

/-- `update_source`: a notice only when `is_active` changes. -/
def updateSource (db : Tables) (sourceId : String) (data : SourceUpdate) (tenantId : String) :
    Except AppError (Tables × Option LifecycleNotice) := do
  let some source := db.source? sourceId
    | throw (.sourceNotFound "Source not found")
  if source.tenantId ≠ tenantId then
    throw (.forbidden "Cannot update sources from other tenants")
  if let some newType := data.sourceType then
    -- an explicit null config counts as an empty one here, an absent one as the current one
    validateSourceConfig newType ((data.config.getD (some source.config)).getD [])
  if data.isActive = some true then
    checkCollectorAvailable (data.sourceType.getD source.sourceType)
      ((data.config.getD none).getD source.config)
  let updated := applyUpdate source data
  let db' := { db with sources := db.sources.map fun s => if s.id = sourceId then updated else s }
  if updated.isActive ≠ source.isActive then
    return (db', some (.toggled updated (slugOf db updated "")))
  return (db', none)

/-- `delete_source`. -/
def deleteSource (db : Tables) (sourceId tenantId : String) :
    Except AppError (Tables × Option LifecycleNotice) := do
  let some source := db.source? sourceId
    | throw (.sourceNotFound "Source not found")
  if source.tenantId ≠ tenantId then
    throw (.forbidden "Cannot delete sources from other tenants")
  if source.tenantId = SYSTEM_TENANT_ID then
    throw (.forbidden "Cannot delete system-level sources")
  return ({ db with sources := db.sources.filter (·.id ≠ sourceId) },
    some (.deleted source (slugOf db source "unknown")))

/-- A request to the service, with the caller's tenant. -/
inductive Request where
  | create (data : SourceCreate) (tenantId id : String)
  | update (sourceId : String) (data : SourceUpdate) (tenantId : String)
  | delete (sourceId tenantId : String)

/-- What a request does to the tables and what it publishes. -/
def handle (db : Tables) : Request → Except AppError (Tables × Option LifecycleNotice)
  | .create data tenantId id => createSource db data tenantId id
  | .update sourceId data tenantId => updateSource db sourceId data tenantId
  | .delete sourceId tenantId => deleteSource db sourceId tenantId

/-! ## What a handled request has done -/

/-- A created source is a new last row, and announced. -/
lemma createSource_eq_ok {db db' : Tables} {data : SourceCreate} {tenantId id : String}
    {notice : Option LifecycleNotice} (h : createSource db data tenantId id = .ok (db', notice)) :
    ∃ source categorySlug, source.id = id ∧ source.isActive = data.isActive ∧
      db' = { db with sources := db.sources ++ [source] } ∧
      notice = some (.created source categorySlug) := by
  unfold createSource at h
  split at h
  next tenant htenant =>
    dsimp only at h
    split at h
    · cases h
    · split at h
      next category hcategory =>
        split at h
        · cases h
        · obtain ⟨_, _, h⟩ := bind_eq_ok.1 h
          split at h
          · obtain ⟨_, _, h⟩ := bind_eq_ok.1 h
            cases h
            exact ⟨_, _, rfl, rfl, rfl, rfl⟩
          · cases h
            exact ⟨_, _, rfl, rfl, rfl, rfl⟩
      next => cases h
  next => cases h

/-- An update rewrites the source's row, and is announced if that changes `is_active`. -/
lemma updateSource_eq_ok {db db' : Tables} {sourceId : String} {data : SourceUpdate}
    {tenantId : String} {notice : Option LifecycleNotice}
    (h : updateSource db sourceId data tenantId = .ok (db', notice)) :
    ∃ source, db.source? sourceId = some source ∧
      db' = { db with sources := db.sources.map fun s =>
        if s.id = sourceId then applyUpdate source data else s } ∧
      notice = if (applyUpdate source data).isActive ≠ source.isActive then
        some (.toggled (applyUpdate source data) (slugOf db (applyUpdate source data) ""))
        else none := by
  unfold updateSource at h
  split at h
  next source hsource =>
    refine ⟨source, hsource, ?_⟩
    -- the checks are behind us: what is left is the choice of the notice
    have written : ∀ {updated : Source} {n : LifecycleNotice},
        (if updated.isActive ≠ source.isActive then
            pure ({ db with sources := db.sources.map fun s =>
              if s.id = sourceId then updated else s }, some n)
          else pure ({ db with sources := db.sources.map fun s =>
              if s.id = sourceId then updated else s }, none)) =
            (Except.ok (db', notice) : Except AppError (Tables × Option LifecycleNotice)) →
          db' = { db with sources := db.sources.map fun s =>
            if s.id = sourceId then updated else s } ∧
          notice = if updated.isActive ≠ source.isActive then some n else none := by
      intro updated n h
      split at h
      next hne =>
        cases h
        exact ⟨rfl, (if_pos hne).symm⟩
      next heq =>
        cases h
        exact ⟨rfl, (if_neg heq).symm⟩
    dsimp only at h
    split at h
    · cases h
    · split at h
      next newType hnewType =>
        obtain ⟨_, _, h⟩ := bind_eq_ok.1 h
        split at h
        · obtain ⟨_, _, h⟩ := bind_eq_ok.1 h
          exact written h
        · exact written h
      next =>
        split at h
        · obtain ⟨_, _, h⟩ := bind_eq_ok.1 h
          exact written h
        · exact written h
  next => cases h

/-- A deletion takes the source's row away, and is announced. -/
lemma deleteSource_eq_ok {db db' : Tables} {sourceId tenantId : String}
    {notice : Option LifecycleNotice}
    (h : deleteSource db sourceId tenantId = .ok (db', notice)) :
    ∃ source, db.source? sourceId = some source ∧
      db' = { db with sources := db.sources.filter (·.id ≠ sourceId) } ∧
      notice = some (.deleted source (slugOf db source "unknown")) := by
  unfold deleteSource at h
  split at h
  next source hsource =>
    dsimp only at h
    split at h
    · cases h
    · split at h
      · cases h
      · cases h
        exact ⟨source, hsource, rfl, rfl⟩
  next => cases h

end SourceService

end InstantBoard
