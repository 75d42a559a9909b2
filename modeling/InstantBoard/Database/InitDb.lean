import InstantBoard.Admin.Tenants
import InstantBoard.Auth.SsoLogin
import InstantBoard.Lib.Backfill
import InstantBoard.Scheduler.Health
import InstantBoard.Services.CategoryWrites
import InstantBoard.Services.Source

/-!
# Seeding the database

`seed_default_data`: the system tenant and the default tenant, the two categories of the system
tenant, and the predefined sources that are not there yet, in one transaction. Two of the seeds have
a source type that `chk_sources_type` refuses, so a seed commits exactly where these two need not be
added (`seed_commits_iff`); where it commits nothing is missing afterwards, what was there is as it
was, and seeding again changes nothing (`seed_backfills`).
-/

namespace InstantBoard.InitDb

open Admin Auth CategoryService Fallible

/-! ## The seeds -/

/-- An entry of the lists of sources; `is_active` may be left out. -/
structure SeedSource where
  name : String
  sourceType : String
  url : String
  config : Dict
  refreshIntervalSeconds : Int
  priority : Int
  isActive : Option Bool

/-- A list of texts in a configuration. -/
def texts (l : List String) : Json :=
  .arr (l.map .str)

def FINANCE_SOURCES : List SeedSource :=
  [{ name := "东方财富-A股实时"
     sourceType := "web_scrape"
     url := "https://push2.eastmoney.com/api/qt/stock/get"
     config := [("library", .str "eastmoney"), ("data_type", .str "cn_indices")]
     refreshIntervalSeconds := 15
     priority := 1
     isActive := some true },
   { name := "yfinance-沪深300指数"
     sourceType := "api"
     url := "https://query1.finance.yahoo.com/v7/finance/chart/000001.SS"
     config :=
       [("library", .str "yfinance"), ("symbols", texts ["000001.SS", "399001.SZ", "000300.SS"]),
        ("history_period", .str "5d"), ("retry_on_fail", .bool true)]
     refreshIntervalSeconds := 30
     priority := 2
     isActive := some true },
   { name := "yfinance-世界市场指数"
     sourceType := "api"
     url := "https://query1.finance.yahoo.com/v7/finance/chart/^GSPC"
     config :=
       [("library", .str "yfinance"),
        ("symbols", texts ["^GSPC", "^DJI", "^IXIC", "^HSI", "^N225", "^FTSE", "^GDAXI"]),
        ("history_period", .str "5d"), ("retry_on_fail", .bool true)]
     refreshIntervalSeconds := 30
     priority := 2
     isActive := some true },
   { name := "Alpha Vantage-市场指数(failover)"
     sourceType := "api"
     url := "https://www.alphavantage.co/query"
     config :=
       [("api_key_env", .str "ALPHA_VANTAGE_API_KEY"), ("method", .str "GET"),
        ("function", .str "TIME_SERIES_INTRADAY")]
     refreshIntervalSeconds := 30
     priority := 5
     isActive := some false },
   { name := "IEX Cloud-美股行情(可选)"
     sourceType := "api"
     url := "https://cloud.iexapis.com/stable/stock/AAPL/quote"
     config :=
       [("library", .str "iex_cloud"), ("data_type", .str "stock_quote"),
        ("symbols", texts ["AAPL", "MSFT", "GOOGL"])]
     refreshIntervalSeconds := 30
     priority := 5
     isActive := some false },
   { name := "yfinance-大宗商品"
     sourceType := "api"
     url := "https://query1.finance.yahoo.com/v7/finance/chart/GC=F"
     config :=
       [("library", .str "yfinance"),
        ("symbols", texts ["GC=F", "SI=F", "CL=F", "BZ=F", "NG=F", "HG=F", "ZS=F"]),
        ("history_period", .str "5d")]
     refreshIntervalSeconds := 60
     priority := 3
     isActive := some true },
   { name := "天天基金-官方NAV"
     sourceType := "web_scrape"
     url := "https://fund.eastmoney.com/f10/F10DataApi.aspx"
     config := [("selector", .str "table"), ("url_pattern", .str "fund.eastmoney.com")]
     refreshIntervalSeconds := 86400
     priority := 1
     isActive := some false }]

/-- An entry of the technology lists that leaves `is_active` out. -/
def feed (name sourceType url : String) (config : Dict) (refreshIntervalSeconds priority : Int) :
    SeedSource where
  name
  sourceType
  url
  config
  refreshIntervalSeconds
  priority
  isActive := none

/-- `"parse_rules"` -/
def parseRules (rules : Dict) : String × Json :=
  ("parse_rules", .obj rules)

def TECH_AI_SOURCES : List SeedSource :=
  [feed "MIT Tech Review AI Feed" "rss" "https://www.technologyreview.com/feed/"
     [parseRules [("summary", .str "excerpt")]] 300 3,
   feed "HackerNews-AI/ML" "hackernews" "https://hacker-news.firebaseio.com/v0/newstories.json"
     [("story_type", .str "newstories"), ("query", .str "AI machine learning LLM")] 120 2,
   feed "Arxiv CS.AI" "rss" "https://arxiv.org/rss/cs.AI"
     [parseRules [("summary", .str "abstract"), ("extra", .obj [("arxiv_id", .str "id")])]] 1800 4,
   { name := "OpenAI Blog"
     sourceType := "web_scrape"
     url := "https://openai.com/blog"
     config :=
       [("selector", .str "article"),
        parseRules
          [("item_selector", .str "article, ul li"), ("title_selector", .str "h2, h3, h4"),
           ("link_selector", .str "a[href]"), ("summary_selector", .str "p"), ("limit", .int 20)]]
     refreshIntervalSeconds := 1800
     priority := 3
     isActive := some true },
   feed "The Batch (deeplearning.ai)" "rss" "https://deeplearning.ai/the-batch/" [parseRules []]
     604800 5]

def TECH_ROBOTICS_SOURCES : List SeedSource :=
  [feed "HackerNews-Robotics" "hackernews" "https://hacker-news.firebaseio.com/v0/newstories.json"
     [("story_type", .str "newstories"), ("query", .str "robot robotics drones")] 120 2,
   feed "The Robot Report (Google News)" "rss"
     "https://news.google.com/rss/search?q=robotics+robots+automation&hl=en-US&gl=US&ceid=US:en"
     [parseRules [("summary", .str "description")]] 300 3,
   feed "IEEE Robotics" "rss" "https://www.ieee.org/publications/rss_feed.xml"
     [parseRules [("summary", .str "abstract")]] 86400 5,
   feed "ROS Blog" "rss" "https://ros.org/blog/rss.xml" [parseRules []] 604800 6,
   { name := "Automotive News"
     sourceType := "web_scrape"
     url := "https://www.autonews.com"
     config :=
       [("selector", .str "article"),
        parseRules
          [("item_selector", .str "article, [class*=story], [class*=teaser], h2, h3"),
           ("title_selector", .str "h2 a, h3 a, [class*=title] a, a[href]"),
           ("link_selector", .str "h2 a, h3 a, [class*=title] a, a[href]"),
           ("summary_selector", .str "p.excerpt, p"), ("limit", .int 20)]]
     refreshIntervalSeconds := 86400
     priority := 5
     isActive := some true }]

def TECH_EMBEDDED_SOURCES : List SeedSource :=
  [feed "Hackaday" "rss" "https://hackaday.com/blog/feed/"
     [parseRules [("summary", .str "excerpt")]] 300 2,
   feed "Embedded.com" "rss" "https://www.embedded.com/feed/" [parseRules []] 300 3,
   { name := "RISC-V International Blog"
     sourceType := "web_scrape"
     url := "https://riscv.org/blog/"
     config :=
       [("selector", .str "article"),
        parseRules
          [("item_selector", .str "div.recent-posts, article"),
           ("title_selector", .str "a.title, h2"), ("link_selector", .str "a.title, a[href]"),
           ("summary_selector", .str "p.excerpt, p"),
           ("date_selector", .str "span.publish-date, time"), ("limit", .int 20)]]
     refreshIntervalSeconds := 1800
     priority := 4
     isActive := some true },
   feed "EE Times" "rss" "https://www.eetimes.com/rss/" [parseRules []] 86400 5,
   feed "Zephyr Project Blog" "rss" "https://zephyrproject.org/blog/rss" [parseRules []] 2592000 6]

def TECH_SPACE_SOURCES : List SeedSource :=
  [feed "SpaceNews" "rss" "https://spacenews.com/feed/"
     [parseRules [("summary", .str "excerpt")]] 300 2,
   feed "NASA News" "rss" "https://www.nasa.gov/rss/dyn/breaking_news.rss"
     [parseRules [("summary", .str "description")]] 1800 4,
   { name := "SpaceX Updates"
     sourceType := "web_scrape"
     url := "https://www.spacex.com/updates/"
     config :=
       [("selector", .str "article"),
        parseRules
          [("item_selector", .str "article, section[class*=update], div[class*=update]"),
           ("title_selector", .str "h1, h2, h3, [class*=title]"), ("link_selector", .str "a[href]"),
           ("summary_selector", .str "p"), ("date_selector", .str "time, [class*=date]"),
           ("limit", .int 20)]]
     refreshIntervalSeconds := 1800
     priority := 3
     isActive := some true },
   feed "ESA News" "rss" "https://www.esa.int/RSS" [parseRules []] 1800 4,
   feed "Ars Technica Space" "rss" "https://arstechnica.com/science/feed/"
     [parseRules [("summary", .str "excerpt")]] 300 3]

def TECH_CROSS_DOMAIN_SOURCES : List SeedSource :=
  [{ name := "Reddit-科技全领域"
     sourceType := "social"
     url := "https://www.reddit.com/r/artificial+robotics+embedded+space/new.json"
     config :=
       [("platform", .str "reddit"), ("query", .str "r/artificial+robotics+embedded+space"),
        parseRules []]
     refreshIntervalSeconds := 600
     priority := 4
     isActive := some false },
   feed "Google News Tech" "rss" "https://news.google.com/rss/search?q=technology+AI+robotics"
     [parseRules []] 300 5]

/-- The predefined categories. -/
inductive Slug where
  | finance
  | tech
deriving DecidableEq

def Slug.text : Slug → String
  | .finance => "finance"
  | .tech => "tech"

def Slug.pick {α : Type} (finance tech : α) : Slug → α
  | .finance => finance
  | .tech => tech

def techSourcesDefs : List SeedSource :=
  TECH_AI_SOURCES ++ TECH_ROBOTICS_SOURCES ++ TECH_EMBEDDED_SOURCES ++ TECH_SPACE_SOURCES ++
    TECH_CROSS_DOMAIN_SOURCES

/-- `seed_source_defs`, with the category each seed belongs to. -/
def seedSourceDefs : List (SeedSource × Slug) :=
  FINANCE_SOURCES.map (·, .finance) ++ techSourcesDefs.map (·, .tech)

/-! ## The tables -/

/-- A source with its row of `source_health`. -/
structure SourceRecord extends Source where
  health : Option SourceHealth

structure SeedTables where
  tenants : List TenantRecord
  categories : List CategoryRow
  sources : List SourceRecord

/-- `chk_sources_type` -/
def sourceTypes : List String :=
  ["rss", "api", "web_scrape", "social"]

/-- What the constraints say of the tables. -/
structure SeedTables.Valid (db : SeedTables) : Prop where
  tenants : Keyed db.tenants
  categoryIds : Table.Unique (fun c : CategoryRow => c.id) db.categories
  categorySlugs : Table.Unique (fun c : CategoryRow => (c.tenantId, c.slug)) db.categories
  sourceIds : Table.Unique (fun s : SourceRecord => s.id) db.sources
  sourceTypes : ∀ s ∈ db.sources, s.sourceType ∈ sourceTypes
  /-- `sources.tenant_id` references `tenants.id` -/
  sourceTenants : ∀ s ∈ db.sources, ∃ t ∈ db.tenants, t.id = s.tenantId

/-- The ids that are drawn for the new rows. -/
structure NewIds where
  defaultTenant : String
  category : Slug → String
  /-- By the name of the seed. -/
  source : String → String

/-! ## The rows -/

def systemTenant (now : Int) : TenantRecord where
  id := SYSTEM_TENANT_ID
  name := "System"
  slug := "system"
  plan := "enterprise"
  settings := []
  maxUsers := 100
  maxCategories := 50
  maxSources := 200
  isActive := true
  createdAt := now
  updatedAt := now

def defaultTenant (settings : LoginSettings) (id : String) (now : Int) : TenantRecord where
  id
  name := settings.defaultTenantName
  slug := settings.defaultTenantSlug
  plan := "free"
  settings := []
  maxUsers := 5
  maxCategories := 10
  maxSources := 50
  isActive := true
  createdAt := now
  updatedAt := now

/-- The row of a predefined category. -/
def seedCategory (systemTenantId id : String) (now : Int) : Slug → CategoryRow
  | .finance =>
    { id, tenantId := systemTenantId, slug := "finance", type := "finance",
      refreshIntervalSeconds := 30,
      keywordsFilter := ["股票", "基金", "行情", "指数", "A股", "期货", "大宗商品"],
      name := "财经", description := some "金融市场行情数据", icon := some "chart-line",
      color := some "#FF6B6B", prioritySort := false, isActive := true, createdAt := now,
      updatedAt := now }
  | .tech =>
    { id, tenantId := systemTenantId, slug := "tech", type := "tech",
      refreshIntervalSeconds := 300,
      keywordsFilter := ["AI", "机器人", "嵌入式", "太空", "RISC-V", "FPGA", "LLM"],
      name := "科技", description := some "科技领域新闻资讯：AI、机器人、嵌入式、太空", icon := some "cpu",
      color := some "#3B82F6", prioritySort := false, isActive := true, createdAt := now,
      updatedAt := now }

/-- The row of a seed, made with the row of its health. -/
def SeedSource.row (seed : SeedSource) (systemTenantId categoryId id : String) : SourceRecord where
  id
  tenantId := systemTenantId
  categoryId
  name := seed.name
  sourceType := seed.sourceType
  url := seed.url
  config := seed.config
  refreshIntervalSeconds := some seed.refreshIntervalSeconds
  isActive := seed.isActive.getD true
  priority := seed.priority
  health := some .created

/-! ## The seed -/

/-- Finds the row of a query for one, or flushes a new row. -/
def ensure {α : Type} (rows : List α) (p : α → Bool) (new : α) (inserted : Except DbError (List α)) :
    Except DbError (α × List α) := do
  match ← scalarOneOrNone (rows.filter p) with
  | some row => return (row, rows)
  | none => return (new, ← inserted)

/-- The tenant with a slug. -/
def ensureTenant (values : Values) (new : TenantRecord) (db : SeedTables) :
    Except DbError (TenantRecord × SeedTables) := do
  let (tenant, tenants) ←
    ensure db.tenants (·.slug = new.slug) new (Admin.insert values db.tenants new)
  return (tenant, { db with tenants })

/-- A category the constraints admit as a new row. -/
def SeedTables.Admits (db : SeedTables) (c : CategoryRow) : Prop :=
  c.checked = true ∧
    (∀ r ∈ db.categories, r.id ≠ c.id ∧ (r.tenantId, r.slug) ≠ (c.tenantId, c.slug)) ∧
    ∃ t ∈ db.tenants, t.id = c.tenantId

instance (db : SeedTables) (c : CategoryRow) : Decidable (db.Admits c) :=
  inferInstanceAs (Decidable (_ ∧ (∀ r ∈ db.categories, _) ∧ ∃ t ∈ db.tenants, _))

/-- The category of a tenant with a slug. -/
def ensureCategory (new : CategoryRow) (db : SeedTables) :
    Except DbError (CategoryRow × SeedTables) := do
  let (category, categories) ←
    ensure db.categories (fun c => c.tenantId = new.tenantId ∧ c.slug = new.slug) new
      (flushRow new.fits (db.Admits new) (db.categories ++ [new]))
  return (category, { db with categories })

/-- The values fit their columns. -/
def SourceRecord.fits (values : Values) (s : SourceRecord) : Bool :=
  varchar 100 s.name && varchar 20 s.sourceType && storable s.url && values.jsonb s.config &&
    s.refreshIntervalSeconds.all int4 && int4 s.priority

/-- The flush of a new source and of its health. -/
def insertSource (values : Values) (db : SeedTables) (s : SourceRecord) :
    Except DbError SeedTables :=
  flushRow (s.fits values)
    (s.sourceType ∈ sourceTypes ∧ (∀ r ∈ db.sources, r.id ≠ s.id) ∧
      (∃ t ∈ db.tenants, t.id = s.tenantId) ∧ ∃ c ∈ db.categories, c.id = s.categoryId)
    { db with sources := db.sources ++ [s] }

/-- `existing_source_names` -/
def existingSourceNames (db : SeedTables) (systemTenantId : String) : List String :=
  (db.sources.filter (·.tenantId = systemTenantId)).map (·.name)

/-- `missing_sources` -/
def missingSources (db : SeedTables) (systemTenantId : String) (categoryId : Slug → String)
    (ids : NewIds) : List SourceRecord :=
  (Backfill.missing (fun d : SeedSource × Slug => d.1.name) (existingSourceNames db systemTenantId)
    seedSourceDefs).map fun d => d.1.row systemTenantId (categoryId d.2) (ids.source d.1.name)

/-- `seed_default_data`: what the transaction commits, where no flush raises. -/
def seedDefaultData (values : Values) (settings : LoginSettings) (ids : NewIds) (now : Int)
    (db : SeedTables) : Except DbError SeedTables := do
  let (system, db) ← ensureTenant values (systemTenant now) db
  let (_, db) ← ensureTenant values (defaultTenant settings ids.defaultTenant now) db
  let (finance, db) ← ensureCategory (seedCategory system.id (ids.category .finance) now .finance) db
  let (tech, db) ← ensureCategory (seedCategory system.id (ids.category .tech) now .tech) db
  (missingSources db system.id (fun g => (Slug.pick finance tech g).id) ids).foldlM
    (insertSource values) db

/-! ## What is found and what is made -/

/-- How a row of a query for one comes to be there. -/
inductive Ensured {α : Type} (rows : List α) (p : α → Bool) (new : α) (admitted : Prop) :
    α → List α → Prop where
  | found {row} : row ∈ rows → p row = true → Ensured rows p new admitted row rows
  | created : (∀ r ∈ rows, p r = false) → admitted →
      Ensured rows p new admitted new (rows ++ [new])

section

variable {α κ : Type} {rows rows' : List α} {p : α → Bool} {new row : α} {fits : Bool}
  {admitted : Prop} [Decidable admitted]

/-- What is found or inserted is ensured. -/
lemma Ensured.of_ok
    (h : ensure rows p new (flushRow fits admitted (rows ++ [new])) = .ok (row, rows')) :
    Ensured rows p new admitted row rows' := by
  obtain ⟨o, ho, h⟩ := bind_eq_ok.1 h
  cases o with
  | some r =>
    cases h
    have hr : row ∈ rows.filter p := by
      rw [scalarOneOrNone_eq_some ho]
      exact List.mem_singleton_self _
    exact .found (List.mem_filter.1 hr).1 (List.mem_filter.1 hr).2
  | none =>
    obtain ⟨l, hl, h⟩ := bind_eq_ok.1 h
    cases h
    obtain ⟨-, hadm, rfl⟩ := flush_eq_ok.1 hl
    refine .created ?_ hadm
    intro r hr
    have := List.filter_eq_nil_iff.1 (scalarOneOrNone_eq_none ho) r hr
    simpa using this

/-- A query by a unique key finds its row. -/
lemma ensure_found {key : α → κ} {k : κ} {inserted : Except DbError (List α)}
    (hu : Table.Unique key rows) (hp : ∀ r ∈ rows, p r = true → key r = k) (hrow : row ∈ rows)
    (hprow : p row = true) : ensure rows p new inserted = .ok (row, rows) := by
  unfold ensure
  rcases hu.scalarOneOrNone hp with ⟨r, hr, hpr, hone⟩ | ⟨hno, -⟩
  · have : r = row := hu.eq_of_mem hr hrow ((hp r hr hpr).trans (hp row hrow hprow).symm)
    subst this
    rw [scalarOneOrNone_ok hone]
    rfl
  · rw [hno row hrow] at hprow
    cases hprow

/-- A query by a unique key does not raise, and what it does not find can be flushed. -/
lemma ensure_ok {key : α → κ} {k : κ} (hu : Table.Unique key rows)
    (hp : ∀ r ∈ rows, p r = true → key r = k) (hfits : fits = true)
    (hadm : (∀ r ∈ rows, p r = false) → admitted) :
    ∃ a, ensure rows p new (flushRow fits admitted (rows ++ [new])) = .ok a := by
  unfold ensure
  rcases hu.scalarOneOrNone hp with ⟨r, hr, hpr, hone⟩ | ⟨hno, hone⟩
  · rw [scalarOneOrNone_ok hone]
    exact ⟨_, rfl⟩
  · rw [scalarOneOrNone_ok hone, flush_ok hfits (hadm hno)]
    exact ⟨_, rfl⟩

omit [Decidable admitted]

/-- An ensured row is in the table. -/
lemma Ensured.mem (h : Ensured rows p new admitted row rows') : row ∈ rows' := by
  cases h with
  | found hrow _ => exact hrow
  | created _ _ => exact List.mem_append_right _ (List.mem_singleton_self _)

/-- An ensured row is one that was looked for. -/
lemma Ensured.spec (h : Ensured rows p new admitted row rows') (hnew : p new = true) :
    p row = true := by
  cases h with
  | found _ hprow => exact hprow
  | created _ _ => exact hnew

/-- The rows there were come first. -/
lemma Ensured.kept (h : Ensured rows p new admitted row rows') : rows <+: rows' := by
  cases h with
  | found _ _ => exact List.prefix_rfl
  | created _ _ => exact List.prefix_append _ _

/-- A row is new only where the query found none. -/
lemma Ensured.added (h : Ensured rows p new admitted row rows') :
    ∃ added, rows' = rows ++ added ∧ ∀ r ∈ added, r = new ∧ ∀ r ∈ rows, p r = false := by
  cases h with
  | found _ _ => exact ⟨[], (List.append_nil rows).symm, fun r hr => absurd hr List.not_mem_nil⟩
  | created hno _ => exact ⟨[new], rfl, fun r hr => ⟨List.mem_singleton.1 hr, hno⟩⟩

/-- A key of the table stays unique. -/
lemma Ensured.unique {key : α → κ} (h : Ensured rows p new admitted row rows')
    (hu : Table.Unique key rows) (hadm : admitted → ∀ r ∈ rows, key r ≠ key new) :
    Table.Unique key rows' := by
  cases h with
  | found _ _ => exact hu
  | created _ hadmitted => exact hu.append (hadm hadmitted)

end

/-! ## The flush of the sources -/

/-- A new source that the constraints admit next to the rows of `db`. -/
structure SeedTables.AdmitsSource (values : Values) (db : SeedTables) (s : SourceRecord) : Prop where
  fits : s.fits values = true
  sourceType : s.sourceType ∈ sourceTypes
  tenant : ∃ t ∈ db.tenants, t.id = s.tenantId
  category : ∃ c ∈ db.categories, c.id = s.categoryId

/-- A source is inserted exactly if the table admits it under a new id. -/
lemma insertSource_eq_ok {values : Values} {db db' : SeedTables} {s : SourceRecord} :
    insertSource values db s = .ok db' ↔
      db.AdmitsSource values s ∧ (∀ r ∈ db.sources, r.id ≠ s.id) ∧
        db' = { db with sources := db.sources ++ [s] } := by
  unfold insertSource
  rw [flush_eq_ok]
  constructor
  · rintro ⟨hfits, ⟨htype, hid, ht, hc⟩, rfl⟩
    exact ⟨⟨hfits, htype, ht, hc⟩, hid, rfl⟩
  · rintro ⟨⟨hfits, htype, ht, hc⟩, hid, rfl⟩
    exact ⟨hfits, ⟨htype, hid, ht, hc⟩, rfl⟩

/-- All of the sources are flushed or none: each has to be admitted, under an id of its own. -/
lemma insertSources_eq_ok {values : Values} {l : List SourceRecord} {db db' : SeedTables} :
    l.foldlM (insertSource values) db = .ok db' ↔
      (∀ s ∈ l, db.AdmitsSource values s) ∧ (∀ s ∈ l, ∀ r ∈ db.sources, r.id ≠ s.id) ∧
        Table.Unique (fun s : SourceRecord => s.id) l ∧
        db' = { db with sources := db.sources ++ l } := by
  induction l generalizing db with
  | nil =>
    rw [List.foldlM_nil]
    constructor
    · intro h
      cases h
      exact ⟨by simp, by simp, Table.unique_nil, by simp⟩
    · rintro ⟨-, -, -, rfl⟩
      simp [pure, Except.pure]
  | cons s l ih =>
    rw [List.foldlM_cons, bind_eq_ok]
    simp only [insertSource_eq_ok]
    constructor
    · rintro ⟨db₁, ⟨hs, hfree, rfl⟩, h⟩
      obtain ⟨hall, hrows, hl, rfl⟩ := ih.1 h
      refine ⟨?_, ?_, ?_, by simp⟩
      · intro r hr
        rcases List.mem_cons.1 hr with rfl | hr
        · exact hs
        · exact ⟨(hall r hr).fits, (hall r hr).sourceType, (hall r hr).tenant, (hall r hr).category⟩
      · intro r hr r' hr'
        rcases List.mem_cons.1 hr with rfl | hr
        · exact hfree r' hr'
        · exact hrows r hr r' (List.mem_append_left _ hr')
      · refine List.nodup_cons.2 ⟨?_, hl⟩
        intro hmem
        obtain ⟨r, hr, heq⟩ := List.mem_map.1 hmem
        exact hrows r hr s (List.mem_append_right _ (List.mem_singleton_self s)) heq.symm
    · rintro ⟨hall, hrows, hl, rfl⟩
      obtain ⟨hnot, hl⟩ := List.nodup_cons.1 hl
      refine ⟨_, ⟨hall s List.mem_cons_self, hrows s List.mem_cons_self, rfl⟩, ih.2 ⟨?_, ?_, hl, by simp⟩⟩
      · intro r hr
        have hadm := hall r (List.mem_cons_of_mem _ hr)
        exact ⟨hadm.fits, hadm.sourceType, hadm.tenant, hadm.category⟩
      · intro r hr r' hr'
        rcases List.mem_append.1 hr' with hr' | hr'
        · exact hrows r (List.mem_cons_of_mem _ hr) r' hr'
        · rw [List.mem_singleton.1 hr']
          intro heq
          exact hnot (List.mem_map.2 ⟨r, hr, heq.symm⟩)

/-! ## The transaction -/

/-- What a transaction that commits has found and made. -/
structure Seeding (values : Values) (settings : LoginSettings) (ids : NewIds) (now : Int)
    (db db' : SeedTables) (tenants : List TenantRecord) (categories : List CategoryRow)
    (system other : TenantRecord) (category : Slug → CategoryRow) : Prop where
  ensuredSystem : Ensured db.tenants (·.slug = "system") (systemTenant now)
    (∀ r ∈ db.tenants, r.id ≠ SYSTEM_TENANT_ID ∧ r.slug ≠ "system") system tenants
  ensuredOther : Ensured tenants (·.slug = settings.defaultTenantSlug)
    (defaultTenant settings ids.defaultTenant now)
    (∀ r ∈ tenants, r.id ≠ ids.defaultTenant ∧ r.slug ≠ settings.defaultTenantSlug) other db'.tenants
  ensuredFinance : Ensured db.categories (fun c => c.tenantId = system.id ∧ c.slug = "finance")
    (seedCategory system.id (ids.category .finance) now .finance)
    (SeedTables.Admits { db with tenants := db'.tenants }
      (seedCategory system.id (ids.category .finance) now .finance)) (category .finance) categories
  ensuredTech : Ensured categories (fun c => c.tenantId = system.id ∧ c.slug = "tech")
    (seedCategory system.id (ids.category .tech) now .tech)
    (SeedTables.Admits { db with tenants := db'.tenants, categories }
      (seedCategory system.id (ids.category .tech) now .tech)) (category .tech) db'.categories
  sources : db'.sources = db.sources ++ missingSources db system.id (fun g => (category g).id) ids
  admitted : ∀ s ∈ missingSources db system.id (fun g => (category g).id) ids,
    db'.AdmitsSource values s ∧ ∀ r ∈ db.sources, r.id ≠ s.id
  unique : Table.Unique (fun s : SourceRecord => s.id)
    (missingSources db system.id (fun g => (category g).id) ids)

/-- What ensuring a tenant changes. -/
lemma ensureTenant_inv {values : Values} {new t : TenantRecord} {db db' : SeedTables}
    (h : ensureTenant values new db = .ok (t, db')) :
    ∃ tenants, db' = { db with tenants } ∧ Ensured db.tenants (·.slug = new.slug) new
      (∀ r ∈ db.tenants, r.id ≠ new.id ∧ r.slug ≠ new.slug) t tenants := by
  obtain ⟨⟨t', tenants⟩, hensure, h⟩ := bind_eq_ok.1 h
  cases h
  refine ⟨tenants, rfl, ?_⟩
  cases Ensured.of_ok hensure with
  | found hrow hp => exact .found hrow hp
  | created hno hadm => exact .created hno hadm.2

/-- What ensuring a category changes. -/
lemma ensureCategory_inv {new c : CategoryRow} {db db' : SeedTables}
    (h : ensureCategory new db = .ok (c, db')) :
    ∃ categories, db' = { db with categories } ∧
      Ensured db.categories (fun c => c.tenantId = new.tenantId ∧ c.slug = new.slug) new
        (db.Admits new) c categories := by
  obtain ⟨⟨c', categories⟩, hensure, h⟩ := bind_eq_ok.1 h
  cases h
  exact ⟨categories, rfl, Ensured.of_ok hensure⟩

/-- A seeding that commits went through all its steps. -/
lemma seeding_of_ok {values : Values} {settings : LoginSettings} {ids : NewIds} {now : Int}
    {db db' : SeedTables} (h : seedDefaultData values settings ids now db = .ok db') :
    ∃ tenants categories system other category,
      Seeding values settings ids now db db' tenants categories system other category := by
  obtain ⟨⟨system, db₁⟩, h₁, h⟩ := bind_eq_ok.1 h
  obtain ⟨tenants, rfl, hsystem⟩ := ensureTenant_inv h₁
  obtain ⟨⟨other, db₂⟩, h₂, h⟩ := bind_eq_ok.1 h
  obtain ⟨tenants', rfl, hother⟩ := ensureTenant_inv h₂
  obtain ⟨⟨finance, db₃⟩, h₃, h⟩ := bind_eq_ok.1 h
  obtain ⟨categories, rfl, hfinance⟩ := ensureCategory_inv h₃
  obtain ⟨⟨tech, db₄⟩, h₄, h⟩ := bind_eq_ok.1 h
  obtain ⟨categories', rfl, htech⟩ := ensureCategory_inv h₄
  obtain ⟨hadm, hfree, hids, rfl⟩ := insertSources_eq_ok.1 h
  refine ⟨tenants, categories, system, other, Slug.pick finance tech, ?_⟩
  constructor
  · exact hsystem
  · exact hother
  · exact hfinance
  · exact htech
  · rfl
  · intro s hs
    have hs' := hadm s hs
    exact ⟨⟨hs'.fits, hs'.sourceType, hs'.tenant, hs'.category⟩, hfree s hs⟩
  · exact hids

/-! ## When a seed commits -/

/-- A source of the tenant has the name. -/
def SeedTables.Names (db : SeedTables) (tenantId name : String) : Prop :=
  ∃ s ∈ db.sources, s.tenantId = tenantId ∧ s.name = name

/-- The names listed are those of the tenant's sources. -/
lemma mem_existingSourceNames {db : SeedTables} {tenantId name : String} :
    name ∈ existingSourceNames db tenantId ↔ db.Names tenantId name := by
  simp [existingSourceNames, SeedTables.Names, and_assoc]

/-- What a seed relies on: the configured tenant and the configurations fit their columns, and the
ids that are drawn are new. -/
structure Ready (values : Values) (settings : LoginSettings) (ids : NewIds) (db : SeedTables) :
    Prop where
  name : varchar 100 settings.defaultTenantName = true
  slug : varchar 50 settings.defaultTenantSlug = true
  settings : values.jsonb [] = true
  configs : ∀ d ∈ seedSourceDefs, values.jsonb d.1.config = true
  tenant : ∀ r ∈ db.tenants, r.id ≠ ids.defaultTenant
  category : ∀ g, ∀ r ∈ db.categories, r.id ≠ ids.category g
  categories : ids.category .finance ≠ ids.category .tech
  source : ∀ d ∈ seedSourceDefs, ∀ r ∈ db.sources, r.id ≠ ids.source d.1.name
  sources : (seedSourceDefs.map fun d => ids.source d.1.name).Nodup

/-- No two seed sources have one name. -/
lemma seeds_named_apart : (seedSourceDefs.map fun d => d.1.name).Nodup := by
  decide +kernel

/-- Every seed fits its columns. -/
lemma seeds_fit : ∀ d ∈ seedSourceDefs, (varchar 100 d.1.name && varchar 20 d.1.sourceType &&
    storable d.1.url && int4 d.1.refreshIntervalSeconds && int4 d.1.priority) = true := by
  decide +kernel

/-- The seeds whose source type the table refuses. -/
lemma sourceType_not_mem_iff : ∀ d ∈ seedSourceDefs, d.1.sourceType ∉ sourceTypes ↔
    d.1.name = "HackerNews-AI/ML" ∨ d.1.name = "HackerNews-Robotics" := by
  decide +kernel

/-- The two HackerNews sources are among the seeds. -/
lemma exists_seed_of_name {name : String}
    (h : name = "HackerNews-AI/ML" ∨ name = "HackerNews-Robotics") :
    ∃ d ∈ seedSourceDefs, d.1.name = name := by
  rcases h with rfl | rfl
  · decide +kernel
  · decide +kernel

/-- The seed categories fit their columns. -/
lemma seedCategory_fits (tenantId id : String) (now : Int) (g : Slug) :
    (seedCategory tenantId id now g).fits = true ∧ (seedCategory tenantId id now g).checked = true := by
  have hfits : (seedCategory tenantId id now g).fits = (seedCategory "" "" 0 g).fits := by
    cases g <;> rfl
  have hchecked : (seedCategory tenantId id now g).checked = (seedCategory "" "" 0 g).checked := by
    cases g <;> rfl
  rw [hfits, hchecked]
  cases g <;> decide +kernel

/-- A tenant that is there is found and nothing is added. -/
lemma ensureTenant_found {values : Values} {new t : TenantRecord} {db : SeedTables}
    (hk : Keyed db.tenants) (ht : t ∈ db.tenants) (hslug : t.slug = new.slug) :
    ensureTenant values new db = .ok (t, db) := by
  have hp : ∀ r ∈ db.tenants, decide (r.slug = new.slug) = true → r.slug = new.slug :=
    fun r _ h => of_decide_eq_true h
  exact bind_eq_ok.2 ⟨_, ensure_found hk.slugs hp ht (decide_eq_true hslug), rfl⟩

/-- A category that is there is found and nothing is added. -/
lemma ensureCategory_found {new c : CategoryRow} {db : SeedTables}
    (hk : Table.Unique (fun c : CategoryRow => (c.tenantId, c.slug)) db.categories)
    (hc : c ∈ db.categories) (htenant : c.tenantId = new.tenantId) (hslug : c.slug = new.slug) :
    ensureCategory new db = .ok (c, db) := by
  have hp : ∀ r ∈ db.categories, decide (r.tenantId = new.tenantId ∧ r.slug = new.slug) = true →
      (r.tenantId, r.slug) = (new.tenantId, new.slug) := by
    intro r _ h
    obtain ⟨h₁, h₂⟩ := of_decide_eq_true h
    rw [h₁, h₂]
  exact bind_eq_ok.2 ⟨_, ensure_found hk hp hc (decide_eq_true ⟨htenant, hslug⟩), rfl⟩

/-- A tenant with a new id can be ensured. -/
lemma ensureTenant_ok {values : Values} {new : TenantRecord} {db : SeedTables} (hk : Keyed db.tenants)
    (hfits : new.fits values = true) (hchecked : new.checked = true)
    (hid : ∀ r ∈ db.tenants, r.id ≠ new.id) :
    ∃ t db', ensureTenant values new db = .ok (t, db') := by
  have hp : ∀ r ∈ db.tenants, decide (r.slug = new.slug) = true → r.slug = new.slug :=
    fun r _ h => of_decide_eq_true h
  have hensure : ∃ a, ensure db.tenants (fun r => decide (r.slug = new.slug)) new
      (Admin.insert values db.tenants new) = .ok a :=
    ensure_ok hk.slugs hp hfits
      (fun hno => ⟨hchecked, fun r hr => ⟨hid r hr, of_decide_eq_false (hno r hr)⟩⟩)
  obtain ⟨⟨t, tenants⟩, ha⟩ := hensure
  exact ⟨t, { db with tenants }, bind_eq_ok.2 ⟨_, ha, rfl⟩⟩

/-- A category with a new id, of a tenant there, can be ensured. -/
lemma ensureCategory_ok {new : CategoryRow} {db : SeedTables}
    (hk : Table.Unique (fun c : CategoryRow => (c.tenantId, c.slug)) db.categories)
    (hfits : new.fits = true) (hchecked : new.checked = true)
    (hid : ∀ r ∈ db.categories, r.id ≠ new.id) (ht : ∃ t ∈ db.tenants, t.id = new.tenantId) :
    ∃ c db', ensureCategory new db = .ok (c, db') := by
  have hp : ∀ r ∈ db.categories, decide (r.tenantId = new.tenantId ∧ r.slug = new.slug) = true →
      (r.tenantId, r.slug) = (new.tenantId, new.slug) := by
    intro r _ h
    obtain ⟨h₁, h₂⟩ := of_decide_eq_true h
    rw [h₁, h₂]
  have hnew (hno : ∀ r ∈ db.categories,
      decide (r.tenantId = new.tenantId ∧ r.slug = new.slug) = false) : db.Admits new := by
    refine ⟨hchecked, fun r hr => ⟨hid r hr, ?_⟩, ht⟩
    intro heq
    obtain ⟨h₁, h₂⟩ := Prod.mk.inj heq
    exact of_decide_eq_false (hno r hr) ⟨h₁, h₂⟩
  obtain ⟨⟨c, categories⟩, ha⟩ := ensure_ok hk hp hfits hnew
  exact ⟨c, { db with categories }, bind_eq_ok.2 ⟨_, ha, rfl⟩⟩

variable {values : Values} {settings : LoginSettings} {ids : NewIds} {now : Int}
  {db db' : SeedTables}

section

variable {tenants : List TenantRecord} {categories : List CategoryRow}
  {system other : TenantRecord} {category : Slug → CategoryRow}
  (h : Seeding values settings ids now db db' tenants categories system other category)

include h

/-- The system tenant has the slug `system`. -/
lemma Seeding.system_slug : system.slug = "system" :=
  of_decide_eq_true (h.ensuredSystem.spec rfl)

/-- The category of a slug is in the table afterwards. -/
lemma Seeding.category_mem (g : Slug) : category g ∈ db'.categories := by
  cases g with
  | finance => exact h.ensuredTech.kept.subset h.ensuredFinance.mem
  | tech => exact h.ensuredTech.mem

/-- The category of a slug is the system tenant's and has the slug. -/
lemma Seeding.category_spec (g : Slug) :
    (category g).tenantId = system.id ∧ (category g).slug = g.text := by
  cases g with
  | finance => exact of_decide_eq_true (h.ensuredFinance.spec (decide_eq_true ⟨rfl, rfl⟩))
  | tech => exact of_decide_eq_true (h.ensuredTech.spec (decide_eq_true ⟨rfl, rfl⟩))

/-- A tenant that has sources was there. -/
lemma Seeding.system_mem (hv : db.Valid) {name : String} (hn : db.Names system.id name) :
    system ∈ db.tenants := by
  obtain ⟨s, hs, hst, -⟩ := hn
  obtain ⟨t, ht, hid⟩ := hv.sourceTenants s hs
  cases h.ensuredSystem with
  | found hmem _ => exact hmem
  | created _ hadm => exact absurd (hid.trans hst) (hadm t ht).1

/-- A seed that the table refuses is there. -/
lemma Seeding.names {d : SeedSource × Slug} (hd : d ∈ seedSourceDefs)
    (htype : d.1.sourceType ∉ sourceTypes) : db.Names system.id d.1.name := by
  apply mem_existingSourceNames.1
  by_contra hno
  have hmem : d.1.row system.id (category d.2).id (ids.source d.1.name) ∈
      missingSources db system.id (fun g => (category g).id) ids :=
    List.mem_map_of_mem (f := fun d : SeedSource × Slug =>
      d.1.row system.id (category d.2).id (ids.source d.1.name)) (Backfill.mem_missing.2 ⟨hd, hno⟩)
  exact htype (h.admitted _ hmem).1.sourceType

end

/-- The default tenant of the settings fits its columns. -/
lemma defaultTenant_fits (hr : Ready values settings ids db) :
    (defaultTenant settings ids.defaultTenant now).fits values = true := by
  simp [defaultTenant, TenantRecord.fits, hr.name, hr.slug, hr.settings]
  decide

/-- The seeds that are missing can be flushed once those the table refuses are there. -/
lemma missingSources_flush (hr : Ready values settings ids db) {system : TenantRecord}
    {categoryId : Slug → String} {tenants : List TenantRecord} {categories : List CategoryRow}
    (ht : ∃ t ∈ tenants, t.id = system.id) (hc : ∀ g, ∃ c ∈ categories, c.id = categoryId g)
    (hai : db.Names system.id "HackerNews-AI/ML")
    (hrobotics : db.Names system.id "HackerNews-Robotics") :
    ∃ db', (missingSources db system.id categoryId ids).foldlM (insertSource values)
      { db with tenants, categories } = .ok db' := by
  refine ⟨_, insertSources_eq_ok.2 ⟨?_, ?_, ?_, rfl⟩⟩
  · intro s hs
    obtain ⟨d, hd, rfl⟩ := List.mem_map.1 hs
    obtain ⟨hd, hmissing⟩ := Backfill.mem_missing.1 hd
    have hfit := seeds_fit d hd
    simp only [Bool.and_eq_true] at hfit
    refine ⟨?_, ?_, ht, hc d.2⟩
    · simp [SourceRecord.fits, SeedSource.row, hfit, hr.configs d hd]
    · by_contra htype
      rcases (sourceType_not_mem_iff d hd).1 htype with hname | hname
      · exact hmissing (mem_existingSourceNames.2 (hname ▸ hai))
      · exact hmissing (mem_existingSourceNames.2 (hname ▸ hrobotics))
  · intro s hs r hmem
    obtain ⟨d, hd, rfl⟩ := List.mem_map.1 hs
    exact hr.source d (Backfill.mem_missing.1 hd).1 r hmem
  · unfold Table.Unique missingSources
    rw [List.map_map]
    exact hr.sources.sublist (List.filter_sublist.map _)

/-- A seed commits where the system tenant has the sources the table would refuse. -/
lemma exists_seed (hv : db.Valid) (hr : Ready values settings ids db) {system : TenantRecord}
    (ht : system ∈ db.tenants) (hslug : system.slug = "system")
    (hai : db.Names system.id "HackerNews-AI/ML")
    (hrobotics : db.Names system.id "HackerNews-Robotics") :
    ∃ db', seedDefaultData values settings ids now db = .ok db' := by
  obtain ⟨other, db₁, hother⟩ := @ensureTenant_ok values (defaultTenant settings ids.defaultTenant now)
    db hv.tenants (defaultTenant_fits hr) rfl hr.tenant
  obtain ⟨tenants, rfl, hother'⟩ := ensureTenant_inv hother
  have hmem : ∃ t ∈ tenants, t.id = system.id := ⟨system, hother'.kept.subset ht, rfl⟩
  obtain ⟨finance, db₂, hfinance⟩ := @ensureCategory_ok
    (seedCategory system.id (ids.category .finance) now .finance) { db with tenants }
    hv.categorySlugs (seedCategory_fits _ _ _ _).1 (seedCategory_fits _ _ _ _).2
    (hr.category .finance) hmem
  obtain ⟨categories, rfl, hfinance'⟩ := ensureCategory_inv hfinance
  have hslugs : Table.Unique (fun c : CategoryRow => (c.tenantId, c.slug)) categories :=
    hfinance'.unique hv.categorySlugs (fun hadm r hr => (hadm.2.1 r hr).2)
  have hids : ∀ r ∈ categories, r.id ≠ ids.category .tech := by
    intro r hmem
    cases hfinance' with
    | found _ _ => exact hr.category .tech r hmem
    | created _ _ =>
      rcases List.mem_append.1 hmem with hmem | hmem
      · exact hr.category .tech r hmem
      · rw [List.mem_singleton.1 hmem]
        exact hr.categories
  obtain ⟨tech, db₃, htech⟩ := @ensureCategory_ok
    (seedCategory system.id (ids.category .tech) now .tech) { db with tenants, categories }
    hslugs (seedCategory_fits _ _ _ _).1 (seedCategory_fits _ _ _ _).2 hids hmem
  obtain ⟨categories', rfl, htech'⟩ := ensureCategory_inv htech
  have hcategory (g : Slug) : ∃ c ∈ categories', c.id = (Slug.pick finance tech g).id := by
    cases g with
    | finance => exact ⟨finance, htech'.kept.subset hfinance'.mem, rfl⟩
    | tech => exact ⟨tech, htech'.mem, rfl⟩
  obtain ⟨db', hsources⟩ := missingSources_flush hr hmem hcategory hai hrobotics
  exact ⟨db', bind_eq_ok.2 ⟨_, ensureTenant_found hv.tenants ht hslug, bind_eq_ok.2 ⟨_, hother,
    bind_eq_ok.2 ⟨_, hfinance, bind_eq_ok.2 ⟨_, htech, hsources⟩⟩⟩⟩⟩

/-! ## Sample values -/

namespace Sample

def seedValues : Values where
  uuid := some
  jsonb := fun _ => true

def seedSettings : LoginSettings where
  enabledSsoProviders := ["google"]
  defaultTenantSlug := "default"
  defaultTenantName := "Default"

def newIds : NewIds where
  defaultTenant := "t1"
  category := Slug.text
  source := fun name => "new " ++ name

/-- A source of an earlier release, whose HackerNews sources were feeds. -/
def feedRow (id name : String) : SourceRecord where
  id
  tenantId := SYSTEM_TENANT_ID
  categoryId := "c7"
  name
  sourceType := "rss"
  url := "https://hnrss.org/newest"
  config := []
  refreshIntervalSeconds := some 120
  isActive := true
  priority := 2
  health := none

/-- The tables of that release. -/
def upgraded : SeedTables where
  tenants := [systemTenant 0]
  categories := []
  sources := [feedRow "s1" "HackerNews-AI/ML", feedRow "s2" "HackerNews-Robotics"]

/-- The upgraded tables are valid. -/
lemma upgraded_valid : upgraded.Valid where
  tenants := ⟨by decide +kernel, by decide +kernel⟩
  categoryIds := Table.unique_nil
  categorySlugs := Table.unique_nil
  sourceIds := by decide +kernel
  sourceTypes := by decide +kernel
  sourceTenants := by decide +kernel

/-- The upgraded tables are ready for the seeding. -/
lemma upgraded_ready : Ready seedValues seedSettings newIds upgraded where
  name := by decide +kernel
  slug := by decide +kernel
  settings := rfl
  configs := fun _ _ => rfl
  tenant := by decide +kernel
  category := fun _ _ h => absurd h List.not_mem_nil
  categories := by decide +kernel
  source := by decide +kernel
  sources := by decide +kernel

/-- The upgraded tables have both HackerNews sources. -/
lemma upgraded_names : upgraded.Names SYSTEM_TENANT_ID "HackerNews-AI/ML" ∧
    upgraded.Names SYSTEM_TENANT_ID "HackerNews-Robotics" :=
  ⟨⟨_, List.mem_cons_self, rfl, rfl⟩, ⟨_, List.mem_cons_of_mem _ List.mem_cons_self, rfl, rfl⟩⟩

end Sample

/-! ## The seed and the schema -/

/-- A seed commits exactly where the two HackerNews sources are the system tenant's already: their
source type is none that the table takes. -/
theorem seed_commits_iff (hv : db.Valid) (hr : Ready values settings ids db) :
    (∃ db', seedDefaultData values settings ids now db = .ok db') ↔
      ∃ t ∈ db.tenants, t.slug = "system" ∧ db.Names t.id "HackerNews-AI/ML" ∧
        db.Names t.id "HackerNews-Robotics" := by
  constructor
  · rintro ⟨db', h⟩
    obtain ⟨tenants, categories, system, other, category, h⟩ := seeding_of_ok h
    have hnames {name : String} (hname : name = "HackerNews-AI/ML" ∨ name = "HackerNews-Robotics") :
        db.Names system.id name := by
      obtain ⟨d, hd, rfl⟩ := exists_seed_of_name hname
      exact h.names hd ((sourceType_not_mem_iff d hd).2 hname)
    have hai := hnames (.inl rfl)
    exact ⟨system, h.system_mem hv hai, h.system_slug, hai, hnames (.inr rfl)⟩
  · rintro ⟨system, ht, hslug, hai, hrobotics⟩
    exact exists_seed hv hr ht hslug hai hrobotics

/-- The seeding commits on the upgraded tables. -/
theorem seed_commits_after_upgrade :
    ∃ db', seedDefaultData Sample.seedValues Sample.seedSettings Sample.newIds 5 Sample.upgraded = .ok db' :=
  (seed_commits_iff Sample.upgraded_valid Sample.upgraded_ready).2
    ⟨_, List.mem_cons_self, rfl, Sample.upgraded_names.1, Sample.upgraded_names.2⟩

/-! ## What a seed leaves -/

/-- Nothing is left to be seeded. -/
structure SeedTables.Complete (settings : LoginSettings) (db : SeedTables) : Prop where
  system : ∃ t ∈ db.tenants, t.slug = "system" ∧
    (∀ g : Slug, ∃ c ∈ db.categories, c.tenantId = t.id ∧ c.slug = g.text) ∧
    ∀ d ∈ seedSourceDefs, db.Names t.id d.1.name
  other : ∃ t ∈ db.tenants, t.slug = settings.defaultTenantSlug

/-- What a seed has done to the tables: the rows there were are as they were, and the new ones are
defaults that were missing, a source with a healthy row of its own, in its category. -/
structure Backfilled (settings : LoginSettings) (ids : NewIds) (now : Int) (db db' : SeedTables) :
    Prop where
  valid : db'.Valid
  complete : db'.Complete settings
  tenants : ∃ added, db'.tenants = db.tenants ++ added ∧ ∀ t ∈ added,
    (t = systemTenant now ∨ t = defaultTenant settings ids.defaultTenant now) ∧
      ∀ r ∈ db.tenants, r.slug ≠ t.slug
  categories : ∃ added, db'.categories = db.categories ++ added ∧ ∀ c ∈ added, ∃ g : Slug,
    ∃ t ∈ db'.tenants, t.slug = "system" ∧ c = seedCategory t.id (ids.category g) now g ∧
      ∀ r ∈ db.categories, ¬ (r.tenantId = t.id ∧ r.slug = g.text)
  sources : ∃ added, db'.sources = db.sources ++ added ∧ ∀ s ∈ added, ∃ d ∈ seedSourceDefs,
    ∃ t ∈ db'.tenants, ∃ c ∈ db'.categories, t.slug = "system" ∧ c.tenantId = t.id ∧
      c.slug = d.2.text ∧ ¬ db.Names t.id d.1.name ∧ s = d.1.row t.id c.id s.id
  /-- No seed is there twice that was not. -/
  once : ∀ t ∈ db'.tenants, t.slug = "system" → ∀ d ∈ seedSourceDefs,
    (existingSourceNames db' t.id).count d.1.name =
      max 1 ((existingSourceNames db t.id).count d.1.name)

section

variable {tenants : List TenantRecord} {categories : List CategoryRow}
  {system other : TenantRecord} {category : Slug → CategoryRow}
  (h : Seeding values settings ids now db db' tenants categories system other category)

include h

/-- The system tenant is there afterwards. -/
lemma Seeding.system_mem_after : system ∈ db'.tenants :=
  h.ensuredOther.kept.subset h.ensuredSystem.mem

/-- The tenants there were are kept. -/
lemma Seeding.tenants_kept : db.tenants <+: db'.tenants :=
  h.ensuredSystem.kept.trans h.ensuredOther.kept

/-- The names of the system tenant's sources afterwards. -/
lemma Seeding.existingSourceNames_eq : existingSourceNames db' system.id =
    Backfill.filled (fun d : SeedSource × Slug => d.1.name) (existingSourceNames db system.id)
      seedSourceDefs := by
  have hnew : ∀ s ∈ missingSources db system.id (fun g => (category g).id) ids,
      decide (s.tenantId = system.id) = true := by
    intro s hs
    obtain ⟨d, -, rfl⟩ := List.mem_map.1 hs
    exact decide_eq_true rfl
  unfold existingSourceNames Backfill.filled
  rw [h.sources, List.filter_append, List.filter_eq_self.2 hnew, List.map_append]
  congr 1
  unfold missingSources
  rw [List.map_map]
  rfl

/-- The tenants stay keyed. -/
lemma Seeding.keyed (hv : db.Valid) : Keyed db'.tenants := by
  have hids : Table.Unique (fun t : TenantRecord => t.id) tenants :=
    h.ensuredSystem.unique hv.tenants.ids (fun hadm r hr => (hadm r hr).1)
  have hslugs : Table.Unique (fun t : TenantRecord => t.slug) tenants :=
    h.ensuredSystem.unique hv.tenants.slugs (fun hadm r hr => (hadm r hr).2)
  constructor
  · exact h.ensuredOther.unique hids (fun hadm r hr => (hadm r hr).1)
  · exact h.ensuredOther.unique hslugs (fun hadm r hr => (hadm r hr).2)

/-- A seed keeps the constraints. -/
lemma Seeding.valid (hv : db.Valid) : db'.Valid where
  tenants := h.keyed hv
  categoryIds := by
    have hids := h.ensuredFinance.unique hv.categoryIds (fun hadm r hr => (hadm.2.1 r hr).1)
    exact h.ensuredTech.unique hids (fun hadm r hr => (hadm.2.1 r hr).1)
  categorySlugs := by
    have hslugs := h.ensuredFinance.unique hv.categorySlugs (fun hadm r hr => (hadm.2.1 r hr).2)
    exact h.ensuredTech.unique hslugs (fun hadm r hr => (hadm.2.1 r hr).2)
  sourceIds := by
    unfold Table.Unique
    rw [h.sources, List.map_append]
    refine List.Nodup.append hv.sourceIds h.unique ?_
    intro id hold hnew
    obtain ⟨r, hr, rfl⟩ := List.mem_map.1 hold
    obtain ⟨s, hs, heq⟩ := List.mem_map.1 hnew
    exact (h.admitted s hs).2 r hr heq.symm
  sourceTypes := by
    intro s hs
    rw [h.sources] at hs
    rcases List.mem_append.1 hs with hs | hs
    · exact hv.sourceTypes s hs
    · exact (h.admitted s hs).1.sourceType
  sourceTenants := by
    intro s hs
    rw [h.sources] at hs
    rcases List.mem_append.1 hs with hs | hs
    · obtain ⟨t, ht, hid⟩ := hv.sourceTenants s hs
      exact ⟨t, h.tenants_kept.subset ht, hid⟩
    · exact (h.admitted s hs).1.tenant

/-- Nothing of the defaults is missing afterwards. -/
lemma Seeding.complete : db'.Complete settings where
  system := by
    refine ⟨system, h.system_mem_after, h.system_slug, ?_, ?_⟩
    · exact fun g => ⟨category g, h.category_mem g, h.category_spec g⟩
    · intro d hd
      apply mem_existingSourceNames.1
      rw [h.existingSourceNames_eq]
      exact Backfill.mem_filled_of_mem hd
  other := ⟨other, h.ensuredOther.mem, of_decide_eq_true (h.ensuredOther.spec (decide_eq_true rfl))⟩

/-- A tenant is new only where none had its slug. -/
lemma Seeding.tenants_added : ∃ added, db'.tenants = db.tenants ++ added ∧ ∀ t ∈ added,
    (t = systemTenant now ∨ t = defaultTenant settings ids.defaultTenant now) ∧
      ∀ r ∈ db.tenants, r.slug ≠ t.slug := by
  obtain ⟨first, htenants, hfirst⟩ := h.ensuredSystem.added
  obtain ⟨second, htenants', hsecond⟩ := h.ensuredOther.added
  refine ⟨first ++ second, by rw [htenants', htenants, List.append_assoc], ?_⟩
  intro t ht
  rcases List.mem_append.1 ht with ht | ht
  · obtain ⟨rfl, hno⟩ := hfirst t ht
    exact ⟨.inl rfl, fun r hr => of_decide_eq_false (hno r hr)⟩
  · obtain ⟨rfl, hno⟩ := hsecond t ht
    exact ⟨.inr rfl, fun r hr => of_decide_eq_false (hno r (h.ensuredSystem.kept.subset hr))⟩

/-- A category is new only where the system tenant had none with its slug. -/
lemma Seeding.categories_added : ∃ added, db'.categories = db.categories ++ added ∧
    ∀ c ∈ added, ∃ g : Slug, ∃ t ∈ db'.tenants, t.slug = "system" ∧
      c = seedCategory t.id (ids.category g) now g ∧
        ∀ r ∈ db.categories, ¬ (r.tenantId = t.id ∧ r.slug = g.text) := by
  obtain ⟨first, hcategories, hfirst⟩ := h.ensuredFinance.added
  obtain ⟨second, hcategories', hsecond⟩ := h.ensuredTech.added
  refine ⟨first ++ second, by rw [hcategories', hcategories, List.append_assoc], ?_⟩
  intro c hc
  rcases List.mem_append.1 hc with hc | hc
  · obtain ⟨rfl, hno⟩ := hfirst c hc
    exact ⟨.finance, system, h.system_mem_after, h.system_slug, rfl,
      fun r hr => of_decide_eq_false (hno r hr)⟩
  · obtain ⟨rfl, hno⟩ := hsecond c hc
    exact ⟨.tech, system, h.system_mem_after, h.system_slug, rfl,
      fun r hr => of_decide_eq_false (hno r (h.ensuredFinance.kept.subset hr))⟩

/-- What was added is just what was missing. -/
lemma Seeding.backfilled (hv : db.Valid) : Backfilled settings ids now db db' where
  valid := h.valid hv
  complete := h.complete
  tenants := h.tenants_added
  categories := h.categories_added
  sources := by
    refine ⟨_, h.sources, ?_⟩
    intro s hs
    obtain ⟨d, hd, rfl⟩ := List.mem_map.1 hs
    obtain ⟨hd, hmissing⟩ := Backfill.mem_missing.1 hd
    refine ⟨d, hd, system, h.system_mem_after, category d.2, h.category_mem d.2, h.system_slug,
      (h.category_spec d.2).1, (h.category_spec d.2).2, ?_, rfl⟩
    exact fun hn => hmissing (mem_existingSourceNames.2 hn)
  once := by
    intro t ht hslug d hd
    have : t = system :=
      (h.keyed hv).slugs.eq_of_mem ht h.system_mem_after (hslug.trans h.system_slug.symm)
    subst this
    rw [h.existingSourceNames_eq]
    exact Backfill.count_filled seeds_named_apart hd

end

/-- Where nothing is left to be seeded, a seed changes nothing. -/
lemma seed_of_complete (hv : db.Valid) (hc : db.Complete settings) :
    seedDefaultData values settings ids now db = .ok db := by
  obtain ⟨system, ht, hslug, hcategories, hnames⟩ := hc.system
  obtain ⟨other, hother, hslug'⟩ := hc.other
  obtain ⟨finance, hfinance, hf⟩ := hcategories .finance
  obtain ⟨tech, htech, ht'⟩ := hcategories .tech
  have hmissing : missingSources db system.id (fun g => (Slug.pick finance tech g).id) ids = [] := by
    unfold missingSources
    rw [Backfill.missing_eq_nil_iff.2 (fun d hd => mem_existingSourceNames.2 (hnames d hd))]
    rfl
  have hsources : (missingSources db system.id (fun g => (Slug.pick finance tech g).id)
      ids).foldlM (insertSource values) db = .ok db := by
    rw [hmissing]
    rfl
  exact bind_eq_ok.2 ⟨_, ensureTenant_found hv.tenants ht hslug,
    bind_eq_ok.2 ⟨_, ensureTenant_found hv.tenants hother hslug',
    bind_eq_ok.2 ⟨_, ensureCategory_found hv.categorySlugs hfinance hf.1 hf.2,
    bind_eq_ok.2 ⟨_, ensureCategory_found hv.categorySlugs htech ht'.1 ht'.2, hsources⟩⟩⟩⟩

/-- A seed that commits leaves nothing to be seeded and what there was as it was, has added missing
defaults only, and seeding again changes nothing, whatever ids and time it would use. -/
theorem seed_backfills (hv : db.Valid) (h : seedDefaultData values settings ids now db = .ok db') :
    Backfilled settings ids now db db' ∧ ∀ (values : Values) (ids : NewIds) (now : Int),
      seedDefaultData values settings ids now db' = .ok db' := by
  obtain ⟨tenants, categories, system, other, category, h⟩ := seeding_of_ok h
  exact ⟨h.backfilled hv, fun _ _ _ => seed_of_complete (h.valid hv) h.complete⟩

/-- On the upgraded tables the seeding fills in, and a second one adds nothing. -/
theorem seed_backfills_after_upgrade : ∃ db',
    seedDefaultData Sample.seedValues Sample.seedSettings Sample.newIds 5 Sample.upgraded = .ok db' ∧
      Backfilled Sample.seedSettings Sample.newIds 5 Sample.upgraded db' ∧
      ∀ (values : Values) (ids : NewIds) (now : Int),
        seedDefaultData values Sample.seedSettings ids now db' = .ok db' := by
  obtain ⟨db', h⟩ := @exists_seed Sample.seedValues Sample.seedSettings Sample.newIds 5 Sample.upgraded
    Sample.upgraded_valid Sample.upgraded_ready (systemTenant 0) List.mem_cons_self rfl
    Sample.upgraded_names.1 Sample.upgraded_names.2
  exact ⟨db', h, seed_backfills Sample.upgraded_valid h⟩

end InstantBoard.InitDb
