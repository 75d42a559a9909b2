import InstantBoard.Finance.Watchlist
import InstantBoard.Lib.ReadCommitted
import InstantBoard.Services.Source
import InstantBoard.Services.TechCategory

/-!
# Limits on what a tenant creates

`create_category`, `create_source` and `add_to_watchlist` statement by statement, as they run next to
each other: each counts what is there, checks the limit, and inserts its row some queries later. On its
own each of them is the function of the module that models it (`createCategoryTxn_alone`,
`createSourceTxn_alone` with `createSource_eq`, `addToWatchlistTxn_alone`).

Nothing keeps what a request has counted until it commits. `leavesRoom_iff`: the limits hold in every
state of a run exactly if, whenever rows of the same account have been committed between a request's
count and its own commit, what it counted and these together are still below the limit.
-/

namespace InstantBoard.Quotas

open CategoryService Fallible Finance ReadCommitted SourceService Transition

/-! ## The tables -/

/-- The tables of the three services. -/
structure BoardTables extends CategoryTables where
  users : List String
  symbols : List SymbolRow
  watchlist : List WatchlistRow

/-- The tables of the watchlist. -/
def BoardTables.watchlistTables (db : BoardTables) : WatchlistTables where
  tenants := db.tenants.map (·.id)
  users := db.users
  symbols := db.symbols
  items := db.watchlist

/-- What the libraries make of texts and values. -/
structure Env where
  py : Stdlib
  isalnum : Char → Bool
  texts : Texts
  /-- What a JSONB column takes. -/
  jsonb : Dict → Bool

/-! ## `create_category` -/

/-- The tenant of a new category. -/
def findTenant (tenantId : String) (db : CategoryTables) : Except WriteError TenantRow :=
  match db.tenants.find? (·.id = tenantId) with
  | none => .error (.refused (.validationError "Tenant not found" []))
  | some tenant => .ok tenant

/-- The check of the number of categories. -/
def checkCategoryRoom (tenant : TenantRow) (tenantId : String) (db : CategoryTables) :
    Except WriteError Unit :=
  let currentCount := (db.categories.filter (·.tenantId = tenantId)).length
  if tenant.maxCategories ≤ currentCount then
    .error (.refused (.validationError
      ("Category limit reached (max " ++ toString tenant.maxCategories ++ ")")
      [("name", "Tenant already has " ++ toString currentCount ++ " categories (max "
        ++ toString tenant.maxCategories ++ ")")]))
  else .ok ()

/-- The check of the slug. -/
def checkNewSlug (tenantId slug : String) (db : CategoryTables) : Except WriteError Unit :=
  match db.categories.filter (clashes tenantId slug) with
  | [] => .ok ()
  | [_] => .error (.refused (.duplicateCategory ("Category with slug '" ++ slug ++ "' already exists")))
  | _ => .error (.refused .multipleResultsFound)

/-- The row of a new category. -/
def newCategory (env : Env) (data : CategoryBody) (tenantId id : String) (now : Int) : CategoryRow :=
  data.row
    { id, tenantId, slug := data.effectiveSlug env.py env.isalnum, type := data.type,
      refreshIntervalSeconds := data.refreshIntervalSeconds,
      keywordsFilter := data.keywordsFilter.getD [] } now

def createCategoryTxn (env : Env) (data : CategoryBody) (tenantId id : String) (now : Int) :
    Txn CategoryTables WriteError CategoryResponse :=
  .ask (findTenant tenantId) fun tenant =>
  .ask (checkCategoryRoom tenant tenantId) fun _ =>
  .ask (checkNewSlug tenantId (data.effectiveSlug env.py env.isalnum)) fun _ =>
  .commit (fun db => (db.insert (newCategory env data tenantId id now)).mapError .db)
    (categoryToResponse (newCategory env data tenantId id now) 0 [])

/-! ## `create_source` -/

inductive SourceError where
  | refused (e : AppError)
  | db (e : DbError)

/-- The tenant of a new source. -/
def findSourceTenant (tenantId : String) (db : CategoryTables) : Except SourceError Tenant :=
  match db.tables.tenant? tenantId with
  | none => .error (.refused (.validationError "Tenant not found" []))
  | some tenant => .ok tenant

/-- The check of the number of sources. -/
def checkSourceRoom (tenant : Tenant) (tenantId : String) (db : CategoryTables) :
    Except SourceError Unit :=
  let currentCount := (db.tables.sources.filter (·.tenantId == tenantId)).length
  if tenant.maxSources ≤ currentCount then
    .error (.refused (.validationError ("Source limit reached (max " ++ toString tenant.maxSources ++ ")")
      [("name", "Tenant already has " ++ toString currentCount ++ " sources (max "
        ++ toString tenant.maxSources ++ ")")]))
  else .ok ()

/-- The category of a new source. -/
def findSourceCategory (categoryId tenantId : String) (db : CategoryTables) :
    Except SourceError Category :=
  match db.tables.category? categoryId with
  | none => .error (.refused (.categoryNotFound "Referenced category not found"))
  | some category =>
    if category.tenantId ≠ tenantId ∧ category.tenantId ≠ SYSTEM_TENANT_ID then
      .error (.refused (.validationError "Cannot add sources to categories from other tenants" []))
    else .ok category

/-- The checks that need no query. -/
def checkSource (data : SourceCreate) : Except AppError Unit := do
  validateSourceConfig data.sourceType (data.config.getD [])
  if data.isActive then
    checkCollectorAvailable data.sourceType (data.config.getD [])

/-- The row of a new source, and of its health. -/
def newSource (data : SourceCreate) (tenantId id : String) (category : Category) : SourceRow where
  id
  tenantId
  categoryId := data.categoryId
  name := data.name
  sourceType := data.sourceType
  url := data.url
  config := data.config.getD []
  refreshIntervalSeconds := some (data.refreshIntervalSeconds.getD category.refreshIntervalSeconds)
  isActive := data.isActive
  priority := 5
  health := some "healthy"

/-- The flush of a new source with its health. -/
def insertSource (env : Env) (s : SourceRow) (db : CategoryTables) : Except DbError CategoryTables :=
  flushRow (varchar 100 s.name && varchar 20 s.sourceType && storable s.url && env.jsonb s.config &&
      s.refreshIntervalSeconds.all int4)
    (s.sourceType ∈ ["rss", "api", "web_scrape", "social"] ∧ (∀ r ∈ db.sources, r.id ≠ s.id) ∧
      (∃ t ∈ db.tenants, t.id = s.tenantId) ∧ ∃ c ∈ db.categories, c.id = s.categoryId)
    { db with sources := db.sources ++ [s] }

def createSourceTxn (env : Env) (data : SourceCreate) (tenantId id : String) :
    Txn CategoryTables SourceError SourceRow :=
  .ask (findSourceTenant tenantId) fun tenant =>
  .ask (checkSourceRoom tenant tenantId) fun _ =>
  .ask (findSourceCategory data.categoryId tenantId) fun category =>
  match checkSource data with
  | .error e => .fail (.refused e)
  | .ok _ =>
    .commit (fun db => (insertSource env (newSource data tenantId id category) db).mapError .db)
      (newSource data tenantId id category)

/-! ## `add_to_watchlist` -/

/-- The row of a new item. -/
def newWatchlistRow (env : Env) (data : WatchlistData) (tenantId userId id symbolId : String)
    (next : Int) (now : Int) : WatchlistRow where
  id
  tenantId
  userId
  symbolId := (env.texts.uuid symbolId).getD symbolId
  displayOrder := data.displayOrder.getD next
  notes := data.notes
  alertThresholdPercent := data.alertThresholdPercent
  createdAt := now

def addToWatchlistTxn (env : Env) (data : WatchlistData) (tenantId userId id : String) (now : Int) :
    Txn WatchlistTables WatchlistError WatchlistRow :=
  .ask (fun db => resolveSymbol env.texts db tenantId data) fun symbolId =>
  .ask (fun db => checkRoom (db.own tenantId userId)) fun _ =>
  .ask (fun db => checkDuplicate env.texts (db.own tenantId userId) symbolId) fun _ =>
  .ask (fun db => .ok (nextOrder (db.own tenantId userId))) fun next =>
  .commit (fun db => (db.insert env.texts
      (newWatchlistRow env data tenantId userId id symbolId next now)).mapError .db)
    (newWatchlistRow env data tenantId userId id symbolId next now)

/-! ## On their own -/

section

variable {env : Env} {db : CategoryTables} {tenantId id : String}

/-- The tenant of the tables is the row's. -/
lemma tenant?_tables : db.tables.tenant? tenantId =
    (db.tenants.find? (·.id = tenantId)).map TenantRow.toTenant := by
  unfold Tables.tenant? CategoryTables.tables
  rw [List.find?_map]
  rfl

/-- Counting categories is counting rows. -/
lemma length_categories_tables {p : Category → Bool} :
    (db.tables.categories.filter p).length = (db.categories.filter fun c => p c.toCategory).length := by
  unfold CategoryTables.tables
  rw [List.filter_map, List.length_map]
  rfl

/-- The checks of a category's creation, in order. -/
lemma createCategory_eq {data : CategoryBody} (now : Int) :
    (createCategory env.py env.isalnum db.tables (db.maxCategories tenantId) data.toCategoryCreate
      tenantId id).mapError WriteError.refused = (do
        let tenant ← findTenant tenantId db
        checkCategoryRoom tenant tenantId db
        checkNewSlug tenantId (data.effectiveSlug env.py env.isalnum) db
        return ({ db.tables with categories := db.tables.categories ++
          [(newCategory env data tenantId id now).toCategory] },
          (newCategory env data tenantId id now).toCategory)) := by
  unfold createCategory findTenant CategoryTables.maxCategories
  rw [tenant?_tables]
  cases db.tenants.find? (·.id = tenantId) with
  | none => rfl
  | some tenant =>
    have hcount : (db.tables.categories.filter _).length = _ :=
      length_categories_tables (p := fun c => c.tenantId == tenantId)
    dsimp only [Option.map_some, Option.getD_some]
    rw [hcount]
    have hclash : db.tables.categories.filter (fun c =>
        (c.tenantId == tenantId || c.tenantId == SYSTEM_TENANT_ID) &&
          c.slug == data.effectiveSlug env.py env.isalnum) =
        (db.categories.filter (clashes tenantId (data.effectiveSlug env.py env.isalnum))).map
          CategoryRow.toCategory := by
      unfold CategoryTables.tables
      rw [List.filter_map]
      congr 2
      funext c
      unfold clashes
      rw [Bool.decide_and, Bool.decide_or]
      rfl
    rw [hclash]
    unfold checkCategoryRoom checkNewSlug
    by_cases hroom : tenant.maxCategories ≤ (db.categories.filter (·.tenantId = tenantId)).length
    · have hroom' : tenant.maxCategories ≤ (db.categories.filter (·.tenantId == tenantId)).length := hroom
      dsimp only [bind, Except.bind]
      rw [if_pos hroom, if_pos hroom']
      rfl
    · have hroom' : ¬ tenant.maxCategories ≤ (db.categories.filter (·.tenantId == tenantId)).length :=
        hroom
      dsimp only [bind, Except.bind]
      rw [if_neg hroom, if_neg hroom']
      cases db.categories.filter (clashes tenantId (data.effectiveSlug env.py env.isalnum)) with
      | nil => rfl
      | cons c rest =>
        cases rest with
        | nil => rfl
        | cons d rest => rfl

/-- Alone the transaction is the creation of a category. -/
lemma createCategoryTxn_alone {data : CategoryBody} {now : Int} :
    (createCategoryTxn env data tenantId id now).alone db =
      create env.py env.isalnum db now data tenantId id := by
  unfold create
  rw [createCategory_eq now]
  unfold createCategoryTxn
  simp only [Txn.alone_ask, Txn.alone, bind_assoc, pure_bind]
  cases findTenant tenantId db with
  | error e => rfl
  | ok tenant =>
    dsimp only [bind, Except.bind]
    cases checkCategoryRoom tenant tenantId db with
    | error e => rfl
    | ok _ =>
      cases checkNewSlug tenantId (data.effectiveSlug env.py env.isalnum) db with
      | error e => rfl
      | ok _ =>
        show _ = (db.insert (newCategory env data tenantId id now)).mapError WriteError.db >>= _
        cases db.insert (newCategory env data tenantId id now) with
        | error e => rfl
        | ok db' => rfl

/-- The row of a source that passes the checks, and its category. -/
def plannedSource (db : CategoryTables) (data : SourceCreate) (tenantId id : String) :
    Except SourceError (SourceRow × Category) := do
  let tenant ← findSourceTenant tenantId db
  checkSourceRoom tenant tenantId db
  let category ← findSourceCategory data.categoryId tenantId db
  (checkSource data).mapError .refused
  return (newSource data tenantId id category, category)

/-- The checks of a source's creation, in order. -/
lemma createSource_eq {data : SourceCreate} :
    (createSource db.tables data tenantId id).mapError SourceError.refused =
      (plannedSource db data tenantId id).map fun (row, category) =>
        ({ db.tables with sources := db.tables.sources ++ [row.toSource] },
          some (.created row.toSource category.slug)) := by
  unfold createSource plannedSource findSourceTenant
  cases db.tables.tenant? tenantId with
  | none => rfl
  | some tenant =>
    unfold checkSourceRoom findSourceCategory
    dsimp only [bind, Except.bind]
    by_cases hroom : tenant.maxSources ≤ (db.tables.sources.filter (·.tenantId == tenantId)).length
    · rw [if_pos hroom, if_pos hroom]
      rfl
    · rw [if_neg hroom, if_neg hroom]
      cases db.tables.category? data.categoryId with
      | none => rfl
      | some category =>
        dsimp only
        by_cases hother : category.tenantId ≠ tenantId ∧ category.tenantId ≠ SYSTEM_TENANT_ID
        · rw [if_pos hother, if_pos hother]
          rfl
        · rw [if_neg hother, if_neg hother]
          unfold checkSource newSource
          cases validateSourceConfig data.sourceType (data.config.getD []) with
          | error e => rfl
          | ok _ =>
            cases data.isActive with
            | false => rfl
            | true =>
              cases checkCollectorAvailable data.sourceType (data.config.getD []) with
              | error e => rfl
              | ok _ => rfl

/-- Alone the transaction is the creation of a source. -/
lemma createSourceTxn_alone {data : SourceCreate} :
    (createSourceTxn env data tenantId id).alone db = (do
      let (row, _) ← plannedSource db data tenantId id
      let db' ← (insertSource env row db).mapError .db
      return (row, db')) := by
  unfold createSourceTxn plannedSource
  simp only [Txn.alone_ask, bind_assoc]
  cases findSourceTenant tenantId db with
  | error e => rfl
  | ok tenant =>
    dsimp only [bind, Except.bind]
    cases checkSourceRoom tenant tenantId db with
    | error e => rfl
    | ok _ =>
      cases findSourceCategory data.categoryId tenantId db with
      | error e => rfl
      | ok category =>
        cases checkSource data with
        | error e => rfl
        | ok _ =>
          show Except.map _ ((insertSource env (newSource data tenantId id category) db).mapError _) =
            (insertSource env (newSource data tenantId id category) db).mapError _ >>= _
          cases insertSource env (newSource data tenantId id category) db with
          | error e => rfl
          | ok db' => rfl

/-- Alone the transaction is the addition to the watchlist. -/
lemma addToWatchlistTxn_alone {db : WatchlistTables} {data : WatchlistData} {userId : String} {now : Int} :
    ((addToWatchlistTxn env data tenantId userId id now).alone db).map Prod.snd =
      addToWatchlist env.texts db tenantId userId data id now := by
  unfold addToWatchlistTxn addToWatchlist newItem
  simp only [Txn.alone_ask, Txn.alone, bind_assoc, pure_bind]
  cases resolveSymbol env.texts db tenantId data with
  | error e => rfl
  | ok symbolId =>
    dsimp only [bind, Except.bind]
    cases checkRoom (db.own tenantId userId) with
    | error e => rfl
    | ok _ =>
      cases checkDuplicate env.texts (db.own tenantId userId) symbolId with
      | error e => rfl
      | ok _ =>
        show _ = (db.insert env.texts (newWatchlistRow env data tenantId userId id symbolId
          (nextOrder (db.own tenantId userId)) now)).mapError _
        dsimp only
        cases db.insert env.texts (newWatchlistRow env data tenantId userId id symbolId
          (nextOrder (db.own tenantId userId)) now) with
        | error e => rfl
        | ok db' => rfl

end

/-! ## All three together -/

inductive QuotaRequest where
  | category (data : CategoryBody) (tenantId id : String) (now : Int)
  | source (data : SourceCreate) (tenantId id : String)
  | watchlist (data : WatchlistData) (tenantId userId id : String) (now : Int)

inductive QuotaError where
  | category (e : WriteError)
  | source (e : SourceError)
  | watchlist (e : WatchlistError)

inductive QuotaAnswer where
  | category (response : CategoryResponse)
  | source (row : SourceRow)
  | watchlist (row : WatchlistRow)

def QuotaRequest.program (env : Env) : QuotaRequest → Txn BoardTables QuotaError QuotaAnswer
  | .category data tenantId id now =>
    (createCategoryTxn env data tenantId id now).on BoardTables.toCategoryTables
      (fun db t => { db with toCategoryTables := t }) .category .category
  | .source data tenantId id =>
    (createSourceTxn env data tenantId id).on BoardTables.toCategoryTables
      (fun db t => { db with toCategoryTables := t }) .source .source
  | .watchlist data tenantId userId id now =>
    (addToWatchlistTxn env data tenantId userId id now).on BoardTables.watchlistTables
      (fun db t => { db with watchlist := t.items }) .watchlist .watchlist

/-- What is limited: the categories and the sources of a tenant, the watchlist of a user. -/
inductive Account where
  | categories (tenantId : String)
  | sources (tenantId : String)
  | watchlist (tenantId userId : String)
deriving DecidableEq

/-- What a request adds to. -/
def QuotaRequest.account : QuotaRequest → Account
  | .category _ tenantId _ _ => .categories tenantId
  | .source _ tenantId _ => .sources tenantId
  | .watchlist _ tenantId userId _ _ => .watchlist tenantId userId

/-- How much there is. Of the sources, those that were seeded were not created through the API. -/
def held (seeded : List String) (db : BoardTables) : Account → Nat
  | .categories tenantId => (db.categories.filter (·.tenantId = tenantId)).length
  | .sources tenantId =>
    (db.sources.filter fun s => s.tenantId = tenantId ∧ s.id ∉ seeded).length
  | .watchlist tenantId userId => (db.watchlistTables.own tenantId userId).length

def limit (db : BoardTables) : Account → Nat
  | .categories tenantId => db.maxCategories tenantId
  | .sources tenantId => ((db.tenants.find? (·.id = tenantId)).map (·.maxSources)).getD 0
  | .watchlist _ _ => MAX_WATCHLIST_ITEMS

def WithinLimits (seeded : List String) (db : BoardTables) : Prop :=
  ∀ a, held seeded db a ≤ limit db a

/-- The committed tables, with the accounts that rows were committed to, in their order. No query reads
`log`. -/
structure Board where
  tables : BoardTables
  log : List Account

/-- A request on the tables, whose commit goes to the log. -/
def QuotaRequest.logged (env : Env) (r : QuotaRequest) : Txn Board QuotaError QuotaAnswer :=
  (r.program env).on Board.tables (fun board tables => ⟨tables, board.log ++ [r.account]⟩) id id

/-- What the count of the `i`-th request saw: it is the second query of each of the three. -/
def counted (w : World QuotaRequest Board QuotaAnswer) (i : Nat) : Option Board :=
  w.active[i]?.bind fun request => request.2[1]?

/-- How many rows have been committed to the account since. -/
def since (w : World QuotaRequest Board QuotaAnswer) (seen : Board) (a : Account) : Nat :=
  (w.committed.log.drop seen.log.length).count a

/-- When a request commits, no row has been committed to its account since it counted, or what it
counted and these together are below the limit. -/
def LeavesRoom (env : Env) (seeded : List String) (w : World QuotaRequest Board QuotaAnswer) :
    Label QuotaRequest → Prop
  | .next i => ∀ r answer board, w.commit? (QuotaRequest.logged env) i = some (r, answer, board) →
      ∀ seen, counted w i = some seen → since w seen r.account = 0 ∨
        held seeded seen.tables r.account + since w seen r.account <
          limit w.committed.tables r.account
  | .begin _ | .abort _ => True

/-! ### What a commit adds -/

/-- The row that a request adds. -/
inductive Adds (db : BoardTables) : QuotaRequest → BoardTables → Prop where
  | category {data tenantId id now c} : c.tenantId = tenantId →
      Adds db (.category data tenantId id now) { db with categories := db.categories ++ [c] }
  | source {data tenantId id s} : s.tenantId = tenantId → (∀ r ∈ db.sources, r.id ≠ s.id) →
      Adds db (.source data tenantId id) { db with sources := db.sources ++ [s] }
  | watchlist {data tenantId userId id now r} : r.tenantId = tenantId → r.userId = userId →
      Adds db (.watchlist data tenantId userId id now) { db with watchlist := db.watchlist ++ [r] }

section

variable {env : Env} {seeded : List String} {db db' : BoardTables} {r : QuotaRequest}

/-- A request that commits adds its row. -/
lemma QuotaRequest.adds {write : BoardTables → Except QuotaError BoardTables} {answer : QuotaAnswer}
    (h : (r.program env).MayCommit write answer) (hw : write db = .ok db') : Adds db r db' := by
  cases r with
  | category data tenantId id now =>
    obtain ⟨w, a, hcommit, _, rfl⟩ := h.of_on
    obtain ⟨_, tenant, _, hcommit⟩ := hcommit.ask
    obtain ⟨_, _, _, hcommit⟩ := hcommit.ask
    obtain ⟨_, _, _, hcommit⟩ := hcommit.ask
    obtain ⟨rfl, _⟩ := hcommit.of_commit
    obtain ⟨t, ht, rfl⟩ := map_eq_ok.1 hw
    obtain ⟨_, _, rfl⟩ := flush_eq_ok.1 (mapError_eq_ok.1 (mapError_eq_ok.1 ht))
    exact .category rfl
  | source data tenantId id =>
    obtain ⟨w, a, hcommit, _, rfl⟩ := h.of_on
    obtain ⟨_, tenant, _, hcommit⟩ := hcommit.ask
    obtain ⟨_, _, _, hcommit⟩ := hcommit.ask
    obtain ⟨_, category, _, hcommit⟩ := hcommit.ask
    split at hcommit
    · exact absurd hcommit Txn.MayCommit.of_fail
    · obtain ⟨rfl, _⟩ := hcommit.of_commit
      obtain ⟨t, ht, rfl⟩ := map_eq_ok.1 hw
      obtain ⟨_, ⟨_, hfresh, _⟩, rfl⟩ := flush_eq_ok.1 (mapError_eq_ok.1 (mapError_eq_ok.1 ht))
      exact .source rfl hfresh
  | watchlist data tenantId userId id now =>
    obtain ⟨w, a, hcommit, _, rfl⟩ := h.of_on
    obtain ⟨_, symbolId, _, hcommit⟩ := hcommit.ask
    obtain ⟨_, _, _, hcommit⟩ := hcommit.ask
    obtain ⟨_, _, _, hcommit⟩ := hcommit.ask
    obtain ⟨_, next, _, hcommit⟩ := hcommit.ask
    obtain ⟨rfl, _⟩ := hcommit.of_commit
    obtain ⟨t, ht, rfl⟩ := map_eq_ok.1 hw
    obtain ⟨_, _, rfl⟩ := flush_eq_ok.1 (mapError_eq_ok.1 (mapError_eq_ok.1 ht))
    exact .watchlist rfl rfl

/-- A row that is appended counts where it belongs. -/
lemma length_filter_append {α : Type} {p : α → Bool} {rows : List α} {row : α} :
    ((rows ++ [row]).filter p).length = (rows.filter p).length + if p row then 1 else 0 := by
  rw [List.filter_append, List.length_append, List.filter_singleton]
  cases p row with
  | false => rfl
  | true => rfl

/-- A row that is added counts for its account alone. -/
lemma Adds.held_eq (hseeded : ∀ id ∈ seeded, ∃ s ∈ db.sources, s.id = id) (h : Adds db r db')
    (a : Account) : held seeded db' a = held seeded db a + if a = r.account then 1 else 0 := by
  cases h with
  | @category data tenantId id now c hc =>
    cases a with
    | categories t =>
      show ((db.categories ++ [c]).filter (·.tenantId = t)).length = _
      rw [length_filter_append]
      simp [held, QuotaRequest.account, hc, eq_comm]
    | sources t => rfl
    | watchlist t u => rfl
  | @source data tenantId id s hs hfresh =>
    cases a with
    | categories t => rfl
    | sources t =>
      have hnew : s.id ∉ seeded := by
        intro hmem
        obtain ⟨s', hs', hid⟩ := hseeded s.id hmem
        exact hfresh s' hs' hid
      show ((db.sources ++ [s]).filter fun s => s.tenantId = t ∧ s.id ∉ seeded).length = _
      rw [length_filter_append]
      simp [held, QuotaRequest.account, hs, hnew, eq_comm]
    | watchlist t u => rfl
  | @watchlist data tenantId userId id now r hr hr' =>
    cases a with
    | categories t => rfl
    | sources t => rfl
    | watchlist t u =>
      show ((db.watchlist ++ [r]).filter fun r => r.tenantId = t ∧ r.userId = u).length = _
      rw [length_filter_append, hr, hr']
      have hiff : (tenantId = t ∧ userId = u) ↔
          Account.watchlist t u = .watchlist tenantId userId := by
        rw [Account.watchlist.injEq, eq_comm (a := t), eq_comm (a := u)]
      simp only [decide_eq_true_eq, hiff]
      rfl

/-- An addition leaves the limits. -/
lemma Adds.limit_eq (h : Adds db r db') (a : Account) : limit db' a = limit db a := by
  cases h with
  | category _ => rfl
  | source _ _ => rfl
  | watchlist _ _ => rfl

/-- Seeded sources stay. -/
lemma Adds.keeps_seeded (h : Adds db r db') (hseeded : ∀ id ∈ seeded, ∃ s ∈ db.sources, s.id = id) :
    ∀ id ∈ seeded, ∃ s ∈ db'.sources, s.id = id := by
  intro id hid
  obtain ⟨s, hs, hid⟩ := hseeded id hid
  refine ⟨s, ?_, hid⟩
  cases h with
  | category _ => exact hs
  | source _ _ => exact List.mem_append_left _ hs
  | watchlist _ _ => exact hs

/-- A row keeps the limits exactly when it finds room. -/
lemma Adds.withinLimits_iff (hseeded : ∀ id ∈ seeded, ∃ s ∈ db.sources, s.id = id)
    (h : Adds db r db') (hdb : WithinLimits seeded db) :
    WithinLimits seeded db' ↔ held seeded db r.account < limit db r.account := by
  constructor
  · intro hdb'
    have hroom := hdb' r.account
    rw [h.held_eq hseeded, h.limit_eq, if_pos rfl] at hroom
    exact hroom
  · intro hroom a
    rw [h.held_eq hseeded, h.limit_eq]
    by_cases ha : a = r.account
    · rw [if_pos ha, ha]
      exact hroom
    · rw [if_neg ha]
      exact hdb a

/-- Tenants stay. -/
lemma Adds.tenants_eq (h : Adds db r db') : db'.tenants = db.tenants := by
  cases h with
  | category _ => rfl
  | source _ _ => rfl
  | watchlist _ _ => rfl

/-! ### What a request has counted -/

/-- A limit depends on the tenants only. -/
lemma limit_congr (h : db'.tenants = db.tenants) (a : Account) : limit db' a = limit db a := by
  cases a with
  | categories t =>
    show db'.maxCategories t = db.maxCategories t
    unfold CategoryTables.maxCategories
    rw [h]
  | sources t =>
    show ((db'.tenants.find? _).map _).getD 0 = ((db.tenants.find? _).map _).getD 0
    rw [h]
  | watchlist t u => rfl

/-- The tenant found depends on the tenants only. -/
lemma findTenant_congr {tenantId : String} (h : db'.tenants = db.tenants) :
    findTenant tenantId db'.toCategoryTables = findTenant tenantId db.toCategoryTables := by
  unfold findTenant
  rw [h]

/-- So does the tenant of a source. -/
lemma findSourceTenant_congr {tenantId : String} (h : db'.tenants = db.tenants) :
    findSourceTenant tenantId db'.toCategoryTables =
      findSourceTenant tenantId db.toCategoryTables := by
  unfold findSourceTenant
  rw [tenant?_tables, tenant?_tables, h]

/-- Where the check of a category passes there is room for it. -/
lemma categories_lt {tenantId : String} {tenant : TenantRow} {u : Unit}
    (htenant : findTenant tenantId db.toCategoryTables = .ok tenant)
    (hroom : checkCategoryRoom tenant tenantId db.toCategoryTables = .ok u) :
    held seeded db (.categories tenantId) < limit db (.categories tenantId) := by
  have hlimit : limit db (.categories tenantId) = tenant.maxCategories := by
    unfold findTenant at htenant
    show CategoryTables.maxCategories _ tenantId = _
    unfold CategoryTables.maxCategories
    cases hfind : db.tenants.find? (·.id = tenantId) with
    | none =>
      rw [hfind] at htenant
      cases htenant
    | some t =>
      rw [hfind] at htenant
      cases htenant
      rfl
  rw [hlimit]
  unfold checkCategoryRoom at hroom
  dsimp only at hroom
  split at hroom
  · cases hroom
  · rename_i hlt
    exact Nat.lt_of_not_le hlt

/-- Where the check of a source passes there is room for it. -/
lemma sources_lt {tenantId : String} {tenant : Tenant} {u : Unit}
    (htenant : findSourceTenant tenantId db.toCategoryTables = .ok tenant)
    (hroom : checkSourceRoom tenant tenantId db.toCategoryTables = .ok u) :
    held seeded db (.sources tenantId) < limit db (.sources tenantId) := by
  have hlimit : limit db (.sources tenantId) = tenant.maxSources := by
    unfold findSourceTenant at htenant
    rw [tenant?_tables] at htenant
    show ((db.tenants.find? _).map _).getD 0 = _
    cases hfind : db.tenants.find? (·.id = tenantId) with
    | none =>
      rw [hfind] at htenant
      cases htenant
    | some t =>
      rw [hfind] at htenant
      cases htenant
      rfl
  rw [hlimit]
  unfold checkSourceRoom at hroom
  dsimp only at hroom
  split at hroom
  · cases hroom
  · rename_i hlt
    -- the count has the seeded sources too
    apply Nat.lt_of_le_of_lt _ (Nat.lt_of_not_le hlt)
    show (db.sources.filter _).length ≤ ((db.sources.map SourceRow.toSource).filter _).length
    rw [List.filter_map, List.length_map, ← List.countP_eq_length_filter,
      ← List.countP_eq_length_filter]
    apply List.countP_mono_left
    intro row _ hrow
    exact beq_iff_eq.2 (of_decide_eq_true hrow).1

/-- Where the check of a watchlist passes there is room in it. -/
lemma watchlist_lt {tenantId userId : String} {u : Unit}
    (hroom : checkRoom (db.watchlistTables.own tenantId userId) = .ok u) :
    held seeded db (.watchlist tenantId userId) < limit db (.watchlist tenantId userId) := by
  unfold checkRoom at hroom
  split at hroom
  · cases hroom
  · rename_i hlt
    exact Nat.lt_of_not_le hlt

/-- A request that comes to its commit has counted, after one query, and what it counted was below the
limit. -/
lemma QuotaRequest.counted_lt {reads : List BoardTables}
    {write : BoardTables → Except QuotaError BoardTables} {answer : QuotaAnswer}
    (h : (r.program env).resume reads = .commit write answer) :
    ∃ first seen rest, reads = first :: seen :: rest ∧
      (first.tenants = seen.tenants → held seeded seen r.account < limit seen r.account) := by
  cases r with
  | category data tenantId id now =>
    obtain ⟨first, _, tenant, rfl, htenant, h⟩ := Txn.resume_ask_on h
    obtain ⟨seen, rest, _, rfl, hroom, _⟩ := Txn.resume_ask_on h
    refine ⟨first, seen, rest, rfl, fun hsame => ?_⟩
    rw [findTenant_congr hsame] at htenant
    exact categories_lt htenant hroom
  | source data tenantId id =>
    obtain ⟨first, _, tenant, rfl, htenant, h⟩ := Txn.resume_ask_on h
    obtain ⟨seen, rest, _, rfl, hroom, _⟩ := Txn.resume_ask_on h
    refine ⟨first, seen, rest, rfl, fun hsame => ?_⟩
    rw [findSourceTenant_congr hsame] at htenant
    exact sources_lt htenant hroom
  | watchlist data tenantId userId id now =>
    unfold QuotaRequest.program addToWatchlistTxn at h
    obtain ⟨first, _, symbolId, rfl, _, h⟩ := Txn.resume_ask_on h
    obtain ⟨seen, rest, _, rfl, hroom, _⟩ := Txn.resume_ask_on h
    exact ⟨first, seen, rest, rfl, fun _ => watchlist_lt hroom⟩

/-! ### Steps -/

/-- From an earlier state on, the tables have grown by the rows of the log. -/
structure GrownFrom (seeded : List String) (seen board : Board) : Prop where
  tenants : board.tables.tenants = seen.tables.tenants
  log : ∃ later, board.log = seen.log ++ later ∧
    ∀ a, held seeded board.tables a = held seeded seen.tables a + later.count a

/-- A board has grown from itself. -/
lemma GrownFrom.refl (board : Board) : GrownFrom seeded board board :=
  ⟨rfl, [], (List.append_nil _).symm, fun _ => rfl⟩

/-- A commit grows them by its row. -/
lemma GrownFrom.commit {seen board : Board} (h : GrownFrom seeded seen board)
    (hseeded : ∀ id ∈ seeded, ∃ s ∈ board.tables.sources, s.id = id)
    (hadds : Adds board.tables r db') : GrownFrom seeded seen ⟨db', board.log ++ [r.account]⟩ where
  tenants := hadds.tenants_eq.trans h.tenants
  log := by
    obtain ⟨later, hlog, hheld⟩ := h.log
    refine ⟨later ++ [r.account], by rw [hlog, List.append_assoc], fun a => ?_⟩
    show held seeded db' a = _
    rw [hadds.held_eq hseeded, hheld, List.count_append, List.count_singleton, Nat.add_assoc]
    simp only [beq_iff_eq, eq_comm (a := a)]

variable {w w' : World QuotaRequest Board QuotaAnswer} {l : Label QuotaRequest}

/-- What holds in every state of a run: the seeded sources are there, and the tables have grown from
whatever a request under way has seen. -/
structure Grown (seeded : List String) (w : World QuotaRequest Board QuotaAnswer) : Prop where
  kept : ∀ id ∈ seeded, ∃ s ∈ w.committed.tables.sources, s.id = id
  reads : ∀ request ∈ w.active, ∀ seen ∈ request.2, GrownFrom seeded seen w.committed

/-- The logged commit of a request. -/
lemma logged_commit {i : Nat} {answer : QuotaAnswer} {board : Board}
    (h : w.commit? (QuotaRequest.logged env) i = some (r, answer, board)) :
    ∃ reads write, w.active[i]? = some (r, reads) ∧
      (r.program env).resume (reads.map Board.tables) = .commit write answer ∧
      ∃ db', write w.committed.tables = .ok db' ∧ board = ⟨db', w.committed.log ++ [r.account]⟩ := by
  obtain ⟨reads, write, hactive, hres, hwrite⟩ := commit?_eq_some.1 h
  obtain ⟨own, a, hown, rfl, rfl⟩ := Txn.commit_of_on hres
  obtain ⟨db', hdb', rfl⟩ := map_eq_ok.1 hwrite
  exact ⟨reads, own, hactive, hown, db', mapError_eq_ok.1 hdb', rfl⟩

/-- A step commits nothing, or one row. -/
lemma Step.adds (hst : Step (QuotaRequest.logged env) w l w') :
    w'.committed = w.committed ∧ (∀ i, l = .next i → w.commit? (QuotaRequest.logged env) i = none) ∨
      ∃ i r answer, l = .next i ∧
        w.commit? (QuotaRequest.logged env) i = some (r, answer, w'.committed) ∧
        Adds w.committed.tables r w'.committed.tables ∧
        w'.committed.log = w.committed.log ++ [r.account] := by
  cases hst.outcome with
  | kept hnone hcommitted _ => exact .inl ⟨hcommitted, hnone⟩
  | @committed i r answer board _ hcommit hcommitted _ =>
    obtain ⟨reads, write, _, hres, db', hdb', hboard⟩ := logged_commit hcommit
    subst hcommitted
    refine .inr ⟨i, r, answer, rfl, hcommit, ?_, ?_⟩
    · rw [hboard]
      exact QuotaRequest.adds (.of_resume hres) hdb'
    · rw [hboard]

/-- A step keeps the tables grown from what the requests have seen. -/
lemma Grown.step (h : Grown seeded w) (hst : Step (QuotaRequest.logged env) w l w') :
    Grown seeded w' := by
  have hgrown : ∀ seen, GrownFrom seeded seen w.committed →
      GrownFrom seeded seen w'.committed := by
    intro seen hseen
    rcases Step.adds hst with ⟨hsame, _⟩ | ⟨i, r, answer, _, _, hadds, hlog⟩
    · rw [hsame]
      exact hseen
    · have hcommit := hseen.commit h.kept hadds
      rw [← hlog] at hcommit
      exact hcommit
  constructor
  · rcases Step.adds hst with ⟨hsame, _⟩ | ⟨_, _, _, _, _, hadds, _⟩
    · rw [hsame]
      exact h.kept
    · exact hadds.keeps_seeded h.kept
  · intro request hrequest seen hseen
    rcases hst.mem_reads hrequest hseen with ⟨old, hold, hseen⟩ | rfl
    · exact hgrown seen (h.reads old hold seen hseen)
    · exact hgrown _ (.refl _)

/-- A request that commits finds as much as it counted and what was committed since. -/
lemma Grown.counted (h : Grown seeded w) {i : Nat} {answer : QuotaAnswer} {board : Board}
    (hcommit : w.commit? (QuotaRequest.logged env) i = some (r, answer, board)) :
    ∃ seen, counted w i = some seen ∧
      held seeded w.committed.tables r.account =
        held seeded seen.tables r.account + since w seen r.account ∧
      held seeded seen.tables r.account < limit w.committed.tables r.account := by
  obtain ⟨reads, write, hactive, hres, _⟩ := logged_commit hcommit
  obtain ⟨first, seen, rest, hreads, hlt⟩ := @QuotaRequest.counted_lt env seeded r _ _ _ hres
  obtain ⟨first, tail, rfl, rfl, htail⟩ := List.map_eq_cons_iff.1 hreads
  obtain ⟨seen, rest, rfl, rfl, _⟩ := List.map_eq_cons_iff.1 htail
  have hmem := List.mem_of_getElem? hactive
  have hfirst := h.reads _ hmem first List.mem_cons_self
  have hseen := h.reads _ hmem seen (List.mem_cons_of_mem _ List.mem_cons_self)
  obtain ⟨later, hlog, hheld⟩ := hseen.log
  refine ⟨seen, ?_, ?_, ?_⟩
  · unfold Quotas.counted
    rw [hactive]
    rfl
  · rw [hheld]
    unfold since
    rw [hlog, List.drop_left]
  · rw [limit_congr hseen.tenants]
    exact hlt (hfirst.tenants.symm.trans hseen.tenants)

/-- A commit keeps the limits exactly if what was committed since the count leaves room: with nothing
committed since, the check has seen to it. -/
lemma Step.withinLimits_iff (hw : Grown seeded w) (h : WithinLimits seeded w.committed.tables)
    (hst : Step (QuotaRequest.logged env) w l w') :
    WithinLimits seeded w'.committed.tables ↔ LeavesRoom env seeded w l := by
  rcases Step.adds hst with ⟨hsame, hnone⟩ | ⟨i, r, answer, rfl, hcommit, hadds, _⟩
  · rw [hsame]
    apply iff_of_true h
    cases l with
    | begin r => exact trivial
    | abort i => exact trivial
    | next i =>
      intro r answer board hcommit
      rw [hnone i rfl] at hcommit
      cases hcommit
  · rw [hadds.withinLimits_iff hw.kept h]
    obtain ⟨seen, hcounted, hheld, hchecked⟩ := hw.counted hcommit
    constructor
    · intro hroom r' answer' board' hcommit' seen' hcounted'
      rw [hcommit] at hcommit'
      cases hcommit'
      rw [hcounted] at hcounted'
      cases hcounted'
      rw [hheld] at hroom
      exact .inr hroom
    · intro hroom
      rw [hheld]
      rcases hroom r answer _ hcommit seen hcounted with halone | hroom
      · rw [halone]
        exact hchecked
      · exact hroom

end

/-- The limits hold at the start and in every commit what was committed to the account since the request
counted leaves room, exactly if the limits hold in every state on the way. -/
theorem leavesRoom_iff {env : Env} {seeded : List String} {db₀ : BoardTables}
    {ls : List (Label QuotaRequest)} {w : World QuotaRequest Board QuotaAnswer}
    (hseeded : ∀ id ∈ seeded, ∃ s ∈ db₀.sources, s.id = id) :
    WithinLimits seeded db₀ ∧
        Guarded (Step (QuotaRequest.logged env)) (LeavesRoom env seeded) (.start ⟨db₀, []⟩) ls w ↔
      Steps (Step (QuotaRequest.logged env)) (.start ⟨db₀, []⟩) ls w ∧
        ∀ before u, before <+: ls →
          Steps (Step (QuotaRequest.logged env)) (.start ⟨db₀, []⟩) before u →
            WithinLimits seeded u.committed.tables := by
  rw [← Guarded.along_iff (R := Step (QuotaRequest.logged env))
    (I := fun w => WithinLimits seeded w.committed.tables) (fun h h' => Eq.trans h (Eq.symm h'))]
  have hgrown : Grown seeded (.start ⟨db₀, []⟩) :=
    ⟨hseeded, fun request hrequest => nomatch hrequest⟩
  have hiff : ∀ hstart : WithinLimits seeded db₀,
      (Guarded (Step (QuotaRequest.logged env)) (LeavesRoom env seeded) (.start ⟨db₀, []⟩) ls w ↔
        _) :=
    fun hstart =>
    Guarded.iff_along (R := Step (QuotaRequest.logged env)) (C := LeavesRoom env seeded)
      (W := Grown seeded) (I := fun w => WithinLimits seeded w.committed.tables)
      (fun h hst => h.step hst) (fun h hI hst => Step.withinLimits_iff h hI hst)
      hgrown hstart
  constructor
  · rintro ⟨hstart, run⟩
    exact (hiff hstart).1 run
  · rintro ⟨run, hend⟩
    have hstart : WithinLimits seeded db₀ := run.head hend
    exact ⟨hstart, (hiff hstart).2 ⟨run, hend⟩⟩

namespace Sample

open CategoryService.Sample

def env : Env where
  py := AsyncSchedulerManager.Sample.library
  isalnum := Char.isAlphanum
  texts := plainTexts
  jsonb _ := true

def feed : SourceRow where
  id := "s0"
  tenantId := "b"
  categoryId := "c1"
  name := "Feed"
  sourceType := "rss"
  url := ""
  config := []
  refreshIntervalSeconds := none
  isActive := true
  priority := 5
  health := none

/-- A tenant that may have one category, with a seeded source. -/
def board : BoardTables where
  tenants := [{ id := "b", maxSources := 1, maxCategories := 1, settings := [] }]
  categories := []
  sources := [feed]
  items := []
  users := []
  symbols := []
  watchlist := []

/-- Both requests pass their checks before one of them commits. -/
def overlapping : List (Label QuotaRequest) :=
  [.begin (.category gadgets "b" "c3" 1),
   .begin (.category { gadgets with slug := some "gizmos" } "b" "c4" 1),
   .next 0, .next 0, .next 0, .next 1, .next 1, .next 1, .next 0, .next 0]

def crowded : World QuotaRequest Board QuotaAnswer :=
  overlapping.foldl (World.step (QuotaRequest.logged env)) (.start ⟨board, []⟩)

/-- The two overlapping requests both commit. -/
lemma overlapping_steps :
    Steps (Step (QuotaRequest.logged env)) (.start ⟨board, []⟩) overlapping crowded :=
  .cons rfl (.cons rfl (.cons rfl (.cons rfl (.cons rfl (.cons rfl (.cons rfl (.cons rfl
    (.cons rfl (.cons rfl .nil)))))))))

/-- The sample board is within its limits. -/
lemma board_withinLimits : WithinLimits ["s0"] board := by
  intro a
  cases a with
  | categories t => exact Nat.zero_le _
  | sources t => simp [held, board, feed]
  | watchlist t u => exact Nat.zero_le _

end Sample

open Sample in
/-- On a tenant with a seeded source and two overlapping requests. -/
theorem leavesRoom_iff_board :
    WithinLimits ["s0"] board ∧
        Guarded (Step (QuotaRequest.logged env)) (LeavesRoom env ["s0"]) (.start ⟨board, []⟩)
          overlapping crowded ↔
      Steps (Step (QuotaRequest.logged env)) (.start ⟨board, []⟩) overlapping crowded ∧
        ∀ before u, before <+: overlapping →
          Steps (Step (QuotaRequest.logged env)) (.start ⟨board, []⟩) before u →
            WithinLimits ["s0"] u.committed.tables :=
  leavesRoom_iff (by decide)

open Sample in
/-- The tenant ends with two categories where it may have one. -/
theorem limit_exceeded : ¬ ∀ (env : Env) (seeded : List String) (db₀ : BoardTables)
    (ls : List (Label QuotaRequest)) (w : World QuotaRequest Board QuotaAnswer),
    (∀ id ∈ seeded, ∃ s ∈ db₀.sources, s.id = id) → WithinLimits seeded db₀ →
      Steps (Step (QuotaRequest.logged env)) (.start ⟨db₀, []⟩) ls w →
        WithinLimits seeded w.committed.tables := by
  intro h
  have hlimit := h env ["s0"] board overlapping crowded (by decide) board_withinLimits
    overlapping_steps (.categories "b")
  have hheld : held ["s0"] crowded.committed.tables (.categories "b") = 2 := by
    decide +kernel
  have hmax : limit crowded.committed.tables (.categories "b") = 1 := by
    decide +kernel
  rw [hheld, hmax] at hlimit
  exact absurd hlimit (by decide)

end InstantBoard.Quotas
