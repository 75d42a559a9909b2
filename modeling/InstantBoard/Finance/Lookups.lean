import InstantBoard.Finance.Collectors
import InstantBoard.Finance.Quotes
import InstantBoard.Python.Stdlib

/-!
# Looking up a fund and searching symbols

What `get_fund_nav` and `search_symbols` compute when nothing is cached: the NAV response of a fund,
with the estimate that follows its index, and the rows that match a search, the exact matches first,
with Yahoo asked when there are none. The data that both read is in one record. The estimate type
changes a response only for a fund with an index (`fundNav_congr`).
-/

namespace InstantBoard.Finance

/-- What the look-ups use of the libraries and of the database. -/
structure FinanceLib where
  num : Numbers
  /-- `a + b` -/
  add : Json → Json → Option Json
  /-- `float(d)` of a `Decimal` -/
  decimal : ℚ → Json
  /-- `s.upper()` -/
  upper : String → String
  /-- `hashlib.md5(s.encode()).hexdigest()` -/
  md5 : String → String
  /-- `text ILIKE pattern` -/
  ilike : String → String → Bool
  /-- one symbol may come before another in `ORDER BY symbol` -/
  collates : String → String → Bool

/-- A row of `fund_nav_estimates`. -/
structure NavRow where
  tenantId : String
  symbolId : String
  navOfficial : Option ℚ
  navOfficialDate : Option String
  navEstimate : Option ℚ
  navEstimateDeviationPercent : Option ℚ
  estimateMethod : Option String
  estimateTimestamp : Int
  underlyingIndexSymbol : Option String
  underlyingIndexValue : Option ℚ
  underlyingIndexChangePercent : Option ℚ

/-- What the look-ups read: the tables, the cached quotes by tenant and symbol, and what Yahoo answers
a search with (`none` for a failure or any status but 200). -/
structure FinanceData where
  tables : FinanceTables
  navs : List NavRow
  quotes : String × String → Option Dict
  yahoo : String → Option Json

/-- `_get_cached_quote`, where an empty quote is falsy. -/
def FinanceData.cachedQuote (data : FinanceData) (tenantId symbol : String) : Option Dict :=
  (data.quotes (tenantId, symbol)).filter (· ≠ [])

inductive LookupError where
  | symbolNotFound (message : String)
  | db (e : DbError)
  /-- arithmetic on a value that is no number -/
  | typeError
deriving DecidableEq

/-! ## The NAV of a fund -/

/-- The fund with a symbol. -/
def FinanceData.findFund (data : FinanceData) (tenantId symbol : String) :
    Except DbError (Option SymbolRow) :=
  scalarOneOrNone (data.tables.symbols.filter fun r =>
    r.tenantId = tenantId ∧ r.symbol = symbol ∧ r.isActive = true)

/-- The newest estimate of a fund. -/
def FinanceData.newestNav (data : FinanceData) (tenantId fundId : String) : Option NavRow :=
  ((data.navs.filter fun r => r.tenantId = tenantId ∧ r.symbolId = fundId).mergeSort
    fun a b => b.estimateTimestamp ≤ a.estimateTimestamp).head?

/-- What a response says of the fund's value. -/
structure NavValues where
  navOfficial : Json
  navOfficialDate : Json
  navEstimate : Json
  navEstimateDeviationPercent : Json
  estimateMethod : Json
  underlyingIndex : Option Dict
deriving DecidableEq

/-- `str(v) if v else None` of a text or a date -/
def textOrNone : Option String → Json
  | some s => .str s
  | none => .null

section

variable (lib : FinanceLib) (data : FinanceData) (tenantId : String)

/-- `float(v) if v else None` -/
def floatOrNone : Option ℚ → Json
  | some v => if v ≠ 0 then lib.decimal v else .null
  | none => .null

/-- `underlying_index_info` -/
def underlyingIndexInfo (record : NavRow) : Option Dict :=
  (record.underlyingIndexSymbol.filter (· ≠ "")).map fun symbol =>
    let info : Dict :=
      [("symbol", .str symbol),
       ("name", .str symbol),
       ("current_value", floatOrNone lib record.underlyingIndexValue),
       ("change_percent", floatOrNone lib record.underlyingIndexChangePercent)]
    match data.cachedQuote tenantId symbol with
    | some quote =>
      ((info.set "name" (quote.getD "name" (.str symbol))).set "current_value"
        (quote.getD "current_price" .null)).set "change_percent" (quote.getD "change_percent" .null)
    | none => info

/-- The values of the newest record. -/
def storedValues : Option NavRow → NavValues
  | some record =>
    { navOfficial := floatOrNone lib record.navOfficial
      navOfficialDate := textOrNone record.navOfficialDate
      navEstimate := floatOrNone lib record.navEstimate
      navEstimateDeviationPercent := floatOrNone lib record.navEstimateDeviationPercent
      estimateMethod := textOrNone record.estimateMethod
      underlyingIndex := underlyingIndexInfo lib data tenantId record }
  | none => ⟨.null, .null, .null, .null, .null, none⟩

/-- The estimate that follows the index. -/
def trackIndex (values : NavValues) (info : Dict) : Option NavValues := do
  let indexChange := (info.getD "change_percent" (.int 0)).or (.int 0)
  let ratio ← lib.num.mul (← lib.num.div indexChange (.int 100)) (.float 1 "1.0")
  let navEstimate ← lib.num.mul values.navOfficial (← lib.add (.int 1) ratio)
  let difference ← lib.num.sub navEstimate values.navOfficial
  let percent ← lib.num.mul (← lib.num.div difference values.navOfficial) (.int 100)
  return { values with
    navEstimate
    navEstimateDeviationPercent := ← lib.num.round percent 4
    estimateMethod := .str "index_tracking" }

/-- The estimate of a fund is worked out from its index, if it is asked for in real time. -/
def estimated (estimateType : String) (fund : SymbolRow) (values : NavValues) :
    Except LookupError NavValues :=
  match values.underlyingIndex with
  | some info =>
    if estimateType = "realtime" ∧ fund.type.isStr "fund" = true ∧
        values.navOfficial.truthy = true then
      (trackIndex lib values info).elim (.error .typeError) .ok
    else .ok values
  | none => .ok values

/-- The response of `get_fund_nav`. -/
def navResponse (symbol : String) (fund : SymbolRow) (values : NavValues) (timestamp : Json) : Dict :=
  [("symbol", .str symbol),
   ("name", fund.name),
   ("nav_official", values.navOfficial),
   ("nav_official_date", values.navOfficialDate),
   ("nav_estimate", values.navEstimate),
   ("nav_estimate_deviation_percent", values.navEstimateDeviationPercent),
   ("estimate_method", values.estimateMethod),
   ("estimate_timestamp", timestamp),
   ("underlying_index", values.underlyingIndex.elim .null .obj)]

/-- The fund and its values. -/
def fundValues (symbol estimateType : String) : Except LookupError (SymbolRow × NavValues) := do
  match ← (data.findFund tenantId symbol).mapError .db with
  | none => throw (.symbolNotFound ("Fund symbol not found: " ++ symbol))
  | some fund =>
    let values ← estimated lib estimateType fund
      (storedValues lib data tenantId (data.newestNav tenantId fund.id))
    return (fund, values)

/-- What `get_fund_nav` computes. -/
def fundNav (symbol estimateType : String) (timestamp : Json) : Except LookupError Dict :=
  (fundValues lib data tenantId symbol estimateType).map fun found =>
    navResponse symbol found.1 found.2 timestamp

/-- The data of a `nav_estimate_update`. -/
def navUpdate (response : Dict) (timestamp : Json) : Dict :=
  ["symbol", "name", "nav_official", "nav_estimate", "nav_estimate_deviation_percent",
    "estimate_method"].map (fun key => (key, response.getD key .null)) ++ [("timestamp", timestamp)]

/-! ## Searching symbols -/

/-- `if type and type != "all"` -/
def filterOf (arg : Option String) : Option String :=
  arg.filter fun s => s ≠ "" ∧ s ≠ "all"

/-- The active symbols of a tenant with a type and a market. -/
def selectedRows (type market : Option String) : List SymbolRow :=
  data.tables.symbols.filter fun r => r.tenantId = tenantId && r.isActive &&
    (filterOf type).all (r.type.isStr ·) && (filterOf market).all (r.market.isStr ·)

/-- `ILIKE` on a column. -/
def ilikeColumn (v : Json) (pattern : String) : Bool :=
  match v with
  | .str s => lib.ilike s pattern
  | .null | .bool _ | .int _ | .float _ _ | .arr _ | .obj _ => false

/-- `exact_match`, `prefix_match` and `fuzzy_match`. -/
def matchLevels (q : String) : List (SymbolRow → Bool) :=
  [fun r => r.symbol == lib.upper q || r.name.isStr q,
   fun r => lib.ilike r.symbol (lib.upper q ++ "%") || ilikeColumn lib r.name (q ++ "%"),
   fun r => lib.ilike r.symbol ("%" ++ lib.upper q ++ "%") ||
     ilikeColumn lib r.name ("%" ++ q ++ "%")]

/-- The first of the elements with a key, for each key not seen yet. -/
def unseen {α : Type} (key : α → String) : List String → List α → List α
  | _, [] => []
  | seen, a :: rest =>
    if key a ∈ seen then unseen key seen rest else a :: unseen key (key a :: seen) rest

/-- The result of a row, with its price when a quote is cached. -/
def searchResult (row : SymbolRow) : Json :=
  let quote := (data.cachedQuote tenantId row.symbol).getD []
  .obj
    [("symbol", .str row.symbol),
     ("name", row.name),
     ("type", row.type),
     ("market", row.market),
     ("exchange", row.exchange),
     ("current_price", quote.getD "current_price" .null),
     ("change_percent", quote.getD "change_percent" .null),
     ("currency", row.currency)]

/-- The results from the table. -/
def localResults (q : String) (type market : Option String) : List Json :=
  let rows := (matchLevels lib q).flatMap fun level =>
    ((selectedRows data tenantId type market).filter level).mergeSort
      fun a b => lib.collates a.symbol b.symbol
  (unseen SymbolRow.symbol [] rows).map (searchResult data tenantId)

/-! ### Yahoo -/

/-- `_map_yfinance_type` -/
def mapYfinanceType : Json → Except PyError String
  | .str qType =>
    .ok (([("EQUITY", "stock"), ("ETF", "fund"), ("MUTUALFUND", "fund"), ("INDEX", "index"),
      ("CURRENCY", "currency"), ("CRYPTOCURRENCY", "currency"), ("FUTURE", "futures"),
      ("COMMODITY", "commodity")].lookup qType).getD "stock")
  | .arr _ => .error (.typeError "unhashable type: 'list'")
  | .obj _ => .error (.typeError "unhashable type: 'dict'")
  | .null | .bool _ | .int _ | .float _ _ => .ok "stock"

/-- The row and the result of one quote of the answer; a quote without a symbol is left out. -/
def externalQuote (newId : String) (v : Json) : Except PyError (Option (SymbolRow × Json)) := do
  let q ← v.dictGet
  let symbol := q.getD "symbol" (.str "")
  let name := ((q.getD "shortname" (.str "")).or (q.getD "longname" (.str ""))).or symbol
  let exchange := q.getD "exchange" (.str "")
  let currency := q.getD "currency" (.str "USD")
  if symbol.truthy then
    let text ← symbol.strAttr "endswith"
    let market := inferMarket text
    let type ← mapYfinanceType (q.getD "quoteType" (.str "stock"))
    let row : SymbolRow :=
      { id := newId, tenantId, symbol := text, name, type := .str type, market := .str market,
        exchange, currency, isActive := true }
    pure (some (row, .obj
      [("symbol", symbol),
       ("name", name),
       ("type", .str type),
       ("market", .str market),
       ("exchange", exchange),
       ("current_price", .null),
       ("change_percent", .null),
       ("currency", currency)]))
  else pure none

/-- The quotes of an answer. -/
def externalQuotes (newId : Nat → String) (body : Json) : Option (List (SymbolRow × Json)) := do
  let fields ← object body
  match fields.getD "quotes" (.arr []) with
  | .arr quotes =>
    let found ← quotes.zipIdx.mapM fun (v, i) => (externalQuote tenantId (newId i) v).toOption
    return found.filterMap id
  -- nothing else has a `get` on what it iterates over
  | .null | .bool _ | .int _ | .float _ _ | .str _ | .obj _ => none

/-- The commit of the new rows. -/
def insertRows (db : FinanceTables) (rows : List (SymbolRow × Json)) : Except DbError FinanceTables :=
  rows.foldlM (fun db row => db.insertSymbol row.1) db

/-- What Yahoo finds, with the tables that have the new rows. -/
def externalSearch (query : String) (newId : Nat → String) :
    Option (List (SymbolRow × Json) × FinanceTables) := do
  let results ← externalQuotes tenantId newId (← data.yahoo query)
  let tables ← (insertRows data.tables results).toOption
  return (results, tables)

/-- `_search_symbols_external`; any exception comes to no results. -/
def searchSymbolsExternal (query : String) (newId : Nat → String) :
    List (SymbolRow × Json) × FinanceTables :=
  (externalSearch data tenantId query newId).getD ([], data.tables)

/-- The results of `search_symbols` before they are paginated, and the tables it leaves. -/
def searchResults (q : String) (type market : Option String) (newId : Nat → String) :
    List Json × FinanceTables :=
  match localResults lib data tenantId q type market with
  | [] =>
    let (found, tables) := searchSymbolsExternal data tenantId q newId
    ((unseen (fun entry => entry.1.symbol) [] found).map Prod.snd, tables)
  | results => (results, data.tables)

end

/-- `_paginate_results` -/
def paginateResults (results : List Json) (page pageSize : Nat) : Dict :=
  [("data", .arr ((results.drop ((page - 1) * pageSize)).take pageSize)),
   ("meta", .obj
     [("total", .int results.length), ("page", .int page), ("page_size", .int pageSize)])]

/-! ## What an answer depends on -/

section

variable {lib : FinanceLib} {data : FinanceData} {tenantId symbol : String}

/-- The symbol is a fund with an official NAV and an index. -/
def Tracked (lib : FinanceLib) (data : FinanceData) (tenantId symbol : String) : Prop :=
  ∃ fund, data.findFund tenantId symbol = .ok (some fund) ∧ fund.type.isStr "fund" = true ∧
    (storedValues lib data tenantId (data.newestNav tenantId fund.id)).navOfficial.truthy = true ∧
    (storedValues lib data tenantId (data.newestNav tenantId fund.id)).underlyingIndex.isSome = true

/-- A JSON object without the time of an estimate. -/
def withoutTimestamp : Json → Json
  | .obj fields => .obj (fields.filter (·.1 ≠ "estimate_timestamp"))
  | v => v

/-- Two answers are the same, timestamps apart. -/
def SameAnswer (a b : Except LookupError Json) : Prop :=
  a.map withoutTimestamp = b.map withoutTimestamp

/-- An answer is the same as itself. -/
lemma SameAnswer.refl (a : Except LookupError Json) : SameAnswer a a := rfl

/-- Only a tracked fund has another value in real time. -/
lemma estimated_congr {estimateType estimateType' : String} {fund : SymbolRow} {values : NavValues}
    (h : (estimateType = "realtime" ↔ estimateType' = "realtime") ∨
      ¬ (fund.type.isStr "fund" = true ∧ values.navOfficial.truthy = true ∧
        values.underlyingIndex.isSome = true)) :
    estimated lib estimateType fund values = estimated lib estimateType' fund values := by
  unfold estimated
  cases hindex : values.underlyingIndex with
  | none => rfl
  | some info =>
    dsimp only
    rcases h with htypes | huntracked
    · simp only [htypes]
    · have hfalse : ¬ (fund.type.isStr "fund" = true ∧ values.navOfficial.truthy = true) := by
        intro h
        apply huntracked
        rw [hindex]
        exact ⟨h.1, h.2, rfl⟩
      rw [if_neg fun h => hfalse h.2, if_neg fun h => hfalse h.2]

/-- The estimate type matters for a tracked fund only. -/
lemma fundValues_congr {estimateType estimateType' : String}
    (h : (estimateType = "realtime" ↔ estimateType' = "realtime") ∨
      ¬ Tracked lib data tenantId symbol) :
    fundValues lib data tenantId symbol estimateType =
      fundValues lib data tenantId symbol estimateType' := by
  unfold fundValues
  cases hfund : data.findFund tenantId symbol with
  | error e => rfl
  | ok found =>
    cases found with
    | none => rfl
    | some fund =>
      have hsame : estimated lib estimateType fund
          (storedValues lib data tenantId (data.newestNav tenantId fund.id)) =
          estimated lib estimateType' fund
            (storedValues lib data tenantId (data.newestNav tenantId fund.id)) := by
        apply estimated_congr
        apply h.imp_right
        intro huntracked htracked
        exact huntracked ⟨fund, hfund, htracked⟩
      show (do let values ← estimated lib estimateType fund _; pure (fund, values)) =
        (do let values ← estimated lib estimateType' fund _; pure (fund, values))
      rw [hsame]

/-- The NAV of a fund is the same, timestamps apart, for two estimate types that ask the same. -/
lemma fundNav_congr {estimateType estimateType' : String} (timestamp timestamp' : Json)
    (h : (estimateType = "realtime" ↔ estimateType' = "realtime") ∨
      ¬ Tracked lib data tenantId symbol) :
    SameAnswer ((fundNav lib data tenantId symbol estimateType timestamp).map .obj)
      ((fundNav lib data tenantId symbol estimateType' timestamp').map .obj) := by
  unfold SameAnswer fundNav
  rw [fundValues_congr h]
  cases fundValues lib data tenantId symbol estimateType' with
  | error e => rfl
  | ok found => rfl

/-- A search looks no further than the table when that has matches. -/
lemma searchResults_local {q : String} {type market : Option String} {newId : Nat → String}
    (h : localResults lib data tenantId q type market ≠ []) :
    searchResults lib data tenantId q type market newId =
      (localResults lib data tenantId q type market, data.tables) := by
  unfold searchResults
  split
  · next hnil => exact absurd hnil h
  · rfl

/-- Filters that read the same find the same. -/
lemma localResults_congr {q : String} {type type' market market' : Option String}
    (htype : filterOf type = filterOf type') (hmarket : filterOf market = filterOf market') :
    localResults lib data tenantId q type market =
      localResults lib data tenantId q type' market' := by
  unfold localResults selectedRows
  rw [htype, hmarket]

/-- Inserting rows adds their number of symbols. -/
lemma insertRows_length {db db' : FinanceTables} {rows : List (SymbolRow × Json)}
    (h : insertRows db rows = .ok db') : db'.symbols.length = db.symbols.length + rows.length := by
  induction rows generalizing db with
  | nil =>
    cases h
    rfl
  | cons row rows ih =>
    obtain ⟨db'', hrow, hrows⟩ := Fallible.bind_eq_ok.1 h
    obtain ⟨-, -, rfl⟩ := FinanceTables.insertSymbol_eq_ok.1 hrow
    rw [ih hrows, List.length_append, List.length_singleton, List.length_cons]
    omega

/-- What is found at Yahoo changes the tables. -/
lemma searchSymbolsExternal_eq_nil {q : String} {newId : Nat → String}
    (h : (searchSymbolsExternal data tenantId q newId).2 = data.tables) :
    (searchSymbolsExternal data tenantId q newId).1 = [] := by
  unfold searchSymbolsExternal at h ⊢
  cases hsearch : externalSearch data tenantId q newId with
  | none => rfl
  | some found =>
    obtain ⟨body, hbody, hfound⟩ := Option.bind_eq_some_iff.1 hsearch
    obtain ⟨results, hresults, hfound⟩ := Option.bind_eq_some_iff.1 hfound
    obtain ⟨tables, htables, hfound⟩ := Option.bind_eq_some_iff.1 hfound
    cases hfound
    rw [hsearch] at h
    obtain rfl : tables = data.tables := h
    have hlength := insertRows_length (Fallible.toOption_eq_some.1 htables)
    apply List.eq_nil_of_length_eq_zero
    show results.length = 0
    omega

/-- A search that leaves the tables as they are finds no more than is in them. -/
lemma searchResults_eq {q : String} {type market : Option String} {newId : Nat → String}
    (h : (searchResults lib data tenantId q type market newId).2 = data.tables) :
    (searchResults lib data tenantId q type market newId).1 =
      localResults lib data tenantId q type market := by
  unfold searchResults at h ⊢
  split at h
  · next hnil =>
    rw [hnil]
    show List.map Prod.snd (unseen _ [] (searchSymbolsExternal data tenantId q newId).1) = []
    rw [searchSymbolsExternal_eq_nil h]
    rfl
  · rfl

end

end InstantBoard.Finance
