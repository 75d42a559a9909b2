import InstantBoard.Columns
import InstantBoard.Lib.Transition
import InstantBoard.Python.Text
import InstantBoard.Python.Value

/-!
# Quotes

`FinanceService.get_quote`: the cached quote of a symbol, or else the first one that the collectors of
the fail-over chain come up with, which is then stored, cached and pushed. A collector answers with a
list of items, fails, or raises. `_try_collector` takes the item with the symbol asked for and, when
there is none, the first item.
-/

namespace InstantBoard.Finance

open Fallible

/-! ## The fail-over chain -/

/-- `_get_failover_chain` for a stock quote. -/
def failoverChain (symbol : String) : List String :=
  if Text.endsWith symbol ".SS" || Text.endsWith symbol ".SZ" || Text.startsWith symbol "0" ||
      Text.startsWith symbol "3" then
    ["eastmoney", "yfinance"]
  else ["yfinance", "alpha_vantage", "finnhub"]

/-- What `collector.collect` comes to. -/
inductive Response where
  | raised
  | result (success : Bool) (items : List Dict)

/-- `item.get("symbol") == symbol` -/
def hasSymbol (symbol : String) (item : Dict) : Bool :=
  item.get? "symbol" = some (.str symbol)

/-- `_try_collector` -/
def tryCollector (symbol name : String) : Response → Except Unit (Option Dict)
  | .raised => .error ()
  | .result success items =>
    if success ∧ items ≠ [] then
      match items.find? (hasSymbol symbol) with
      | some item => .ok (some (item.set "source" (.str name)))
      | none => .ok items.head?
    else .ok none

/-- `_fetch_with_failover`; an empty item is falsy. -/
def fetchWithFailover (symbol : String) (responses : String → Response) : List String → Option Dict
  | [] => none
  | name :: chain =>
    match tryCollector symbol name (responses name) with
    | .ok (some item) =>
      if item ≠ [] then some item else fetchWithFailover symbol responses chain
    | .ok none | .error _ => fetchWithFailover symbol responses chain

/-! ## Storing -/

/-- A row of `finance_symbols`; the columns a quote fills hold what the quote has. -/
structure SymbolRow where
  id : String
  tenantId : String
  symbol : String
  name : Json
  type : Json
  market : Json
  exchange : Json
  currency : Json
  isActive : Bool

/-- A row of `finance_quotes`. -/
structure QuoteRow where
  id : String
  tenantId : String
  symbolId : String
  currentPrice : Json
  openPrice : Json
  highPrice : Json
  lowPrice : Json
  closePrevious : Json
  volume : Json
  changeValue : Json
  changePercent : Json
  marketCap : Json
  peRatio : Json
  weekHigh52 : Json
  weekLow52 : Json
  timestamp : Int
  sourceName : Json

structure FinanceTables where
  symbols : List SymbolRow
  quotes : List QuoteRow

/-- What the driver takes for a `NUMERIC(p, s)` and for a `BIGINT` column. -/
structure Driver where
  numeric : Nat → Nat → Json → Bool
  bigint : Json → Bool

/-- A value for a `VARCHAR(n)` column. -/
def textColumn (n : Nat) : Json → Bool
  | .null => true
  | .str s => varchar n s
  | .bool _ | .int _ | .float _ _ | .arr _ | .obj _ => false

/-- `chk_finance_symbols_type` -/
def symbolTypes : List String :=
  ["stock", "fund", "index", "commodity", "futures", "currency"]

def SymbolRow.fits (r : SymbolRow) : Bool :=
  varchar 20 r.symbol && textColumn 200 r.name && textColumn 20 r.type && textColumn 10 r.market &&
    textColumn 50 r.exchange && textColumn 3 r.currency

/-- The CHECK and the columns that are not nullable. -/
def SymbolRow.checked (r : SymbolRow) : Bool :=
  decide (r.name ≠ .null) && symbolTypes.any (r.type.isStr ·) && decide (r.market ≠ .null)

def QuoteRow.fits (driver : Driver) (q : QuoteRow) : Bool :=
  [q.currentPrice, q.openPrice, q.highPrice, q.lowPrice, q.closePrevious, q.changeValue,
      q.weekHigh52, q.weekLow52].all (driver.numeric 18 4) &&
    driver.numeric 8 4 q.changePercent && driver.numeric 8 2 q.peRatio &&
    driver.bigint q.volume && driver.bigint q.marketCap && textColumn 50 q.sourceName

namespace FinanceTables

/-- The flush of a new symbol, with `uq_finance_symbols_tenant_symbol`. -/
def insertSymbol (db : FinanceTables) (r : SymbolRow) : Except DbError FinanceTables :=
  flushRow r.fits (r.checked = true ∧ ∀ r' ∈ db.symbols,
    r'.id ≠ r.id ∧ (r'.tenantId, r'.symbol) ≠ (r.tenantId, r.symbol))
    { db with symbols := db.symbols ++ [r] }

/-- The flush of a new quote. -/
def insertQuote (driver : Driver) (db : FinanceTables) (q : QuoteRow) :
    Except DbError FinanceTables :=
  flushRow (q.fits driver) (∀ q' ∈ db.quotes, q'.id ≠ q.id) { db with quotes := db.quotes ++ [q] }

/-- The keys of the symbols. -/
structure Keyed (db : FinanceTables) : Prop where
  ids : Table.Unique (fun r : SymbolRow => r.id) db.symbols
  symbols : Table.Unique (fun r : SymbolRow => (r.tenantId, r.symbol)) db.symbols

end FinanceTables

/-- `_infer_market` -/
def inferMarket (symbol : String) : String :=
  if Text.endsWith symbol ".SS" || Text.endsWith symbol ".SZ" then "CN"
  else if Text.endsWith symbol ".HK" then "HK"
  else if Text.endsWith symbol ".T" || Text.endsWith symbol ".JP" then "JP"
  else if Text.endsWith symbol ".L" || Text.endsWith symbol ".GB" then "GB"
  else if Text.endsWith symbol ".DE" || Text.endsWith symbol ".F" then "DE"
  else "US"

/-- The `FinanceSymbol` of a quote. -/
def symbolRow (id tenantId symbol : String) (data : Dict) : SymbolRow where
  id
  tenantId
  symbol
  name := data.getD "name" (.str symbol)
  type := data.getD "type" (.str "stock")
  market := data.getD "market" (.str (inferMarket symbol))
  exchange := data.getD "exchange" (.str "")
  currency := data.getD "currency" (.str "USD")
  isActive := true

/-- `d.get(key)` -/
def value (data : Dict) (key : String) : Json :=
  data.getD key .null

/-- The `FinanceQuote` of a quote. -/
def quoteRow (id tenantId symbolId : String) (now : Int) (data : Dict) : QuoteRow where
  id
  tenantId
  symbolId
  currentPrice := value data "current_price"
  openPrice := value data "open"
  highPrice := value data "high"
  lowPrice := value data "low"
  closePrevious := (value data "close_previous").or (value data "previous_close")
  volume := value data "volume"
  changeValue := value data "change"
  changePercent := value data "change_percent"
  marketCap := value data "market_cap"
  peRatio := value data "pe_ratio"
  weekHigh52 := (value data "52_week_high").or (value data "week_high_52")
  weekLow52 := (value data "52_week_low").or (value data "week_low_52")
  timestamp := now
  sourceName := data.getD "source" (.str "unknown")

/-! ## A call -/

structure QuoteCall where
  tenantId : String
  symbol : String
  /-- what each collector answers, if it is asked -/
  responses : String → Response
  now : Int
  newSymbolId : String
  newQuoteId : String

/-- The row of the symbol, made when there is none. -/
def findSymbol (db : FinanceTables) (c : QuoteCall) (data : Dict) :
    Except DbError (SymbolRow × FinanceTables) := do
  match ← scalarOneOrNone
      (db.symbols.filter fun r => r.tenantId = c.tenantId ∧ r.symbol = c.symbol) with
  | some row => return (row, db)
  | none =>
    let row := symbolRow c.newSymbolId c.tenantId c.symbol data
    return (row, ← db.insertSymbol row)

/-- `_store_quote_to_db` -/
def storeQuoteToDb (driver : Driver) (db : FinanceTables) (c : QuoteCall) (data : Dict) :
    Except DbError FinanceTables := do
  let (row, db) ← findSymbol db c data
  db.insertQuote driver (quoteRow c.newQuoteId c.tenantId row.id c.now data)

/-- The data of a `quote_update`. -/
def quoteUpdate (symbol : String) (data : Dict) : Dict :=
  [("symbol", .str symbol),
   ("name", data.getD "name" (.str symbol)),
   ("current_price", value data "current_price"),
   ("change", value data "change"),
   ("change_percent", value data "change_percent"),
   ("volume", value data "volume"),
   ("timestamp", value data "timestamp")]

/-- The tables, the cached quotes by tenant and symbol, and the quote updates pushed. A cached quote
is what `json.loads` reads of it. -/
structure FinanceState where
  db : FinanceTables
  cache : String × String → Option Dict
  pushed : List (String × Dict)

/-- `_get_cached_quote`, where an empty quote is falsy. -/
def FinanceState.cachedQuote (s : FinanceState) (c : QuoteCall) : Option Dict :=
  (s.cache (c.tenantId, c.symbol)).filter (· ≠ [])

/-- What a new quote leaves behind. -/
def FinanceState.record (s : FinanceState) (c : QuoteCall) (data : Dict) (db : FinanceTables) :
    FinanceState where
  db
  cache := fun key => if key = (c.tenantId, c.symbol) then some data else s.cache key
  pushed := s.pushed ++ [(c.tenantId, quoteUpdate c.symbol data)]

inductive QuoteError where
  | symbolNotFound (message : String)
  | db (e : DbError)
deriving DecidableEq

/-- `get_quote` -/
def getQuote (driver : Driver) (c : QuoteCall) (s : FinanceState) :
    Except QuoteError (Dict × FinanceState) :=
  match s.cachedQuote c with
  | some data => .ok (data, s)
  | none =>
    match fetchWithFailover c.symbol c.responses (failoverChain c.symbol) with
    | none => .error (.symbolNotFound ("Quote not available for symbol: " ++ c.symbol))
    | some data =>
      ((storeQuoteToDb driver s.db c data).mapError .db).map fun db => (data, s.record c data db)

/-! ## What storing takes -/

/-- The identifiers a call makes are new. -/
structure QuoteCall.Fresh (c : QuoteCall) (db : FinanceTables) : Prop where
  symbol : Table.Free (fun r : SymbolRow => r.id) c.newSymbolId db.symbols
  quote : Table.Free (fun q : QuoteRow => q.id) c.newQuoteId db.quotes

/-- The symbol has a row. -/
def FinanceTables.Knows (db : FinanceTables) (tenantId symbol : String) : Prop :=
  ∃ r ∈ db.symbols, r.tenantId = tenantId ∧ r.symbol = symbol

/-- The tables take the quote. -/
structure Storable (driver : Driver) (db : FinanceTables) (c : QuoteCall) (data : Dict) : Prop where
  symbol : db.Knows c.tenantId c.symbol ∨
    (symbolRow c.newSymbolId c.tenantId c.symbol data).fits = true ∧
      (symbolRow c.newSymbolId c.tenantId c.symbol data).checked = true
  quote : (quoteRow c.newQuoteId c.tenantId c.newSymbolId c.now data).fits driver = true

/-- The row of the symbol, in tables that have kept their own. -/
structure Found (db : FinanceTables) (c : QuoteCall) (row : SymbolRow) (db' : FinanceTables) :
    Prop where
  mem : row ∈ db'.symbols
  tenant : row.tenantId = c.tenantId
  symbol : row.symbol = c.symbol
  kept : ∀ r ∈ db.symbols, r ∈ db'.symbols
  quotes : db'.quotes = db.quotes

section

variable {driver : Driver} {db db' : FinanceTables} {c : QuoteCall} {data : Dict} {row : SymbolRow}

/-- A symbol is inserted exactly if its row fits and is new. -/
lemma FinanceTables.insertSymbol_eq_ok : db.insertSymbol row = .ok db' ↔ row.fits = true ∧
    (row.checked = true ∧ ∀ r ∈ db.symbols,
      r.id ≠ row.id ∧ (r.tenantId, r.symbol) ≠ (row.tenantId, row.symbol)) ∧
    db' = { db with symbols := db.symbols ++ [row] } :=
  flush_eq_ok

/-- A quote is inserted exactly if its row fits and its id is new. -/
lemma FinanceTables.insertQuote_eq_ok {q : QuoteRow} : db.insertQuote driver q = .ok db' ↔
    q.fits driver = true ∧ (∀ q' ∈ db.quotes, q'.id ≠ q.id) ∧
    db' = { db with quotes := db.quotes ++ [q] } :=
  flush_eq_ok

/-- Inserting a symbol keeps the tables keyed. -/
lemma FinanceTables.Keyed.insertSymbol (keyed : db.Keyed) (h : db.insertSymbol row = .ok db') :
    db'.Keyed := by
  obtain ⟨_, ⟨_, free⟩, rfl⟩ := insertSymbol_eq_ok.1 h
  constructor
  · exact keyed.ids.append fun r hr => (free r hr).1
  · exact keyed.symbols.append fun r hr => (free r hr).2

/-- The row that the query finds, or a new one that the table takes. -/
lemma findSymbol_ok (h : findSymbol db c data = .ok (row, db')) : Found db c row db' ∧
    (db' = db ∨ row = symbolRow c.newSymbolId c.tenantId c.symbol data ∧
      db.insertSymbol row = .ok db') := by
  unfold findSymbol at h
  obtain ⟨found, hquery, h⟩ := bind_eq_ok.1 h
  cases found with
  | some row' =>
    cases h
    have hrow : row ∈ db.symbols.filter fun r => r.tenantId = c.tenantId ∧ r.symbol = c.symbol := by
      rw [scalarOneOrNone_eq_some hquery]
      exact List.mem_singleton_self _
    obtain ⟨hmem, hp⟩ := List.mem_filter.1 hrow
    obtain ⟨htenant, hsymbol⟩ := of_decide_eq_true hp
    exact ⟨⟨hmem, htenant, hsymbol, fun _ hr => hr, rfl⟩, .inl rfl⟩
  | none =>
    obtain ⟨db'', hinsert, h⟩ := bind_eq_ok.1 h
    cases h
    refine ⟨?_, .inr ⟨rfl, hinsert⟩⟩
    obtain ⟨_, _, rfl⟩ := FinanceTables.insertSymbol_eq_ok.1 hinsert
    constructor
    · exact List.mem_append_right _ (List.mem_singleton_self _)
    · rfl
    · rfl
    · exact fun _ hr => List.mem_append_left _ hr
    · rfl

/-- A known symbol is found. -/
lemma findSymbol_known (data : Dict) (keyed : db.Keyed) (h : db.Knows c.tenantId c.symbol) :
    ∃ row, findSymbol db c data = .ok (row, db) := by
  obtain ⟨r, hr, htenant, hsymbol⟩ := h
  have hkey : ∀ r ∈ db.symbols, decide (r.tenantId = c.tenantId ∧ r.symbol = c.symbol) = true →
      (r.tenantId, r.symbol) = (c.tenantId, c.symbol) := by
    intro r _ hp
    obtain ⟨htenant, hsymbol⟩ := of_decide_eq_true hp
    rw [htenant, hsymbol]
  rcases keyed.symbols.scalarOneOrNone hkey with ⟨row, _, _, hquery⟩ | ⟨hno, _⟩
  · refine ⟨row, ?_⟩
    unfold findSymbol
    rw [scalarOneOrNone_ok hquery]
    rfl
  · exact absurd ⟨htenant, hsymbol⟩ (of_decide_eq_false (hno r hr))

/-- An unknown symbol gets a row. -/
lemma findSymbol_unknown (h : ¬ db.Knows c.tenantId c.symbol) : findSymbol db c data =
    (db.insertSymbol (symbolRow c.newSymbolId c.tenantId c.symbol data)).map
      fun db' => (symbolRow c.newSymbolId c.tenantId c.symbol data, db') := by
  have hnil : db.symbols.filter (fun r => r.tenantId = c.tenantId ∧ r.symbol = c.symbol) = [] := by
    apply List.filter_eq_nil_iff.2
    intro r hr hp
    exact h ⟨r, hr, of_decide_eq_true hp⟩
  unfold findSymbol
  rw [hnil]
  rfl

/-- An unknown symbol is refused for a value that does not fit, or for the constraints. -/
lemma insertSymbol_symbolRow (fresh : c.Fresh db) (h : ¬ db.Knows c.tenantId c.symbol) :
    db.insertSymbol (symbolRow c.newSymbolId c.tenantId c.symbol data) =
      if (symbolRow c.newSymbolId c.tenantId c.symbol data).fits = false then .error .dataError
      else if (symbolRow c.newSymbolId c.tenantId c.symbol data).checked = true then
        .ok { db with symbols :=
          db.symbols ++ [symbolRow c.newSymbolId c.tenantId c.symbol data] }
      else .error .integrityError := by
  have hfree : ∀ r ∈ db.symbols, r.id ≠ c.newSymbolId ∧
      (r.tenantId, r.symbol) ≠ (c.tenantId, c.symbol) := by
    intro r hr
    refine ⟨fresh.symbol r hr, ?_⟩
    intro heq
    exact h ⟨r, hr, congrArg Prod.fst heq, congrArg Prod.snd heq⟩
  unfold FinanceTables.insertSymbol flushRow
  split
  · rfl
  · split
    · rename_i hadmitted
      rw [if_pos hadmitted.1]
    · rename_i hadmitted
      rw [if_neg fun hchecked => hadmitted ⟨hchecked, hfree⟩]

/-- A stored quote is under the row of its symbol. -/
lemma storeQuoteToDb_ok (h : storeQuoteToDb driver db c data = .ok db') :
    ∃ row, Found db c row { db' with quotes := db.quotes } ∧
      db'.quotes = db.quotes ++ [quoteRow c.newQuoteId c.tenantId row.id c.now data] := by
  unfold storeQuoteToDb at h
  obtain ⟨⟨row, db₁⟩, hfind, h⟩ := bind_eq_ok.1 h
  obtain ⟨_, _, rfl⟩ := FinanceTables.insertQuote_eq_ok.1 h
  obtain ⟨found, _⟩ := findSymbol_ok hfind
  refine ⟨row, ⟨found.mem, found.tenant, found.symbol, found.kept, rfl⟩, ?_⟩
  show db₁.quotes ++ _ = _
  rw [found.quotes]

/-- Storing a quote keeps the tables keyed. -/
lemma FinanceTables.Keyed.storeQuoteToDb (keyed : db.Keyed)
    (h : storeQuoteToDb driver db c data = .ok db') : db'.Keyed := by
  unfold Finance.storeQuoteToDb at h
  obtain ⟨⟨row, db₁⟩, hfind, h⟩ := bind_eq_ok.1 h
  have keyed₁ : db₁.Keyed := by
    obtain ⟨_, rfl | ⟨_, hinsert⟩⟩ := findSymbol_ok hfind
    · exact keyed
    · exact keyed.insertSymbol hinsert
  obtain ⟨_, _, rfl⟩ := FinanceTables.insertQuote_eq_ok.1 h
  exact ⟨keyed₁.ids, keyed₁.symbols⟩

/-- What is stored is storable. -/
lemma Storable.of_ok (h : storeQuoteToDb driver db c data = .ok db') :
    Storable driver db c data := by
  unfold storeQuoteToDb at h
  obtain ⟨⟨row, db₁⟩, hfind, h⟩ := bind_eq_ok.1 h
  obtain ⟨hquote, _⟩ := FinanceTables.insertQuote_eq_ok.1 h
  refine ⟨?_, hquote⟩
  obtain ⟨found, rfl | ⟨rfl, hinsert⟩⟩ := findSymbol_ok hfind
  · exact .inl ⟨row, found.mem, found.tenant, found.symbol⟩
  · obtain ⟨hfits, hadmitted, _⟩ := FinanceTables.insertSymbol_eq_ok.1 hinsert
    exact .inr ⟨hfits, hadmitted.1⟩

/-- What is storable is stored. -/
lemma Storable.ok (keyed : db.Keyed) (fresh : c.Fresh db) (h : Storable driver db c data) :
    ∃ db', storeQuoteToDb driver db c data = .ok db' := by
  have hfind : ∃ row db', findSymbol db c data = .ok (row, db') := by
    by_cases hknown : db.Knows c.tenantId c.symbol
    · obtain ⟨row, hfind⟩ := findSymbol_known data keyed hknown
      exact ⟨row, db, hfind⟩
    · obtain ⟨hfits, hchecked⟩ := h.symbol.resolve_left hknown
      rw [findSymbol_unknown hknown, insertSymbol_symbolRow fresh hknown, if_neg (by simp [hfits]),
        if_pos hchecked]
      exact ⟨_, _, rfl⟩
  obtain ⟨row, db₁, hfind⟩ := hfind
  obtain ⟨found, _⟩ := findSymbol_ok hfind
  have hfree : ∀ q ∈ db₁.quotes, q.id ≠ c.newQuoteId := by
    rw [found.quotes]
    exact fresh.quote
  -- the identifiers have no say in whether a quote fits
  have hfits : (quoteRow c.newQuoteId c.tenantId row.id c.now data).fits driver = true := h.quote
  exact ⟨_, bind_eq_ok.2
    ⟨(row, db₁), hfind, FinanceTables.insertQuote_eq_ok.2 ⟨hfits, hfree, rfl⟩⟩⟩

end

/-! ## Runs -/

/-- Nothing is stored, cached or pushed yet. -/
def FinanceState.init : FinanceState where
  db := { symbols := [], quotes := [] }
  cache := fun _ => none
  pushed := []

inductive QuoteLabel where
  | get (c : QuoteCall)
  | expire (tenantId symbol : String)
  /-- a symbol found by a search -/
  | addSymbol (row : SymbolRow)

/-- A call that raises leaves the state as it was: its transaction is rolled back before anything is
cached or pushed. -/
def FinanceState.next (driver : Driver) (s : FinanceState) : QuoteLabel → FinanceState
  | .get c =>
    match getQuote driver c s with
    | .ok (_, s') => s'
    | .error _ => s
  | .expire tenantId symbol =>
    { s with cache := fun key => if key = (tenantId, symbol) then none else s.cache key }
  | .addSymbol row =>
    match s.db.insertSymbol row with
    | .ok db => { s with db }
    | .error _ => s

def QuoteStep (driver : Driver) (s : FinanceState) (l : QuoteLabel) (s' : FinanceState) : Prop :=
  s' = s.next driver l

namespace Sample

/-- Numbers go into numeric columns. -/
def driver : Driver where
  numeric := fun _ _ v => match v with
    | .null | .int _ | .float _ _ => true
    | .bool _ | .str _ | .arr _ | .obj _ => false
  bigint := fun v => match v with
    | .null | .int _ => true
    | .bool _ | .float _ _ | .str _ | .arr _ | .obj _ => false

/-- A call that one collector answers with one item. -/
def call (symbol name : String) (item : Dict) (symbolId quoteId : String) : QuoteCall where
  tenantId := "t1"
  symbol
  responses := fun collector => if collector = name then .result true [item] else .raised
  now := 1000
  newSymbolId := symbolId
  newQuoteId := quoteId

end Sample

end InstantBoard.Finance
