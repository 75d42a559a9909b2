import InstantBoard.Collectors.Http
import InstantBoard.Finance.Collectors

/-!
# The collectors of market data that need no key

`YFinanceCollector` and `EastMoneyCollector`: what they fetch, over the items they make of an answer.
A symbol that is not answered is left out, and so is everything when nothing is answered: to `collect`
that is a success without items.
-/

namespace InstantBoard

open Finance (object)

/-- `parse_data` of both: `fetch_data` makes a list of quotes. -/
def quotesOf : Json → Except String (List Dict)
  | .arr rawData => .ok (rawData.filterMap object)
  | .obj quote => .ok [quote]
  | .null | .bool _ | .int _ | .float _ _ | .str _ => .ok []

/-- The JSON of an answer with the status 200. -/
def HttpOutcome.answer? : HttpOutcome → Option Json
  | .response status _ (.ok data) => if status = 200 then some data else none
  | .response _ _ (.error _) | .timeout | .httpError | .raised _ => none

/-- `for symbol in symbols`, where a turn that fails is passed over. -/
def eachSymbol (symbols : Json) (quote : Nat → Json → Option Dict) :
    Except String (Option Json) :=
  match TechService.iterate symbols with
  | .error e => .error e.message
  | .ok symbols =>
    .ok (some (.arr ((symbols.zipIdx.filterMap fun s => quote s.2 s.1).map .obj)))

namespace YFinanceCollector

variable (num : Finance.Numbers) (now : Json)

/-- The quote in an answer of `_fetch_symbol`. -/
def quote (symbol data : Json) : Option Dict := do
  let chart ← object ((← object data).getD "chart" (.obj []))
  let first ← match chart.getD "result" (.arr []) with
    | .arr (first :: _) => some first
    | .arr [] | .null | .bool _ | .int _ | .float _ _ | .str _ | .obj _ => none
  let info ← object ((← object first).getD "meta" (.obj []))
  match symbol with
  | .str symbol => Finance.YFinance.parseMeta num symbol now info
  | .null | .bool _ | .int _ | .float _ _ | .arr _ | .obj _ => none

/-- `fetch_data` -/
def fetchData (source : Source) (up : Upstream) : Except String (Option Json) :=
  let symbols := source.config.getD "symbols" (.arr [])
  if symbols.truthy = false then .ok (some (.arr []))
  else eachSymbol symbols fun k symbol => (up k).answer?.bind (quote num now symbol)

end YFinanceCollector

namespace EastMoneyCollector

variable (num : Finance.Numbers) (now : Json)

/-- The quotes in an answer of `_fetch_market_indices`; `none` raises. -/
def indexQuotes (data : Json) : Option (List Dict) := do
  let diff := (← object ((← object data).getD "data" (.obj []))).getD "diff" (.arr [])
  if diff.truthy = false then return []
  let entries ← (TechService.iterate diff).toOption
  entries.mapM fun entry => do Finance.EastMoney.indexItem num now (← object entry)

/-- `_fetch_market_indices` -/
def fetchMarketIndices (up : Upstream) : Except String (Option Json) :=
  match up 0 with
  | .timeout | .httpError => .ok (some (.arr []))
  | .raised message => .error message
  | .response status _ json =>
    if status ≠ 200 then .ok (some (.arr []))
    else do
      match indexQuotes num now (← json) with
      | some quotes => return some (.arr (quotes.map .obj))
      | none => throw "unexpected market index data"

/-- The quote in an answer of `_fetch_single_stock`. -/
def stockQuote (symbol data : Json) : Option Dict := do
  match symbol with
  | .str symbol =>
    let data ← object ((← object data).getD "data" (.obj []))
    Finance.EastMoney.stockItem num (Finance.EastMoney.convertSymbolToSecid symbol) now data
  | .null | .bool _ | .int _ | .float _ _ | .arr _ | .obj _ => none

/-- Whether the stocks of `symbols` are fetched, rather than the indices. -/
def ofStocks (source : Source) : Bool :=
  (source.config.getD "data_type" (.str "cn_indices")).isStr "cn_stock"

/-- `fetch_data` -/
def fetchData (source : Source) (up : Upstream) : Except String (Option Json) :=
  if ofStocks source then
    eachSymbol (source.config.getD "symbols" (.arr [])) fun k symbol =>
      (up k).answer?.bind (stockQuote num now symbol)
  else fetchMarketIndices num now up

end EastMoneyCollector

section

variable (num : Finance.Numbers) (now : Json)

/-- `YFinanceCollector` -/
def yfinanceCollector : Collector where
  maxRetries := 3
  rateLimitPerMinute := 0
  fetchData := YFinanceCollector.fetchData num now
  parseData _ := quotesOf
  validateData items := .ok (items.filter Finance.valid)

/-- `EastMoneyCollector` -/
def eastMoneyCollector : Collector where
  maxRetries := 3
  rateLimitPerMinute := 10
  fetchData := EastMoneyCollector.fetchData num now
  parseData _ := quotesOf
  validateData items := .ok (items.filter Finance.valid)

end

end InstantBoard
