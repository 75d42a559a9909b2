import InstantBoard.Python.Text
import InstantBoard.Python.Value

/-!
# The items of the finance collectors

The quote item each collector makes of an answer of its provider, for the symbol it was asked for. An
item that raises while it is made is left out, as is one that `validate_data` drops. Python's
arithmetic on the numbers of an answer is not spelled out (`Numbers`).
-/

namespace InstantBoard.Finance

/-- Operations on decoded numbers; `none` raises. -/
structure Numbers where
  sub : Json → Json → Option Json
  div : Json → Json → Option Json
  mul : Json → Json → Option Json
  /-- `round(v, n)` -/
  round : Json → Nat → Option Json
  /-- `float(v)` -/
  float : Json → Option Json
  /-- `int(v)` -/
  int : Json → Option Json
  /-- the ISO text of `datetime.fromtimestamp(v)` -/
  fromtimestamp : Json → Option Json

/-- An object whose `get` is called. -/
def object : Json → Option Dict
  | .obj fields => some fields
  | .null | .bool _ | .int _ | .float _ _ | .str _ | .arr _ => none

/-- An answer with something in it. -/
def nonempty (data : Dict) : Option Dict :=
  if data = [] then none else some data

/-- The symbols that yfinance and Finnhub take for commodities. -/
def commoditySymbols : List String :=
  ["GC=F", "SI=F", "CL=F", "NG=F", "HG=F", "ZS=F", "ZC=F"]

/-- `validate_data`: an item needs a symbol and a price. -/
def valid (item : Dict) : Bool :=
  (item.getD "symbol" .null).truthy && (item.getD "current_price" .null).truthy

section

variable (num : Numbers)

/-- `change` and `change_percent` of two prices. -/
def changes (current previous : Json) : Option (Json × Json) := do
  if previous.truthy then
    let change ← num.sub current previous
    return (change, ← num.mul (← num.div change previous) (.int 100))
  else return (.int 0, .int 0)

/-! ## yfinance -/

namespace YFinance

/-- `_determine_type` -/
def determineType (symbol : String) : String :=
  if Text.startsWith symbol "^" then "index"
  else if symbol ∈ commoditySymbols then "commodity"
  else if Text.endsWith symbol ".SS" || Text.endsWith symbol ".SZ" then "cn_stock"
  else "stock"

/-- `_parse_meta` -/
def parseMeta (symbol : String) (now : Json) (info : Dict) : Option Dict := do
  let current := info.getD "regularMarketPrice" (.int 0)
  let previous := (info.getD "chartPreviousClose" (.int 0)).or (info.getD "previousClose" (.int 0))
  let (change, changePercent) ← changes num current previous
  let periods ← object (info.getD "currentTradingPeriod" (.obj []))
  let regular ← object (periods.getD "regular" (.obj []))
  return [
    ("symbol", .str symbol),
    ("name", info.getD "shortName" (.str symbol)),
    ("type", .str (determineType symbol)),
    ("current_price", ← num.round current 2),
    ("previous_close", ← num.round previous 2),
    ("change", ← num.round change 2),
    ("change_percent", ← num.round changePercent 2),
    ("volume", info.getD "regularMarketVolume" (.int 0)),
    ("market_cap", info.getD "marketCap" (.int 0)),
    ("currency", info.getD "currency" (.str "USD")),
    ("exchange", info.getD "exchangeName" (.str "")),
    ("market_status", regular.getD "marketState" (.str "unknown")),
    ("timestamp", now)]

end YFinance

/-! ## Eastmoney -/

namespace EastMoney

def CN_MARKET_INDICES : List (String × String) :=
  [("1.000001", "上证指数"),
   ("0.399001", "深证成指"),
   ("1.000300", "沪深300"),
   ("1.000016", "上证50"),
   ("0.399006", "创业板指")]

/-- `_convert_symbol_to_secid` -/
def convertSymbolToSecid (symbol : String) : String :=
  if symbol ∈ CN_MARKET_INDICES.map Prod.fst then symbol
  else if Text.endsWith symbol ".SS" then "1." ++ Text.replace symbol ".SS" ""
  else if Text.endsWith symbol ".SZ" then "0." ++ Text.replace symbol ".SZ" ""
  else symbol

/-- A number that may come as a text, where `-` stands for none. -/
def number (v : Json) : Option Json :=
  match v with
  | .str s => if s ≠ "-" then num.float v else some (.int 0)
  | .null | .bool _ | .int _ | .float _ _ | .arr _ | .obj _ => some v

/-- An entry of `_fetch_market_indices`. -/
def indexItem (now : Json) (entry : Dict) : Option Dict := do
  let current ← number num (entry.getD "f2" (.int 0))
  let changePct ← number num (entry.getD "f4" (.int 0))
  return [
    ("symbol", entry.getD "f12" (.str "")),
    ("name", entry.getD "f14" (.str "")),
    ("type", .str "cn_index"),
    ("current_price", ← num.round current 2),
    ("change", ← num.round (entry.getD "f3" (.int 0)) 2),
    ("change_percent", ← num.round changePct 2),
    ("volume", entry.getD "f5" (.int 0)),
    ("turnover", entry.getD "f6" (.int 0)),
    ("region", .str "CN"),
    ("currency", .str "CNY"),
    ("timestamp", now),
    ("source", .str "东方财富")]

/-- A price in hundredths. -/
def hundredths (data : Dict) (key : String) : Option Json :=
  if (data.getD key .null).truthy then do num.div (← num.float (data.getD key (.int 0))) (.int 100)
  else some (.int 0)

/-- `_fetch_single_stock` -/
def stockItem (secid : String) (now : Json) (data : Dict) : Option Dict := do
  let data ← nonempty data
  let current ← hundredths num data "f43"
  let previous ← hundredths num data "f60"
  let change ← num.sub current previous
  let changePct ← (if previous.truthy then do num.mul (← num.div change previous) (.int 100)
    else some (.int 0))
  return [
    ("symbol", data.getD "f57" (.str secid)),
    ("name", data.getD "f58" (.str "")),
    ("type", .str "cn_stock"),
    ("current_price", ← num.round current 2),
    ("previous_close", ← num.round previous 2),
    ("change", ← num.round change 2),
    ("change_percent", ← num.round changePct 2),
    ("volume", data.getD "f47" (.int 0)),
    ("turnover", data.getD "f48" (.int 0)),
    ("market_cap", data.getD "f116" (.int 0)),
    ("currency", .str "CNY"),
    ("region", .str "CN"),
    ("timestamp", now),
    ("source", .str "东方财富")]

end EastMoney

/-! ## Alpha Vantage -/

namespace AlphaVantage

/-- `sorted(keys, reverse=True)[0]` -/
def latest : List String → Option String
  | [] => none
  | key :: keys => some (keys.foldl (fun m k => if m < k then k else m) key)

/-- `_parse_response` of an intraday series. -/
def intradayItem (symbol : String) (data : Dict) : Option Dict := do
  let timeSeriesKey ← (data.map Prod.fst).find? fun key => Text.contains key "Time Series"
  let series ← object (data.getD timeSeriesKey .null)
  let latestTime ← latest (series.map Prod.fst)
  let last ← object (series.getD latestTime .null)
  let header ← object (data.getD "Meta Data" (.obj []))
  return [
    ("symbol", .str symbol),
    ("name", header.getD "2. Symbol" (.str symbol)),
    ("type", .str "stock"),
    ("current_price", ← num.float (last.getD "4. close" (.int 0))),
    ("open", ← num.float (last.getD "1. open" (.int 0))),
    ("high", ← num.float (last.getD "2. high" (.int 0))),
    ("low", ← num.float (last.getD "3. low" (.int 0))),
    ("volume", ← num.int (last.getD "5. volume" (.int 0))),
    ("timestamp", .str latestTime),
    ("source", .str "Alpha Vantage")]

/-- `v.replace("%", "")` -/
def withoutSign : Json → Option String
  | .str s => some (Text.replace s "%" "")
  | .null | .bool _ | .int _ | .float _ _ | .arr _ | .obj _ => none

/-- `_parse_response` of a global quote. -/
def globalQuoteItem (symbol : String) (data : Dict) : Option Dict := do
  let quote ← nonempty (← object (data.getD "Global Quote" (.obj [])))
  let percent ← withoutSign (quote.getD "10. change percent" (.str "0%"))
  return [
    ("symbol", .str symbol),
    ("name", .str symbol),
    ("type", .str "stock"),
    ("current_price", ← num.float (quote.getD "05. price" (.int 0))),
    ("previous_close", ← num.float (quote.getD "08. previous close" (.int 0))),
    ("change", ← num.float (quote.getD "09. change" (.int 0))),
    ("change_percent", ← num.float (.str percent)),
    ("volume", ← num.int (quote.getD "06. volume" (.int 0))),
    ("timestamp", quote.getD "07. latest trading day" (.str "")),
    ("source", .str "Alpha Vantage")]

end AlphaVantage

/-! ## Finnhub -/

namespace Finnhub

/-- The name and the region of each index. -/
def MARKET_INDICES : List (String × String × String) :=
  [("^GSPC", "S&P 500", "US"),
   ("^DJI", "Dow Jones Industrial Average", "US"),
   ("^IXIC", "NASDAQ Composite", "US")]

/-- The name and the unit of each commodity. -/
def COMMODITY_SYMBOLS : List (String × String × String) :=
  [("GOLD", "Gold", "USD/oz"),
   ("SILVER", "Silver", "USD/oz"),
   ("CL=F", "Crude Oil WTI", "USD/bbl")]

/-- `_determine_type` -/
def determineType (symbol : String) : String :=
  if Text.startsWith symbol "^" then "index"
  else if symbol ∈ commoditySymbols ∨ symbol ∈ COMMODITY_SYMBOLS.map Prod.fst then "commodity"
  else if Text.endsWith symbol ".SS" || Text.endsWith symbol ".SZ" then "cn_stock"
  else "stock"

/-- `round(float(v), 2)` -/
def rounded (v : Json) : Option Json := do
  num.round (← num.float v) 2

/-- `_normalize_quote`, with the name that `_fetch_company_name` came up with. -/
def normalizeQuote (symbol : String) (now name : Json) (data : Dict) : Option Dict := do
  let current := data.getD "c" (.int 0)
  let previous := data.getD "pc" (.int 0)
  let change ← (if !(data.getD "d" (.int 0)).truthy && previous.truthy then do
      num.round (← num.sub current previous) 4
    else some (data.getD "d" (.int 0)))
  let changePercent ← (if !(data.getD "dp" (.int 0)).truthy && previous.truthy then do
      num.round (← num.mul (← num.div change previous) (.int 100)) 2
    else some (data.getD "dp" (.int 0)))
  let timestamp ← (if (data.getD "t" (.int 0)).truthy then
      num.fromtimestamp (data.getD "t" (.int 0))
    else some now)
  return [
    ("symbol", .str symbol),
    ("name", name.or (.str symbol)),
    ("type", .str (determineType symbol)),
    ("current_price", ← rounded num current),
    ("previous_close", ← rounded num previous),
    ("change", ← rounded num change),
    ("change_percent", ← rounded num changePercent),
    ("open", ← rounded num (data.getD "o" (.int 0))),
    ("high", ← rounded num (data.getD "h" (.int 0))),
    ("low", ← rounded num (data.getD "l" (.int 0))),
    ("volume", .int 0),
    ("currency", .str "USD"),
    ("exchange", .str ""),
    ("market_status", .str "unknown"),
    ("timestamp", timestamp),
    ("source", .str "Finnhub")]

/-- `data.get("c", 0) == 0` -/
def isZero : Json → Bool
  | .int i => i = 0
  | .float v _ => v = 0
  | .bool b => !b
  | .null | .str _ | .arr _ | .obj _ => false

/-- `_fetch_single_quote` -/
def quoteItem (symbol : String) (now name : Json) (data : Dict) : Option Dict :=
  if data = [] || isZero (data.getD "c" (.int 0)) then none
  else normalizeQuote num symbol now name data

/-- An entry of `_fetch_market_indices`. -/
def indexItem (symbol : String) (now name : Json) (data : Dict) : Option Dict := do
  let (title, region) ← MARKET_INDICES.lookup symbol
  let quote ← quoteItem num symbol now name data
  return ((quote.set "name" (.str title)).set "region" (.str region)).set "type" (.str "index")

/-- An entry of `_fetch_commodities`. -/
def commodityItem (symbol : String) (now name : Json) (data : Dict) : Option Dict := do
  let quote ← quoteItem num symbol now name data
  let (title, unit) := (COMMODITY_SYMBOLS.lookup symbol).getD (symbol, "")
  return ((quote.set "name" (.str title)).set "type" (.str "commodity")).set "unit" (.str unit)

end Finnhub

/-! ## IEX Cloud -/

namespace IEXCloud

/-- `_determine_type` -/
def determineType (symbol : String) : String :=
  if Text.startsWith symbol "^" then "index" else "stock"

/-- `data.get(key)` -/
def get (data : Dict) (key : String) : Json :=
  data.getD key .null

/-- `data.get(key) or 0` -/
def orZero (data : Dict) (key : String) : Json :=
  (get data key).or (.int 0)

/-- `_fetch_single_quote` and `_normalize_quote` -/
def quoteItem (symbol : String) (now : Json) (data : Dict) : Option Dict := do
  let data ← nonempty data
  let current := (get data "latestPrice").or (orZero data "close")
  let previous := orZero data "previousClose"
  let given := orZero data "change"
  let change ← (if !given.truthy && previous.truthy && current.truthy then do
      num.round (← num.sub current previous) 4
    else some given)
  let percent := orZero data "changePercent"
  let changePercent ← (if percent.truthy then num.mul percent (.int 100)
    else if previous.truthy && change.truthy then do
      num.round (← num.mul (← num.div change previous) (.int 100)) 2
    else some percent)
  let millis := (get data "latestUpdate").or (orZero data "lastTradeTime")
  let timestamp ← (if millis.truthy then do num.fromtimestamp (← num.div millis (.int 1000))
    else some now)
  let marketStatus : Json :=
    if get data "isUSMarketOpen" = .null then .str "unknown"
    else if (get data "isUSMarketOpen").truthy then .str "open" else .str "closed"
  return [
    ("symbol", (get data "symbol").or (.str symbol)),
    ("name", (get data "companyName").or (.str symbol)),
    ("type", .str (determineType symbol)),
    ("current_price", ← Finnhub.rounded num current),
    ("previous_close", ← Finnhub.rounded num previous),
    ("change", ← Finnhub.rounded num change),
    ("change_percent", ← Finnhub.rounded num changePercent),
    ("open", ← Finnhub.rounded num (orZero data "open")),
    ("high", ← Finnhub.rounded num (orZero data "high")),
    ("low", ← Finnhub.rounded num (orZero data "low")),
    ("volume", ← num.int ((get data "latestVolume").or (orZero data "volume"))),
    ("currency", .str "USD"),
    ("exchange", (get data "primaryExchange").or (.str "")),
    ("market_status", marketStatus),
    ("timestamp", timestamp),
    ("source", .str "IEX Cloud")]

end IEXCloud

/-! ## What is emitted -/

/-- A registered finance collector with the answer it makes an item of. -/
inductive Emission where
  | yfinance (info : Dict)
  | eastmoneyIndex (entry : Dict)
  | eastmoneyStock (data : Dict)
  | alphaVantageIntraday (data : Dict)
  | alphaVantageGlobalQuote (data : Dict)
  | finnhub (name : Json) (data : Dict)
  | finnhubIndex (name : Json) (data : Dict)
  | finnhubCommodity (name : Json) (data : Dict)
  | iexCloud (data : Dict)

/-- The item made for the symbol. -/
def Emission.make (symbol : String) (now : Json) : Emission → Option Dict
  | .yfinance info => YFinance.parseMeta num symbol now info
  | .eastmoneyIndex entry => EastMoney.indexItem num now entry
  | .eastmoneyStock data =>
    EastMoney.stockItem num (EastMoney.convertSymbolToSecid symbol) now data
  | .alphaVantageIntraday data => AlphaVantage.intradayItem num symbol data
  | .alphaVantageGlobalQuote data => AlphaVantage.globalQuoteItem num symbol data
  | .finnhub name data => Finnhub.quoteItem num symbol now name data
  | .finnhubIndex name data => Finnhub.indexItem num symbol now name data
  | .finnhubCommodity name data => Finnhub.commodityItem num symbol now name data
  | .iexCloud data => IEXCloud.quoteItem num symbol now data

/-- The item emitted for the symbol. -/
def Emission.item (symbol : String) (now : Json) (e : Emission) : Option Dict :=
  (e.make num symbol now).filter fun item => valid item

end

end InstantBoard.Finance
