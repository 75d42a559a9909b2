import InstantBoard.Finance.Collectors
import InstantBoard.Finance.Quotes

/-!
# A quote and the schema of its symbol

The row that a quote of a new symbol makes, for every item of a finance collector. The types that
Eastmoney has, and those that yfinance and Finnhub have for A-shares, are not among the types of the
table, and the texts of a provider go into the columns as they come. The table accepts the row exactly
when the symbol fits and the item is safe (`storesSafely_iff`).
-/

namespace InstantBoard.Finance

open Fallible

/-! ## What the table accepts -/

/-- The row of the symbol satisfies the constraints of its table. -/
def Accepted (symbol : String) (item : Dict) : Prop :=
  ∀ id tenantId, (symbolRow id tenantId symbol item).fits = true ∧
    (symbolRow id tenantId symbol item).checked = true

/-- The collectors come up with the item. -/
def QuoteCall.Fetches (c : QuoteCall) (item : Dict) : Prop :=
  fetchWithFailover c.symbol c.responses (failoverChain c.symbol) = some item ∨
    ∃ name, fetchWithFailover c.symbol c.responses (failoverChain c.symbol) =
      some (item.set "source" (.str name))

/-- The row is accepted, and no call that fetches the item for a new symbol fails for a
constraint. -/
structure StoresSafely (symbol : String) (item : Dict) : Prop where
  accepted : Accepted symbol item
  stored : ∀ (driver : Driver) (c : QuoteCall) (s : FinanceState), c.symbol = symbol →
    c.Fresh s.db → ¬ s.db.Knows c.tenantId c.symbol → s.cachedQuote c = none → c.Fetches item →
    getQuote driver c s ≠ .error (.db .integrityError)

/-! ## The condition -/

/-- A text for the name of a symbol. -/
def Named (v : Json) : Prop :=
  v ≠ .null ∧ textColumn 200 v = true

/-- The symbol does not look like an A-share, or it looks like an index first. -/
def NotCnStock (symbol : String) : Prop :=
  Text.startsWith symbol "^" = true ∨
    (Text.endsWith symbol ".SS" || Text.endsWith symbol ".SZ") = false

/-- What a collector takes from its provider fits the columns, and its type is one of the table's. -/
def Emission.Safe (symbol : String) : Emission → Prop
  | .yfinance info => NotCnStock symbol ∧ Named (info.getD "shortName" (.str symbol)) ∧
    textColumn 50 (info.getD "exchangeName" (.str "")) = true ∧
    textColumn 3 (info.getD "currency" (.str "USD")) = true
  | .eastmoneyIndex _ | .eastmoneyStock _ => False
  | .alphaVantageIntraday data =>
    Named (((object (data.getD "Meta Data" (.obj []))).getD []).getD "2. Symbol" (.str symbol))
  | .alphaVantageGlobalQuote _ => True
  | .finnhub name _ => NotCnStock symbol ∧ Named (name.or (.str symbol))
  | .finnhubIndex _ _ | .finnhubCommodity _ _ => True
  | .iexCloud data => Named ((IEXCloud.get data "companyName").or (.str symbol)) ∧
    textColumn 50 ((IEXCloud.get data "primaryExchange").or (.str "")) = true

/-! ## The rows of the collectors -/

/-- A row with the market of its symbol. -/
def marketRow (id tenantId symbol : String) (name : Json) (type : String)
    (exchange currency : Json) : SymbolRow where
  id
  tenantId
  symbol
  name
  type := .str type
  market := .str (inferMarket symbol)
  exchange
  currency
  isActive := true

/-- The row that the item of an emission makes. -/
def Emission.row (id tenantId symbol : String) : Emission → SymbolRow
  | .yfinance info => marketRow id tenantId symbol (info.getD "shortName" (.str symbol))
    (YFinance.determineType symbol) (info.getD "exchangeName" (.str ""))
    (info.getD "currency" (.str "USD"))
  | .eastmoneyIndex entry => marketRow id tenantId symbol (entry.getD "f14" (.str "")) "cn_index"
    (.str "") (.str "CNY")
  | .eastmoneyStock data => marketRow id tenantId symbol (data.getD "f58" (.str "")) "cn_stock"
    (.str "") (.str "CNY")
  | .alphaVantageIntraday data => marketRow id tenantId symbol
    (((object (data.getD "Meta Data" (.obj []))).getD []).getD "2. Symbol" (.str symbol)) "stock"
    (.str "") (.str "USD")
  | .alphaVantageGlobalQuote _ => marketRow id tenantId symbol (.str symbol) "stock" (.str "")
    (.str "USD")
  | .finnhub name _ => marketRow id tenantId symbol (name.or (.str symbol))
    (Finnhub.determineType symbol) (.str "") (.str "USD")
  | .finnhubIndex _ _ => marketRow id tenantId symbol
    (.str (((Finnhub.MARKET_INDICES.lookup symbol).map Prod.fst).getD "")) "index" (.str "")
    (.str "USD")
  | .finnhubCommodity _ _ => marketRow id tenantId symbol
    (.str (((Finnhub.COMMODITY_SYMBOLS.lookup symbol).getD (symbol, "")).1)) "commodity" (.str "")
    (.str "USD")
  | .iexCloud data => marketRow id tenantId symbol
    ((IEXCloud.get data "companyName").or (.str symbol)) (IEXCloud.determineType symbol)
    ((IEXCloud.get data "primaryExchange").or (.str "")) (.str "USD")

section

variable {num : Numbers} {symbol : String} {now : Json} {item : Dict} (id tenantId : String)

omit id tenantId in
/-- A dict that is not empty is returned as it is. -/
lemma eq_of_nonempty {data data' : Dict} (h : nonempty data = some data') : data = data' := by
  unfold nonempty at h
  split at h
  · cases h
  · exact Option.some.inj h

/-- The row of what YFinance reads. -/
lemma YFinance.symbolRow_eq {info : Dict} (h : YFinance.parseMeta num symbol now info = some item) :
    symbolRow id tenantId symbol item = (Emission.yfinance info).row id tenantId symbol := by
  simp only [YFinance.parseMeta, Option.bind_eq_bind, Option.bind_eq_some_iff, Option.pure_def,
    Option.some.injEq] at h
  obtain ⟨_, _, _, _, _, _, _, _, _, _, _, _, _, _, rfl⟩ := h
  rfl

/-- The row of an index of EastMoney. -/
lemma EastMoney.index_symbolRow {entry : Dict}
    (h : EastMoney.indexItem num now entry = some item) :
    symbolRow id tenantId symbol item = (Emission.eastmoneyIndex entry).row id tenantId symbol := by
  simp only [EastMoney.indexItem, Option.bind_eq_bind, Option.bind_eq_some_iff, Option.pure_def,
    Option.some.injEq] at h
  obtain ⟨_, _, _, _, _, _, _, _, _, _, rfl⟩ := h
  rfl

/-- The row of a stock of EastMoney. -/
lemma EastMoney.stock_symbolRow {secid : String} {data : Dict}
    (h : EastMoney.stockItem num secid now data = some item) :
    symbolRow id tenantId symbol item = (Emission.eastmoneyStock data).row id tenantId symbol := by
  simp only [EastMoney.stockItem, Option.bind_eq_bind, Option.bind_eq_some_iff, Option.pure_def,
    Option.some.injEq] at h
  obtain ⟨_, hdata, _, _, _, _, _, _, _, _, _, _, _, _, _, _, _, _, rfl⟩ := h
  obtain rfl := eq_of_nonempty hdata
  rfl

/-- The row of an intraday answer of Alpha Vantage. -/
lemma AlphaVantage.intraday_symbolRow {data : Dict}
    (h : AlphaVantage.intradayItem num symbol data = some item) :
    symbolRow id tenantId symbol item =
      (Emission.alphaVantageIntraday data).row id tenantId symbol := by
  simp only [AlphaVantage.intradayItem, Option.bind_eq_bind, Option.bind_eq_some_iff,
    Option.pure_def, Option.some.injEq] at h
  obtain ⟨_, _, _, _, _, _, _, _, header, hheader, _, _, _, _, _, _, _, _, _, _, rfl⟩ := h
  simp only [Emission.row, hheader]
  rfl

/-- The row of a global quote of Alpha Vantage. -/
lemma AlphaVantage.globalQuote_symbolRow {data : Dict}
    (h : AlphaVantage.globalQuoteItem num symbol data = some item) :
    symbolRow id tenantId symbol item =
      (Emission.alphaVantageGlobalQuote data).row id tenantId symbol := by
  simp only [AlphaVantage.globalQuoteItem, Option.bind_eq_bind, Option.bind_eq_some_iff,
    Option.pure_def, Option.some.injEq] at h
  obtain ⟨_, _, _, _, _, _, _, _, _, _, _, _, _, _, _, _, rfl⟩ := h
  rfl

/-- The row of a normalised quote of Finnhub. -/
lemma Finnhub.normalizeQuote_symbolRow {name : Json} {data : Dict}
    (h : Finnhub.normalizeQuote num symbol now name data = some item) :
    symbolRow id tenantId symbol item = (Emission.finnhub name data).row id tenantId symbol := by
  simp only [Finnhub.normalizeQuote, Option.bind_eq_bind, Option.bind_eq_some_iff,
    Option.pure_def, Option.some.injEq] at h
  obtain ⟨_, _, _, _, _, _, _, _, _, _, _, _, _, _, _, _, _, _, _, _, rfl⟩ := h
  rfl

/-- The row of a quote of Finnhub. -/
lemma Finnhub.symbolRow_eq {name : Json} {data : Dict}
    (h : Finnhub.quoteItem num symbol now name data = some item) :
    symbolRow id tenantId symbol item = (Emission.finnhub name data).row id tenantId symbol := by
  unfold Finnhub.quoteItem at h
  split at h
  · cases h
  · exact normalizeQuote_symbolRow id tenantId h

/-- The row of a quote of IEX Cloud. -/
lemma IEXCloud.symbolRow_eq {data : Dict} (h : IEXCloud.quoteItem num symbol now data = some item) :
    symbolRow id tenantId symbol item = (Emission.iexCloud data).row id tenantId symbol := by
  obtain ⟨_, hdata, h⟩ := Option.bind_eq_some_iff.1 h
  obtain ⟨_, _, h⟩ := Option.bind_eq_some_iff.1 h
  obtain ⟨_, _, h⟩ := Option.bind_eq_some_iff.1 h
  obtain ⟨_, _, h⟩ := Option.bind_eq_some_iff.1 h
  simp only [Option.bind_eq_bind, Option.bind_eq_some_iff, Option.pure_def, Option.some.injEq] at h
  obtain ⟨_, _, _, _, _, _, _, _, _, _, _, _, _, _, _, _, rfl⟩ := h
  obtain rfl := eq_of_nonempty hdata
  rfl

/-- The row shows the name, the type, the market, the exchange and the currency of an item. -/
lemma symbolRow_set {key : String} {value : Json}
    (hkey : key ∉ ["name", "type", "market", "exchange", "currency"]) :
    symbolRow id tenantId symbol (item.set key value) = symbolRow id tenantId symbol item := by
  have hget : ∀ k ∈ ["name", "type", "market", "exchange", "currency"], ∀ default,
      (item.set key value).getD k default = item.getD k default := by
    intro k hk default
    rw [Dict.getD_set, if_neg]
    rintro rfl
    exact hkey hk
  unfold symbolRow
  rw [hget "name" (by decide), hget "type" (by decide), hget "market" (by decide),
    hget "exchange" (by decide), hget "currency" (by decide)]

/-- Setting an item's name changes its row's name alone. -/
lemma symbolRow_set_name {value : Json} : symbolRow id tenantId symbol (item.set "name" value) =
    { symbolRow id tenantId symbol item with name := value } := by
  simp [symbolRow, Dict.getD_set]

/-- Setting an item's type changes its row's type alone. -/
lemma symbolRow_set_type {value : Json} : symbolRow id tenantId symbol (item.set "type" value) =
    { symbolRow id tenantId symbol item with type := value } := by
  simp [symbolRow, Dict.getD_set]

/-- An item makes the row of its emission. -/
lemma Emission.symbolRow_eq {e : Emission} (h : e.make num symbol now = some item) :
    symbolRow id tenantId symbol item = e.row id tenantId symbol := by
  cases e with
  | yfinance info => exact YFinance.symbolRow_eq id tenantId h
  | eastmoneyIndex entry => exact EastMoney.index_symbolRow id tenantId h
  | eastmoneyStock data => exact EastMoney.stock_symbolRow id tenantId h
  | alphaVantageIntraday data => exact AlphaVantage.intraday_symbolRow id tenantId h
  | alphaVantageGlobalQuote data => exact AlphaVantage.globalQuote_symbolRow id tenantId h
  | finnhub name data => exact Finnhub.symbolRow_eq id tenantId h
  | finnhubIndex name data =>
    obtain ⟨⟨title, region⟩, htitle, h⟩ := Option.bind_eq_some_iff.1 h
    obtain ⟨quote, hquote, h⟩ := Option.bind_eq_some_iff.1 h
    cases h
    rw [symbolRow_set_type, symbolRow_set _ _ (by decide), symbolRow_set_name,
      Finnhub.symbolRow_eq id tenantId hquote]
    simp only [Emission.row, htitle]
    rfl
  | finnhubCommodity name data =>
    obtain ⟨quote, hquote, h⟩ := Option.bind_eq_some_iff.1 h
    cases h
    rw [symbolRow_set _ _ (by decide), symbolRow_set_type, symbolRow_set_name,
      Finnhub.symbolRow_eq id tenantId hquote]
    rfl
  | iexCloud data => exact IEXCloud.symbolRow_eq id tenantId h

end

/-! ## What the condition says -/

/-- A text is a name that fits if it has at most 200 characters. -/
lemma named_str {s : String} : Named (.str s) ↔ varchar 200 s = true :=
  ⟨fun h => h.2, fun h => ⟨(fun h' => by cases h'), h⟩⟩

/-- The markets inferred fit their column. -/
lemma inferMarket_fits (symbol : String) : varchar 10 (inferMarket symbol) = true := by
  unfold inferMarket
  repeat' split
  all_goals decide +kernel

/-- The types of symbols fit their column. -/
lemma symbolTypes_fit : ∀ type ∈ symbolTypes, varchar 20 type = true := by
  decide +kernel

/-- When the table accepts a row. -/
lemma marketRow_accepted_iff {id tenantId symbol type : String} {name exchange currency : Json} :
    ((marketRow id tenantId symbol name type exchange currency).fits = true ∧
        (marketRow id tenantId symbol name type exchange currency).checked = true) ↔
      varchar 20 symbol = true ∧ Named name ∧ type ∈ symbolTypes ∧
        textColumn 50 exchange = true ∧ textColumn 3 currency = true := by
  have hmarket := inferMarket_fits symbol
  have htype : (marketRow id tenantId symbol name type exchange currency).checked = true ↔
      name ≠ .null ∧ type ∈ symbolTypes := by
    unfold SymbolRow.checked
    rw [Bool.and_eq_true, Bool.and_eq_true, decide_eq_true_iff, decide_eq_true_iff,
      List.any_eq_true]
    simp [marketRow]
  have hfits : (marketRow id tenantId symbol name type exchange currency).fits = true ↔
      varchar 20 symbol = true ∧ textColumn 200 name = true ∧ varchar 20 type = true ∧
        textColumn 50 exchange = true ∧ textColumn 3 currency = true := by
    simp [SymbolRow.fits, marketRow, textColumn, hmarket, and_assoc]
  rw [htype, hfits]
  constructor
  · rintro ⟨⟨hsymbol, hname, _, hexchange, hcurrency⟩, hnull, hmem⟩
    exact ⟨hsymbol, ⟨hnull, hname⟩, hmem, hexchange, hcurrency⟩
  · rintro ⟨hsymbol, ⟨hnull, hname⟩, hmem, hexchange, hcurrency⟩
    exact ⟨⟨hsymbol, hname, symbolTypes_fit type hmem, hexchange, hcurrency⟩, hnull, hmem⟩

/-- No commodity's symbol ends like an A share's. -/
lemma not_aShare_of_commodity {symbol : String} (h : symbol ∈ commoditySymbols ∨
    symbol ∈ Finnhub.COMMODITY_SYMBOLS.map Prod.fst) :
    (Text.endsWith symbol ".SS" || Text.endsWith symbol ".SZ") = false := by
  have hall : ∀ s ∈ commoditySymbols ++ Finnhub.COMMODITY_SYMBOLS.map Prod.fst,
      (Text.endsWith s ".SS" || Text.endsWith s ".SZ") = false := by
    decide +kernel
  exact hall symbol (List.mem_append.2 h)

/-- The type that yfinance and Finnhub have for a symbol, given what they take for a commodity. -/
lemma type_mem {symbol : String} {commodity : Prop} [Decidable commodity]
    (hcommodity : commodity →
      (Text.endsWith symbol ".SS" || Text.endsWith symbol ".SZ") = false) :
    (if Text.startsWith symbol "^" then "index"
      else if commodity then "commodity"
      else if Text.endsWith symbol ".SS" || Text.endsWith symbol ".SZ" then "cn_stock"
      else "stock") ∈ symbolTypes ↔ NotCnStock symbol := by
  unfold NotCnStock
  split
  · rename_i hindex
    exact iff_of_true (by decide) (.inl hindex)
  · rename_i hindex
    split
    · rename_i h
      exact iff_of_true (by decide) (.inr (hcommodity h))
    · split
      · rename_i hshare
        refine iff_of_false (by decide) ?_
        rintro (h | h)
        · exact hindex h
        · rw [hshare] at h
          cases h
      · rename_i hshare
        exact iff_of_true (by decide) (.inr (Bool.eq_false_iff.2 hshare))

/-- YFinance's type is allowed unless the symbol is a Chinese stock's. -/
lemma YFinance.determineType_mem {symbol : String} :
    YFinance.determineType symbol ∈ symbolTypes ↔ NotCnStock symbol :=
  type_mem fun h => not_aShare_of_commodity (.inl h)

/-- Finnhub's type is allowed unless the symbol is a Chinese stock's. -/
lemma Finnhub.determineType_mem {symbol : String} :
    Finnhub.determineType symbol ∈ symbolTypes ↔ NotCnStock symbol :=
  type_mem not_aShare_of_commodity

/-- IEX Cloud's type is always allowed. -/
lemma IEXCloud.determineType_mem (symbol : String) :
    IEXCloud.determineType symbol ∈ symbolTypes := by
  unfold IEXCloud.determineType
  split
  · decide
  · decide

/-- What a lookup finds is in the table. -/
lemma mem_of_lookup {β : Type} {table : List (String × β)} {key : String} {value : β}
    (h : table.lookup key = some value) : (key, value) ∈ table := by
  obtain ⟨before, after, heq, _⟩ := List.lookup_eq_some_iff.1 h
  rw [heq]
  exact List.mem_append_right _ List.mem_cons_self

/-- The names of Finnhub's indices fit. -/
lemma Finnhub.index_named (symbol : String) :
    Named (.str (((Finnhub.MARKET_INDICES.lookup symbol).map Prod.fst).getD "")) := by
  have hall : ∀ entry ∈ Finnhub.MARKET_INDICES, varchar 200 entry.2.1 = true := by
    decide +kernel
  apply named_str.2
  cases hlookup : Finnhub.MARKET_INDICES.lookup symbol with
  | none => decide +kernel
  | some entry => exact hall (symbol, entry) (mem_of_lookup hlookup)

/-- The names of Finnhub's commodities fit. -/
lemma Finnhub.commodity_named {symbol : String} (h : varchar 20 symbol = true) :
    Named (.str ((Finnhub.COMMODITY_SYMBOLS.lookup symbol).getD (symbol, "")).1) := by
  have hall : ∀ entry ∈ Finnhub.COMMODITY_SYMBOLS, varchar 200 entry.2.1 = true := by
    decide +kernel
  apply named_str.2
  cases hlookup : Finnhub.COMMODITY_SYMBOLS.lookup symbol with
  | none => exact varchar_mono (by decide) h
  | some entry => exact hall (symbol, entry) (mem_of_lookup hlookup)

/-- When the table accepts the row of an emission. -/
lemma Emission.row_accepted_iff {id tenantId symbol : String} (e : Emission) :
    ((e.row id tenantId symbol).fits = true ∧ (e.row id tenantId symbol).checked = true) ↔
      varchar 20 symbol = true ∧ e.Safe symbol := by
  have hempty : textColumn 50 (.str "") = true := by decide +kernel
  have husd : textColumn 3 (.str "USD") = true := by decide +kernel
  have hstock : "stock" ∈ symbolTypes := by decide
  cases e with
  | yfinance info =>
    unfold Emission.row Emission.Safe
    rw [marketRow_accepted_iff, YFinance.determineType_mem]
    tauto
  | eastmoneyIndex entry =>
    unfold Emission.row Emission.Safe
    rw [marketRow_accepted_iff]
    exact iff_of_false (fun h => absurd h.2.2.1 (by decide)) (fun h => h.2)
  | eastmoneyStock data =>
    unfold Emission.row Emission.Safe
    rw [marketRow_accepted_iff]
    exact iff_of_false (fun h => absurd h.2.2.1 (by decide)) (fun h => h.2)
  | alphaVantageIntraday data =>
    unfold Emission.row Emission.Safe
    rw [marketRow_accepted_iff]
    tauto
  | alphaVantageGlobalQuote data =>
    unfold Emission.row Emission.Safe
    rw [marketRow_accepted_iff, named_str]
    constructor
    · exact fun h => ⟨h.1, trivial⟩
    · exact fun h => ⟨h.1, varchar_mono (by decide) h.1, hstock, hempty, husd⟩
  | finnhub name data =>
    unfold Emission.row Emission.Safe
    rw [marketRow_accepted_iff, Finnhub.determineType_mem]
    tauto
  | finnhubIndex name data =>
    unfold Emission.row Emission.Safe
    rw [marketRow_accepted_iff]
    constructor
    · exact fun h => ⟨h.1, trivial⟩
    · exact fun h => ⟨h.1, Finnhub.index_named symbol, by decide, hempty, husd⟩
  | finnhubCommodity name data =>
    unfold Emission.row Emission.Safe
    rw [marketRow_accepted_iff]
    constructor
    · exact fun h => ⟨h.1, trivial⟩
    · exact fun h => ⟨h.1, Finnhub.commodity_named h.1, by decide, hempty, husd⟩
  | iexCloud data =>
    unfold Emission.row Emission.Safe
    rw [marketRow_accepted_iff]
    have htype := IEXCloud.determineType_mem symbol
    tauto

/-- The constraints accept the row of an item exactly when its emission is safe. -/
lemma accepted_iff {num : Numbers} {symbol : String} {now : Json} {e : Emission} {item : Dict}
    (h : e.make num symbol now = some item) :
    Accepted symbol item ↔ varchar 20 symbol = true ∧ e.Safe symbol := by
  unfold Accepted
  constructor
  · intro haccepted
    have hrow := haccepted "" ""
    rw [Emission.symbolRow_eq _ _ h] at hrow
    exact e.row_accepted_iff.1 hrow
  · intro hsafe id tenantId
    rw [Emission.symbolRow_eq _ _ h]
    exact e.row_accepted_iff.2 hsafe

/-! ## A call for a new symbol -/

/-- Only the constraints of the symbol can be violated when a quote is stored for a new one. -/
lemma storeQuoteToDb_integrityError_iff {driver : Driver} {db : FinanceTables} {c : QuoteCall}
    {data : Dict} (fresh : c.Fresh db) (hnew : ¬ db.Knows c.tenantId c.symbol) :
    storeQuoteToDb driver db c data = .error .integrityError ↔
      (symbolRow c.newSymbolId c.tenantId c.symbol data).fits = true ∧
        (symbolRow c.newSymbolId c.tenantId c.symbol data).checked = false := by
  unfold storeQuoteToDb
  rw [findSymbol_unknown hnew, insertSymbol_symbolRow fresh hnew]
  cases hfits : (symbolRow c.newSymbolId c.tenantId c.symbol data).fits with
  | false => exact iff_of_false (fun h => by cases h) (fun h => by cases h.1)
  | true =>
    cases hchecked : (symbolRow c.newSymbolId c.tenantId c.symbol data).checked with
    | false => exact iff_of_true rfl ⟨rfl, rfl⟩
    | true =>
      exact iff_of_false (flush_ne_integrityError fresh.quote) (fun h => by cases h.2)

/-- A quote that is fetched is stored, then answered. -/
lemma getQuote_fetched {driver : Driver} {c : QuoteCall} {s : FinanceState} {data : Dict}
    (hcached : s.cachedQuote c = none)
    (hfetch : fetchWithFailover c.symbol c.responses (failoverChain c.symbol) = some data) :
    getQuote driver c s = ((storeQuoteToDb driver s.db c data).mapError .db).map
      fun db => (data, s.record c data db) := by
  unfold getQuote
  rw [hcached, hfetch]

/-- An accepted row violates no constraint. -/
lemma Accepted.getQuote_ne {item : Dict} {driver : Driver} {c : QuoteCall} {s : FinanceState}
    (h : Accepted c.symbol item) (fresh : c.Fresh s.db) (hnew : ¬ s.db.Knows c.tenantId c.symbol)
    (hcached : s.cachedQuote c = none) (hfetch : c.Fetches item) :
    getQuote driver c s ≠ .error (.db .integrityError) := by
  have hdata : ∃ data, fetchWithFailover c.symbol c.responses (failoverChain c.symbol) = some data ∧
      symbolRow c.newSymbolId c.tenantId c.symbol data =
        symbolRow c.newSymbolId c.tenantId c.symbol item := by
    rcases hfetch with hfetch | ⟨name, hfetch⟩
    · exact ⟨item, hfetch, rfl⟩
    · exact ⟨_, hfetch, symbolRow_set _ _ (by decide)⟩
  obtain ⟨data, hdata, hrow⟩ := hdata
  rw [getQuote_fetched hcached hdata]
  intro herror
  cases hstore : storeQuoteToDb driver s.db c data with
  | ok db =>
    rw [hstore] at herror
    cases herror
  | error e =>
    rw [hstore] at herror
    cases herror
    obtain ⟨_, hunchecked⟩ := (storeQuoteToDb_integrityError_iff fresh hnew).1 hstore
    rw [hrow, (h c.newSymbolId c.tenantId).2] at hunchecked
    cases hunchecked

/-- Storing an item of a finance collector is safe exactly when its symbol fits, its type is one of the
table's, and what it has from its provider fits the columns. -/
theorem storesSafely_iff {num : Numbers} {symbol : String} {now : Json} {e : Emission}
    {item : Dict} (h : e.item num symbol now = some item) :
    StoresSafely symbol item ↔ varchar 20 symbol = true ∧ e.Safe symbol := by
  have hmake : e.make num symbol now = some item := (Option.filter_eq_some_iff.1 h).1
  rw [← accepted_iff hmake]
  constructor
  · exact fun hsafe => hsafe.accepted
  · intro haccepted
    refine ⟨haccepted, ?_⟩
    rintro driver c s rfl fresh hnew hcached hfetch
    exact haccepted.getQuote_ne fresh hnew hcached hfetch

namespace Sample

/-- Python's operations as far as they stay within whole numbers. -/
def wholeNumbers : Numbers where
  sub := fun v w => match v, w with
    | .int a, .int b => some (.int (a - b))
    | _, _ => none
  div := fun _ _ => none
  mul := fun v w => match v, w with
    | .int a, .int b => some (.int (a * b))
    | _, _ => none
  round := fun v _ => match v with
    | .int a => some (.int a)
    | .null | .bool _ | .float _ _ | .str _ | .arr _ | .obj _ => none
  float := fun _ => none
  int := fun v => match v with
    | .int a => some (.int a)
    | .null | .bool _ | .float _ _ | .str _ | .arr _ | .obj _ => none
  fromtimestamp := fun _ => none

/-- The answer of yfinance for a share. -/
def shareInfo (name : String) : Dict :=
  [("shortName", .str name), ("regularMarketPrice", .int 190), ("currency", .str "USD"),
   ("exchangeName", .str "NMS")]

/-- What yfinance emits for a share. -/
def share (symbol name : String) : Dict :=
  ((Emission.yfinance (shareInfo name)).item wholeNumbers symbol
    (.str "2025-01-02T03:04:05Z")).getD []

end Sample

open Sample in
/-- The quote of Apple is stored safely. -/
theorem storesSafely_share : StoresSafely "AAPL" (share "AAPL" "Apple Inc.") ↔
    varchar 20 "AAPL" = true ∧ (Emission.yfinance (shareInfo "Apple Inc.")).Safe "AAPL" := by
  have hitem : (Emission.yfinance (shareInfo "Apple Inc.")).item wholeNumbers "AAPL"
      (.str "2025-01-02T03:04:05Z") = some (share "AAPL" "Apple Inc.") := by
    decide +kernel
  exact storesSafely_iff hitem

/-- Whether a call raises what a violated constraint raises. -/
def QuoteCall.violates (driver : Driver) (c : QuoteCall) (s : FinanceState) : Bool :=
  match getQuote driver c s with
  | .ok _ => false
  | .error e => decide (e = .db .integrityError)

open Sample in
/-- The first quote of an A-share that yfinance comes up with violates the CHECK of its symbol. -/
theorem aShare_not_stored : ¬ ∀ (num : Numbers) (symbol : String) (now : Json) (e : Emission)
    (item : Dict), e.item num symbol now = some item → StoresSafely symbol item := by
  intro h
  have hitem : (Emission.yfinance (shareInfo "Kweichow Moutai")).item wholeNumbers "600519.SS"
      (.str "2025-01-02T03:04:05Z") = some (share "600519.SS" "Kweichow Moutai") := by
    decide +kernel
  have fresh : (call "600519.SS" "yfinance" (share "600519.SS" "Kweichow Moutai") "s1" "q1").Fresh
      FinanceState.init.db :=
    ⟨fun _ h => absurd h List.not_mem_nil, fun _ h => absurd h List.not_mem_nil⟩
  have hviolates : (call "600519.SS" "yfinance" (share "600519.SS" "Kweichow Moutai") "s1"
      "q1").violates driver FinanceState.init = true := by
    decide +kernel
  have hne := (h _ _ _ _ _ hitem).stored driver _ FinanceState.init rfl fresh
    (fun ⟨_, h, _⟩ => absurd h List.not_mem_nil) rfl (.inr ⟨"yfinance", by decide +kernel⟩)
  unfold QuoteCall.violates at hviolates
  split at hviolates
  · cases hviolates
  · rename_i e herror
    rw [of_decide_eq_true hviolates] at herror
    exact hne herror

end InstantBoard.Finance
