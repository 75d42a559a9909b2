import InstantBoard.Finance.Collectors
import InstantBoard.Finance.FailOver
import InstantBoard.Finance.Quotes
import InstantBoard.Lib.FirstKept
import Mathlib.Data.List.ReduceOption

/-!
# Market indices

`get_market_indices`: the sources of the chain are asked one after the other for the indices that are
still missing, and the items they report are merged, the first for each symbol being kept. What is
merged is therefore what the earliest source reported (`market_indices_merged`), whatever each source
reports, and the rows are one for each index of the configuration, with the item's values or nulls
(`RowOf`).
-/

namespace InstantBoard.Finance

open FirstKept

/-! ## Batches -/

/-- The symbol of an item is a text, where it has one. -/
def TextSymbol (item : Dict) : Prop :=
  item.getD "symbol" .null = .null ∨ ∃ symbol, item.getD "symbol" .null = .str symbol

/-- An item of a batch. -/
structure BatchItem where
  fields : Dict
  textSymbol : TextSymbol fields

/-- `item.get("symbol")`, if it is truthy. -/
def BatchItem.symbol? (item : BatchItem) : Option String :=
  match item.fields.getD "symbol" .null with
  | .str symbol => if symbol ≠ "" then some symbol else none
  | .null | .bool _ | .int _ | .float _ _ | .arr _ | .obj _ => none

/-- `item["source"] = name` -/
def BatchItem.setSource (name : String) (item : BatchItem) : BatchItem where
  fields := item.fields.set "source" (.str name)
  textSymbol := by
    unfold TextSymbol
    rw [Dict.getD_set, if_neg (by decide)]
    exact item.textSymbol

/-- A collector raises, fails, or comes up with items. -/
inductive Answer (α : Type) where
  | raised
  | result (success : Bool) (items : List α)

/-- What the collectors answer when they are asked for symbols. The provider decides what Eastmoney's
items have for a symbol; the other collectors put in the symbol asked for. -/
structure CollectorAnswers where
  eastmoney : List String → Answer Dict
  other : String → List String → Answer BatchItem

/-- What `_try_collector_batch` comes to: it raises, or returns nothing or items. -/
abbrev Batch := Except Unit (Option (List BatchItem))

/-- `symbol_map`, the latest entry of a key first. -/
def symbolMap (symbols : List String) : List (String × String) :=
  (symbols.map fun s => (EastMoney.convertSymbolToSecid s, s)).reverse ++ symbols.map fun s => (s, s)

/-- An item with its symbol set to a text has a text symbol. -/
lemma textSymbol_set (item : Dict) (symbol : String) :
    TextSymbol (item.set "symbol" (.str symbol)) := by
  right
  refine ⟨symbol, ?_⟩
  rw [Dict.getD_set, if_pos rfl]

/-- One item of Eastmoney's under a symbol that was asked for, if it has one. A list or a dictionary is
no key of a dictionary, and raises. -/
def adapt (symbols : List String) (item : Dict) : Except Unit (Option BatchItem) :=
  match item.getD "symbol" .null with
  | .str secid =>
    .ok (((symbolMap symbols).lookup secid).map fun symbol =>
      ⟨item.set "symbol" (.str symbol), textSymbol_set item symbol⟩)
  | .null | .bool _ | .int _ | .float _ _ => .ok none
  | .arr _ | .obj _ => .error ()

/-- `_try_collector_batch` -/
def tryCollectorBatch (answers : CollectorAnswers) (name : String) (symbols : List String) : Batch :=
  if (COLLECTOR_REGISTRY.lookup name).isNone then .ok none
  else if name = "eastmoney" then
    match answers.eastmoney symbols with
    | .raised => .error ()
    | .result success items =>
      if success ∧ items.length ≠ 0 then
        (items.mapM (adapt symbols)).map fun items =>
          some (items.reduceOption.map (.setSource name))
      else .ok none
  else
    match answers.other name symbols with
    | .raised => .error ()
    | .result success items =>
      if success ∧ items.length ≠ 0 then .ok (some (items.map (.setSource name))) else .ok none

/-- A symbol of the map was asked for, and has the key for its secid or is the key. -/
lemma mem_of_lookup_symbolMap {symbols : List String} {key symbol : String}
    (h : (symbolMap symbols).lookup key = some symbol) :
    symbol ∈ symbols ∧ (key = EastMoney.convertSymbolToSecid symbol ∨ key = symbol) := by
  obtain ⟨before, after, hmap, _⟩ := List.lookup_eq_some_iff.1 h
  have hmem : (key, symbol) ∈ symbolMap symbols := by
    rw [hmap]
    exact List.mem_append_right before List.mem_cons_self
  rcases List.mem_append.1 hmem with hmem | hmem
  · obtain ⟨s, hs, heq⟩ := List.mem_map.1 (List.mem_reverse.1 hmem)
    cases heq
    exact ⟨hs, .inl rfl⟩
  · obtain ⟨s, hs, heq⟩ := List.mem_map.1 hmem
    cases heq
    exact ⟨hs, .inr rfl⟩

/-- An item that is adapted comes under the symbol whose secid it had. -/
lemma adapt_eq_some {symbols : List String} {item : Dict} {adapted : BatchItem}
    (h : adapt symbols item = .ok (some adapted)) : ∃ symbol ∈ symbols, ∃ key,
      item.getD "symbol" .null = .str key ∧
      (key = EastMoney.convertSymbolToSecid symbol ∨ key = symbol) ∧
      adapted.fields = item.set "symbol" (.str symbol) := by
  unfold adapt at h
  cases hkey : item.getD "symbol" .null with
  | str key =>
    rw [hkey] at h
    obtain ⟨symbol, hsymbol, rfl⟩ := Option.map_eq_some_iff.1 (Except.ok.inj h)
    obtain ⟨hin, hof⟩ := mem_of_lookup_symbolMap hsymbol
    exact ⟨symbol, hin, key, rfl, hof, rfl⟩
  | null => rw [hkey] at h; cases h
  | bool b => rw [hkey] at h; cases h
  | int i => rw [hkey] at h; cases h
  | float v text => rw [hkey] at h; cases h
  | arr items => rw [hkey] at h; cases h
  | obj fields => rw [hkey] at h; cases h

/-- The item of a batch is one that the collector came up with, under the name of the source: of
Eastmoney's one whose symbol is the secid of a symbol asked for, or that symbol. -/
def Collected (answers : CollectorAnswers) (name : String) (symbols : List String) (item : BatchItem) :
    Prop :=
  if name = "eastmoney" then
    ∃ found, answers.eastmoney symbols = .result true found ∧
      ∃ raw ∈ found, ∃ symbol ∈ symbols, ∃ key, raw.getD "symbol" .null = .str key ∧
        (key = EastMoney.convertSymbolToSecid symbol ∨ key = symbol) ∧
        item.fields = (raw.set "symbol" (.str symbol)).set "source" (.str name)
  else
    ∃ found, answers.other name symbols = .result true found ∧ ∃ raw ∈ found, item = raw.setSource name

/-- What Eastmoney's batch has is made of the items it came up with, under symbols asked for. -/
lemma eastmoney_batch {answers : CollectorAnswers} {symbols : List String} {items : List BatchItem}
    (h : tryCollectorBatch answers "eastmoney" symbols = .ok (some items)) {item : BatchItem}
    (hitem : item ∈ items) : Collected answers "eastmoney" symbols item := by
  unfold tryCollectorBatch at h
  rw [if_neg (by decide), if_pos rfl] at h
  unfold Collected
  rw [if_pos rfl]
  cases hanswer : answers.eastmoney symbols with
  | raised =>
    rw [hanswer] at h
    cases h
  | result success found =>
    rw [hanswer] at h
    dsimp only at h
    split at h
    · rename_i hfound
      obtain ⟨adapted, hadapted, heq⟩ := Fallible.map_eq_ok.1 h
      cases heq
      obtain ⟨adaptedItem, hin, rfl⟩ := List.mem_map.1 hitem
      rw [List.reduceOption_mem_iff] at hin
      obtain ⟨raw, hraw, hmade⟩ := Fallible.exists_of_mem_mapM hadapted hin
      obtain ⟨symbol, hsymbol, key, hkey, hof, hfields⟩ := adapt_eq_some hmade
      refine ⟨found, by rw [hfound.1], raw, hraw, symbol, hsymbol, key, hkey, hof, ?_⟩
      rw [← hfields]
      rfl
    · cases h

/-- The other batches are what the collectors came up with. -/
lemma other_batch {answers : CollectorAnswers} {name : String} {symbols : List String}
    {items : List BatchItem} (hname : name ≠ "eastmoney")
    (h : tryCollectorBatch answers name symbols = .ok (some items)) {item : BatchItem}
    (hitem : item ∈ items) : Collected answers name symbols item := by
  unfold tryCollectorBatch at h
  rw [if_neg hname] at h
  unfold Collected
  rw [if_neg hname]
  split at h
  · cases h
  · cases hanswer : answers.other name symbols with
    | raised =>
      rw [hanswer] at h
      cases h
    | result success found =>
      rw [hanswer] at h
      dsimp only at h
      split at h
      · rename_i hfound
        cases h
        obtain ⟨raw, hraw, rfl⟩ := List.mem_map.1 hitem
        exact ⟨found, by rw [hfound.1], raw, hraw, rfl⟩
      · cases h

/-- Each item of a batch was collected. -/
lemma collected_of_batch {answers : CollectorAnswers} {name : String} {symbols : List String}
    {items : List BatchItem} (h : tryCollectorBatch answers name symbols = .ok (some items))
    {item : BatchItem} (hitem : item ∈ items) : Collected answers name symbols item := by
  by_cases hname : name = "eastmoney"
  · subst hname
    exact eastmoney_batch h hitem
  · exact other_batch hname h hitem

/-- What yfinance makes of an answer may stand in a batch. -/
lemma YFinance.textSymbol {num : Numbers} {symbol : String} {now : Json} {info item : Dict}
    (h : YFinance.parseMeta num symbol now info = some item) : TextSymbol item := by
  simp only [YFinance.parseMeta, Option.bind_eq_bind, Option.bind_eq_some_iff, Option.pure_def,
    Option.some.injEq] at h
  obtain ⟨_, _, _, _, _, _, _, _, _, _, _, _, _, _, rfl⟩ := h
  exact .inr ⟨symbol, rfl⟩

/-! ## Fail-over -/

/-- An index of the configuration. -/
structure IndexConfig where
  symbol : String
  name : String
  region : String

def MARKET_INDICES_CONFIG : List IndexConfig :=
  [⟨"^GSPC", "S&P 500", "US"⟩,
   ⟨"^DJI", "Dow Jones Industrial Average", "US"⟩,
   ⟨"^IXIC", "NASDAQ Composite", "US"⟩,
   ⟨"000001.SS", "上证综合指数", "CN"⟩,
   ⟨"399001.SZ", "深证成份指数", "CN"⟩,
   ⟨"000300.SS", "沪深300", "CN"⟩,
   ⟨"^HSI", "恒生指数", "HK"⟩,
   ⟨"^N225", "日经225", "JP"⟩,
   ⟨"^FTSE", "FTSE 100", "GB"⟩,
   ⟨"^GDAXI", "DAX 40", "DE"⟩,
   ⟨"^FCHI", "CAC 40", "FR"⟩,
   ⟨"^KS11", "KOSPI", "KR"⟩,
   ⟨"^BSESN", "BSE Sensex", "IN"⟩]

/-- `_get_failover_chain` for the indices. -/
def marketIndicesChain : List String :=
  ["eastmoney", "yfinance"]

/-- A source that was asked for symbols, with what came of it. -/
structure Consultation where
  name : String
  symbols : List String
  batch : Batch

/-- The items of a batch, as far as it has any. -/
def Consultation.items (c : Consultation) : List BatchItem :=
  match c.batch with
  | .ok (some items) => items
  | .ok none | .error _ => []

/-- `missing`: the symbols that a source is asked for. -/
def missing (symbols : List String) (merged : List BatchItem) : List String :=
  symbols.filter fun s => ¬ Has BatchItem.symbol? merged s

/-- The loop over the chain, with `merged` and the sources consulted. -/
def fetchIndicesFrom (batches : String → List String → Batch) (symbols : List String) :
    List String → List BatchItem → List Consultation → List BatchItem × List Consultation
  | [], merged, log => (merged, log)
  | name :: chain, merged, log =>
    if missing symbols merged = [] then (merged, log)
    else
      let batch := batches name (missing symbols merged)
      let log := log ++ [⟨name, missing symbols merged, batch⟩]
      match batch with
      | .error _ => fetchIndicesFrom batches symbols chain merged log
      | .ok none => fetchIndicesFrom batches symbols chain merged log
      | .ok (some results) =>
        fetchIndicesFrom batches symbols chain (addAll BatchItem.symbol? merged results) log

/-- `_fetch_indices_with_failover`, with the sources it consulted. -/
def fetchIndicesWithFailover (batches : String → List String → Batch) :
    Option (List BatchItem) × List Consultation :=
  let (merged, log) := fetchIndicesFrom batches (MARKET_INDICES_CONFIG.map (·.symbol))
    marketIndicesChain [] []
  (if merged.length = 0 then none else some merged, log)

/-! ## Rows -/

def MARKET_TIMEZONES : List (String × String) :=
  [("US", "America/New_York"),
   ("CN", "Asia/Shanghai"),
   ("HK", "Asia/Hong_Kong"),
   ("JP", "Asia/Tokyo"),
   ("GB", "Europe/London"),
   ("DE", "Europe/Berlin"),
   ("FR", "Europe/Paris"),
   ("KR", "Asia/Seoul"),
   ("IN", "Asia/Kolkata")]

/-- Opening and closing times in minutes. -/
def MARKET_TRADING_HOURS : List (String × List (Nat × Nat)) :=
  [("US", [(570, 960)]),
   ("CN", [(570, 690), (780, 900)]),
   ("HK", [(570, 960)]),
   ("JP", [(540, 900)]),
   ("GB", [(480, 990)]),
   ("DE", [(540, 1050)]),
   ("FR", [(540, 1050)]),
   ("KR", [(540, 930)]),
   ("IN", [(555, 930)])]

/-- The time in a zone: the weekday from Monday on, and the microseconds of the day. -/
structure LocalTime where
  weekday : Nat
  time : Nat

/-- `_is_market_open` -/
def isMarketOpen (now : String → LocalTime) (market : String) : Bool :=
  match MARKET_TIMEZONES.lookup market with
  | none => false
  | some tz =>
    if (now tz).weekday ≥ 5 then false
    else ((MARKET_TRADING_HOURS.lookup market).getD []).any fun (opens, closes) =>
      opens * 60000000 ≤ (now tz).time && (now tz).time ≤ closes * 60000000

/-- A value of the index found, if there is one. -/
def indexValue (found : Option BatchItem) (key : String) : Json :=
  match found with
  | some item => if item.fields ≠ [] then value item.fields key else .null
  | none => .null

/-- The row of an index. -/
def indexRow (now : String → LocalTime) (config : IndexConfig) (found : Option BatchItem) : Dict :=
  [("symbol", .str config.symbol),
   ("name", .str config.name),
   ("value", indexValue found "current_price"),
   ("change", indexValue found "change"),
   ("change_percent", indexValue found "change_percent"),
   ("market_status", .str (if isMarketOpen now config.region then "open" else "closed")),
   ("region", .str config.region),
   ("timestamp", indexValue found "timestamp")]

/-- The cached rows by tenant, as `json.loads` reads them, and the updates pushed. -/
structure IndicesState where
  cache : String → Option Json
  pushed : List (String × List Dict)

/-- `ServiceUnavailable` -/
def indicesUnavailable : String :=
  "Market indices data temporarily unavailable"

/-- `get_market_indices` -/
def getMarketIndices (batches : String → List String → Batch) (now : String → LocalTime)
    (tenantId : String) (s : IndicesState) : Except String Json × IndicesState :=
  match s.cache tenantId with
  | some rows => (.ok rows, s)
  | none =>
    match (fetchIndicesWithFailover batches).1 with
    | none => (.error indicesUnavailable, s)
    | some results =>
      let formatted := MARKET_INDICES_CONFIG.map fun config =>
        indexRow now config (results.find? fun r => hasSymbol config.symbol r.fields)
      (.ok (.arr (formatted.map .obj)),
        { cache := fun t => if t = tenantId then some (.arr (formatted.map .obj)) else s.cache t
          pushed := s.pushed ++ [(tenantId, formatted)] })

/-! ## What is merged -/

/-- The values of a row. -/
structure RowValues (row : Dict) (values : String → Json) : Prop where
  value : row.get? "value" = some (values "current_price")
  change : row.get? "change" = some (values "change")
  changePercent : row.get? "change_percent" = some (values "change_percent")
  timestamp : row.get? "timestamp" = some (values "timestamp")

/-- The row of an index of the configuration, with the values of the item for its symbol, or nulls if
there is none. -/
structure RowOf (items : List BatchItem) (config : IndexConfig) (row : Dict) : Prop where
  symbol : row.get? "symbol" = some (.str config.symbol)
  name : row.get? "name" = some (.str config.name)
  region : row.get? "region" = some (.str config.region)
  found : ∀ item ∈ items, item.symbol? = some config.symbol →
    RowValues row fun key => item.fields.getD key .null
  absent : (∀ item ∈ items, item.symbol? ≠ some config.symbol) → RowValues row fun _ => .null

/-- A source that was consulted reported the symbol. -/
def ReportedIn (log : List Consultation) (symbol : String) : Prop :=
  Has BatchItem.symbol? (log.flatMap (·.items)) symbol

instance (log : List Consultation) (symbol : String) : Decidable (ReportedIn log symbol) :=
  inferInstanceAs (Decidable (Has _ _ _))

/-- Each source is asked for what those before it did not report, and only if that is something. -/
structure Consulted (batches : String → List String → Batch) (symbols chain : List String)
    (log : List Consultation) : Prop where
  sources : log.map (·.name) <+: chain
  answers : ∀ c ∈ log, c.batch = batches c.name c.symbols
  asked : ∀ before c after, log = before ++ c :: after →
    c.symbols = symbols.filter (fun s => ¬ ReportedIn before s) ∧ c.symbols ≠ []
  complete : log.map (·.name) ≠ chain → ∀ symbol ∈ symbols, ReportedIn log symbol

/-- One item for each symbol that was reported, from the earliest source that reported it. -/
structure MergedFrom (log : List Consultation) (items : List BatchItem) : Prop where
  nodup : (items.map (·.symbol?)).Nodup
  earliest : ∀ item ∈ items, ∃ symbol before c after, item.symbol? = some symbol ∧
    log = before ++ c :: after ∧ ¬ ReportedIn before symbol ∧
      c.items.find? (fun i => i.symbol? = some symbol) = some item
  reported : ∀ symbol, ReportedIn log symbol → ∃ item ∈ items, item.symbol? = some symbol

/-- What has been merged is what was reported, the first item for each symbol. -/
structure Merging (log : List Consultation) (merged : List BatchItem) : Prop where
  keyed : Keyed BatchItem.symbol? merged
  first : ∀ symbol, merged.find? (fun i => i.symbol? = some symbol) =
    (log.flatMap (·.items)).find? fun i => i.symbol? = some symbol

variable {batches : String → List String → Batch} {symbols chain : List String}
  {log : List Consultation} {merged : List BatchItem}

/-- Before any item nothing is merged. -/
lemma Merging.nil : Merging [] [] where
  keyed := .nil
  first := fun _ => rfl

/-- The merged symbols are those an item reported. -/
lemma Merging.has_iff (h : Merging log merged) (symbol : String) :
    Has BatchItem.symbol? merged symbol ↔ ReportedIn log symbol := by
  unfold ReportedIn
  rw [has_iff_isSome, has_iff_isSome, h.first]

/-- The items of the next source are merged. -/
lemma Merging.snoc (h : Merging log merged) (c : Consultation) :
    Merging (log ++ [c]) (addAll BatchItem.symbol? merged c.items) where
  keyed := h.keyed.addAll c.items
  first := by
    intro symbol
    rw [find?_addAll, List.find?_append, h.first, ← List.find?_append, List.flatMap_append,
      List.flatMap_singleton]

/-- A symbol that was reported was reported by a source earliest. -/
lemma find?_flatMap_eq_some {item : BatchItem} {symbol : String}
    (h : (log.flatMap (·.items)).find? (fun i => i.symbol? = some symbol) = some item) :
    ∃ before c after, log = before ++ c :: after ∧ ¬ ReportedIn before symbol ∧
      c.items.find? (fun i => i.symbol? = some symbol) = some item := by
  induction log with
  | nil => cases h
  | cons c log ih =>
    rw [List.flatMap_cons, List.find?_append] at h
    cases hc : c.items.find? (fun i => i.symbol? = some symbol) with
    | some first =>
      rw [hc] at h
      cases h
      refine ⟨[], c, log, rfl, ?_, hc⟩
      intro ⟨i, hi, _⟩
      cases hi
    | none =>
      rw [hc, Option.none_or] at h
      obtain ⟨before, c', after, rfl, hbefore, hfirst⟩ := ih h
      refine ⟨c :: before, c', after, rfl, ?_, hfirst⟩
      intro hreported
      unfold ReportedIn at hreported
      rw [List.flatMap_cons, has_append] at hreported
      rcases hreported with hreported | hreported
      · rw [has_iff_isSome, hc] at hreported
        cases hreported
      · exact hbefore hreported

/-- What is merged is the first report of each symbol. -/
lemma Merging.mergedFrom (h : Merging log merged) : MergedFrom log merged where
  nodup := h.keyed.nodup
  earliest := by
    intro item hitem
    obtain ⟨symbol, hsymbol⟩ := h.keyed.some item hitem
    have hfind := h.keyed.find?_eq hitem hsymbol
    rw [h.first] at hfind
    obtain ⟨before, c, after, hlog, hbefore, hfirst⟩ := find?_flatMap_eq_some hfind
    exact ⟨symbol, before, c, after, hsymbol, hlog, hbefore, hfirst⟩
  reported := fun symbol hreported => (h.has_iff symbol).2 hreported

/-! ## The loop -/

/-- The loop after the sources `done`, what was merged and the sources consulted being in step. -/
structure Loop (batches : String → List String → Batch) (symbols done : List String)
    (log : List Consultation) (merged : List BatchItem) : Prop where
  merging : Merging log merged
  sources : log.map (·.name) = done
  answers : ∀ c ∈ log, c.batch = batches c.name c.symbols
  asked : ∀ before c after, log = before ++ c :: after →
    c.symbols = symbols.filter (fun s => ¬ ReportedIn before s) ∧ c.symbols ≠ []

variable {done : List String} {name : String}

/-- The consultation of a source. -/
def consult (batches : String → List String → Batch) (symbols : List String)
    (merged : List BatchItem) (name : String) : Consultation :=
  ⟨name, missing symbols merged, batches name (missing symbols merged)⟩

/-- No symbol, no batch. -/
lemma Loop.nil : Loop batches symbols [] [] [] where
  merging := .nil
  sources := rfl
  answers := fun c hc => absurd hc (List.not_mem_nil (a := c))
  asked := by
    intro before c after h
    exact absurd h.symm (List.append_ne_nil_of_right_ne_nil before (List.cons_ne_nil c after))

/-- The symbols missing are those not reported. -/
lemma Merging.missing_eq (h : Merging log merged) :
    missing symbols merged = symbols.filter fun s => ¬ ReportedIn log s := by
  unfold missing
  apply List.filter_congr
  intro s _
  rw [decide_eq_decide, h.has_iff]

/-- One more source is consulted. -/
lemma Loop.step (h : Loop batches symbols done log merged) (hne : missing symbols merged ≠ [])
    (name : String) :
    Loop batches symbols (done ++ [name]) (log ++ [consult batches symbols merged name])
      (addAll BatchItem.symbol? merged (consult batches symbols merged name).items) where
  merging := h.merging.snoc _
  sources := by
    rw [List.map_append, h.sources]
    rfl
  answers := by
    intro c hc
    rcases List.mem_append.1 hc with hc | hc
    · exact h.answers c hc
    · cases List.mem_singleton.1 hc
      rfl
  asked := by
    intro before c after heq
    rcases List.eq_nil_or_concat after with rfl | ⟨rest, last, rfl⟩
    · -- the source is the new one
      obtain ⟨rfl, hc⟩ := List.append_inj' heq rfl
      cases hc
      exact ⟨h.merging.missing_eq, hne⟩
    · rw [List.concat_eq_append, ← List.cons_append, ← List.append_assoc] at heq
      obtain ⟨heq, -⟩ := List.append_inj' heq rfl
      exact h.asked before c rest heq

/-- A source that raises or has nothing leaves what was merged. -/
lemma fetchIndicesFrom_cons (hne : missing symbols merged ≠ []) :
    fetchIndicesFrom batches symbols (name :: chain) merged log =
      fetchIndicesFrom batches symbols chain
        (addAll BatchItem.symbol? merged (consult batches symbols merged name).items)
        (log ++ [consult batches symbols merged name]) := by
  unfold consult Consultation.items
  rw [fetchIndicesFrom, if_neg hne]
  dsimp only
  cases batches name (missing symbols merged) with
  | error e => rfl
  | ok results =>
    cases results with
    | none => rfl
    | some results => rfl

/-- With no symbol missing no collector is asked. -/
lemma fetchIndicesFrom_of_missing_nil (h : missing symbols merged = []) :
    fetchIndicesFrom batches symbols chain merged log = (merged, log) := by
  cases chain with
  | nil => rfl
  | cons name chain => exact if_pos h

/-- The loop ends with what was merged of the sources consulted. -/
lemma Loop.run (h : Loop batches symbols done log merged) (chain : List String) :
    Consulted batches symbols (done ++ chain)
        (fetchIndicesFrom batches symbols chain merged log).2 ∧
      Merging (fetchIndicesFrom batches symbols chain merged log).2
        (fetchIndicesFrom batches symbols chain merged log).1 := by
  induction chain generalizing done log merged with
  | nil =>
    refine ⟨⟨?_, h.answers, h.asked, ?_⟩, h.merging⟩
    · rw [List.append_nil, ← h.sources]
      exact List.prefix_refl _
    · intro hne
      rw [List.append_nil] at hne
      exact absurd h.sources hne
  | cons name chain ih =>
    by_cases hmissing : missing symbols merged = []
    · rw [fetchIndicesFrom_of_missing_nil hmissing]
      refine ⟨⟨?_, h.answers, h.asked, ?_⟩, h.merging⟩
      · rw [h.sources]
        exact List.prefix_append _ _
      · -- the loop is left since nothing is missing
        intro _ symbol hsymbol
        rw [h.merging.missing_eq, List.filter_eq_nil_iff] at hmissing
        simpa using hmissing symbol hsymbol
    · rw [fetchIndicesFrom_cons hmissing]
      have hstep := ih (h.step hmissing name)
      rw [List.append_assoc] at hstep
      exact hstep

/-! ## The rows -/

/-- An item is found under its symbol. -/
lemma hasSymbol_iff {item : BatchItem} {symbol : String} (hne : symbol ≠ "") :
    hasSymbol symbol item.fields = true ↔ item.symbol? = some symbol := by
  unfold hasSymbol BatchItem.symbol? Dict.getD
  rw [decide_eq_true_eq]
  cases item.fields.get? "symbol" with
  | none => simp
  | some v =>
    cases v with
    | str text =>
      simp only [Option.getD_some, Option.some.injEq, Json.str.injEq]
      by_cases htext : text = ""
      · rw [if_neg (not_not_intro htext), htext]
        simpa using Ne.symm hne
      · rw [if_pos htext, Option.some.injEq]
    | null => simp
    | bool b => simp
    | int i => simp
    | float v text => simp
    | arr items => simp
    | obj fields => simp

/-- The configured symbols are not empty. -/
lemma symbol_ne_empty {config : IndexConfig} (h : config ∈ MARKET_INDICES_CONFIG) :
    config.symbol ≠ "" := by
  have hall : ∀ config ∈ MARKET_INDICES_CONFIG, config.symbol ≠ "" := by decide
  exact hall config h

/-- A value of an item; no item is empty that has a symbol, and an empty one has no values. -/
lemma indexValue_some (item : BatchItem) (key : String) :
    indexValue (some item) key = item.fields.getD key .null := by
  unfold indexValue value
  dsimp only
  split
  · rfl
  · rename_i hempty
    rw [not_not.1 hempty]
    rfl

/-- A row has the values of what was found. -/
lemma indexRow_values (now : String → LocalTime) (config : IndexConfig) (found : Option BatchItem) :
    RowValues (indexRow now config found) (indexValue found) where
  value := rfl
  change := rfl
  changePercent := rfl
  timestamp := rfl

/-- Of the items merged, a row has the values of the one for its index. -/
lemma Merging.rowOf (h : Merging log merged) (now : String → LocalTime) {config : IndexConfig}
    (hconfig : config ∈ MARKET_INDICES_CONFIG) :
    RowOf merged config
      (indexRow now config (merged.find? fun r => hasSymbol config.symbol r.fields)) where
  symbol := rfl
  name := rfl
  region := rfl
  found := by
    intro item hitem hsymbol
    have hfind : (merged.find? fun r => hasSymbol config.symbol r.fields) = some item := by
      rw [← h.keyed.find?_eq hitem hsymbol]
      congr 1
      funext r
      rw [Bool.eq_iff_iff, hasSymbol_iff (symbol_ne_empty hconfig), decide_eq_true_eq]
    rw [hfind]
    have hvalues := indexRow_values now config (some item)
    rw [funext (indexValue_some item)] at hvalues
    exact hvalues
  absent := by
    intro hnone
    have hfind : (merged.find? fun r => hasSymbol config.symbol r.fields) = none := by
      rw [List.find?_eq_none]
      intro item hitem hsymbol
      exact hnone item hitem ((hasSymbol_iff (symbol_ne_empty hconfig)).1 hsymbol)
    rw [hfind]
    exact indexRow_values now config none

/-- Nothing is merged exactly if nothing was reported, and then all sources were asked. -/
lemma Merging.eq_nil_iff (h : Merging log merged) (hsymbols : symbols ≠ [])
    (hlog : Consulted batches symbols chain log) :
    merged = [] ↔ log.map (·.name) = chain ∧ ∀ symbol, ¬ ReportedIn log symbol := by
  constructor
  · rintro rfl
    have hnone : ∀ symbol, ¬ ReportedIn log symbol := by
      intro symbol hreported
      obtain ⟨item, hitem, _⟩ := (h.has_iff symbol).2 hreported
      cases hitem
    refine ⟨?_, hnone⟩
    by_contra hchain
    obtain ⟨symbol, hsymbol⟩ := List.exists_mem_of_ne_nil symbols hsymbols
    exact hnone symbol (hlog.complete hchain symbol hsymbol)
  · intro ⟨_, hnone⟩
    rw [List.eq_nil_iff_forall_not_mem]
    intro item hitem
    obtain ⟨symbol, hsymbol⟩ := h.keyed.some item hitem
    exact hnone symbol ((h.has_iff symbol).1 ⟨item, hitem, hsymbol⟩)

/-- What is merged was reported by a source that was consulted, and collected if the batches are the
collectors'. -/
lemma MergedFrom.collected {answers : CollectorAnswers} {items : List BatchItem}
    (h : MergedFrom log items)
    (hlog : ∀ c ∈ log, c.batch = tryCollectorBatch answers c.name c.symbols) {item : BatchItem}
    (hitem : item ∈ items) : ∃ c ∈ log, Collected answers c.name c.symbols item := by
  obtain ⟨symbol, before, c, after, _, rfl, _, hfirst⟩ := h.earliest item hitem
  have hc : c ∈ before ++ c :: after := List.mem_append_right before List.mem_cons_self
  refine ⟨c, hc, ?_⟩
  have hin := List.mem_of_find?_eq_some hfirst
  unfold Consultation.items at hin
  split at hin
  · rename_i results hbatch
    exact collected_of_batch ((hlog c hc).symm.trans hbatch) hin
  · cases hin
  · cases hin

/-- `_fetch_indices_with_failover` and `get_market_indices`, whatever each source reports: nothing is
returned exactly if no source of the chain reported a symbol; otherwise one item for each symbol that
was reported, of the earliest source that did (and what a collector came up with, where the batches are
those of `_try_collector_batch`); a source is asked for the symbols that none before it reported, and
only if there are some; and the rows are those of the configuration, each with the values of the item
for its index or nulls. -/
theorem market_indices_merged (batches : String → List String → Batch)
    (now : String → LocalTime) (tenantId : String) (s : IndicesState) :
    let (results, log) := fetchIndicesWithFailover batches
    Consulted batches (MARKET_INDICES_CONFIG.map (·.symbol)) marketIndicesChain log ∧
    (results = none ↔ log.map (·.name) = marketIndicesChain ∧ ∀ symbol, ¬ ReportedIn log symbol) ∧
    (∀ items, results = some items → MergedFrom log items) ∧
    (∀ answers, batches = tryCollectorBatch answers → ∀ items, results = some items →
      ∀ item ∈ items, ∃ c ∈ log, Collected answers c.name c.symbols item) ∧
    match s.cache tenantId, results with
    | some rows, _ => (getMarketIndices batches now tenantId s).1 = .ok rows
    | none, none => (getMarketIndices batches now tenantId s).1 = .error indicesUnavailable
    | none, some items => ∃ rows,
        (getMarketIndices batches now tenantId s).1 = .ok (.arr (rows.map .obj)) ∧
        List.Forall₂ (RowOf items) MARKET_INDICES_CONFIG rows := by
  obtain ⟨hlog, hmerging⟩ := (@Loop.nil batches (MARKET_INDICES_CONFIG.map (·.symbol))).run
    marketIndicesChain
  rw [List.nil_append] at hlog
  have hnil := hmerging.eq_nil_iff (by decide) hlog
  unfold getMarketIndices fetchIndicesWithFailover
  generalize fetchIndicesFrom batches (MARKET_INDICES_CONFIG.map (·.symbol)) marketIndicesChain [] [] =
    fetched at hlog hmerging hnil ⊢
  obtain ⟨merged, log⟩ := fetched
  dsimp only at hlog hmerging hnil ⊢
  rw [← List.length_eq_zero_iff] at hnil
  refine ⟨hlog, ?_, ?_, ?_, ?_⟩
  · rw [← hnil]
    split
    · next h => exact ⟨fun _ => h, fun _ => rfl⟩
    · next h =>
      refine ⟨?_, fun h' => absurd h' h⟩
      intro heq
      cases heq
  · intro items hitems
    split at hitems
    · cases hitems
    · cases hitems
      exact hmerging.mergedFrom
  · rintro answers rfl items hitems item hitem
    split at hitems
    · cases hitems
    · cases hitems
      exact hmerging.mergedFrom.collected hlog.answers hitem
  · cases s.cache tenantId with
    | some rows => rfl
    | none =>
      by_cases h : merged.length = 0
      · rw [if_pos h]
      · rw [if_neg h]
        refine ⟨_, rfl, ?_⟩
        rw [List.forall₂_map_right_iff]
        exact List.forall₂_same.2 fun config hconfig => hmerging.rowOf now hconfig

end InstantBoard.Finance
