import InstantBoard.Finance.Collectors
import InstantBoard.Finance.Quotes

/-!
# A quote belongs to its symbol

When no item of a collector has the symbol asked for, `_try_collector` takes the first one whatever it
is about, and leaves its source as it is. A call returns, stores, caches and pushes a quote of its
symbol exactly when the first collector that serves has an item with the symbol, or is Eastmoney and
its first item has the symbol in its own notation, and the tables take the quote (`belongs_iff`).
-/

namespace InstantBoard.Finance

open Fallible Transition

/-! ## What belongs to a symbol -/

/-- The source that a collector puts into its own items. -/
def ownLabels : List (String × String) :=
  [("eastmoney", "东方财富"), ("alpha_vantage", "Alpha Vantage"), ("finnhub", "Finnhub")]

/-- The item carries the source, by its name in the chain or by its own label. -/
def Carries (name : String) (item : Dict) : Prop :=
  item.get? "source" = some (.str name) ∨
    item.get? "source" = some (.str ((ownLabels.lookup name).getD name))

/-- The collector reports the item for the symbol; Eastmoney has a notation of its own. -/
def Reports (name symbol : String) (item : Dict) : Prop :=
  hasSymbol symbol item = true ∨
    name = "eastmoney" ∧ hasSymbol (EastMoney.convertSymbolToSecid symbol) item = true

/-- A quote of the symbol from a collector of its chain. -/
def Genuine (symbol : String) (data : Dict) : Prop :=
  ∃ name ∈ failoverChain symbol, Reports name symbol data ∧ Carries name data

/-- The response has something to return. -/
def serves (symbol : String) : Response → Bool
  | .raised => false
  | .result success items =>
    success && ((items.find? (hasSymbol symbol)).isSome || items.head?.any (· ≠ []))

/-- The collector that serves a call. -/
def QuoteCall.server (c : QuoteCall) : Option String :=
  (failoverChain c.symbol).find? fun name => serves c.symbol (c.responses name)

/-- The data is an item that the serving collector reported for the symbol, with its source. -/
def Reported (c : QuoteCall) (data : Dict) : Prop :=
  ∃ name items, c.server = some name ∧ c.responses name = .result true items ∧
    (∃ item ∈ items, data = item ∨ data = item.set "source" (.str name)) ∧
    Reports name c.symbol data ∧ Carries name data

/-- The data is stored under the symbol, cached under its key and pushed. -/
structure Recorded (s : FinanceState) (c : QuoteCall) (data : Dict) (s' : FinanceState) : Prop where
  stored : ∃ r ∈ s'.db.symbols, r.tenantId = c.tenantId ∧ r.symbol = c.symbol ∧
    s'.db.quotes = s.db.quotes ++ [quoteRow c.newQuoteId c.tenantId r.id c.now data]
  symbols : ∀ r ∈ s.db.symbols, r ∈ s'.db.symbols
  cached : s'.cache (c.tenantId, c.symbol) = some data
  others : ∀ key, key ≠ (c.tenantId, c.symbol) → s'.cache key = s.cache key
  pushed : s'.pushed = s.pushed ++ [(c.tenantId, quoteUpdate c.symbol data)]

/-- What the call returns is a quote of its symbol, from the cache or recorded now; otherwise the
symbol is not found. -/
def Belongs (driver : Driver) (c : QuoteCall) (s : FinanceState) : Prop :=
  match getQuote driver c s with
  | .ok (data, s') =>
    (s.cachedQuote c = some data ∧ s' = s ∧ Genuine c.symbol data) ∨
      Reported c data ∧ Recorded s c data s'
  | .error e => e = .symbolNotFound ("Quote not available for symbol: " ++ c.symbol)

/-! ## The condition -/

/-- Nobody serves, or the collector that serves has an item with the symbol or is Eastmoney with its
own item for it first, and the tables take that item. -/
def Answered (driver : Driver) (c : QuoteCall) (s : FinanceState) : Prop :=
  ∀ name items, c.server = some name → c.responses name = .result true items →
    (∀ item, items.find? (hasSymbol c.symbol) = some item →
      Storable driver s.db c (item.set "source" (.str name))) ∧
    (∀ item, items.find? (hasSymbol c.symbol) = none → items.head? = some item →
      name = "eastmoney" ∧ hasSymbol (EastMoney.convertSymbolToSecid c.symbol) item = true ∧
        Carries name item ∧ Storable driver s.db c item)

/-- The quote is cached and genuine, or it is answered. -/
def WellServed (driver : Driver) (c : QuoteCall) (s : FinanceState) : Prop :=
  match s.cachedQuote c with
  | some data => Genuine c.symbol data
  | none => Answered driver c s

/-! ## The chain -/

/-- The item that is taken from a collector's list. -/
inductive Picks (symbol name : String) (items : List Dict) : Dict → Prop where
  | matching {item} : items.find? (hasSymbol symbol) = some item →
      Picks symbol name items (item.set "source" (.str name))
  | first {item} : items.find? (hasSymbol symbol) = none → items.head? = some item →
      Picks symbol name items item

/-- A dict with an entry set is not empty. -/
lemma set_ne_nil (d : Dict) (key : String) (value : Json) : d.set key value ≠ [] := by
  cases d with
  | nil => exact List.cons_ne_nil _ _
  | cons kv d =>
    obtain ⟨k, v⟩ := kv
    unfold Dict.set
    split
    · exact List.cons_ne_nil _ _
    · exact List.cons_ne_nil _ _

/-- A collector serves what it picks, or has nothing to return. -/
lemma tryCollector_cases (symbol name : String) (response : Response) :
    (serves symbol response = true ∧ ∃ items data, response = .result true items ∧ data ≠ [] ∧
        Picks symbol name items data ∧ tryCollector symbol name response = .ok (some data)) ∨
      serves symbol response = false ∧ ∀ data, tryCollector symbol name response = .ok (some data) →
        data = [] := by
  cases response with
  | raised => exact .inr ⟨rfl, (fun _ h => by cases h)⟩
  | result success items =>
    cases success with
    | false => exact .inr ⟨rfl, (fun _ h => by cases h)⟩
    | true =>
      cases items with
      | nil => exact .inr ⟨rfl, (fun _ h => by cases h)⟩
      | cons first items =>
        have hserves : serves symbol (.result true (first :: items)) =
            (((first :: items).find? (hasSymbol symbol)).isSome || decide (first ≠ [])) := rfl
        rw [hserves]
        cases hfind : (first :: items).find? (hasSymbol symbol) with
        | some item =>
          have htry : tryCollector symbol name (.result true (first :: items)) =
              .ok (some (item.set "source" (.str name))) := by
            simp [tryCollector, hfind]
          left
          exact ⟨rfl, first :: items, _, rfl, set_ne_nil _ _ _, .matching hfind, htry⟩
        | none =>
          have htry : tryCollector symbol name (.result true (first :: items)) =
              .ok (some first) := by
            simp only [tryCollector, hfind]
            rfl
          by_cases hfirst : first = []
          · right
            refine ⟨decide_eq_false (not_not.2 hfirst), ?_⟩
            intro data h
            rw [htry] at h
            cases h
            exact hfirst
          · left
            exact ⟨decide_eq_true hfirst, first :: items, first, rfl, hfirst, .first hfind rfl, htry⟩

/-- The chain returns what the first collector that serves picks. -/
lemma fetch_cases (symbol : String) (responses : String → Response) (chain : List String) :
    (∃ name items data, chain.find? (fun name => serves symbol (responses name)) = some name ∧
        responses name = .result true items ∧ Picks symbol name items data ∧
        fetchWithFailover symbol responses chain = some data) ∨
      chain.find? (fun name => serves symbol (responses name)) = none ∧
        fetchWithFailover symbol responses chain = none := by
  induction chain with
  | nil => exact .inr ⟨rfl, rfl⟩
  | cons name chain ih =>
    rcases tryCollector_cases symbol name (responses name) with
      ⟨hserves, items, data, hitems, hdata, hpicks, htry⟩ | ⟨hserves, hempty⟩
    · left
      refine ⟨name, items, data, List.find?_cons_of_pos hserves, hitems, hpicks, ?_⟩
      unfold fetchWithFailover
      rw [htry]
      exact if_pos hdata
    · have hskip : fetchWithFailover symbol responses (name :: chain) =
          fetchWithFailover symbol responses chain := by
        conv_lhs => unfold fetchWithFailover
        split
        · rename_i item htry
          exact if_neg (not_not.2 (hempty item htry))
        · rfl
        · rfl
      rw [List.find?_cons_of_neg (by simp [hserves]), hskip]
      exact ih

/-- At most one item is picked. -/
lemma Picks.unique {symbol name : String} {items : List Dict} {data data' : Dict}
    (h : Picks symbol name items data) (h' : Picks symbol name items data') : data = data' := by
  cases h with
  | matching hfind =>
    cases h' with
    | matching hfind' =>
      rw [hfind] at hfind'
      cases hfind'
      rfl
    | first hnone _ =>
      rw [hfind] at hnone
      cases hnone
  | first hnone hhead =>
    cases h' with
    | matching hfind =>
      rw [hfind] at hnone
      cases hnone
    | first _ hhead' =>
      rw [hhead] at hhead'
      cases hhead'
      rfl

/-- An item with its source set carries the name. -/
lemma carries_source (name : String) (item : Dict) :
    Carries name (item.set "source" (.str name)) := by
  left
  rw [Dict.get?_set, if_pos rfl]

/-- Setting the source keeps the symbol. -/
lemma hasSymbol_source {symbol name : String} {item : Dict} (h : hasSymbol symbol item = true) :
    hasSymbol symbol (item.set "source" (.str name)) = true := by
  unfold hasSymbol
  rw [Dict.get?_set, if_neg (by decide)]
  exact h

/-! ## A call -/

section

variable {driver : Driver} {c : QuoteCall} {s : FinanceState}

/-- A call returns the cached quote, finds nothing, or stores what the serving collector has. -/
lemma getQuote_cases (driver : Driver) (c : QuoteCall) (s : FinanceState) :
    (∃ data, s.cachedQuote c = some data ∧ getQuote driver c s = .ok (data, s)) ∨
    (s.cachedQuote c = none ∧ c.server = none ∧ getQuote driver c s =
      .error (.symbolNotFound ("Quote not available for symbol: " ++ c.symbol))) ∨
    (s.cachedQuote c = none ∧ ∃ name items data, c.server = some name ∧
      c.responses name = .result true items ∧ Picks c.symbol name items data ∧
      getQuote driver c s = ((storeQuoteToDb driver s.db c data).mapError .db).map
        fun db => (data, s.record c data db)) := by
  unfold getQuote
  cases hcached : s.cachedQuote c with
  | some data => exact .inl ⟨data, rfl, rfl⟩
  | none =>
    right
    rcases fetch_cases c.symbol c.responses (failoverChain c.symbol) with
      ⟨name, items, data, hserver, hitems, hpicks, hfetch⟩ | ⟨hserver, hfetch⟩
    · right
      refine ⟨rfl, name, items, data, hserver, hitems, hpicks, ?_⟩
      rw [hfetch]
    · left
      refine ⟨rfl, hserver, ?_⟩
      rw [hfetch]

/-- The item is taken as the condition has it exactly when the collector reports it for the symbol,
with its source, and it is storable. -/
lemma Picks.answered_iff {name : String} {items : List Dict} {data : Dict}
    (hpicks : Picks c.symbol name items data) (hserver : c.server = some name)
    (hitems : c.responses name = .result true items) : Answered driver c s ↔
      Reports name c.symbol data ∧ Carries name data ∧ Storable driver s.db c data := by
  constructor
  · intro h
    obtain ⟨hmatching, hfirst⟩ := h name items hserver hitems
    cases hpicks with
    | matching hfind =>
      refine ⟨.inl ?_, carries_source _ _, hmatching _ hfind⟩
      exact hasSymbol_source (List.find?_some hfind)
    | first hnone hhead =>
      obtain ⟨hname, hsecid, hcarries, hstorable⟩ := hfirst _ hnone hhead
      exact ⟨.inr ⟨hname, hsecid⟩, hcarries, hstorable⟩
  · rintro ⟨hreports, hcarries, hstorable⟩ name' items' hserver' hitems'
    rw [hserver] at hserver'
    cases hserver'
    rw [hitems] at hitems'
    cases hitems'
    constructor
    · intro item hfind
      rw [← hpicks.unique (.matching hfind)]
      exact hstorable
    · intro item hnone hhead
      obtain rfl := hpicks.unique (.first hnone hhead)
      have hno : ¬ hasSymbol c.symbol data = true :=
        List.find?_eq_none.1 hnone data (List.mem_of_mem_head? hhead)
      obtain ⟨hname, hsecid⟩ := hreports.resolve_left hno
      exact ⟨hname, hsecid, hcarries, hstorable⟩

/-- What is picked is an item, with its source set or not. -/
lemma Picks.mem {symbol name : String} {items : List Dict} {data : Dict}
    (h : Picks symbol name items data) :
    ∃ item ∈ items, data = item ∨ data = item.set "source" (.str name) := by
  cases h with
  | matching hfind => exact ⟨_, List.mem_of_find?_eq_some hfind, .inr rfl⟩
  | first _ hhead => exact ⟨_, List.mem_of_mem_head? hhead, .inl rfl⟩

/-- A stored quote is recorded. -/
lemma Recorded.of_store {data : Dict} {db : FinanceTables}
    (h : storeQuoteToDb driver s.db c data = .ok db) : Recorded s c data (s.record c data db) := by
  obtain ⟨row, found, hquotes⟩ := storeQuoteToDb_ok h
  constructor
  · exact ⟨row, found.mem, found.tenant, found.symbol, hquotes⟩
  · exact found.kept
  · exact if_pos rfl
  · exact fun key hkey => if_neg hkey
  · rfl

/-- A call that records changes the state. -/
lemma Recorded.ne {data : Dict} (h : Recorded s c data s) : False := by
  have hlength := congrArg List.length h.pushed
  rw [List.length_append] at hlength
  exact absurd hlength (by simp)

/-- What a call returns belongs to its symbol exactly when the call is well served. -/
lemma belongs_iff (keyed : s.db.Keyed) (fresh : c.Fresh s.db) :
    Belongs driver c s ↔ WellServed driver c s := by
  unfold Belongs WellServed
  rcases getQuote_cases driver c s with ⟨data, hcached, hget⟩ | ⟨hcached, hserver, hget⟩ |
    ⟨hcached, name, items, data, hserver, hitems, hpicks, hget⟩
  · rw [hget, hcached]
    constructor
    · rintro (⟨_, _, hgenuine⟩ | ⟨_, hrecorded⟩)
      · exact hgenuine
      · exact hrecorded.ne.elim
    · exact fun hgenuine => .inl ⟨rfl, rfl, hgenuine⟩
  · rw [hget, hcached]
    refine iff_of_true rfl ?_
    intro name items hserver'
    rw [hserver] at hserver'
    cases hserver'
  · rw [hget, hcached]
    show _ ↔ Answered driver c s
    rw [hpicks.answered_iff hserver hitems]
    cases hstore : storeQuoteToDb driver s.db c data with
    | ok db =>
      show (_ ∨ Reported c data ∧ Recorded s c data (s.record c data db)) ↔ _
      constructor
      · rintro (⟨hcached', _⟩ | ⟨⟨name', _, hserver', _, _, hreports, hcarries⟩, _⟩)
        · cases hcached'
        · rw [hserver] at hserver'
          cases hserver'
          exact ⟨hreports, hcarries, .of_ok hstore⟩
      · rintro ⟨hreports, hcarries, _⟩
        exact .inr ⟨⟨name, items, hserver, hitems, hpicks.mem, hreports, hcarries⟩,
          .of_store hstore⟩
    | error e =>
      show QuoteError.db e = .symbolNotFound _ ↔ _
      constructor
      · intro h
        cases h
      · rintro ⟨_, _, hstorable⟩
        obtain ⟨db, hok⟩ := hstorable.ok keyed fresh
        rw [hstore] at hok
        cases hok

/-! ## Runs -/

/-- What is cached, stored and pushed under a symbol is a quote of it. -/
structure FinanceState.Sound (s : FinanceState) : Prop where
  cached : ∀ tenantId symbol data, s.cache (tenantId, symbol) = some data → Genuine symbol data
  stored : ∀ q ∈ s.db.quotes, ∃ r ∈ s.db.symbols, ∃ data, Genuine r.symbol data ∧
    q = quoteRow q.id r.tenantId r.id q.timestamp data
  pushed : ∀ p ∈ s.pushed, ∃ symbol data, Genuine symbol data ∧ p.2 = quoteUpdate symbol data

/-- A call that asks the collectors is answered. -/
def Answers (driver : Driver) (s : FinanceState) : QuoteLabel → Prop
  | .get c => s.cachedQuote c = none → Answered driver c s
  | .expire _ _ | .addSymbol _ => True

/-- The empty tables are keyed. -/
lemma init_keyed : FinanceState.init.db.Keyed :=
  ⟨Table.unique_nil, Table.unique_nil⟩

/-- The world begins sound. -/
lemma init_sound : FinanceState.init.Sound := by
  constructor
  · intro _ _ _ h
    cases h
  · exact fun _ h => absurd h List.not_mem_nil
  · exact fun _ h => absurd h List.not_mem_nil

/-- What is recorded of a quote of the symbol is one. -/
lemma FinanceState.Sound.record {s s' : FinanceState} {c : QuoteCall} {data : Dict} (h : s.Sound)
    (hgenuine : Genuine c.symbol data) (hrecorded : Recorded s c data s') : s'.Sound := by
  constructor
  · intro tenantId symbol d hd
    by_cases hkey : (tenantId, symbol) = (c.tenantId, c.symbol)
    · rw [hkey, hrecorded.cached] at hd
      cases hd
      cases hkey
      exact hgenuine
    · rw [hrecorded.others _ hkey] at hd
      exact h.cached tenantId symbol d hd
  · obtain ⟨r, hr, htenant, hsymbol, hquotes⟩ := hrecorded.stored
    intro q hq
    rw [hquotes] at hq
    rcases List.mem_append.1 hq with hq | hq
    · obtain ⟨r', hr', d, hd, heq⟩ := h.stored q hq
      exact ⟨r', hrecorded.symbols r' hr', d, hd, heq⟩
    · obtain rfl := List.mem_singleton.1 hq
      refine ⟨r, hr, data, ?_, ?_⟩
      · rw [hsymbol]
        exact hgenuine
      · rw [htenant]
        rfl
  · intro p hp
    rw [hrecorded.pushed] at hp
    rcases List.mem_append.1 hp with hp | hp
    · exact h.pushed p hp
    · obtain rfl := List.mem_singleton.1 hp
      exact ⟨c.symbol, data, hgenuine, rfl⟩

/-- What a step does to the state. -/
inductive Effect (driver : Driver) (s : FinanceState) : QuoteLabel → FinanceState → Prop where
  | nothing {l} : Effect driver s l s
  | recorded {c name items data db} : s.cachedQuote c = none → c.server = some name →
      c.responses name = .result true items → Picks c.symbol name items data →
      storeQuoteToDb driver s.db c data = .ok db → Effect driver s (.get c) (s.record c data db)
  | expired {tenantId symbol} : Effect driver s (.expire tenantId symbol)
      { s with cache := fun key => if key = (tenantId, symbol) then none else s.cache key }
  | added {row db} : s.db.insertSymbol row = .ok db → Effect driver s (.addSymbol row) { s with db }

/-- A quote that is answered leaves its state. -/
lemma FinanceState.next_get_ok {s s' : FinanceState} {c : QuoteCall} {data : Dict}
    (h : getQuote driver c s = .ok (data, s')) : s.next driver (.get c) = s' := by
  simp only [FinanceState.next, h]

/-- A quote that fails leaves the state as it was. -/
lemma FinanceState.next_get_error {s : FinanceState} {c : QuoteCall} {e : QuoteError}
    (h : getQuote driver c s = .error e) : s.next driver (.get c) = s := by
  simp only [FinanceState.next, h]

/-- A symbol that is inserted changes the tables. -/
lemma FinanceState.next_addSymbol_ok {s : FinanceState} {row : SymbolRow} {db : FinanceTables}
    (h : s.db.insertSymbol row = .ok db) : s.next driver (.addSymbol row) = { s with db } := by
  simp only [FinanceState.next, h]

/-- A symbol that is refused leaves the state as it was. -/
lemma FinanceState.next_addSymbol_error {s : FinanceState} {row : SymbolRow} {e : DbError}
    (h : s.db.insertSymbol row = .error e) : s.next driver (.addSymbol row) = s := by
  simp only [FinanceState.next, h]

/-- What one step changes. -/
lemma QuoteStep.effect {s s' : FinanceState} {l : QuoteLabel} (hst : QuoteStep driver s l s') :
    Effect driver s l s' := by
  obtain rfl := hst
  cases l with
  | expire tenantId symbol => exact .expired
  | addSymbol row =>
    cases hinsert : s.db.insertSymbol row with
    | ok db =>
      rw [FinanceState.next_addSymbol_ok hinsert]
      exact .added hinsert
    | error e =>
      rw [FinanceState.next_addSymbol_error hinsert]
      exact .nothing
  | get c =>
    rcases getQuote_cases driver c s with ⟨_, _, hget⟩ | ⟨_, _, hget⟩ |
      ⟨hcached, name, items, data, hserver, hitems, hpicks, hget⟩
    · rw [FinanceState.next_get_ok hget]
      exact .nothing
    · rw [FinanceState.next_get_error hget]
      exact .nothing
    · cases hstore : storeQuoteToDb driver s.db c data with
      | ok db =>
        rw [hstore] at hget
        rw [FinanceState.next_get_ok hget]
        exact .recorded hcached hserver hitems hpicks hstore
      | error e =>
        rw [hstore] at hget
        rw [FinanceState.next_get_error hget]
        exact .nothing

/-- A step keeps the tables keyed. -/
lemma QuoteStep.keyed {s s' : FinanceState} {l : QuoteLabel} (h : s.db.Keyed)
    (hst : QuoteStep driver s l s') : s'.db.Keyed := by
  cases hst.effect with
  | nothing => exact h
  | recorded _ _ _ _ hstore => exact h.storeQuoteToDb hstore
  | expired => exact h
  | added hinsert => exact h.insertSymbol hinsert

/-- A call that is answered keeps what is under a symbol a quote of it. -/
lemma QuoteStep.sound {s s' : FinanceState} {l : QuoteLabel} (hc : Answers driver s l)
    (h : s.Sound) (hst : QuoteStep driver s l s') : s'.Sound := by
  cases hst.effect with
  | nothing => exact h
  | @recorded c name items data db hcached hserver hitems hpicks hstore =>
    obtain ⟨hreports, hcarries, _⟩ := (hpicks.answered_iff hserver hitems).1 (hc hcached)
    have hmem : name ∈ failoverChain c.symbol := List.mem_of_find?_eq_some hserver
    exact h.record ⟨name, hmem, hreports, hcarries⟩ (.of_store hstore)
  | @expired tenantId symbol =>
    refine ⟨?_, h.stored, h.pushed⟩
    intro tenantId' symbol' data hdata
    change (if (tenantId', symbol') = (tenantId, symbol) then none else _) = some data at hdata
    split at hdata
    · cases hdata
    · exact h.cached tenantId' symbol' data hdata
  | added hinsert =>
    obtain ⟨_, _, rfl⟩ := FinanceTables.insertSymbol_eq_ok.1 hinsert
    refine ⟨h.cached, ?_, h.pushed⟩
    intro q hq
    obtain ⟨r, hr, hrest⟩ := h.stored q hq
    exact ⟨r, List.mem_append_left _ hr, hrest⟩

end

/-- In every state, what a call returns, stores, caches and pushes belongs to its symbol exactly when
the call is well served. In a run whose calls are answered, everything that is cached, stored and
pushed is a quote of its symbol, and a call belongs to its symbol exactly when it is answered. -/
theorem quotes_belong_iff {driver : Driver} {ls : List QuoteLabel} {s : FinanceState}
    (run : Steps (QuoteStep driver) .init ls s) :
    (∀ c : QuoteCall, c.Fresh s.db → (Belongs driver c s ↔ WellServed driver c s)) ∧
    (Guarded (QuoteStep driver) (Answers driver) .init ls s → s.Sound ∧
      ∀ c : QuoteCall, c.Fresh s.db → (Belongs driver c s ↔ Answers driver s (.get c))) := by
  have keyed : s.db.Keyed := run.invariant (I := fun s => s.db.Keyed)
    (fun h hst => hst.keyed h) init_keyed
  refine ⟨fun c fresh => belongs_iff keyed fresh, ?_⟩
  intro guarded
  have sound : s.Sound := guarded.invariant (fun hc h hst => hst.sound hc h) init_sound
  refine ⟨sound, ?_⟩
  intro c fresh
  rw [belongs_iff keyed fresh]
  unfold WellServed
  show _ ↔ (s.cachedQuote c = none → Answered driver c s)
  cases hcached : s.cachedQuote c with
  | some data =>
    refine iff_of_true ?_ (fun h => by cases h)
    exact sound.cached c.tenantId c.symbol data (Option.filter_eq_some_iff.1 hcached).1
  | none => exact ⟨fun h _ => h, fun h => h rfl⟩

namespace Sample

/-- What yfinance says of Apple. -/
def apple : Dict :=
  [("symbol", .str "AAPL"), ("name", .str "Apple Inc."), ("type", .str "stock"),
   ("current_price", .int 190), ("currency", .str "USD"), ("exchange", .str "NMS")]

/-- The index that Eastmoney always reports first. -/
def composite : Dict :=
  [("symbol", .str "000001"), ("name", .str "上证指数"), ("type", .str "cn_index"),
   ("current_price", .int 3250), ("currency", .str "CNY"), ("source", .str "东方财富")]

/-- A stock that a search has found. -/
def moutai : SymbolRow where
  id := "s1"
  tenantId := "t1"
  symbol := "600519.SS"
  name := .str "Kweichow Moutai"
  type := .str "stock"
  market := .str "CN"
  exchange := .str "SHH"
  currency := .str "USD"
  isActive := true

/-- The quote of Apple has been stored and is no longer cached. -/
def expired : FinanceState :=
  (FinanceState.init.next driver (.get (call "AAPL" "yfinance" apple "s1" "q1"))).next driver
    (.expire "t1" "AAPL")

/-- The sample call is answered. -/
lemma apple_answered :
    Answered driver (call "AAPL" "yfinance" apple "s1" "q1") FinanceState.init := by
  intro name items hserver hitems
  have hname : (call "AAPL" "yfinance" apple "s1" "q1").server = some "yfinance" := by
    decide +kernel
  rw [hname] at hserver
  cases hserver
  cases hitems
  constructor
  · intro item hfind
    cases hfind
    refine ⟨.inr ⟨?_, ?_⟩, ?_⟩ <;> decide +kernel
  · intro _ hnone
    exact absurd hnone (by decide +kernel)

end Sample

open Sample in
/-- Apple is asked for once more when its quote is no longer cached. -/
theorem quotes_belong_apple :
    (Belongs driver (call "AAPL" "yfinance" apple "s2" "q2") expired ↔
      WellServed driver (call "AAPL" "yfinance" apple "s2" "q2") expired) ∧ expired.Sound := by
  obtain ⟨hcalls, hguarded⟩ := quotes_belong_iff (s := expired) (.cons rfl (.cons rfl .nil))
  constructor
  · refine hcalls _ ⟨?_, ?_⟩
    · unfold Table.Free
      decide +kernel
    · unfold Table.Free
      decide +kernel
  · exact (hguarded (.cons (fun _ => apple_answered) rfl (.cons trivial rfl .nil))).1

open Sample in
/-- Asked for a stock, Eastmoney answers with the indices, and the first one is taken. -/
theorem index_served_for_stock : ¬ ∀ (driver : Driver) (ls : List QuoteLabel) (s : FinanceState),
    Steps (QuoteStep driver) .init ls s → ∀ c : QuoteCall, c.Fresh s.db → Belongs driver c s := by
  intro h
  have keyed : (FinanceState.init.next driver (.addSymbol moutai)).db.Keyed := by
    constructor <;> decide +kernel
  have fresh : (call "600519.SS" "eastmoney" composite "s2" "q1").Fresh
      (FinanceState.init.next driver (.addSymbol moutai)).db := by
    constructor <;> unfold Table.Free <;> decide +kernel
  have hserved := (belongs_iff keyed fresh).1 (h driver _ _ (.cons rfl .nil) _ fresh)
  obtain ⟨_, hfirst⟩ : _ ∧ _ := hserved "eastmoney" [composite] (by decide +kernel) rfl
  obtain ⟨_, hsecid, _⟩ := hfirst composite (by decide +kernel) rfl
  exact absurd hsecid (by decide +kernel)

end InstantBoard.Finance
