import InstantBoard.Finance.Boards
import InstantBoard.Lib.Transition

/-!
# The boards of the finance store

`getMarketIndices`, `getCommodities` and the two handlers of board events of `useFinanceStore`, what
`MarketIndices.vue` and `Commodities.vue` make of the lists, and the system of any number of tabs with
the service: calls side by side, answers that arrive late, events that are lost, repeated or out of
order.

`boards_shown`: whatever happens, a tab shows nothing or one list of its own tenant as a whole, each
index in one group; an index no collector came up with takes the whole panel down, and of the commodities
none is ever shown, since no row says which group it is in.
-/

namespace InstantBoard.Client

open Finance Transition

namespace FinanceBoards

/-! ## The store -/

/-- The refs of the store that the two panels read. -/
structure FinanceStore where
  marketIndices : List Dict
  commodities : List Dict
  marketIndicesError : Option String
  commoditiesError : Option String

namespace FinanceStore

def initial : FinanceStore where
  marketIndices := []
  commodities := []
  marketIndicesError := none
  commoditiesError := none

/-- The fields of an index that are copied. -/
def MARKET_INDEX_FIELDS : List String :=
  ["symbol", "name", "value", "change", "change_percent", "market_status", "region", "timestamp"]

/-- The fields of a commodity that are copied. -/
def COMMODITY_FIELDS : List String :=
  ["symbol", "name", "value", "change", "change_percent", "unit", "category", "timestamp"]

/-- The fields of an object that it has; the others are undefined. -/
def copyFields (fields : List String) (item : Dict) : Dict :=
  fields.filterMap fun field => (item.get? field).map (field, ·)

/-- The data of an event. -/
inductive BoardData where
  | single (item : Dict)
  | list (items : List Dict)

/-- A single object takes the place of the first with its symbol, or the last. -/
def place (items : List Dict) (item : Dict) : List Dict :=
  match items.findIdx? fun i => i.get? "symbol" = item.get? "symbol" with
  | some index => items.set index item
  | none => items ++ [item]

def updateMarketIndexFromSSE (s : FinanceStore) (data : BoardData) : FinanceStore :=
  { s with
    marketIndices :=
      match data with
      | .list items => items.map (copyFields MARKET_INDEX_FIELDS)
      | .single item => place s.marketIndices item }

def updateCommodityFromSSE (s : FinanceStore) (data : BoardData) : FinanceStore :=
  { s with
    commodities :=
      match data with
      | .list items => items.map (copyFields COMMODITY_FIELDS)
      | .single item => place s.commodities item }

/-- The handler of an event of a board. -/
def update (s : FinanceStore) (board : Board) (data : BoardData) : FinanceStore :=
  match board with
  | .indices => s.updateMarketIndexFromSSE data
  | .commodities => s.updateCommodityFromSSE data

/-- The rows a board shows. -/
def shown (s : FinanceStore) : Board → List Dict
  | .indices => s.marketIndices
  | .commodities => s.commodities

/-- `getMarketIndices` and `getCommodities`, up to their `await`. -/
def ask (s : FinanceStore) : Board → FinanceStore
  | .indices => { s with marketIndicesError := none }
  | .commodities => { s with commoditiesError := none }

/-- The rest of the two, with the data of the response or the message of the error. -/
def answer (s : FinanceStore) (board : Board) (response : Except String (List Dict)) : FinanceStore :=
  match board, response with
  | .indices, .ok data => { s with marketIndices := data }
  | .indices, .error message => { s with marketIndicesError := some message }
  | .commodities, .ok data => { s with commodities := data }
  | .commodities, .error message => { s with commoditiesError := some message }

end FinanceStore

/-! ## The panels -/

/-- `MARKET_REGION_GROUPS` -/
def MARKET_REGION_GROUPS : List (String × List String) :=
  [("US", ["US"]),
   ("CN", ["CN", "HK"]),
   ("APAC", ["JP", "KR", "IN"]),
   ("EU", ["GB", "DE", "FR"])]

/-- `COMMODITY_GROUPS` -/
def COMMODITY_GROUPS : List (String × String) :=
  [("precious_metal", "precious_metal"),
   ("energy", "energy"),
   ("industrial_metal", "industrial_metal"),
   ("agriculture", "agriculture")]

/-- `groupedIndices` -/
def groupedIndices (s : FinanceStore) : List (String × List Dict) :=
  MARKET_REGION_GROUPS.map fun (key, regions) =>
    (key, s.marketIndices.filter fun i => regions.any fun region => i.get? "region" = some (.str region))

/-- `groupedCommodities` -/
def groupedCommodities (s : FinanceStore) : List (String × List Dict) :=
  COMMODITY_GROUPS.map fun (key, category) =>
    (key, s.commodities.filter fun c => c.get? "category" = some (.str category))

/-- A number has `toFixed`, nothing else has. -/
def isNumber : Option Json → Bool
  | some (.int _) | some (.float _ _) => true
  | _ => false

/-- `formatNumber` does not throw; a text, a list or an object may be `>= 1_000` (`large`), and is
formatted by `toLocaleString` then or has become a number. -/
def formatsNumber (large : Json → Bool) : Option Json → Bool
  | some (.int _) | some (.float _ _) => true
  | some (.str s) => large (.str s)
  | some (.arr items) => large (.arr items)
  | some (.obj fields) => large (.obj fields)
  | some .null | some (.bool _) | none => false

/-- The row of an index renders. -/
def rowRenders (large : Json → Bool) (index : Dict) : Bool :=
  formatsNumber large (index.get? "value") && isNumber (index.get? "change_percent")

/-- What `MarketIndices.vue` comes to. -/
inductive Panel where
  | alert (message : String)
  | groups (groups : List (String × List Dict))
  | throws

def marketIndicesPanel (large : Json → Bool) (s : FinanceStore) : Panel :=
  match s.marketIndicesError with
  | some message => .alert message
  | none =>
    if ((groupedIndices s).flatMap (·.2)).all (rowRenders large) then .groups (groupedIndices s)
    else .throws

/-! ## The routes -/

/-- What the schemas of the responses make of values. -/
structure Schema where
  /-- a value that is not null, for `float` -/
  float : Json → Option Json
  isNumber_float : ∀ v w, float v = some w → isNumber (some w) = true
  /-- the `timestamp` of a row, parsed and printed again -/
  timestamp : Json → Option Json

/-- `float | None` -/
def Schema.optionalFloat (schema : Schema) (v : Json) : Option Json :=
  if v = .null then some .null else schema.float v

/-- The `MarketIndexResponse` of a row; `none` is a `ValidationError`. -/
def marketIndexResponse (schema : Schema) (row : Dict) : Option Dict := do
  let value ← schema.optionalFloat (row.getD "value" .null)
  let change ← schema.optionalFloat (row.getD "change" .null)
  let changePercent ← schema.optionalFloat (row.getD "change_percent" .null)
  let timestamp ← schema.timestamp (row.getD "timestamp" .null)
  pure [("symbol", row.getD "symbol" .null),
    ("name", row.getD "name" .null),
    ("value", value),
    ("change", change),
    ("change_percent", changePercent),
    ("market_status", row.getD "market_status" .null),
    ("region", row.getD "region" .null),
    ("timestamp", timestamp)]

/-- The `CommodityResponse` of a row. -/
def commodityResponse (schema : Schema) (row : Dict) : Option Dict := do
  let value ← schema.optionalFloat (row.getD "value" .null)
  let change ← schema.optionalFloat (row.getD "change" .null)
  let changePercent ← schema.optionalFloat (row.getD "change_percent" .null)
  let timestamp ← schema.timestamp (row.getD "timestamp" .null)
  pure [("symbol", row.getD "symbol" .null),
    ("name", row.getD "name" .null),
    ("value", value),
    ("change", change),
    ("change_percent", changePercent),
    ("unit", row.getD "unit" .null),
    ("timestamp", timestamp)]

/-- The data of a response to a call that got a list. -/
def responseData (schema : Schema) (listing : BoardList) : Option (List Dict) :=
  match listing.board with
  | .indices => listing.rows.mapM (marketIndexResponse schema)
  | .commodities => listing.rows.mapM (commodityResponse schema)

/-! ## The system -/

/-- A call of a tab that the cache did not answer. -/
structure Call where
  tab : Nat
  board : Board

/-- The answer to a call, with the millisecond it was given in. -/
structure Reply where
  tab : Nat
  board : Board
  time : Nat
  outcome : Except String BoardList

structure World where
  now : Nat
  service : BoardState
  calls : List Call
  replies : List Reply
  tabs : Nat → FinanceStore

inductive Action where
  | wait (ms : Nat)
  /-- The page is loaded in a tab. -/
  | load (tab : Nat)
  /-- A tab sends a call, which reads the cache. -/
  | ask (tab : Nat) (board : Board)
  /-- The collectors have answered a call. -/
  | finish (index : Nat) (clock : String → LocalTime) (batches : String → List String → Batch)
  /-- A call ends with another error. -/
  | fail (index : Nat) (message : String)
  | receive (index : Nat)
  /-- A tab receives an event that was pushed. -/
  | event (tab index : Nat)

namespace World

def initial : World where
  now := 0
  service := ⟨fun _ => none, []⟩
  calls := []
  replies := []
  tabs := fun _ => .initial

def setTab (w : World) (tab : Nat) (s : FinanceStore) : World :=
  { w with tabs := fun t => if t = tab then s else w.tabs t }

/-- The fallback texts of the two functions of the store. -/
def fallback : Board → String
  | .indices => "加载市场指数失败，请稍后重试。"
  | .commodities => "加载大宗商品失败，请稍后重试。"

variable (schema : Schema) (tenantOf : Nat → String)

/-- What a tab makes of an answer. -/
def response (r : Reply) : Except String (List Dict) :=
  match r.outcome with
  | .error message => .error message
  | .ok listing =>
    match responseData schema listing with
    | some data => .ok data
    | none => .error (fallback r.board)

def next (w : World) : Action → Option World
  | .wait ms => some { w with now := w.now + ms }
  | .load tab => some (w.setTab tab .initial)
  | .ask tab board =>
    let asked := w.setTab tab ((w.tabs tab).ask board)
    match w.service.cached board (tenantOf tab) w.now with
    | some listing => some { asked with replies := w.replies ++ [⟨tab, board, w.now, .ok listing⟩] }
    | none => some { asked with calls := w.calls ++ [⟨tab, board⟩] }
  | .finish index clock batches =>
    w.calls[index]?.map fun call =>
      let (outcome, service) :=
        w.service.publish call.board (tenantOf call.tab) w.now clock batches
      { w with
        service
        calls := w.calls.eraseIdx index
        replies := w.replies ++ [⟨call.tab, call.board, w.now, outcome⟩] }
  | .fail index message =>
    w.calls[index]?.map fun call =>
      { w with
        calls := w.calls.eraseIdx index
        replies := w.replies ++ [⟨call.tab, call.board, w.now, .error message⟩] }
  | .receive index =>
    w.replies[index]?.map fun r =>
      { w with replies := w.replies.eraseIdx index }.setTab r.tab
        ((w.tabs r.tab).answer r.board (response schema r))
  | .event tab index =>
    (w.service.pushed[index]?.filter fun listing => listing.tenantId = tenantOf tab).map fun listing =>
      w.setTab tab ((w.tabs tab).update listing.board (.list listing.rows))

end World

/-- One action. -/
def BoardStep (schema : Schema) (tenantOf : Nat → String) (w : World) (a : Action) (w' : World) :
    Prop :=
  w.next schema tenantOf a = some w'

/-! ## One list as a whole -/

/-- The collectors came up with the results of the list. -/
def Made (l : BoardList) : Prop :=
  ∃ batches, l.board.fetch batches = some l.results

/-- The rows are those of the list, as they were pushed or as they were answered. -/
def ShownFrom (schema : Schema) (l : BoardList) (rows : List Dict) : Prop :=
  rows = l.rows ∨ responseData schema l = some rows

/-- The rows are none, or those of one list that was pushed to the tenant. -/
def Whole (schema : Schema) (pushed : List BoardList) (tenantId : String) (board : Board)
    (rows : List Dict) : Prop :=
  rows = [] ∨ ∃ l ∈ pushed, l.board = board ∧ l.tenantId = tenantId ∧ ShownFrom schema l rows

variable {schema : Schema} {tenantOf : Nat → String} {w w' : World} {a : Action}
variable {l : BoardList} {rows : List Dict}

open FinanceStore in
/-- The row of an index has the fields of the schema. -/
lemma copyFields_indexRow (clock : String → LocalTime) (config : IndexConfig)
    (found : Option BatchItem) :
    copyFields MARKET_INDEX_FIELDS (indexRow clock config found) = indexRow clock config found := rfl

open FinanceStore in
/-- The row of a commodity has the fields of the schema. -/
lemma copyFields_commodityRow (config : CommodityConfig) (found : Option BatchItem) :
    copyFields COMMODITY_FIELDS (commodityRow config found) = commodityRow config found := rfl

/-- An event has every field of a row that is copied. -/
lemma update_shown (s : FinanceStore) (l : BoardList) :
    (s.update l.board (.list l.rows)).shown l.board = l.rows := by
  obtain ⟨board, tenantId, time, clock, results⟩ := l
  cases board with
  | indices =>
    refine Eq.trans List.map_map ?_
    exact List.map_congr_left fun config _ => copyFields_indexRow clock config _
  | commodities =>
    refine Eq.trans List.map_map ?_
    exact List.map_congr_left fun config _ => copyFields_commodityRow config _

/-- An event of one board leaves the other. -/
lemma update_shown_ne (s : FinanceStore) {board board' : Board} (data : FinanceStore.BoardData)
    (h : board' ≠ board) : (s.update board data).shown board' = s.shown board' := by
  cases board <;> cases board' <;> first | exact absurd rfl h | rfl

/-- An answer is shown on its board; one that fails leaves what is shown. -/
lemma answer_shown (s : FinanceStore) (board board' : Board) (answer : Except String (List Dict)) :
    (s.answer board answer).shown board' =
      if board' = board then
        match answer with
        | .ok data => data
        | .error _ => s.shown board'
      else s.shown board' := by
  cases board <;> cases board' <;> cases answer <;> rfl

/-- Asking leaves what is shown. -/
lemma ask_shown (s : FinanceStore) (board board' : Board) :
    (s.ask board).shown board' = s.shown board' := by
  cases board <;> cases board' <;> rfl

/-! ## The invariant -/

/-- Where a cached list, an answer and what a tab shows come from. -/
structure Traced (schema : Schema) (tenantOf : Nat → String) (w : World) : Prop where
  made : ∀ l ∈ w.service.pushed, Made l
  cached : ∀ key e, w.service.cache key = some e → e.value ∈ w.service.pushed ∧
    key = e.value.board.key e.value.tenantId ∧ e.deadline = some (e.value.time + 60000)
  replies : ∀ r ∈ w.replies, ∀ l, r.outcome = .ok l → l ∈ w.service.pushed ∧ l.board = r.board ∧
    l.tenantId = tenantOf r.tab ∧ r.time ≤ l.time + 60000
  tabs : ∀ tab board,
    Whole schema w.service.pushed (tenantOf tab) board ((w.tabs tab).shown board)

/-- At the start nothing is shown. -/
lemma Traced.initial : Traced schema tenantOf .initial where
  made := fun l hl => nomatch hl
  cached := fun key e he => nomatch he
  replies := fun r hr => nomatch hr
  tabs := by
    intro tab board
    left
    cases board <;> rfl

/-- Only what a tab shows has changed. -/
lemma Traced.setTab (h : Traced schema tenantOf w) {tab : Nat} {s : FinanceStore}
    (hs : ∀ board, Whole schema w.service.pushed (tenantOf tab) board (s.shown board)) :
    Traced schema tenantOf (w.setTab tab s) where
  made := h.made
  cached := h.cached
  replies := h.replies
  tabs := by
    intro t board
    show Whole _ _ _ _ ((if t = tab then s else w.tabs t).shown board)
    by_cases ht : t = tab
    · rw [if_pos ht, ht]
      exact hs board
    · rw [if_neg ht]
      exact h.tabs t board

/-- One more answer. -/
lemma Traced.addReply (h : Traced schema tenantOf w) {r : Reply} (hr : ∀ l, r.outcome = .ok l →
      l ∈ w.service.pushed ∧ l.board = r.board ∧ l.tenantId = tenantOf r.tab ∧
        r.time ≤ l.time + 60000) (calls : List Call) :
    Traced schema tenantOf { w with calls, replies := w.replies ++ [r] } where
  made := h.made
  cached := h.cached
  replies := by
    intro r' hr'
    rcases List.mem_append.1 hr' with hr' | hr'
    · exact h.replies r' hr'
    · cases List.mem_singleton.1 hr'
      exact hr
  tabs := h.tabs

/-- A list that is published is cached and pushed for the first time. -/
lemma Traced.publish (h : Traced schema tenantOf w) {listing : BoardList} (hmade : Made listing) :
    Traced schema tenantOf { w with
      service :=
        { cache := Keyspace.set w.service.cache listing.time
            (listing.board.key listing.tenantId) listing listing.board.ttl
          pushed := w.service.pushed ++ [listing] } } where
  made := by
    intro l hl
    rcases List.mem_append.1 hl with hl | hl
    · exact h.made l hl
    · cases List.mem_singleton.1 hl
      exact hmade
  cached := by
    intro key e he
    dsimp only at he
    by_cases hkey : key = listing.board.key listing.tenantId
    · rw [hkey, Keyspace.set_same] at he
      cases he
      refine ⟨List.mem_append_right _ List.mem_cons_self, hkey, ?_⟩
      cases listing.board <;> rfl
    · rw [Keyspace.set_ne hkey] at he
      obtain ⟨hl, hrest⟩ := h.cached key e he
      exact ⟨List.mem_append_left _ hl, hrest⟩
  replies := by
    intro r hr l hl
    obtain ⟨hpushed, hrest⟩ := h.replies r hr l hl
    exact ⟨List.mem_append_left _ hpushed, hrest⟩
  tabs := by
    intro tab board
    rcases h.tabs tab board with hnone | ⟨l, hl, hrest⟩
    · exact .inl hnone
    · exact .inr ⟨l, List.mem_append_left _ hl, hrest⟩

/-- A list that answers from the cache is the call's own, and less than a minute old. -/
lemma Traced.of_cached (h : Traced schema tenantOf w) {board : Board} {tenantId : String}
    (hl : w.service.cached board tenantId w.now = some l) :
    l ∈ w.service.pushed ∧ l.board = board ∧ l.tenantId = tenantId ∧ w.now ≤ l.time + 60000 := by
  obtain ⟨e, he, rfl⟩ := Option.map_eq_some_iff.1 hl
  obtain ⟨hentry, hlive⟩ := Keyspace.find_eq_some.1 he
  obtain ⟨hpushed, hkey, hdeadline⟩ := h.cached _ e hentry
  obtain ⟨hboard, htenant⟩ := Board.key_inj hkey
  refine ⟨hpushed, hboard.symm, htenant.symm, ?_⟩
  unfold Keyspace.Entry.live at hlive
  rw [hdeadline] at hlive
  simpa using hlive

/-- An answer shows one whole list. -/
lemma whole_answer (h : Traced schema tenantOf w) {r : Reply} (hr : r ∈ w.replies) (board : Board) :
    Whole schema w.service.pushed (tenantOf r.tab) board
      (((w.tabs r.tab).answer r.board (World.response schema r)).shown board) := by
  rw [answer_shown]
  split
  · rename_i hboard
    unfold World.response
    cases houtcome : r.outcome with
    | error message => exact h.tabs r.tab board
    | ok listing =>
      dsimp only
      cases hdata : responseData schema listing with
      | none => exact h.tabs r.tab board
      | some data =>
        obtain ⟨hpushed, hof, htenant, _⟩ := h.replies r hr listing houtcome
        exact .inr ⟨listing, hpushed, hof.trans hboard.symm, htenant, .inr hdata⟩
  · exact h.tabs r.tab board

/-- A step keeps what is shown traced to the lists that were made. -/
lemma Traced.step (h : Traced schema tenantOf w) (hstep : BoardStep schema tenantOf w a w') :
    Traced schema tenantOf w' := by
  unfold BoardStep at hstep
  cases a with
  | wait ms =>
    cases hstep
    exact ⟨h.made, h.cached, h.replies, h.tabs⟩
  | load tab =>
    cases hstep
    apply h.setTab
    intro board
    left
    cases board <;> rfl
  | ask tab board =>
    have hasked : Traced schema tenantOf (w.setTab tab ((w.tabs tab).ask board)) := by
      apply h.setTab
      intro board'
      rw [ask_shown]
      exact h.tabs tab board'
    unfold World.next at hstep
    dsimp only at hstep
    split at hstep
    · rename_i listing hcached
      cases hstep
      refine hasked.addReply ?_ _
      intro l hl
      cases hl
      exact h.of_cached hcached
    · cases hstep
      exact ⟨hasked.made, hasked.cached, hasked.replies, hasked.tabs⟩
  | finish index clock batches =>
    obtain ⟨call, hcall, rfl⟩ := Option.map_eq_some_iff.1 hstep
    unfold BoardState.publish
    cases hfetch : call.board.fetch batches with
    | none => exact h.addReply (fun l hl => by cases hl) _
    | some results =>
      have hpublished := @Traced.publish schema tenantOf w h
        ⟨call.board, tenantOf call.tab, w.now, clock, results⟩ ⟨batches, hfetch⟩
      refine hpublished.addReply ?_ _
      intro l hl
      cases hl
      exact ⟨List.mem_append_right _ List.mem_cons_self, rfl, rfl, Nat.le_add_right _ _⟩
  | fail index message =>
    obtain ⟨call, hcall, rfl⟩ := Option.map_eq_some_iff.1 hstep
    exact h.addReply (fun l hl => by cases hl) _
  | receive index =>
    obtain ⟨r, hr, rfl⟩ := Option.map_eq_some_iff.1 hstep
    have hrest : Traced schema tenantOf { w with replies := w.replies.eraseIdx index } :=
      ⟨h.made, h.cached, fun r' hr' => h.replies r' (List.mem_of_mem_eraseIdx hr'), h.tabs⟩
    exact hrest.setTab fun board => whole_answer h (List.mem_of_getElem? hr) board
  | event tab index =>
    obtain ⟨listing, hlisting, rfl⟩ := Option.map_eq_some_iff.1 hstep
    obtain ⟨hget, htenant⟩ := Option.filter_eq_some_iff.1 hlisting
    apply h.setTab
    intro board
    by_cases hboard : board = listing.board
    · rw [hboard, update_shown]
      exact .inr ⟨listing, List.mem_of_getElem? hget, rfl, of_decide_eq_true htenant, .inl rfl⟩
    · rw [update_shown_ne _ _ hboard]
      exact h.tabs tab board

/-! ## What is shown -/

/-- The symbol and the region of a row. -/
def label (row : Dict) : Option Json × Option Json :=
  (row.get? "symbol", row.get? "region")

/-- The symbol and the region of an index are those of the configuration. -/
lemma label_indexRow (clock : String → LocalTime) (config : IndexConfig) (found : Option BatchItem) :
    label (indexRow clock config found) = (some (.str config.symbol), some (.str config.region)) := rfl

/-- A value is shown as it is or as a float. -/
def SameValue (schema : Schema) (found : Json) (shown : Option Json) : Prop :=
  ∃ v, shown = some v ∧ (v = found ∨ schema.optionalFloat found = some v)

/-- The values of a row that was answered. -/
lemma marketIndexResponse_eq_some {row response : Dict}
    (h : marketIndexResponse schema row = some response) :
    label response = (some (row.getD "symbol" .null), some (row.getD "region" .null)) ∧
      SameValue schema (row.getD "value" .null) (response.get? "value") ∧
      SameValue schema (row.getD "change_percent" .null) (response.get? "change_percent") := by
  simp only [marketIndexResponse, Option.bind_eq_bind, Option.bind_eq_some_iff, Option.pure_def,
    Option.some.injEq] at h
  obtain ⟨value, hvalue, change, hchange, percent, hpercent, timestamp, htimestamp, rfl⟩ := h
  exact ⟨rfl, ⟨value, rfl, .inr hvalue⟩, ⟨percent, rfl, .inr hpercent⟩⟩

/-- The response of a commodity has no category. -/
lemma commodityResponse_category {row response : Dict}
    (h : commodityResponse schema row = some response) : response.get? "category" = none := by
  simp only [commodityResponse, Option.bind_eq_bind, Option.bind_eq_some_iff, Option.pure_def,
    Option.some.injEq] at h
  obtain ⟨value, hvalue, change, hchange, percent, hpercent, timestamp, htimestamp, rfl⟩ := h
  rfl

/-- No row of a commodity has a group. -/
lemma ShownFrom.category (h : ShownFrom schema l rows) (hboard : l.board = .commodities) {row : Dict}
    (hrow : row ∈ rows) : row.get? "category" = none := by
  obtain ⟨board, tenantId, time, clock, results⟩ := l
  obtain rfl : board = .commodities := hboard
  rcases h with rfl | hdata
  · obtain ⟨config, _, rfl⟩ := List.mem_map.1 hrow
    rfl
  · obtain ⟨r, _, hr⟩ := Fallible.exists_of_mem_map_mapM hdata hrow
    exact commodityResponse_category hr

/-- The rows of the indices are those of the configuration. -/
lemma ShownFrom.labels (h : ShownFrom schema l rows) (hboard : l.board = .indices) :
    rows.map label = MARKET_INDICES_CONFIG.map fun config =>
      (some (.str config.symbol), some (.str config.region)) := by
  obtain ⟨board, tenantId, time, clock, results⟩ := l
  obtain rfl : board = .indices := hboard
  rcases h with rfl | hdata
  · refine Eq.trans List.map_map ?_
    exact List.map_congr_left fun config _ => label_indexRow clock config _
  · refine (Fallible.map_of_mapM hdata fun r _ hr => (marketIndexResponse_eq_some hr).1).trans ?_
    refine Eq.trans List.map_map ?_
    rfl

/-- The rows of a group, by what says which group they are in. -/
lemma symbols_of_group (rows : List Dict) (regions : List String) :
    (rows.filter fun i => regions.any fun region => i.get? "region" = some (.str region)).map
        (fun i => i.get? "symbol") =
      ((rows.map label).filter fun r => regions.any fun region => r.2 = some (.str region)).map
        (·.1) := by
  rw [List.filter_map, List.map_map]
  rfl

/-- Each index is in one group. -/
lemma symbols_of_groups {s : FinanceStore} (h : s.marketIndices.map label =
      MARKET_INDICES_CONFIG.map fun config =>
        (some (.str config.symbol), some (.str config.region))) :
    (((groupedIndices s).flatMap (·.2)).map fun i => i.get? "symbol").Perm
      (MARKET_INDICES_CONFIG.map fun config => some (.str config.symbol)) := by
  have hgroups : ((groupedIndices s).flatMap (·.2)).map (fun i => i.get? "symbol") =
      MARKET_REGION_GROUPS.flatMap fun group =>
        ((MARKET_INDICES_CONFIG.map fun config =>
          ((some (.str config.symbol), some (.str config.region)) : Option Json × Option Json)).filter
            fun r => group.2.any fun region => r.2 = some (.str region)).map (·.1) := by
    rw [groupedIndices, List.flatMap_map, List.map_flatMap]
    apply List.flatMap_congr
    intro group _
    rw [← h]
    exact symbols_of_group s.marketIndices group.2
  rw [hgroups]
  decide

/-! ## Whether the panel renders -/

/-- The price and the change of an item are numbers. -/
def Quoted (found : Option BatchItem) : Prop :=
  isNumber (some (indexValue found "current_price")) = true ∧
    isNumber (some (indexValue found "change_percent")) = true

/-- The row of an index in the list. -/
structure RowOf (schema : Schema) (l : BoardList) (config : IndexConfig) (row : Dict) : Prop where
  region : row.get? "region" = some (.str config.region)
  value : SameValue schema (indexValue (Board.find l.results config.symbol) "current_price")
    (row.get? "value")
  changePercent : SameValue schema
    (indexValue (Board.find l.results config.symbol) "change_percent") (row.get? "change_percent")

/-- A response of an index has the values of its row. -/
lemma rowOf_response {config : IndexConfig} {row : Dict} (h : marketIndexResponse schema
      (indexRow l.clock config (Board.find l.results config.symbol)) = some row) :
    RowOf schema l config row := by
  obtain ⟨hlabel, hvalue, hpercent⟩ := marketIndexResponse_eq_some h
  exact ⟨(Prod.mk.inj hlabel).2, hvalue, hpercent⟩

/-- Every index has a row. -/
lemma ShownFrom.exists_row (h : ShownFrom schema l rows) (hboard : l.board = .indices)
    {config : IndexConfig} (hconfig : config ∈ MARKET_INDICES_CONFIG) :
    ∃ row ∈ rows, RowOf schema l config row := by
  obtain ⟨board, tenantId, time, clock, results⟩ := l
  obtain rfl : board = .indices := hboard
  have hmem : indexRow clock config (Board.find results config.symbol) ∈
      (BoardList.mk .indices tenantId time clock results).rows := List.mem_map_of_mem hconfig
  rcases h with rfl | hdata
  · exact ⟨_, hmem, rfl, ⟨_, rfl, .inl rfl⟩, ⟨_, rfl, .inl rfl⟩⟩
  · have hresponse := List.mem_map_of_mem (f := marketIndexResponse schema) hmem
    rw [Fallible.map_eq_of_mapM hdata] at hresponse
    obtain ⟨row, hrow, hmade⟩ := List.mem_map.1 hresponse
    exact ⟨row, hrow, rowOf_response hmade.symm⟩

/-- Every row is that of an index. -/
lemma ShownFrom.of_row (h : ShownFrom schema l rows) (hboard : l.board = .indices) {row : Dict}
    (hrow : row ∈ rows) : ∃ config ∈ MARKET_INDICES_CONFIG, RowOf schema l config row := by
  obtain ⟨board, tenantId, time, clock, results⟩ := l
  obtain rfl : board = .indices := hboard
  rcases h with rfl | hdata
  · obtain ⟨config, hconfig, rfl⟩ := List.mem_map.1 hrow
    exact ⟨config, hconfig, rfl, ⟨_, rfl, .inl rfl⟩, ⟨_, rfl, .inl rfl⟩⟩
  · obtain ⟨r, hr, hmade⟩ := Fallible.exists_of_mem_map_mapM hdata hrow
    obtain ⟨config, hconfig, rfl⟩ := List.mem_map.1 hr
    exact ⟨config, hconfig, rowOf_response hmade⟩

/-- A number can be formatted. -/
lemma formatsNumber_of_isNumber (large : Json → Bool) {v : Option Json} (h : isNumber v = true) :
    formatsNumber large v = true := by
  unfold isNumber at h
  split at h
  · rfl
  · rfl
  · cases h

/-- A number stays one as a float. -/
lemma isNumber_optionalFloat {v w : Json} (h : isNumber (some v) = true)
    (hw : schema.optionalFloat v = some w) : isNumber (some w) = true := by
  unfold Schema.optionalFloat at hw
  split at hw
  · rename_i hnull
    rw [hnull] at h
    cases h
  · exact schema.isNumber_float v w hw

/-- A number is shown as a number. -/
lemma SameValue.isNumber {found : Json} {shown : Option Json} (h : SameValue schema found shown)
    (hfound : isNumber (some found) = true) : isNumber shown = true := by
  obtain ⟨v, rfl, hv⟩ := h
  rcases hv with rfl | hv
  · exact hfound
  · exact isNumber_optionalFloat hfound hv

/-- A null is shown as a null. -/
lemma SameValue.null {shown : Option Json} (h : SameValue schema .null shown) :
    shown = some .null := by
  obtain ⟨v, rfl, hv⟩ := h
  rcases hv with rfl | hv
  · rfl
  · exact congrArg some (Option.some.inj hv).symm

/-- The rows of all groups are the rows of the board. -/
lemma mem_groups {s : FinanceStore} (h : ShownFrom schema l s.marketIndices)
    (hboard : l.board = .indices) {row : Dict} :
    row ∈ (groupedIndices s).flatMap (·.2) ↔ row ∈ s.marketIndices := by
  have hcovered : ∀ config ∈ MARKET_INDICES_CONFIG, ∃ group ∈ MARKET_REGION_GROUPS,
      config.region ∈ group.2 := by decide
  rw [groupedIndices, List.flatMap_map, List.mem_flatMap]
  constructor
  · intro ⟨group, _, hrow⟩
    exact List.mem_of_mem_filter hrow
  · intro hrow
    obtain ⟨config, hconfig, hof⟩ := h.of_row hboard hrow
    obtain ⟨group, hgroup, hregion⟩ := hcovered config hconfig
    refine ⟨group, hgroup, List.mem_filter.2 ⟨hrow, List.any_eq_true.2 ⟨config.region, hregion, ?_⟩⟩⟩
    exact decide_eq_true hof.region

variable {s : FinanceStore} (large : Json → Bool)

/-- An index that no collector came up with takes the panel down. -/
lemma panel_throws (h : ShownFrom schema l s.marketIndices) (hboard : l.board = .indices)
    (herror : s.marketIndicesError = none) {config : IndexConfig}
    (hconfig : config ∈ MARKET_INDICES_CONFIG)
    (hmissing : Board.find l.results config.symbol = none) :
    marketIndicesPanel large s = .throws := by
  obtain ⟨row, hrow, hof⟩ := h.exists_row hboard hconfig
  have hvalue := hof.value
  rw [hmissing] at hvalue
  unfold marketIndicesPanel
  rw [herror]
  dsimp only
  rw [if_neg]
  intro hall
  have hrenders := List.all_eq_true.1 hall row ((mem_groups h hboard).2 hrow)
  unfold rowRenders at hrenders
  rw [SameValue.null hvalue] at hrenders
  cases hrenders

/-- A board on which every index has its numbers is shown. -/
lemma panel_groups (h : ShownFrom schema l s.marketIndices) (hboard : l.board = .indices)
    (herror : s.marketIndicesError = none) (hquoted : ∀ config ∈ MARKET_INDICES_CONFIG,
      Quoted (Board.find l.results config.symbol)) :
    marketIndicesPanel large s = .groups (groupedIndices s) := by
  unfold marketIndicesPanel
  rw [herror]
  dsimp only
  rw [if_pos]
  apply List.all_eq_true.2
  intro row hrow
  obtain ⟨config, hconfig, hof⟩ := h.of_row hboard ((mem_groups h hboard).1 hrow)
  obtain ⟨hprice, hchange⟩ := hquoted config hconfig
  unfold rowRenders
  rw [formatsNumber_of_isNumber large (hof.value.isNumber hprice),
    hof.changePercent.isNumber hchange]
  rfl

/-! ## Every run -/

/-- What a tab shows of the boards. -/
structure BoardsShown (schema : Schema) (tenantOf : Nat → String) (large : Json → Bool) (w : World)
    (tab : Nat) : Prop where
  whole : ∀ board, Whole schema w.service.pushed (tenantOf tab) board ((w.tabs tab).shown board)
  /-- Each index is in one group. -/
  once : (w.tabs tab).marketIndices ≠ [] →
    (((groupedIndices (w.tabs tab)).flatMap (·.2)).map fun i => i.get? "symbol").Perm
      (MARKET_INDICES_CONFIG.map fun config => some (.str config.symbol))
  throws : ∀ l, l.board = .indices → ShownFrom schema l (w.tabs tab).marketIndices →
    (w.tabs tab).marketIndicesError = none →
    (∃ config ∈ MARKET_INDICES_CONFIG, Board.find l.results config.symbol = none) →
      marketIndicesPanel large (w.tabs tab) = .throws
  renders : ∀ l, l.board = .indices → ShownFrom schema l (w.tabs tab).marketIndices →
    (w.tabs tab).marketIndicesError = none →
    (∀ config ∈ MARKET_INDICES_CONFIG, Quoted (Board.find l.results config.symbol)) →
      marketIndicesPanel large (w.tabs tab) = .groups (groupedIndices (w.tabs tab))
  noCommodity : ∀ group ∈ groupedCommodities (w.tabs tab), group.2 = []

/-- Whatever the collectors come up with, and however calls, answers and events interleave: every list
was made by the collectors, every answer is at most a minute old when it is given, and every tab shows
its boards as `BoardsShown` says. -/
theorem boards_shown (schema : Schema) (tenantOf : Nat → String) (large : Json → Bool) {w : World}
    (h : Reachable (BoardStep schema tenantOf) .initial w) :
    (∀ l ∈ w.service.pushed, Made l) ∧
    (∀ r ∈ w.replies, ∀ l, r.outcome = .ok l → l ∈ w.service.pushed ∧ r.time ≤ l.time + 60000) ∧
    ∀ tab, BoardsShown schema tenantOf large w tab := by
  have htraced : Traced schema tenantOf w := h.invariant Traced.step .initial
  refine ⟨htraced.made, ?_, ?_⟩
  · intro r hr l hl
    obtain ⟨hpushed, _, _, htime⟩ := htraced.replies r hr l hl
    exact ⟨hpushed, htime⟩
  · intro tab
    refine ⟨htraced.tabs tab, ?_, ?_, ?_, ?_⟩
    · intro hne
      rcases htraced.tabs tab .indices with hnone | ⟨l, _, hboard, _, hfrom⟩
      · exact absurd hnone hne
      · exact symbols_of_groups (hfrom.labels hboard)
    · intro l hboard hfrom herror ⟨config, hconfig, hmissing⟩
      exact panel_throws large hfrom hboard herror hconfig hmissing
    · intro l hboard hfrom herror hquoted
      exact panel_groups large hfrom hboard herror hquoted
    · intro group hgroup
      obtain ⟨g, _, rfl⟩ := List.mem_map.1 hgroup
      apply List.filter_eq_nil_iff.2
      intro row hrow hcategory
      rcases htraced.tabs tab .commodities with hnone | ⟨l, _, hboard, _, hfrom⟩
      · have hempty : (w.tabs tab).commodities = [] := hnone
        rw [hempty] at hrow
        cases hrow
      · rw [hfrom.category hboard hrow] at hcategory
        cases of_decide_eq_true hcategory

namespace Sample

/-- Numbers stay as they are. -/
def plain : Schema where
  float v := if isNumber (some v) = true then some v else none
  isNumber_float := by
    intro v w h
    split at h
    · cases h
      assumption
    · cases h
  timestamp := some

/-- What Yahoo has for one index. -/
def item : BatchItem where
  fields := [("symbol", .str "^GSPC"), ("current_price", .int 5000), ("change", .int 10),
    ("change_percent", .int 1), ("timestamp", .str "2025-01-01T00:00:00Z")]
  textSymbol := .inr ⟨"^GSPC", rfl⟩

/-- Eastmoney fails, and Yahoo knows one index. -/
def batches (name : String) (_ : List String) : Batch :=
  if name = "yfinance" then .ok (some [item]) else .error ()

def monday (_ : String) : LocalTime := ⟨0, 0⟩

def listing : BoardList := ⟨.indices, "t1", 0, monday, [item]⟩

def oneTenant (_ : Nat) : String := "t1"

/-- A call that is not answered from the cache. -/
def actions : List Action :=
  [.ask 0 .indices, .finish 0 monday batches, .receive 0]

end Sample

open Sample in
/-- Twelve indices are missing: the list is there, and the panel is not. -/
theorem boards_shown_partial : ∃ w, Reachable (BoardStep plain oneTenant) .initial w ∧
    (w.tabs 0).marketIndices.length = 13 ∧
    marketIndicesPanel (fun _ => false) (w.tabs 0) = .throws := by
  have hrun : Steps (BoardStep plain oneTenant) .initial actions _ :=
    .cons rfl (.cons rfl (.cons rfl .nil))
  have hshown := (boards_shown plain oneTenant (fun _ => false) ⟨_, hrun⟩).2.2 0
  refine ⟨_, ⟨_, hrun⟩, rfl, hshown.throws listing rfl (.inr rfl) rfl ?_⟩
  exact ⟨⟨"^DJI", "Dow Jones Industrial Average", "US"⟩, .tail _ (.head _), rfl⟩

end FinanceBoards

end InstantBoard.Client
