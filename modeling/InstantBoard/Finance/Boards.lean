import InstantBoard.Finance.Indices
import InstantBoard.Lib.Keyspace

/-!
# The boards

`get_market_indices` and `get_commodities` differ in their configuration, in how the collectors are
asked and in what a row has; both keep the rows for a minute under a key of the tenant and push them. A
call reads the cache before it asks the collectors, and writes it afterwards: calls run side by side, and
each that found nothing makes a list of its own. Its two halves without a break are
`get_market_indices` (`getMarketIndices_eq`).

A list is kept with what it was made of, which the code does not record (`BoardList`).
-/

namespace InstantBoard.Finance

/-! ## Commodities -/

structure CommodityConfig where
  symbol : String
  name : String
  unit : String

def COMMODITIES_CONFIG : List CommodityConfig :=
  [⟨"GC=F", "黄金期货", "USD/oz"⟩,
   ⟨"SI=F", "白银期货", "USD/oz"⟩,
   ⟨"CL=F", "WTI原油期货", "USD/bbl"⟩,
   ⟨"BZ=F", "Brent原油期货", "USD/bbl"⟩,
   ⟨"NG=F", "天然气期货", "USD/MMBtu"⟩,
   ⟨"HG=F", "铜期货", "USD/lb"⟩,
   ⟨"ZS=F", "大豆期货", "USD/bushel"⟩]

/-- `_get_failover_chain` for the commodities. -/
def commoditiesChain : List String :=
  ["yfinance", "alpha_vantage"]

/-- `_fetch_with_failover_batch`: the first batch that has an item. -/
def fetchWithFailoverBatch (batches : String → List String → Batch) (symbols : List String) :
    List String → Option (List BatchItem)
  | [] => none
  | name :: chain =>
    match batches name symbols with
    | .ok (some (item :: items)) => some (item :: items)
    | .ok (some []) | .ok none | .error _ => fetchWithFailoverBatch batches symbols chain

/-- `_fetch_commodities_with_failover` -/
def fetchCommoditiesWithFailover (batches : String → List String → Batch) :
    Option (List BatchItem) :=
  fetchWithFailoverBatch batches (COMMODITIES_CONFIG.map (·.symbol)) commoditiesChain

/-- The row of a commodity. -/
def commodityRow (config : CommodityConfig) (found : Option BatchItem) : Dict :=
  [("symbol", .str config.symbol),
   ("name", .str config.name),
   ("value", indexValue found "current_price"),
   ("change", indexValue found "change"),
   ("change_percent", indexValue found "change_percent"),
   ("unit", .str config.unit),
   ("timestamp", indexValue found "timestamp")]

/-! ## Boards -/

inductive Board where
  | indices
  | commodities
  deriving DecidableEq

namespace Board

/-- `RedisKeys.market_indices_key` and `RedisKeys.commodities_key` -/
def key : Board → String → String
  | .indices, tenantId => "t:" ++ tenantId ++ ":market_indices"
  | .commodities, tenantId => "t:" ++ tenantId ++ ":commodities"

/-- The seconds the rows are kept: `REDIS_TTL_MARKET_INDEX`, `REDIS_TTL_COMMODITY`. -/
def ttl : Board → Nat
  | .indices => 60
  | .commodities => 60

/-- The message of the `ServiceUnavailable`. -/
def unavailable : Board → String
  | .indices => indicesUnavailable
  | .commodities => "Commodity data temporarily unavailable"

/-- What the collectors come up with. -/
def fetch (batches : String → List String → Batch) : Board → Option (List BatchItem)
  | .indices => (fetchIndicesWithFailover batches).1
  | .commodities => fetchCommoditiesWithFailover batches

/-- The first result for a symbol. -/
def find (results : List BatchItem) (symbol : String) : Option BatchItem :=
  results.find? fun r => hasSymbol symbol r.fields

/-- `formatted` -/
def format (clock : String → LocalTime) (results : List BatchItem) : Board → List Dict
  | .indices => MARKET_INDICES_CONFIG.map fun config =>
      indexRow clock config (find results config.symbol)
  | .commodities => COMMODITIES_CONFIG.map fun config =>
      commodityRow config (find results config.symbol)

/-- Two texts with different ends of one length differ. -/
lemma append_last_ne {a b s t : String} (hlen : s.toList.length = t.toList.length)
    (hne : s ≠ t) : a ++ s ≠ b ++ t := by
  intro h
  have hlist := congrArg String.toList h
  rw [String.toList_append, String.toList_append] at hlist
  obtain ⟨_, hst⟩ := List.append_inj' hlist hlen
  exact hne (String.toList_injective hst)

/-- The keys tell the boards and the tenants apart. -/
lemma key_inj {board board' : Board} {tenantId tenantId' : String}
    (h : board.key tenantId = board'.key tenantId') : board = board' ∧ tenantId = tenantId' := by
  have hsuffix : ∀ {a b s : String}, "t:" ++ a ++ s = "t:" ++ b ++ s → a = b := by
    intro a b s h
    have hlist := congrArg String.toList h
    simp only [String.toList_append] at hlist
    exact String.toList_injective (List.append_cancel_left (List.append_cancel_right hlist))
  have hdiffer : ∀ a b : String, "t:" ++ a ++ ":market_indices" ≠ "t:" ++ b ++ ":commodities" := by
    intro a b
    have hindices : (":market_indices" : String) = ":market_indi" ++ "ces" := by decide
    have hcommodities : (":commodities" : String) = ":commodit" ++ "ies" := by decide
    rw [hindices, hcommodities, ← String.append_assoc, ← String.append_assoc]
    exact append_last_ne (by decide) (by decide)
  cases board with
  | indices =>
    cases board' with
    | indices => exact ⟨rfl, hsuffix h⟩
    | commodities => exact absurd h (hdiffer _ _)
  | commodities =>
    cases board' with
    | indices => exact absurd h.symm (hdiffer _ _)
    | commodities => exact ⟨rfl, hsuffix h⟩

end Board

/-! ## Calls -/

/-- A list that a call has made. -/
structure BoardList where
  board : Board
  tenantId : String
  /-- The millisecond of its SET. -/
  time : Nat
  clock : String → LocalTime
  results : List BatchItem

/-- The rows that are cached, pushed and returned. -/
def BoardList.rows (l : BoardList) : List Dict :=
  l.board.format l.clock l.results

/-- The cached lists, and the lists pushed. -/
structure BoardState where
  cache : Keyspace.Space String BoardList
  pushed : List BoardList

/-- The first half of a call, up to the collectors. -/
def BoardState.cached (s : BoardState) (board : Board) (tenantId : String) (now : Nat) :
    Option BoardList :=
  (Keyspace.find s.cache now (board.key tenantId)).map (·.value)

/-- The second half, with what the collectors came up with. -/
def BoardState.publish (s : BoardState) (board : Board) (tenantId : String) (now : Nat)
    (clock : String → LocalTime) (batches : String → List String → Batch) :
    Except String BoardList × BoardState :=
  match board.fetch batches with
  | none => (.error board.unavailable, s)
  | some results =>
    let listing := ⟨board, tenantId, now, clock, results⟩
    (.ok listing,
      { cache := Keyspace.set s.cache now (board.key tenantId) listing board.ttl
        pushed := s.pushed ++ [listing] })

/-- The two halves without a break are the function of the service. -/
lemma getMarketIndices_eq (s : BoardState) (batches : String → List String → Batch)
    (now : Nat) (clock : String → LocalTime) (tenantId : String) (pushed : List (String × List Dict)) :
    (getMarketIndices batches clock tenantId
      { cache := fun t => (s.cached .indices t now).map fun l => .arr (l.rows.map .obj), pushed }).1 =
      match s.cached .indices tenantId now with
      | some listing => .ok (.arr (listing.rows.map .obj))
      | none => (s.publish .indices tenantId now clock batches).1.map fun l => .arr (l.rows.map .obj) := by
  unfold getMarketIndices
  dsimp only
  cases s.cached .indices tenantId now with
  | some listing => rfl
  | none =>
    unfold BoardState.publish Board.fetch
    cases (fetchIndicesWithFailover batches).1 with
    | none => rfl
    | some results => rfl

end InstantBoard.Finance
