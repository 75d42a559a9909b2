import InstantBoard.Finance.Quotes
import InstantBoard.Lib.Query

/-!
# The watchlist

`get_watchlist`, `add_to_watchlist`, `remove_from_watchlist` and `reorder_watchlist` of
`FinanceService`, with the schema that the HTTP route puts before an add. The list is ordered by
`display_order`; items with the same order stand as they like.

A new item is meant to go to the end. `max_order_result.scalar() or -1` takes a largest order of 0 for
an empty list, and the schema fills in an order of 0 before the service can choose one, so an add goes
to the end exactly where neither happens (`addsLast_iff`).
-/

namespace InstantBoard.Finance

open Fallible Query Transition

def MAX_WATCHLIST_ITEMS : Nat := 512

/-! ## Tables -/

/-- A row of `watchlist_items`. -/
structure WatchlistRow where
  id : String
  tenantId : String
  userId : String
  symbolId : String
  displayOrder : Int
  notes : Option String
  alertThresholdPercent : Json
  createdAt : Int

/-- The rows, and the keys of the tenants and users they refer to. -/
structure WatchlistTables where
  tenants : List String
  users : List String
  symbols : List SymbolRow
  items : List WatchlistRow

/-- What Python and the database make of texts and numbers. -/
structure Texts where
  /-- `s.upper()` -/
  upper : String → String
  /-- `upper(s)` in SQL -/
  sqlUpper : String → String
  /-- The key that a text for a UUID column stands for. -/
  uuid : String → Option String
  /-- What a `NUMERIC(8, 4)` column holds of a value. -/
  percent : Json → Option Json

inductive WatchlistError where
  | symbolNotFound (message : String)
  | validationError (message : String) (details : List (String × String))
  | duplicateWatchlistItem (message : String)
  | db (e : DbError)

/-- The rows of a user. -/
def WatchlistTables.own (db : WatchlistTables) (tenantId userId : String) : List WatchlistRow :=
  db.items.filter fun r => r.tenantId = tenantId ∧ r.userId = userId

/-- The flush of a new row, with `uq_watchlist_user_symbol` and the foreign keys. -/
def WatchlistTables.insert (texts : Texts) (db : WatchlistTables) (r : WatchlistRow) :
    Except DbError WatchlistTables :=
  let stored := texts.percent r.alertThresholdPercent
  flushRow (int4 r.displayOrder && r.notes.all (varchar 200) && stored.isSome)
    ((∀ r' ∈ db.items, r'.id ≠ r.id ∧ (r'.userId, r'.symbolId) ≠ (r.userId, r.symbolId)) ∧
      r.tenantId ∈ db.tenants ∧ r.userId ∈ db.users ∧ ∃ s ∈ db.symbols, s.id = r.symbolId)
    { db with items := db.items ++ [{ r with alertThresholdPercent := stored.getD .null }] }

/-- The flush of a row whose order has changed. -/
def WatchlistTables.updateOrder (db : WatchlistTables) (r : WatchlistRow) :
    Except DbError WatchlistTables :=
  flushRow (int4 r.displayOrder) True { db with items := Table.replace (·.id) r db.items }

/-- `select(...)` by a text for a key. -/
def byKey {α : Type} (texts : Texts) (text : String) (rows : String → List α) :
    Except WatchlistError (Option α) :=
  match texts.uuid text with
  | none => .error (.db .dataError)
  | some key => (scalarOneOrNone (rows key)).mapError .db

/-! ## Reading -/

/-- An entry of the answers. -/
structure WatchlistEntry where
  id : String
  symbolId : String
  symbol : Option String
  name : Option Json
  displayOrder : Int
  notes : Option String
  alertThresholdPercent : Option Json
  currentPrice : Option Json
  change : Option Json
  changePercent : Option Json

/-- The entry of a row; `cached` is `_get_cached_quote`, and an empty quote is falsy. -/
def watchlistEntry (db : WatchlistTables) (cached : String → Option Dict) (r : WatchlistRow) :
    WatchlistEntry :=
  let symbol := db.symbols.find? (·.id = r.symbolId)
  let quote := (cached ((symbol.map (·.symbol)).getD "")).filter (· ≠ [])
  { id := r.id
    symbolId := r.symbolId
    symbol := symbol.map (·.symbol)
    name := symbol.map (·.name)
    displayOrder := r.displayOrder
    notes := r.notes
    alertThresholdPercent :=
      if r.alertThresholdPercent.truthy then some r.alertThresholdPercent else none
    currentPrice := quote.bind fun q : Dict => q.get? "current_price"
    change := quote.bind fun q : Dict => q.get? "change"
    changePercent := quote.bind fun q : Dict => q.get? "change_percent" }

def byDisplayOrder (a b : WatchlistRow) : Prop :=
  a.displayOrder ≤ b.displayOrder

/-- The rows in the order of a `get_watchlist`. -/
def Listing (db : WatchlistTables) (tenantId userId : String) (out : List WatchlistRow) : Prop :=
  OrderBy byDisplayOrder (db.own tenantId userId) out

/-- `get_watchlist` -/
def GetWatchlist (db : WatchlistTables) (cached : String → Option Dict) (tenantId userId : String)
    (response : List WatchlistEntry) : Prop :=
  ∃ out, Listing db tenantId userId out ∧ response = out.map (watchlistEntry db cached)

/-! ## Writing -/

/-- The dictionary `data` of an add; `none` is a key that is missing, or `None`. -/
structure WatchlistData where
  symbolId : Option String
  symbol : Option String
  displayOrder : Option Int
  notes : Option String
  alertThresholdPercent : Json

/-- `WatchlistItemCreate` and its `model_dump`: the default order is 0. -/
def WatchlistData.viaSchema (data : WatchlistData) : Except String WatchlistData :=
  if data.notes.any (200 < ·.length) then .error "String should have at most 200 characters"
  else if data.symbolId.all (· = "") ∧ data.symbol.all (· = "") then
    .error "Value error, Either symbol_id or symbol must be provided"
  else .ok { data with displayOrder := some (data.displayOrder.getD 0) }

/-- The text of the symbol's key. -/
def resolveSymbol (texts : Texts) (db : WatchlistTables) (tenantId : String) (data : WatchlistData) :
    Except WatchlistError String :=
  match data.symbolId.filter (· ≠ "") with
  | some symbolId => .ok symbolId
  | none =>
    let text := Text.strip (data.symbol.getD "")
    match scalarOneOrNone (db.symbols.filter fun s =>
      s.tenantId = tenantId ∧ texts.sqlUpper s.symbol = texts.upper text) with
    | .error e => .error (.db e)
    | .ok none => .error (.symbolNotFound ("Symbol not found: " ++ text))
    | .ok (some s) => .ok s.id

/-- `max_order_result.scalar()` -/
def maxOrder (rows : List WatchlistRow) : Option Int :=
  (rows.map (·.displayOrder)).max?

/-- `max_order_result.scalar() or -1`, and one more. -/
def nextOrder (rows : List WatchlistRow) : Int :=
  ((maxOrder rows).filter (· ≠ 0)).getD (-1) + 1

/-- The check of the limit. -/
def checkRoom (own : List WatchlistRow) : Except WatchlistError Unit :=
  if MAX_WATCHLIST_ITEMS ≤ own.length then
    .error (.validationError
      ("Watchlist limit reached (max " ++ toString MAX_WATCHLIST_ITEMS ++ " items)")
      [("watchlist", "Maximum " ++ toString MAX_WATCHLIST_ITEMS ++ " items allowed")])
  else .ok ()

/-- The check for the symbol among the user's items. -/
def checkDuplicate (texts : Texts) (own : List WatchlistRow) (symbolId : String) :
    Except WatchlistError Unit := do
  match ← byKey texts symbolId fun key => own.filter (·.symbolId = key) with
  | some _ => throw (.duplicateWatchlistItem ("Symbol " ++ symbolId ++ " already in watchlist"))
  | none => return ()

/-- `add_to_watchlist` up to its commit: the checks and the new row. -/
def newItem (texts : Texts) (db : WatchlistTables) (tenantId userId : String) (data : WatchlistData)
    (id : String) (now : Int) : Except WatchlistError WatchlistRow := do
  let symbolId ← resolveSymbol texts db tenantId data
  let own := db.own tenantId userId
  checkRoom own
  checkDuplicate texts own symbolId
  return {
    id, tenantId, userId
    symbolId := (texts.uuid symbolId).getD symbolId
    displayOrder := data.displayOrder.getD (nextOrder own)
    notes := data.notes
    alertThresholdPercent := data.alertThresholdPercent
    createdAt := now }

/-- `add_to_watchlist` -/
def addToWatchlist (texts : Texts) (db : WatchlistTables) (tenantId userId : String)
    (data : WatchlistData) (id : String) (now : Int) : Except WatchlistError WatchlistTables := do
  let row ← newItem texts db tenantId userId data id now
  (db.insert texts row).mapError .db

/-- `remove_from_watchlist` -/
def removeFromWatchlist (texts : Texts) (db : WatchlistTables) (tenantId userId itemId : String) :
    Except WatchlistError WatchlistTables := do
  match ← byKey texts itemId fun key => (db.own tenantId userId).filter (·.id = key) with
  | none => throw (.symbolNotFound ("Watchlist item not found: " ++ itemId))
  | some item => return { db with items := db.items.filter (·.id ≠ item.id) }

/-- `WatchlistOrderUpdate` -/
structure OrderUpdate where
  itemId : String
  displayOrder : Int

/-- One turn of the loop of `reorder_watchlist`. -/
def setOrder (texts : Texts) (tenantId userId : String) (db : WatchlistTables) (o : OrderUpdate) :
    Except WatchlistError WatchlistTables := do
  match ← byKey texts o.itemId fun key => (db.own tenantId userId).filter (·.id = key) with
  | none => return db
  | some item => (db.updateOrder { item with displayOrder := o.displayOrder }).mapError .db

/-- `reorder_watchlist` -/
def reorderWatchlist (texts : Texts) (db : WatchlistTables) (tenantId userId : String)
    (orders : List OrderUpdate) : Except WatchlistError WatchlistTables :=
  orders.foldlM (setOrder texts tenantId userId) db

/-! ## What an add does -/

section

variable {texts : Texts} {db db' : WatchlistTables} {tenantId userId : String}

/-- The next order is one more than the last one, where a last order of 0 counts as none. -/
lemma nextOrder_cases (rows : List WatchlistRow) :
    rows = [] ∧ nextOrder rows = 0 ∨ maxOrder rows = some 0 ∧ nextOrder rows = 0 ∨
      ∃ n, n ≠ 0 ∧ maxOrder rows = some n ∧ nextOrder rows = n + 1 := by
  unfold nextOrder
  cases hmax : maxOrder rows with
  | none =>
    left
    exact ⟨List.map_eq_nil_iff.1 (List.max?_eq_none_iff.1 hmax), rfl⟩
  | some n =>
    right
    by_cases hn : n = 0
    · subst hn
      exact .inl ⟨rfl, rfl⟩
    · refine .inr ⟨n, hn, rfl, ?_⟩
      rw [Option.filter_some_pos (by simpa using hn), Option.getD_some]

/-- The largest order is that of a row and none is larger. -/
lemma maxOrder_eq_some {rows : List WatchlistRow} {n : Int} (h : maxOrder rows = some n) :
    (∃ r ∈ rows, r.displayOrder = n) ∧ ∀ r ∈ rows, r.displayOrder ≤ n := by
  obtain ⟨hmem, hle⟩ := List.max?_eq_some_iff.1 h
  exact ⟨List.mem_map.1 hmem, fun r hr => hle _ (List.mem_map_of_mem hr)⟩

/-- What is in the new row. -/
lemma newItem_eq_ok {data : WatchlistData} {id : String} {now : Int} {row : WatchlistRow}
    (h : newItem texts db tenantId userId data id now = .ok row) :
    row.tenantId = tenantId ∧ row.userId = userId ∧
      row.displayOrder = data.displayOrder.getD (nextOrder (db.own tenantId userId)) := by
  obtain ⟨symbolId, _, h⟩ := bind_eq_ok.1 h
  obtain ⟨_, _, h⟩ := bind_eq_ok.1 h
  obtain ⟨_, _, h⟩ := bind_eq_ok.1 h
  cases h
  exact ⟨rfl, rfl, rfl⟩

/-- An add that succeeds appends one row of the user. -/
lemma addToWatchlist_eq_ok {data : WatchlistData} {id : String} {now : Int}
    (h : addToWatchlist texts db tenantId userId data id now = .ok db') :
    ∃ row, db' = { db with items := db.items ++ [row] } ∧
      db'.own tenantId userId = db.own tenantId userId ++ [row] ∧
      row.displayOrder = data.displayOrder.getD (nextOrder (db.own tenantId userId)) := by
  obtain ⟨row, hrow, h⟩ := bind_eq_ok.1 h
  obtain ⟨_, _, rfl⟩ := flush_eq_ok.1 (mapError_eq_ok.1 h)
  obtain ⟨htenant, huser, horder⟩ := newItem_eq_ok hrow
  refine ⟨_, rfl, ?_, horder⟩
  unfold WatchlistTables.own
  rw [List.filter_append]
  congr 1
  simp [htenant, huser]

/-! ## What a reorder does -/

/-- A turn of the loop changes the order of one row of the user, or nothing. -/
lemma setOrder_eq_ok {o : OrderUpdate} (h : setOrder texts tenantId userId db o = .ok db') :
    db' = db ∨ ∃ item ∈ db.own tenantId userId, texts.uuid o.itemId = some item.id ∧
      db' = { db with
        items := Table.replace (·.id) { item with displayOrder := o.displayOrder } db.items } := by
  obtain ⟨found, hfound, h⟩ := bind_eq_ok.1 h
  cases found with
  | none =>
    cases h
    exact .inl rfl
  | some item =>
    right
    unfold byKey at hfound
    cases hkey : texts.uuid o.itemId with
    | none =>
      rw [hkey] at hfound
      cases hfound
    | some key =>
      rw [hkey] at hfound
      have hrows := scalarOneOrNone_eq_some (mapError_eq_ok.1 hfound)
      beta_reduce at hrows
      have hitem : item ∈ (db.own tenantId userId).filter (·.id = key) := by
        rw [hrows]
        exact List.mem_singleton_self _
      obtain ⟨hown, hid⟩ := List.mem_filter.1 hitem
      obtain ⟨_, _, hdb⟩ := flush_eq_ok.1 (mapError_eq_ok.1 h)
      have hid' : item.id = key := by simpa using hid
      exact ⟨item, hown, congrArg some hid'.symm, hdb⟩

/-- What every turn of the loop keeps, the loop keeps. -/
lemma reorderWatchlist_keeps {I : WatchlistTables → Prop} {orders : List OrderUpdate}
    (step : ∀ o ∈ orders, ∀ {db db'}, I db → setOrder texts tenantId userId db o = .ok db' → I db')
    (hdb : I db) (h : reorderWatchlist texts db tenantId userId orders = .ok db') : I db' := by
  unfold reorderWatchlist at h
  induction orders generalizing db with
  | nil =>
    cases h
    exact hdb
  | cons o orders ih =>
    rw [List.foldlM_cons] at h
    obtain ⟨mid, hmid, h⟩ := bind_eq_ok.1 h
    have hI := step o List.mem_cons_self hdb hmid
    exact ih (fun o' ho' => step o' (List.mem_cons_of_mem _ ho')) hI h

end

/-! ## One user's operations -/

/-- Where an add comes from. -/
inductive AddPath where
  | service
  | schema

inductive WatchlistOp where
  | add (path : AddPath) (data : WatchlistData) (id : String) (now : Int)
  | remove (itemId : String)
  | reorder (orders : List OrderUpdate)

/-- An add leaves the order open, and a reorder gives distinct orders from 0 on. -/
def WatchlistOp.Plain : WatchlistOp → Prop
  | .add _ data _ _ => data.displayOrder = none
  | .remove _ => True
  | .reorder orders =>
    (orders.map (·.displayOrder)).Nodup ∧ ∀ o ∈ orders, 0 ≤ o.displayOrder

section

variable (texts : Texts) (tenantId userId : String)

/-- The tables after an operation that succeeds. -/
def WatchlistOp.run (db : WatchlistTables) : WatchlistOp → Option WatchlistTables
  | .add .service data id now => (addToWatchlist texts db tenantId userId data id now).toOption
  | .add .schema data id now => data.viaSchema.toOption.bind fun data =>
    (addToWatchlist texts db tenantId userId data id now).toOption
  | .remove itemId => (removeFromWatchlist texts db tenantId userId itemId).toOption
  | .reorder orders => (reorderWatchlist texts db tenantId userId orders).toOption

/-- An operation takes place; one that fails changes nothing. -/
structure WatchlistStep (db : WatchlistTables) (op : WatchlistOp) (db' : WatchlistTables) :
    Prop where
  plain : op.Plain
  effect : db' = (op.run texts tenantId userId db).getD db

/-- The new item has the largest order, and every answer of `get_watchlist` is an earlier one with the
new item after it. -/
def AddedLast (db db' : WatchlistTables) : Prop :=
  ∃ row, db'.own tenantId userId = db.own tenantId userId ++ [row] ∧
    (∀ r ∈ db.own tenantId userId, r.displayOrder < row.displayOrder) ∧
    ∀ cached response, GetWatchlist db' cached tenantId userId response →
      ∃ response', GetWatchlist db cached tenantId userId response' ∧
        response = response' ++ [watchlistEntry db' cached row]

/-- An add that succeeds puts the item at the end. -/
def AddsLast (db : WatchlistTables) : WatchlistOp → Prop
  | .add path data id now => ∀ db',
    (WatchlistOp.add path data id now).run texts tenantId userId db = some db' →
      AddedLast tenantId userId db db'
  | .remove _ | .reorder _ => True

/-- Where an add has the end to go to. -/
def AddPath.HasEnd : AddPath → List WatchlistRow → Prop
  | .service, own => maxOrder own ≠ some 0
  | .schema, own => own = []

/-- An add that succeeds had the end to go to. -/
def FindsEnd (db : WatchlistTables) : WatchlistOp → Prop
  | .add path data id now => ∀ db',
    (WatchlistOp.add path data id now).run texts tenantId userId db = some db' →
      path.HasEnd (db.own tenantId userId)
  | .remove _ | .reorder _ => True

end

section

variable {texts : Texts} {tenantId userId : String} {db db' : WatchlistTables}

/-- The orders of the user start at 0. -/
def NonNegative (tenantId userId : String) (db : WatchlistTables) : Prop :=
  ∀ r ∈ db.own tenantId userId, 0 ≤ r.displayOrder

/-- The order that a new item gets when none is given. -/
def AddPath.order : AddPath → List WatchlistRow → Int
  | .service, own => nextOrder own
  | .schema, _ => 0

/-- The schema only fills in the order. -/
lemma viaSchema_eq_ok {data dumped : WatchlistData} (h : data.viaSchema = .ok dumped) :
    dumped = { data with displayOrder := some (data.displayOrder.getD 0) } := by
  unfold WatchlistData.viaSchema at h
  split at h
  · cases h
  · split at h
    · cases h
    · cases h
      rfl

/-- The row that an add without an explicit order appends. -/
lemma add_run {path : AddPath} {data : WatchlistData} {id : String} {now : Int}
    (hplain : data.displayOrder = none)
    (h : (WatchlistOp.add path data id now).run texts tenantId userId db = some db') :
    ∃ row, db' = { db with items := db.items ++ [row] } ∧
      db'.own tenantId userId = db.own tenantId userId ++ [row] ∧
      row.displayOrder = path.order (db.own tenantId userId) := by
  cases path with
  | service =>
    obtain ⟨row, heq, hown, horder⟩ := addToWatchlist_eq_ok (toOption_eq_some.1 h)
    rw [hplain] at horder
    exact ⟨row, heq, hown, horder⟩
  | schema =>
    obtain ⟨dumped, hdumped, h⟩ := Option.bind_eq_some_iff.1 h
    obtain ⟨row, heq, hown, horder⟩ := addToWatchlist_eq_ok (toOption_eq_some.1 h)
    rw [viaSchema_eq_ok (toOption_eq_some.1 hdumped), hplain] at horder
    exact ⟨row, heq, hown, horder⟩

/-- An order larger than the others puts the item at the end of every answer. -/
lemma addedLast_iff {row : WatchlistRow} (heq : db' = { db with items := db.items ++ [row] })
    (hown : db'.own tenantId userId = db.own tenantId userId ++ [row]) :
    AddedLast tenantId userId db db' ↔
      ∀ r ∈ db.own tenantId userId, r.displayOrder < row.displayOrder := by
  constructor
  · rintro ⟨row', hown', hlt, _⟩
    rw [hown] at hown'
    have hrow : row = row' := by simpa using hown'
    rw [hrow]
    exact hlt
  · intro hlt
    refine ⟨row, hown, hlt, ?_⟩
    rintro cached response ⟨out, hout, rfl⟩
    unfold Listing at hout
    rw [hown] at hout
    have hlast : ∀ r ∈ db.own tenantId userId, ¬ byDisplayOrder row r := by
      intro r hr
      exact Int.not_le.2 (hlt r hr)
    obtain ⟨out', hout', rfl⟩ := hout.last hlast
    refine ⟨out'.map (watchlistEntry db cached), ⟨out', hout', rfl⟩, ?_⟩
    rw [List.map_append, heq]
    rfl

/-- The order of a new item is the largest exactly where there is an end to go to. -/
lemma order_largest_iff {path : AddPath} {own : List WatchlistRow}
    (hown : ∀ r ∈ own, 0 ≤ r.displayOrder) :
    (∀ r ∈ own, r.displayOrder < path.order own) ↔ path.HasEnd own := by
  cases path with
  | schema =>
    constructor
    · intro hlt
      apply List.eq_nil_iff_forall_not_mem.2
      intro r hr
      exact absurd (hlt r hr) (Int.not_lt.2 (hown r hr))
    · intro hnil r hr
      rw [show own = [] from hnil] at hr
      cases hr
  | service =>
    show _ ↔ maxOrder own ≠ some 0
    show (∀ r ∈ own, r.displayOrder < nextOrder own) ↔ _
    rcases nextOrder_cases own with ⟨hnil, _⟩ | ⟨hmax, hnext⟩ | ⟨n, hn, hmax, hnext⟩
    · subst hnil
      exact iff_of_true (fun r hr => absurd hr List.not_mem_nil) (by simp [maxOrder])
    · obtain ⟨⟨r, hr, hzero⟩, _⟩ := maxOrder_eq_some hmax
      refine iff_of_false ?_ fun hne => hne hmax
      intro hlt
      have hpos := hlt r hr
      rw [hnext, hzero] at hpos
      exact absurd hpos (Int.lt_irrefl 0)
    · obtain ⟨_, hle⟩ := maxOrder_eq_some hmax
      refine iff_of_true ?_ ?_
      · intro r hr
        rw [hnext]
        exact Int.lt_add_one_of_le (hle r hr)
      · rw [hmax]
        intro heq
        exact hn (Option.some.inj heq)

/-- The next order is not negative. -/
lemma order_nonneg {path : AddPath} {own : List WatchlistRow}
    (hown : ∀ r ∈ own, 0 ≤ r.displayOrder) : 0 ≤ path.order own := by
  cases path with
  | schema => exact Int.le_refl 0
  | service =>
    show 0 ≤ nextOrder own
    rcases nextOrder_cases own with ⟨_, hnext⟩ | ⟨_, hnext⟩ | ⟨n, _, hmax, hnext⟩
    · rw [hnext]
    · rw [hnext]
    · obtain ⟨⟨r, hr, rfl⟩, _⟩ := maxOrder_eq_some hmax
      rw [hnext]
      exact Int.add_nonneg (hown r hr) (by decide)

/-- A user's own rows are theirs and their tenant's. -/
lemma mem_own {r : WatchlistRow} :
    r ∈ db.own tenantId userId ↔ r ∈ db.items ∧ r.tenantId = tenantId ∧ r.userId = userId := by
  unfold WatchlistTables.own
  simp [List.mem_filter]

/-- The orders stay at 0 or above. -/
lemma NonNegative.step {op : WatchlistOp} (h : NonNegative tenantId userId db)
    (hst : WatchlistStep texts tenantId userId db op db') : NonNegative tenantId userId db' := by
  obtain ⟨hplain, rfl⟩ := hst
  cases hrun : op.run texts tenantId userId db with
  | none => exact h
  | some db' =>
    show NonNegative tenantId userId db'
    cases op with
    | add path data id now =>
      obtain ⟨row, _, hown, horder⟩ := add_run hplain hrun
      intro r hr
      rw [hown] at hr
      rcases List.mem_append.1 hr with hr | hr
      · exact h r hr
      · rw [List.mem_singleton.1 hr, horder]
        exact order_nonneg h
    | remove itemId =>
      obtain ⟨item, _, heq⟩ := bind_eq_ok.1 (toOption_eq_some.1 hrun)
      cases item with
      | none => cases heq
      | some item =>
        cases heq
        intro r hr
        obtain ⟨hr, hmine⟩ := mem_own.1 hr
        exact h r (mem_own.2 ⟨(List.mem_filter.1 hr).1, hmine⟩)
    | reorder orders =>
      apply reorderWatchlist_keeps (I := NonNegative tenantId userId) ?_ h (toOption_eq_some.1 hrun)
      intro o ho db db' hdb hset
      rcases setOrder_eq_ok hset with rfl | ⟨item, hitem, _, rfl⟩
      · exact hdb
      · intro r hr
        obtain ⟨hr, hmine⟩ := mem_own.1 hr
        rcases Table.mem_replace.1 hr with ⟨rfl, _⟩ | ⟨hr, _⟩
        · exact hplain.2 o ho
        · exact hdb r (mem_own.2 ⟨hr, hmine⟩)

end

/-- In a run of one user's operations, every add goes to the end exactly when every add finds an end
to go to. -/
theorem addsLast_iff (texts : Texts) (tenantId userId : String) {ops : List WatchlistOp}
    {db₀ db : WatchlistTables} (h₀ : ∀ r ∈ db₀.own tenantId userId, 0 ≤ r.displayOrder) :
    Guarded (WatchlistStep texts tenantId userId) (AddsLast texts tenantId userId) db₀ ops db ↔
      Guarded (WatchlistStep texts tenantId userId) (FindsEnd texts tenantId userId) db₀ ops db := by
  refine Guarded.congr (W := NonNegative tenantId userId) (fun h hst => h.step hst) ?_ h₀
  intro db op db' hdb hst
  cases op with
  | add path data id now =>
    refine forall_congr' fun db' => imp_congr_right fun hrun => ?_
    obtain ⟨row, heq, hown, horder⟩ := add_run hst.plain hrun
    rw [addedLast_iff heq hown, horder]
    exact order_largest_iff hdb
  | remove itemId => exact Iff.rfl
  | reorder orders => exact Iff.rfl

/-- Texts in upper case whose keys are the texts themselves. -/
def plainTexts : Texts where
  upper s := s
  sqlUpper s := s
  uuid := some
  percent := some

def indexSymbol (id symbol : String) : SymbolRow where
  id
  tenantId := "t"
  symbol
  name := .str symbol
  type := .str "index"
  market := .str "US"
  exchange := .null
  currency := .str "USD"
  isActive := true

/-- A user without watchlist items, and three symbols. -/
def freshWatchlist : WatchlistTables where
  tenants := ["t"]
  users := ["u"]
  symbols := [indexSymbol "s1" "SPX", indexSymbol "s2" "NDX", indexSymbol "s3" "DJI"]
  items := []

def addOf (symbol : String) : WatchlistData where
  symbolId := none
  symbol := some symbol
  displayOrder := none
  notes := none
  alertThresholdPercent := .null

/-- The first add goes to the end. -/
theorem addsLast_first : ∃ db, Guarded (WatchlistStep plainTexts "t" "u")
    (AddsLast plainTexts "t" "u") freshWatchlist [.add .schema (addOf "SPX") "w1" 0] db := by
  refine ⟨_, (addsLast_iff plainTexts "t" "u" ?_).2 (.cons ?_ ⟨rfl, rfl⟩ .nil)⟩
  · intro r hr
    cases hr
  · exact fun _ _ => rfl

/-- The second item gets the order of the first one. -/
theorem second_add_not_last : ¬ ∀ ops db,
    Steps (WatchlistStep plainTexts "t" "u") freshWatchlist ops db →
      Guarded (WatchlistStep plainTexts "t" "u") (AddsLast plainTexts "t" "u") freshWatchlist ops
        db := by
  intro h
  have hguarded := h [.add .service (addOf "SPX") "w1" 0, .add .service (addOf "NDX") "w2" 1] _
    (.cons ⟨rfl, rfl⟩ (.cons ⟨rfl, rfl⟩ .nil))
  cases hguarded with
  | cons _ hst rest =>
    cases rest with
    | cons hlast _ _ =>
      cases hst.effect
      obtain ⟨row, hown, hlt, _⟩ := hlast _ rfl
      cases hown
      exact absurd (hlt _ List.mem_cons_self) (by decide)

end InstantBoard.Finance
