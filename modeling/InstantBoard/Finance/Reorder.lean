import InstantBoard.Finance.Watchlist

/-!
# Reordering the watchlist

The frontend's `reorderWatchlist` from its request to what both sides show afterwards. The service does
what is wanted of it: asked for the orders `0, 1, …` in the order of the ids it lists them so, and it
touches no row of another user (`reorderWatchlist_lists`, `reorderWatchlist_others`). The frontend sends
the bare ids under a name that the request schema does not have, so no request of its gets that far
(`reorder_never_agrees`).
-/

namespace InstantBoard.Finance

open Fallible Query

/-! ## The request schema -/

/-- A step of the path to a value of the body. -/
inductive Loc where
  | field (name : String)
  | index (i : Nat)
  deriving DecidableEq

structure SchemaError where
  type : String
  loc : List Loc
  deriving DecidableEq

/-- A required field. -/
def required {α : Type} (loc : List Loc) (fields : Dict) (key : String)
    (validate : List Loc → Json → Except (List SchemaError) α) : Except (List SchemaError) α :=
  match fields.get? key with
  | none => .error [⟨"missing", loc ++ [.field key]⟩]
  | some v => validate (loc ++ [.field key]) v

/-- `str` -/
def validateStr (loc : List Loc) : Json → Except (List SchemaError) String
  | .str s => .ok s
  | .null | .bool _ | .int _ | .float _ _ | .arr _ | .obj _ => .error [⟨"string_type", loc⟩]

/-- `int`, which takes whole floats, booleans and texts of integers too. -/
def validateInt (intText : String → Option Int) (loc : List Loc) :
    Json → Except (List SchemaError) Int
  | .int i => .ok i
  | .bool b => .ok (if b then 1 else 0)
  | .float value _ => if value.den = 1 then .ok value.num else .error [⟨"int_from_float", loc⟩]
  | .str s => match intText s with
    | some i => .ok i
    | none => .error [⟨"int_parsing", loc⟩]
  | .null | .arr _ | .obj _ => .error [⟨"int_type", loc⟩]

/-- `WatchlistOrderUpdate`; the errors of both fields are reported. -/
def watchlistOrderUpdate (intText : String → Option Int) (loc : List Loc) :
    Json → Except (List SchemaError) OrderUpdate
  | .obj fields =>
    match required loc fields "item_id" validateStr,
      required loc fields "display_order" (validateInt intText) with
    | .ok itemId, .ok displayOrder => .ok { itemId, displayOrder }
    | .ok _, .error e => .error e
    | .error e, .ok _ => .error e
    | .error e, .error e' => .error (e ++ e')
  | .null | .bool _ | .int _ | .float _ _ | .str _ | .arr _ =>
    .error [⟨"model_attributes_type", loc⟩]

/-- The items from position `i` on. -/
def orderUpdates (intText : String → Option Int) (loc : List Loc) :
    Nat → List Json → Except (List SchemaError) (List OrderUpdate)
  | _, [] => .ok []
  | i, v :: vs =>
    match watchlistOrderUpdate intText (loc ++ [.index i]) v, orderUpdates intText loc (i + 1) vs with
    | .ok o, .ok os => .ok (o :: os)
    | .ok _, .error e => .error e
    | .error e, .ok _ => .error e
    | .error e, .error e' => .error (e ++ e')

/-- `list[WatchlistOrderUpdate]` -/
def validateItems (intText : String → Option Int) (loc : List Loc) :
    Json → Except (List SchemaError) (List OrderUpdate)
  | .arr items => orderUpdates intText loc 0 items
  | .null | .bool _ | .int _ | .float _ _ | .str _ | .obj _ => .error [⟨"list_type", loc⟩]

/-- `WatchlistReorderRequest` -/
def watchlistReorderRequest (intText : String → Option Int) :
    Json → Except (List SchemaError) (List OrderUpdate)
  | .obj fields => required [.field "body"] fields "items" (validateItems intText)
  | .null | .bool _ | .int _ | .float _ _ | .str _ | .arr _ =>
    .error [⟨"model_attributes_type", [.field "body"]⟩]

inductive ReorderError where
  | unprocessable (errors : List SchemaError)
  | service (e : WatchlistError)

/-- `PUT /finance/watchlist/reorder` -/
def putReorder (intText : String → Option Int) (texts : Texts) (db : WatchlistTables)
    (tenantId userId : String) (body : Json) : Except ReorderError WatchlistTables := do
  let orders ← (watchlistReorderRequest intText body).mapError .unprocessable
  (reorderWatchlist texts db tenantId userId orders).mapError .service

/-! ## The frontend -/

/-- The body of the frontend's request. -/
def reorderBody (reorderedIds : List String) : Json :=
  .obj [("item_ids", .arr (reorderedIds.map .str))]

/-- The list that the frontend shows after the request. -/
def reordered (watchlist : List WatchlistEntry) (reorderedIds : List String) : List WatchlistEntry :=
  reorderedIds.filterMap fun id => watchlist.find? (·.id = id)

/-- A reorder by the frontend agrees with the backend: the request is accepted, every later answer of
`get_watchlist` has the order that the frontend shows, and the rows of others are what they were. -/
def ReorderAgrees (intText : String → Option Int) (texts : Texts) (db : WatchlistTables)
    (tenantId userId : String) (watchlist : List WatchlistEntry) (reorderedIds : List String) :
    Prop :=
  ∃ db', putReorder intText texts db tenantId userId (reorderBody reorderedIds) = .ok db' ∧
    (∀ cached response, GetWatchlist db' cached tenantId userId response →
      response.map (·.id) = (reordered watchlist reorderedIds).map (·.id)) ∧
    ∀ r, ¬ (r.tenantId = tenantId ∧ r.userId = userId) → (r ∈ db'.items ↔ r ∈ db.items)

/-! ## What the loop writes -/

section

variable {texts : Texts} {tenantId userId : String} {db db' : WatchlistTables}

/-- The row with the order, when it is the user's and has the key. -/
def assign (tenantId userId key : String) (order : Int) (r : WatchlistRow) : WatchlistRow :=
  if (r.tenantId = tenantId ∧ r.userId = userId) ∧ r.id = key then { r with displayOrder := order }
  else r

/-- Only the order changes. -/
lemma assign_eq (key : String) (order : Int) (r : WatchlistRow) :
    ∃ n, assign tenantId userId key order r = { r with displayOrder := n } := by
  unfold assign
  split
  · exact ⟨order, rfl⟩
  · exact ⟨r.displayOrder, rfl⟩

/-- A turn of the loop, as a map over the rows. -/
lemma setOrder_eq (hkeys : Table.Unique (·.id) db.items) {o : OrderUpdate} {key : String}
    (hkey : texts.uuid o.itemId = some key) (horder : int4 o.displayOrder = true) :
    setOrder texts tenantId userId db o =
      .ok { db with items := db.items.map (assign tenantId userId key o.displayOrder) } := by
  have hown : Table.Unique (·.id) (db.own tenantId userId) :=
    List.Sublist.nodup (List.filter_sublist.map _) hkeys
  unfold setOrder byKey
  rw [hkey]
  rcases hown.scalarOneOrNone (p := fun r => decide (r.id = key)) (k := key)
    (fun r _ h => of_decide_eq_true h) with ⟨item, hitem, hid, hfound⟩ | ⟨hnone, hfound⟩
  · obtain ⟨hmem, hmine⟩ := mem_own.1 hitem
    have hid : item.id = key := of_decide_eq_true hid
    have hitems : Table.replace (·.id) { item with displayOrder := o.displayOrder } db.items =
        db.items.map (assign tenantId userId key o.displayOrder) := by
      apply List.map_congr_left
      intro r hr
      unfold assign
      by_cases hkey : r.id = item.id
      · have hsame := hkeys.eq_of_mem hr hmem hkey
        rw [if_pos hkey, hsame, if_pos ⟨hmine, hid⟩]
      · rw [if_neg hkey, if_neg]
        rintro ⟨_, heq⟩
        exact hkey (heq.trans hid.symm)
    rw [← hitems]
    show (Except.mapError _ (InstantBoard.scalarOneOrNone _) >>= _) = _
    rw [InstantBoard.scalarOneOrNone_ok hfound]
    show Except.mapError _ (flushRow _ _ _) = _
    rw [flush_ok horder trivial]
    rfl
  · have hitems : db.items.map (assign tenantId userId key o.displayOrder) = db.items := by
      rw [← List.map_id db.items, List.map_map]
      apply List.map_congr_left
      intro r hr
      show assign tenantId userId key o.displayOrder r = r
      unfold assign
      rw [if_neg]
      rintro ⟨hmine, hid⟩
      have hne := hnone r (mem_own.2 ⟨hr, hmine⟩)
      exact absurd hid (of_decide_eq_false hne)
    rw [hitems]
    show (Except.mapError _ (InstantBoard.scalarOneOrNone _) >>= _) = _
    rw [InstantBoard.scalarOneOrNone_ok hfound]
    rfl

/-- What the whole loop makes of a row. -/
def assignAll (tenantId userId : String) (orders : List OrderUpdate) (r : WatchlistRow) :
    WatchlistRow :=
  orders.foldl (fun r o => assign tenantId userId o.itemId o.displayOrder r) r

/-- Only the order changes. -/
lemma assignAll_eq (orders : List OrderUpdate) (r : WatchlistRow) :
    ∃ n, assignAll tenantId userId orders r = { r with displayOrder := n } := by
  induction orders generalizing r with
  | nil => exact ⟨r.displayOrder, rfl⟩
  | cons o orders ih =>
    obtain ⟨n, hn⟩ : ∃ n, assign tenantId userId o.itemId o.displayOrder r =
        { r with displayOrder := n } := assign_eq o.itemId o.displayOrder r
    obtain ⟨m, hm⟩ := ih { r with displayOrder := n }
    refine ⟨m, ?_⟩
    show assignAll tenantId userId orders (assign tenantId userId o.itemId o.displayOrder r) = _
    rw [hn, hm]

/-- A row that is not in the request stays what it is. -/
lemma assignAll_unnamed {orders : List OrderUpdate} {r : WatchlistRow}
    (hid : r.id ∉ orders.map (·.itemId)) : assignAll tenantId userId orders r = r := by
  induction orders with
  | nil => rfl
  | cons o orders ih =>
    obtain ⟨hne, hrest⟩ := not_or.1 fun h => hid (List.mem_cons.2 h)
    have hsame : assign tenantId userId o.itemId o.displayOrder r = r :=
      if_neg fun h => hne h.2
    show assignAll tenantId userId orders (assign tenantId userId o.itemId o.displayOrder r) = r
    rw [hsame]
    exact ih hrest

/-- Keys that are named once get their order. -/
lemma assignAll_named {orders : List OrderUpdate} (hnodup : (orders.map (·.itemId)).Nodup)
    {o : OrderUpdate} (ho : o ∈ orders) {r : WatchlistRow}
    (hmine : r.tenantId = tenantId ∧ r.userId = userId) (hid : r.id = o.itemId) :
    assignAll tenantId userId orders r = { r with displayOrder := o.displayOrder } := by
  induction orders with
  | nil => cases ho
  | cons o' orders ih =>
    obtain ⟨hfresh, hrest⟩ := List.nodup_cons.1 hnodup
    show assignAll tenantId userId orders (assign tenantId userId o'.itemId o'.displayOrder r) = _
    rcases List.mem_cons.1 ho with rfl | ho
    · rw [show assign tenantId userId o.itemId o.displayOrder r =
        { r with displayOrder := o.displayOrder } from if_pos ⟨hmine, hid⟩]
      apply assignAll_unnamed
      show r.id ∉ _
      rw [hid]
      exact hfresh
    · have hne : r.id ≠ o'.itemId := by
        intro heq
        apply hfresh
        show o'.itemId ∈ _
        rw [← heq, hid]
        exact List.mem_map_of_mem ho
      rw [show assign tenantId userId o'.itemId o'.displayOrder r = r from if_neg fun h => hne h.2]
      exact ih hrest ho

/-- `reorder_watchlist`, as a map over the rows. -/
lemma reorderWatchlist_eq (hkeys : Table.Unique (·.id) db.items) {orders : List OrderUpdate}
    (hids : ∀ o ∈ orders, texts.uuid o.itemId = some o.itemId)
    (hfits : ∀ o ∈ orders, int4 o.displayOrder = true) :
    reorderWatchlist texts db tenantId userId orders =
      .ok { db with items := db.items.map (assignAll tenantId userId orders) } := by
  unfold reorderWatchlist
  induction orders generalizing db with
  | nil =>
    rw [List.foldlM_nil]
    show Except.ok db = .ok { db with items := db.items.map fun r => r }
    rw [List.map_id']
  | cons o orders ih =>
    rw [List.foldlM_cons, setOrder_eq hkeys (hids o List.mem_cons_self)
      (hfits o List.mem_cons_self)]
    have hkeys' : Table.Unique (·.id)
        (db.items.map (assign tenantId userId o.itemId o.displayOrder)) := by
      unfold Table.Unique
      rw [List.map_map]
      have hsame : ∀ r, ((·.id) ∘ assign tenantId userId o.itemId o.displayOrder) r = r.id := by
        intro r
        obtain ⟨n, hn⟩ : ∃ n, assign tenantId userId o.itemId o.displayOrder r =
          { r with displayOrder := n } := assign_eq o.itemId o.displayOrder r
        show (assign tenantId userId o.itemId o.displayOrder r).id = r.id
        rw [hn]
      rw [List.map_congr_left fun r _ => hsame r]
      exact hkeys
    show List.foldlM _ _ orders = _
    rw [ih hkeys' (fun o ho => hids o (List.mem_cons_of_mem _ ho))
      (fun o ho => hfits o (List.mem_cons_of_mem _ ho)), List.map_map]
    rfl

/-! ## What the service guarantees -/

/-- No row of another user changes, whatever ids a reorder names. -/
lemma reorderWatchlist_others (hkeys : Table.Unique (·.id) db.items) {orders : List OrderUpdate}
    (h : reorderWatchlist texts db tenantId userId orders = .ok db') {r : WatchlistRow}
    (hother : ¬ (r.tenantId = tenantId ∧ r.userId = userId)) : r ∈ db'.items ↔ r ∈ db.items := by
  refine (reorderWatchlist_keeps (I := fun db' => Table.Unique (·.id) db'.items ∧
    (r ∈ db'.items ↔ r ∈ db.items)) ?_ ⟨hkeys, Iff.rfl⟩ h).2
  rintro o - mid next ⟨hmid, hiff⟩ hset
  rcases setOrder_eq_ok hset with rfl | ⟨item, hitem, _, rfl⟩
  · exact ⟨hmid, hiff⟩
  · refine ⟨hmid.replace_id _, Iff.trans ?_ hiff⟩
    obtain ⟨hmem, hmine⟩ := mem_own.1 hitem
    constructor
    · intro hr
      rcases Table.mem_replace.1 hr with ⟨rfl, _⟩ | ⟨hr, _⟩
      · exact absurd hmine hother
      · exact hr
    · intro hr
      refine Table.mem_replace.2 (.inr ⟨hr, ?_⟩)
      intro heq
      apply hother
      rw [hmid.eq_of_mem hr hmem heq]
      exact hmine

/-- The orders `0, 1, …` for ids in this order. -/
def ordersOf (ids : List String) : List OrderUpdate :=
  ids.zipIdx.map fun p => { itemId := p.1, displayOrder := p.2 }

/-- The orders made of some ids are for these ids. -/
lemma ordersOf_ids (ids : List String) : (ordersOf ids).map (·.itemId) = ids := by
  unfold ordersOf
  rw [List.map_map]
  exact List.zipIdx_map_fst 0 ids

/-- An order gives an id its place in the list. -/
lemma mem_ordersOf {ids : List String} {o : OrderUpdate} :
    o ∈ ordersOf ids ↔ ∃ i : Nat, ids[i]? = some o.itemId ∧ o.displayOrder = i := by
  unfold ordersOf
  rw [List.mem_map]
  constructor
  · rintro ⟨⟨id, i⟩, hmem, rfl⟩
    exact ⟨i, List.mem_zipIdx_iff_getElem?.1 hmem, rfl⟩
  · rintro ⟨i, hget, horder⟩
    refine ⟨(o.itemId, i), List.mem_zipIdx_iff_getElem?.2 hget, ?_⟩
    rw [← horder]

/-- The user's rows, after a map that only changes orders. -/
lemma own_map (orders : List OrderUpdate) :
    WatchlistTables.own { db with items := db.items.map (assignAll tenantId userId orders) }
        tenantId userId = (db.own tenantId userId).map (assignAll tenantId userId orders) := by
  unfold WatchlistTables.own
  rw [List.filter_map]
  congr 1
  apply List.filter_congr
  intro r _
  obtain ⟨n, hn⟩ : ∃ n, assignAll tenantId userId orders r = { r with displayOrder := n } :=
    assignAll_eq orders r
  show decide ((assignAll tenantId userId orders r).tenantId = tenantId ∧
    (assignAll tenantId userId orders r).userId = userId) = _
  rw [hn]

/-- Sorted by their places in a list without repetitions, its members stand as they do there. -/
lemma eq_of_places {ids out : List String} (hnodup : ids.Nodup) (hperm : out.Perm ids)
    (hsorted : out.Pairwise fun a b => ids.idxOf a ≤ ids.idxOf b) : out = ids := by
  refine List.Perm.eq_of_pairwise ?_ hsorted ?_ hperm
  · intro a b ha _ hab hba
    exact (List.idxOf_inj (hperm.mem_iff.1 ha)).1 (Nat.le_antisymm hab hba)
  · apply List.pairwise_iff_getElem.2
    intro i j hi hj hij
    rw [hnodup.idxOf_getElem i hi, hnodup.idxOf_getElem j hj]
    exact Nat.le_of_lt hij

/-- Asked for the orders `0, 1, …`, the service lists the items in the order of the ids. -/
lemma reorderWatchlist_lists (hkeys : Table.Unique (·.id) db.items) {ids : List String}
    (hids : ids.Perm ((db.own tenantId userId).map (·.id)))
    (huuid : ∀ id ∈ ids, texts.uuid id = some id) (hlength : ids.length ≤ 2 ^ 31) :
    ∃ db', reorderWatchlist texts db tenantId userId (ordersOf ids) = .ok db' ∧
      ∀ cached response, GetWatchlist db' cached tenantId userId response →
        response.map (·.id) = ids := by
  have hnodup : ids.Nodup := by
    apply hids.nodup_iff.2
    exact List.Sublist.nodup (List.filter_sublist.map _) hkeys
  have hfits : ∀ o ∈ ordersOf ids, int4 o.displayOrder = true := by
    intro o ho
    obtain ⟨i, hget, horder⟩ := mem_ordersOf.1 ho
    have hlt := (List.getElem?_eq_some_iff.1 hget).1
    unfold int4
    rw [horder]
    apply decide_eq_true
    omega
  have hnamed : ∀ o ∈ ordersOf ids, texts.uuid o.itemId = some o.itemId := by
    intro o ho
    apply huuid
    rw [← ordersOf_ids ids]
    exact List.mem_map_of_mem ho
  -- each row of the user gets its place among the ids
  have hplace : ∀ r ∈ db.own tenantId userId,
      assignAll tenantId userId (ordersOf ids) r =
        { r with displayOrder := ids.idxOf r.id } := by
    intro r hr
    have hid : r.id ∈ ids := hids.mem_iff.2 (List.mem_map_of_mem hr)
    have ho : (⟨r.id, ids.idxOf r.id⟩ : OrderUpdate) ∈ ordersOf ids :=
      mem_ordersOf.2 ⟨_, List.getElem?_idxOf hid, rfl⟩
    rw [assignAll_named (by rw [ordersOf_ids]; exact hnodup) ho (mem_own.1 hr).2 rfl]
  refine ⟨_, reorderWatchlist_eq hkeys hnamed hfits, ?_⟩
  rintro cached response ⟨out, ⟨hperm, hsorted⟩, rfl⟩
  rw [own_map] at hperm
  have hout : ∀ r ∈ out, r.displayOrder = ids.idxOf r.id := by
    intro r hr
    obtain ⟨r₀, hr₀, rfl⟩ := List.mem_map.1 (hperm.mem_iff.1 hr)
    rw [hplace r₀ hr₀]
  rw [List.map_map]
  show out.map (·.id) = ids
  apply eq_of_places hnodup
  · have hsame : ((db.own tenantId userId).map (assignAll tenantId userId (ordersOf ids))).map (·.id) =
        (db.own tenantId userId).map (·.id) := by
      rw [List.map_map]
      apply List.map_congr_left
      intro r hr
      show (assignAll tenantId userId (ordersOf ids) r).id = r.id
      rw [hplace r hr]
    have hids' := hperm.map (·.id)
    rw [hsame] at hids'
    exact hids'.trans hids.symm
  · apply List.pairwise_map.2
    apply hsorted.imp_of_mem
    intro a b ha hb hab
    unfold byDisplayOrder at hab
    rw [hout a ha, hout b hb] at hab
    exact Int.ofNat_le.1 hab

end

/-! ## The two sides -/

/-- The schema wants `items`, and the frontend does not send it. -/
lemma reorderBody_refused (intText : String → Option Int) (reorderedIds : List String) :
    watchlistReorderRequest intText (reorderBody reorderedIds) =
      .error [⟨"missing", [.field "body", .field "items"]⟩] := rfl

/-- No reorder by the frontend agrees with the backend. -/
theorem reorder_never_agrees (intText : String → Option Int) (texts : Texts) (db : WatchlistTables)
    (tenantId userId : String) (watchlist : List WatchlistEntry) (reorderedIds : List String) :
    ¬ ReorderAgrees intText texts db tenantId userId watchlist reorderedIds := by
  rintro ⟨db', hput, -⟩
  obtain ⟨orders, horders, _⟩ := bind_eq_ok.1 hput
  have haccepted := mapError_eq_ok.1 horders
  rw [reorderBody_refused] at haccepted
  cases haccepted

def itemOf (id symbolId : String) (order : Int) : WatchlistRow where
  id
  tenantId := "t"
  userId := "u"
  symbolId
  displayOrder := order
  notes := none
  alertThresholdPercent := .null
  createdAt := 0

/-- Two items that change places. -/
theorem swap_refused : ¬ ∀ db : WatchlistTables, Table.Unique (·.id) db.items →
    ∀ ids : List String, ids.Perm ((db.own "t" "u").map (·.id)) →
      ReorderAgrees (fun _ => none) plainTexts db "t" "u"
        ((db.own "t" "u").map (watchlistEntry db fun _ => none)) ids := by
  intro h
  obtain ⟨db', hput, _⟩ := h
    { freshWatchlist with items := [itemOf "w1" "s1" 0, itemOf "w2" "s2" 1] } (by decide)
    ["w2", "w1"] (List.Perm.swap _ _ _)
  cases hput

end InstantBoard.Finance
