import InstantBoard.Lib.Fallible
import InstantBoard.Scheduler.Collection
import Mathlib.Data.List.Nodup
import Mathlib.Data.List.TakeDrop

/-!
# The item feed of a category

`TechService.list_category_items`: the select with its tenant filter and its optional filters, the
order, the page, and the entry made of each row. An entry can fail (an unhashable tag, an `hn_score`
that is no number), and one entry that fails takes its page with it. `lists_iff` says which stored
items the feed of a tenant has.
-/

namespace InstantBoard

/-- The rows of `items`, in the order a scan meets them. -/
structure ItemsTable where
  rows : List Item
  primaryKey : (rows.map Item.strId).Nodup

/-- Two rows with one key are one row. -/
lemma ItemsTable.eq_of_strId {table : ItemsTable} {a b : Item} (ha : a ∈ table.rows)
    (hb : b ∈ table.rows) (h : a.strId = b.strId) : a = b :=
  List.inj_on_of_nodup_map table.primaryKey ha hb h

/-- What the hot score uses of floats. -/
structure FloatLib where
  F : Type
  ofRat : ℚ → F
  /-- `float(v)` -/
  float : Json → Except PyError F
  add : F → F → F
  mul : F → F → F
  exp : F → F
  log1p : F → Except PyError F
  /-- `round(x, 4)` -/
  round4 : F → F
  /-- `x <= y` -/
  le : F → F → Bool

namespace TechService

def HALF_LIFE_SECONDS : ℚ := 12 * 3600

def VALID_DOMAINS : List String := ["robotics", "ai", "embedded", "space"]

def SUBCATEGORY_TO_DOMAIN : List (String × String) :=
  [("humanoid", "robotics"),
   ("industrial", "robotics"),
   ("cobot", "robotics"),
   ("autonomous-driving", "robotics"),
   ("drone", "robotics"),
   ("robot-software", "robotics"),
   ("llm", "ai"),
   ("generative-ai", "ai"),
   ("ai-hardware", "ai"),
   ("ai-ethics", "ai"),
   ("multimodal", "ai"),
   ("ai-agent", "ai"),
   ("iot-edge", "embedded"),
   ("risc-v", "embedded"),
   ("rtos", "embedded"),
   ("fpga", "embedded"),
   ("chip-design", "embedded"),
   ("embedded-ai", "embedded"),
   ("commercial-space", "space"),
   ("satellite-internet", "space"),
   ("deep-space", "space"),
   ("orbital", "space"),
   ("rocket-tech", "space"),
   ("space-manufacturing", "space")]

/-- The arguments of a feed request besides the category and the tenant. The endpoints refuse a
page below 1. -/
structure FeedQuery where
  domain : Option String := none
  subcategory : Option String := none
  sort : String := "hot"
  page : Nat := 1
  pageSize : Nat := 20
  sourceId : Option String := none
  since : Option String := none
  page_pos : 0 < page := by decide

/-- `topic_tags @> '[tag]'::jsonb`. -/
def tagsContain (topicTags : Json) (tag : String) : Bool :=
  match topicTags with
  | .arr tags => tags.contains (.str tag)
  | _ => false

/-- The lower bound on `published_at`. A text that is no time is dropped with a warning; a naive
time is one of the server's zone, UTC. -/
def FeedQuery.sinceBound (py : Stdlib) (q : FeedQuery) : Option Moment := do
  let since ← q.since.filter (· ≠ "")
  py.fromisoformat (Text.replace since "Z" "+00:00")

/-- The `where` clauses. -/
def FeedQuery.selects (py : Stdlib) (q : FeedQuery) (categoryId tenantId : String) (item : Item) :
    Bool :=
  [tenantId, SYSTEM_TENANT_ID].contains item.tenantId && item.categoryId == categoryId &&
    (q.domain.filter (VALID_DOMAINS.contains ·)).all (tagsContain item.topicTags) &&
    (q.subcategory.filter (· ≠ "")).all (tagsContain item.topicTags) &&
    (q.sourceId.filter (· ≠ "")).all (item.sourceId == ·) &&
    (q.sinceBound py).all fun since => decide (since.micros ≤ item.publishedAt.micros)

/-- The integer in the `priority` column. -/
def priorityColumn (item : Item) : Int :=
  match item.priority with
  | .int n => n
  | _ => 0

/-- The `order_by` clauses: whether a row may come before another. -/
def FeedQuery.before (q : FeedQuery) (a b : Item) : Bool :=
  let later := decide (b.publishedAt.micros ≤ a.publishedAt.micros)
  let higher := decide (priorityColumn b ≤ priorityColumn a)
  if q.sort = "time" then later
  else if q.sort = "relevance" then higher
  else decide (priorityColumn b < priorityColumn a) || (higher && later)

/-- `for tag in topic_tags`. -/
def iterate : Json → Except PyError (List Json)
  | .arr tags => .ok tags
  | .str s => .ok (s.toList.map fun c => .str c.toString)
  | .obj fields => .ok (fields.map fun field => .str field.1)
  | v => .error (.typeError ("'" ++ v.typeName ++ "' object is not iterable"))

/-- The first tag that a table has, with what it has for it. -/
def firstIn (table : String → Option String) : List Json → Except PyError (Option String)
  | [] => .ok none
  | .str tag :: tags =>
    match table tag with
    | some domain => .ok (some domain)
    | none => firstIn table tags
  -- both `in` tests hash the tag
  | .arr _ :: _ => .error (.typeError "unhashable type: 'list'")
  | .obj _ :: _ => .error (.typeError "unhashable type: 'dict'")
  | _ :: tags => firstIn table tags

/-- `_extract_domain_tag`. -/
def extractDomainTag (topicTags : Json) : Except PyError (Option String) :=
  if topicTags.truthy then do
    let tags ← iterate topicTags
    match ← firstIn (fun tag => if tag ∈ VALID_DOMAINS then some tag else none) tags with
    | some domain => pure (some domain)
    | none => firstIn (SUBCATEGORY_TO_DOMAIN.lookup ·) tags
  else pure none

variable (floats : FloatLib)

/-- `_calculate_hot_score`; `now` in microseconds. A naive `published_at` is UTC. -/
def calculateHotScore (item : Item) (now : Int) : Except PyError floats.F := do
  let ageSeconds : ℚ := (now - item.publishedAt.micros : Int) / 1000000
  -- published in the future: as if now
  let ageSeconds := if ageSeconds < 0 then 0 else ageSeconds
  let baseScore ← floats.float (item.priority.or (.int 5))
  let decayFactor := floats.exp (floats.ofRat (-ageSeconds / HALF_LIFE_SECONDS))
  let score := floats.mul baseScore decayFactor
  if item.extraData.truthy then do
    let extra ← item.extraData.dictGet
    let hnScore := (extra.getD "hn_score" (.int 0)).or (.int 0)
    if hnScore.truthy then do
      let log ← floats.log1p (← floats.float hnScore)
      pure (floats.add score (floats.mul log (floats.ofRat (1 / 2))))
    else pure score
  else pure score

/-- An entry of the feed. -/
structure NewsEntry where
  id : String
  title : Json
  summary : Json
  url : Json
  sourceName : Option String
  sourceId : String
  categoryId : String
  topicTags : Json
  domainTag : Option String
  publishedAt : Moment
  imageUrl : Json
  priority : Json
  extraData : Json
  hotScore : floats.F

/-- The entry of a row, with the tag and the score worked out for it. -/
def entryOf (db : Tables) (item : Item) (domainTag : Option String) (hotScore : floats.F) :
    NewsEntry floats :=
  { id := item.strId
    title := item.title
    summary := item.summary
    url := item.url
    sourceName := (db.source? item.sourceId).map (·.name)
    sourceId := item.sourceId
    categoryId := item.categoryId
    topicTags := item.topicTags.or (.arr [])
    domainTag
    publishedAt := item.publishedAt
    imageUrl := item.imageUrl
    priority := item.priority
    extraData := item.extraData.or (.obj [])
    hotScore := floats.round4 hotScore }

/-- The loop body over the rows of a page. -/
def newsEntry (db : Tables) (now : Int) (item : Item) : Except PyError (NewsEntry floats) := do
  let domainTag ← extractDomainTag item.topicTags
  let hotScore ← calculateHotScore floats item now
  pure (entryOf floats db item domainTag hotScore)

/-- A page with its `meta`. -/
structure Feed where
  data : List (NewsEntry floats)
  total : Nat
  page : Nat
  pageSize : Nat

/-- `list_category_items`. -/
def listCategoryItems (py : Stdlib) (db : Tables) (table : ItemsTable) (now : Int) (q : FeedQuery)
    (categoryId tenantId : String) : Except PyError (Feed floats) := do
  let selected := (table.rows.filter (q.selects py categoryId tenantId)).mergeSort q.before
  let offset := (q.page - 1) * q.pageSize
  let items := (selected.drop offset).take q.pageSize
  -- one row that raises fails the whole page
  let data ← items.mapM (newsEntry floats db now)
  let data :=
    if q.sort = "hot" then data.mergeSort fun a b => floats.le b.hotScore a.hotScore else data
  pure ⟨data, selected.length, q.page, q.pageSize⟩

/-! ## Who finds an item in the feed -/

/-- Some page of the unfiltered feed has an entry for the item. -/
def Lists (py : Stdlib) (db : Tables) (table : ItemsTable) (now : Int) (sort : String)
    (categoryId tenantId : String) (item : Item) : Prop :=
  ∃ (page pageSize : Nat) (page_pos : 0 < page) (feed : Feed floats),
    listCategoryItems floats py db table now { sort, page, pageSize, page_pos } categoryId tenantId
      = .ok feed ∧ ∃ entry ∈ feed.data, entry.id = item.strId

/-- The tag and the score of a row are worked out without an exception. -/
def Renders (now : Int) (item : Item) : Prop :=
  (∃ domainTag, extractDomainTag item.topicTags = .ok domainTag) ∧
    ∃ hotScore, calculateHotScore floats item now = .ok hotScore

variable {floats} {py : Stdlib} {db : Tables} {now : Int}

/-- Without filters, the feed of a tenant has its own items of the category and those of the system
tenant. -/
lemma selects_unfiltered {sort : String} {page pageSize : Nat} (page_pos : 0 < page)
    (categoryId tenantId : String) (item : Item) :
    FeedQuery.selects py { sort, page, pageSize, page_pos } categoryId tenantId item = true ↔
      (item.tenantId = tenantId ∨ item.tenantId = SYSTEM_TENANT_ID) ∧
        item.categoryId = categoryId := by
  simp [FeedQuery.selects, FeedQuery.sinceBound]

/-- A row makes an entry if its tag and its score come out, and the entry is made of them. -/
lemma newsEntry_eq_ok {item : Item} {entry : NewsEntry floats} :
    newsEntry floats db now item = .ok entry ↔
      ∃ domainTag hotScore, extractDomainTag item.topicTags = .ok domainTag ∧
        calculateHotScore floats item now = .ok hotScore ∧
        entry = entryOf floats db item domainTag hotScore := by
  unfold newsEntry
  constructor
  · intro h
    cases hd : extractDomainTag item.topicTags with
    | error e =>
      rw [hd] at h
      cases h
    | ok domainTag =>
      cases hs : calculateHotScore floats item now with
      | error e =>
        rw [hd, hs] at h
        cases h
      | ok hotScore =>
        rw [hd, hs] at h
        cases h
        exact ⟨domainTag, hotScore, rfl, rfl, rfl⟩
  · rintro ⟨domainTag, hotScore, hd, hs, rfl⟩
    rw [hd, hs]
    rfl

/-- An entry has its item's id. -/
lemma newsEntry_id {item : Item} {entry : NewsEntry floats}
    (h : newsEntry floats db now item = .ok entry) : entry.id = item.strId := by
  obtain ⟨_, _, _, _, rfl⟩ := newsEntry_eq_ok.1 h
  rfl

/-- Every entry of a page is made of a selected row. -/
lemma mem_data {table : ItemsTable} {q : FeedQuery} {categoryId tenantId : String}
    {feed : Feed floats}
    (h : listCategoryItems floats py db table now q categoryId tenantId = .ok feed)
    {entry : NewsEntry floats} (hentry : entry ∈ feed.data) :
    ∃ item ∈ table.rows, q.selects py categoryId tenantId item = true ∧
      newsEntry floats db now item = .ok entry := by
  unfold listCategoryItems at h
  simp only at h
  generalize hrows : ((table.rows.filter (q.selects py categoryId tenantId)).mergeSort q.before)
    = selected at h
  cases hdata : ((selected.drop ((q.page - 1) * q.pageSize)).take q.pageSize).mapM
      (newsEntry floats db now) with
  | error e =>
    rw [hdata] at h
    cases h
  | ok data =>
    rw [hdata] at h
    cases h
    have hmem : entry ∈ data := by
      simp only at hentry
      split at hentry
      · exact List.mem_mergeSort.1 hentry
      · exact hentry
    obtain ⟨item, hitem, hmade⟩ := Fallible.exists_of_mem_mapM hdata hmem
    have hselected : item ∈ selected := List.mem_of_mem_drop (List.mem_of_mem_take hitem)
    rw [← hrows, List.mem_mergeSort, List.mem_filter] at hselected
    exact ⟨item, hselected.1, hselected.2, hmade⟩

/-- A selected row with an entry is alone on a page of its own. -/
lemma exists_page {table : ItemsTable} {sort : String} {categoryId tenantId : String} {item : Item}
    (hitem : item ∈ table.rows)
    (hselect : FeedQuery.selects py { sort } categoryId tenantId item = true)
    {entry : NewsEntry floats} (hentry : newsEntry floats db now item = .ok entry) :
    ∃ (page : Nat) (page_pos : 0 < page) (feed : Feed floats),
      listCategoryItems floats py db table now { sort, page, pageSize := 1, page_pos } categoryId
        tenantId = .ok feed ∧ feed.data = [entry] := by
  let q : FeedQuery := { sort }
  let selected := (table.rows.filter (q.selects py categoryId tenantId)).mergeSort q.before
  have hmem : item ∈ selected := by
    rw [List.mem_mergeSort, List.mem_filter]
    exact ⟨hitem, hselect⟩
  obtain ⟨n, hn, hget⟩ := List.mem_iff_getElem.1 hmem
  have hone : (selected.drop n).take 1 = [item] := by
    rw [List.take_one_drop_eq_of_lt_length hn, List.get_eq_getElem, hget]
  refine ⟨n + 1, Nat.succ_pos n, ⟨[entry], selected.length, n + 1, 1⟩, ?_, rfl⟩
  have hpage : (n + 1 - 1) * 1 = n := by omega
  unfold listCategoryItems
  simp only [hpage]
  show (do
    let data ← ((selected.drop n).take 1).mapM (newsEntry floats db now)
    _) = _
  rw [hone, List.mapM_cons, hentry]
  show Except.ok _ = _
  congr 2
  split <;> simp

/-- The unfiltered feed of a tenant has a stored item of the category if and only if the item is
its own or the system tenant's, and its row is rendered. -/
theorem lists_iff {table : ItemsTable} {item : Item} (hitem : item ∈ table.rows) (sort : String)
    (tenantId : String) :
    Lists floats py db table now sort item.categoryId tenantId item ↔
      (item.tenantId = tenantId ∨ item.tenantId = SYSTEM_TENANT_ID) ∧
        Renders floats now item := by
  constructor
  · rintro ⟨page, pageSize, page_pos, feed, hfeed, entry, hentry, hid⟩
    obtain ⟨row, hrow, hselect, hmade⟩ := mem_data hfeed hentry
    have heq : row = item := ItemsTable.eq_of_strId hrow hitem ((newsEntry_id hmade).symm.trans hid)
    subst heq
    obtain ⟨domainTag, hotScore, hd, hs, -⟩ := newsEntry_eq_ok.1 hmade
    exact ⟨((selects_unfiltered page_pos _ _ _).1 hselect).1, ⟨domainTag, hd⟩, hotScore, hs⟩
  · rintro ⟨hvisible, ⟨domainTag, hd⟩, hotScore, hs⟩
    have hmade : newsEntry floats db now item = .ok (entryOf floats db item domainTag hotScore) :=
      newsEntry_eq_ok.2 ⟨domainTag, hotScore, hd, hs, rfl⟩
    have hselect : FeedQuery.selects py { sort } item.categoryId tenantId item = true :=
      (selects_unfiltered (by decide) _ _ _).2 ⟨hvisible, rfl⟩
    obtain ⟨page, page_pos, feed, hfeed, hdata⟩ := exists_page hitem hselect hmade
    refine ⟨page, 1, page_pos, feed, hfeed, _, ?_, newsEntry_id hmade⟩
    rw [hdata]
    exact List.mem_singleton_self _

end TechService

end InstantBoard
