import InstantBoard.Lib.Fallible
import InstantBoard.Lib.TiedPages
import InstantBoard.Services.Tech
import Mathlib.Algebra.Order.Ring.Rat

/-!
# The pages of a feed, one after the other

Every page of `list_category_items` is a query of its own, and the database may list tied rows
differently each time: page `i` is answered from a table with the same rows in an order of its own.
Whatever the ties, the pages follow the ORDER BY (`pages_in_order`). For "time" and "relevance" that
is the sort key. For "hot" the ORDER BY is by priority and time, and the hot score orders the entries
of a page only. Each item is there once when no group of ties straddles a cut between two pages, or
when the ties stand the same way in every query (`paged_feed`).
-/

namespace InstantBoard

/-- The scores are compared like numbers. -/
structure FloatLib.Comparable (floats : FloatLib) : Prop where
  total : ∀ x y, floats.le x y = true ∨ floats.le y x = true
  trans : ∀ x y z, floats.le x y = true → floats.le y z = true → floats.le x z = true

namespace TechService

/-- One row may come before another. -/
def FeedQuery.Before (q : FeedQuery) (a b : Item) : Prop := q.before a b = true

instance (q : FeedQuery) : DecidableRel q.Before := fun _ _ => inferInstanceAs (Decidable (_ = true))

/-- What a row or its entry says of its place: the id, the priority and the time. -/
abbrev Head := String × Int × Int

/-- The order of the ORDER BY, which has no tiebreaker. -/
def FeedQuery.HeadBefore (q : FeedQuery) (x y : Head) : Prop :=
  if q.sort = "time" then y.2.2 ≤ x.2.2
  else if q.sort = "relevance" then y.2.1 ≤ x.2.1
  else y.2.1 < x.2.1 ∨ y.2.1 ≤ x.2.1 ∧ y.2.2 ≤ x.2.2

def head (item : Item) : Head := (item.strId, priorityColumn item, item.publishedAt.micros)

/-- The order of a feed is that of the heads. -/
lemma FeedQuery.before_iff (q : FeedQuery) (a b : Item) :
    q.Before a b ↔ q.HeadBefore (head a) (head b) := by
  unfold FeedQuery.Before FeedQuery.before FeedQuery.HeadBefore head
  dsimp only
  split
  · exact decide_eq_true_iff
  · split
    · exact decide_eq_true_iff
    · rw [Bool.or_eq_true, Bool.and_eq_true, decide_eq_true_iff, decide_eq_true_iff,
        decide_eq_true_iff]

instance (q : FeedQuery) : Std.Total q.Before where
  total a b := by
    rw [q.before_iff, q.before_iff]
    unfold FeedQuery.HeadBefore
    split
    · omega
    · split <;> omega

instance (q : FeedQuery) : IsTrans Item q.Before where
  trans a b c := by
    rw [q.before_iff, q.before_iff, q.before_iff]
    unfold FeedQuery.HeadBefore
    split
    · omega
    · split <;> omega

/-- The request for the page after `i` pages. -/
def FeedQuery.onPage (q : FeedQuery) (i : Nat) : FeedQuery :=
  { q with page := i + 1, page_pos := Nat.succ_pos i }

variable {floats : FloatLib} {py : Stdlib} {db : Tables} {now : Int}

/-- The number of the last page. -/
def lastPage (total pageSize : Nat) : Nat := (total + pageSize - 1) / pageSize

/-- The integer in an entry's `priority`. -/
def NewsEntry.priorityValue (entry : NewsEntry floats) : Int :=
  match entry.priority with
  | .int n => n
  | _ => 0

/-- The order of the entries of a "hot" page. -/
def NewsEntry.Hotter (a b : NewsEntry floats) : Prop :=
  floats.le b.hotScore a.hotScore = true

/-! ## One page -/

def NewsEntry.head (entry : NewsEntry floats) : Head :=
  (entry.id, entry.priorityValue, entry.publishedAt.micros)

/-- An entry shows its item's head. -/
lemma newsEntry_head {item : Item} {entry : NewsEntry floats}
    (h : newsEntry floats db now item = .ok entry) : entry.head = TechService.head item := by
  obtain ⟨_, _, _, _, rfl⟩ := newsEntry_eq_ok.1 h
  rfl

variable (db) in
/-- Rows that are rendered all make entries, one each. -/
lemma mapM_newsEntry {items : List Item} (h : ∀ item ∈ items, Renders floats now item) :
    ∃ data, items.mapM (newsEntry floats db now) = .ok data ∧
      data.map NewsEntry.head = items.map head := by
  induction items with
  | nil => exact ⟨[], rfl, rfl⟩
  | cons item items ih =>
    obtain ⟨⟨domainTag, hd⟩, hotScore, hs⟩ := h item List.mem_cons_self
    have hentry : newsEntry floats db now item = .ok (entryOf floats db item domainTag hotScore) :=
      newsEntry_eq_ok.2 ⟨domainTag, hotScore, hd, hs, rfl⟩
    obtain ⟨data, hdata, hheads⟩ := ih fun a ha => h a (List.mem_cons_of_mem _ ha)
    refine ⟨entryOf floats db item domainTag hotScore :: data, ?_, ?_⟩
    · rw [List.mapM_cons, hentry, hdata]
      rfl
    · rw [List.map_cons, List.map_cons, hheads, newsEntry_head hentry]

variable {table : ItemsTable} {q : FeedQuery} {categoryId tenantId : String}

/-- The matching rows. -/
def matching (py : Stdlib) (table : ItemsTable) (q : FeedQuery) (categoryId tenantId : String) :
    List Item :=
  table.rows.filter (q.selects py categoryId tenantId)

/-- The listing of the matching rows that a query is answered from. -/
def listing (py : Stdlib) (table : ItemsTable) (q : FeedQuery) (categoryId tenantId : String) :
    List Item :=
  (matching py table q categoryId tenantId).mergeSort q.before

variable (py q categoryId tenantId) in
/-- A query lists the matching rows in its order. -/
lemma orderBy_listing {table' : ItemsTable} (same : table'.rows.Perm table.rows) :
    Query.OrderBy q.Before (matching py table q categoryId tenantId)
      (listing py table' q categoryId tenantId) where
  perm := (List.mergeSort_perm _ _).trans (same.filter _)
  sorted := by
    apply List.pairwise_mergeSort
    · intro a b c
      exact trans_of q.Before
    · intro a b
      rw [Bool.or_eq_true]
      exact total_of q.Before a b

variable (db) in
/-- A page of rendered rows is answered: the entries of its rows, for "hot" the hotter ones first. -/
lemma listCategoryItems_eq (comparable : floats.Comparable) (i : Nat)
    (renders : ∀ item ∈ listing py table q categoryId tenantId, Renders floats now item) :
    ∃ feed, listCategoryItems floats py db table now (q.onPage i) categoryId tenantId = .ok feed ∧
      (feed.data.map NewsEntry.head).Perm
        ((Query.page q.pageSize i (listing py table q categoryId tenantId)).map head) ∧
      (q.sort ≠ "hot" → feed.data.map NewsEntry.head =
        (Query.page q.pageSize i (listing py table q categoryId tenantId)).map head) ∧
      (q.sort = "hot" → feed.data.Pairwise NewsEntry.Hotter) := by
  have hpage : ∀ item ∈ Query.page q.pageSize i (listing py table q categoryId tenantId),
      Renders floats now item :=
    fun item hitem => renders item (List.mem_of_mem_drop (List.mem_of_mem_take hitem))
  obtain ⟨data, hdata, hheads⟩ := mapM_newsEntry db hpage
  have hfeed : listCategoryItems floats py db table now (q.onPage i) categoryId tenantId =
      .ok ⟨if q.sort = "hot" then data.mergeSort fun a b => floats.le b.hotScore a.hotScore else data,
        (listing py table q categoryId tenantId).length, i + 1, q.pageSize⟩ := by
    unfold listCategoryItems
    exact Fallible.bind_eq_ok.2 ⟨data, hdata, rfl⟩
  refine ⟨_, hfeed, ?_, ?_, ?_⟩
  · rw [← hheads]
    apply List.Perm.map
    split
    · exact List.mergeSort_perm _ _
    · exact List.Perm.refl _
  · intro hsort
    rw [if_neg hsort]
    exact hheads
  · intro hsort
    rw [if_pos hsort]
    apply List.pairwise_mergeSort
    · intro a b c hab hbc
      exact comparable.trans _ _ _ hbc hab
    · intro a b
      rw [Bool.or_eq_true]
      exact comparable.total _ _

/-! ## All pages -/

/-- The pages hold all entries. -/
lemma le_lastPage {total pageSize : Nat} (h : 0 < pageSize) :
    total ≤ lastPage total pageSize * pageSize := by
  unfold lastPage
  have hmod := Nat.mod_lt (total + pageSize - 1) h
  have hdiv := Nat.div_add_mod (total + pageSize - 1) pageSize
  rw [Nat.mul_comm] at hdiv
  omega

/-- The entries of the pages up to the last one. -/
def concatenation (feeds : Nat → Feed floats) (total pageSize : Nat) : List (NewsEntry floats) :=
  (List.range (lastPage total pageSize)).flatMap fun i => (feeds i).data

/-- The rows of the matching listings are one table's. -/
lemma matching_nodup : (matching py table q categoryId tenantId).Nodup :=
  (List.Nodup.of_map _ table.primaryKey).sublist List.filter_sublist

/-- Pages cut from listings with the same rows before each cut have every matching row once. -/
lemma pages_complete {tables : Nat → ItemsTable} (hsize : 0 < q.pageSize)
    (same : ∀ i, (tables i).rows.Perm table.rows)
    (h : (∀ i, ¬ Query.Straddles q.Before (matching py table q categoryId tenantId)
        (i * q.pageSize)) ∨ ∀ i, (tables i).rows = (tables 0).rows) :
    (Query.pages q.pageSize (lastPage (matching py table q categoryId tenantId).length q.pageSize)
      fun i => listing py (tables i) q categoryId tenantId).Perm
        (matching py table q categoryId tenantId) := by
  have hlisting := fun i => orderBy_listing py q categoryId tenantId (same i)
  have hagree : ∀ i n, (∃ m, n = m * q.pageSize) →
      ((listing py (tables i) q categoryId tenantId).take n).Perm
        ((listing py (tables 0) q categoryId tenantId).take n) := by
    rintro i n ⟨m, rfl⟩
    rcases h with clean | equal
    · exact (hlisting 0).take_perm_of_clean matching_nodup (hlisting i) (clean m)
    · dsimp only [listing, matching]
      rw [equal i]
  have hpages := Query.pages_perm hagree
    (lastPage (matching py table q categoryId tenantId).length q.pageSize)
  have hlong : (listing py (tables 0) q categoryId tenantId).length ≤
      lastPage (matching py table q categoryId tenantId).length q.pageSize * q.pageSize := by
    rw [(hlisting 0).perm.length_eq]
    exact le_lastPage hsize
  rw [List.take_of_length_le hlong] at hpages
  exact hpages.trans (hlisting 0).perm

/-- The pages of a feed, each a query of its own: "time" and "relevance" are in the order of their
key over all pages; "hot" is in the order of the score on each page, and the pages follow priority
and time; and every matching item is there once, if no group of items that tie in the ORDER BY
straddles a cut between two pages or the ties stand the same way in every query. -/
theorem paged_feed (comparable : floats.Comparable) (table : ItemsTable) (q : FeedQuery)
    (hsize : 0 < q.pageSize) (categoryId tenantId : String) (tables : Nat → ItemsTable)
    (same : ∀ i, (tables i).rows.Perm table.rows)
    (renders : ∀ item ∈ matching py table q categoryId tenantId, Renders floats now item) :
    ∃ feeds : Nat → Feed floats,
      (∀ i, listCategoryItems floats py db (tables i) now (q.onPage i) categoryId tenantId =
        .ok (feeds i)) ∧
      let data := concatenation feeds (matching py table q categoryId tenantId).length q.pageSize
      (q.sort = "time" → data.Pairwise fun a b => b.publishedAt.micros ≤ a.publishedAt.micros) ∧
      (q.sort = "relevance" → data.Pairwise fun a b => b.priorityValue ≤ a.priorityValue) ∧
      (q.sort = "hot" → (∀ i, (feeds i).data.Pairwise NewsEntry.Hotter) ∧
        ∀ i j, i < j → ∀ a ∈ (feeds i).data, ∀ b ∈ (feeds j).data, q.HeadBefore a.head b.head) ∧
      ((∀ i, ¬ Query.Straddles q.Before (matching py table q categoryId tenantId)
          (i * q.pageSize)) ∨ (∀ i, (tables i).rows = (tables 0).rows) →
        (data.map (·.id)).Perm
          ((matching py table q categoryId tenantId).map Item.strId)) := by
  have hlisting := fun i => orderBy_listing py q categoryId tenantId (same i)
  choose feeds hfeed hperm hheads hhot using fun i =>
    listCategoryItems_eq db comparable i
      fun item hitem => renders item ((hlisting i).perm.mem_iff.1 hitem)
  have hpages : ∀ n, (((List.range n).flatMap fun i => (feeds i).data).map NewsEntry.head).Perm
      ((Query.pages q.pageSize n fun i => listing py (tables i) q categoryId tenantId).map head) := by
    intro n
    unfold Query.pages
    rw [List.map_flatMap, List.map_flatMap]
    exact List.Perm.flatMap_left _ fun i _ => hperm i
  have hsorted : q.sort ≠ "hot" →
      (concatenation feeds (matching py table q categoryId tenantId).length q.pageSize).Pairwise
        fun a b => q.HeadBefore a.head b.head := by
    intro hsort
    rw [← List.pairwise_map]
    have hmap : (concatenation feeds (matching py table q categoryId tenantId).length
        q.pageSize).map NewsEntry.head =
        (Query.pages q.pageSize (lastPage (matching py table q categoryId tenantId).length q.pageSize)
          fun i => listing py (tables i) q categoryId tenantId).map head := by
      unfold concatenation Query.pages
      rw [List.map_flatMap, List.map_flatMap]
      exact List.flatMap_congr fun i _ => hheads i hsort
    rw [hmap, List.pairwise_map]
    exact (Query.pages_sorted hlisting _).imp fun {a b} h => (q.before_iff a b).1 h
  refine ⟨feeds, hfeed, ?_, ?_, ?_, ?_⟩
  · intro hsort
    have hne : q.sort ≠ "hot" := by
      rw [hsort]
      decide
    apply (hsorted hne).imp
    intro a b h
    unfold FeedQuery.HeadBefore at h
    rwa [if_pos hsort] at h
  · intro hsort
    have hne : q.sort ≠ "hot" ∧ q.sort ≠ "time" := by
      rw [hsort]
      decide
    apply (hsorted hne.1).imp
    intro a b h
    unfold FeedQuery.HeadBefore at h
    rwa [if_neg hne.2, if_pos hsort] at h
  · intro hsort
    refine ⟨fun i => hhot i hsort, ?_⟩
    intro i j hlt a ha b hb
    obtain ⟨x, hx, hxa⟩ := List.mem_map.1 ((hperm i).mem_iff.1 (List.mem_map_of_mem ha))
    obtain ⟨y, hy, hyb⟩ := List.mem_map.1 ((hperm j).mem_iff.1 (List.mem_map_of_mem hb))
    rw [← hxa, ← hyb, ← q.before_iff]
    exact Query.page_across (hlisting i) (hlisting j) hlt hx hy
  · intro h
    have hids := ((hpages _).trans ((pages_complete hsize same h).map head)).map Prod.fst
    rw [List.map_map, List.map_map] at hids
    exact hids

/-! ## Two items on pages of one -/

open AsyncSchedulerManager.Sample (library category uuidA uuidB published)

namespace TwoItems

/-- Rationals for the scores, with `exp` at the two ages below. -/
def doubles : FloatLib where
  F := ℚ
  ofRat x := x
  float v :=
    match v with
    | .int n => .ok n
    | _ => .error (.typeError "float() argument must be a string or a real number")
  add x y := x + y
  mul x y := x * y
  exp x := if x = 0 then 1 else if x = -10 then 45399929762484854 / 1000000000000000000000 else 0
  log1p x := .ok x
  round4 x := (x * 10000 + 1 / 2).floor / 10000
  le x y := decide (x ≤ y)

/-- The sample's doubles are comparable. -/
lemma comparable : doubles.Comparable where
  total (x y : ℚ) := by
    show decide (x ≤ y) = true ∨ decide (y ≤ x) = true
    rw [decide_eq_true_iff, decide_eq_true_iff]
    exact le_total x y
  trans (x y z : ℚ) := by
    show decide (x ≤ y) = true → decide (y ≤ z) = true → decide (x ≤ z) = true
    rw [decide_eq_true_iff, decide_eq_true_iff, decide_eq_true_iff]
    exact le_trans

/-- An item of the sample category that was published so many seconds ago. -/
def item (id : Uuid) (priority : Int) (age : Int) : Item :=
  { id := some id, tenantId := SYSTEM_TENANT_ID, categoryId := category.id,
    sourceId := "5be1c3b0-9c0f-4a55-9d0e-1d2f3a4b5c6d", title := .str "Rust 2.0",
    summary := .str "", url := .str "https://a.io/r", imageUrl := .null,
    publishedAt := { published with micros := published.micros - age * 1000000 },
    topicTags := .arr [], extraData := .null, priority := .int priority, isProcessed := true }

/-- An item of high priority, five days old, and a new one of low priority. -/
def oldAndNew : ItemsTable :=
  ⟨[item uuidA 9 432000, item uuidB 1 0], by decide⟩

/-- Two items of one priority, in one order and in the other. -/
def tied : ItemsTable := ⟨[item uuidA 5 0, item uuidB 5 0], by decide⟩

def tied' : ItemsTable := ⟨[item uuidB 5 0, item uuidA 5 0], by decide⟩

def query (sort : String) : FeedQuery := { sort, page_pos := Nat.zero_lt_one, pageSize := 1 }

/-- A page of the feed for the sample tenant. -/
def page (sort : String) (rows : ItemsTable) (i : Nat) : Except PyError (Feed doubles) :=
  listCategoryItems doubles library ⟨[], [], []⟩ rows published.micros ((query sort).onPage i)
    category.id SYSTEM_TENANT_ID

/-- The score of a sample item before it is rounded. -/
def score (priority age : Int) : doubles.F :=
  let ageSeconds : ℚ :=
    (published.micros - (published.micros - age * 1000000) : Int) / 1000000
  let ageSeconds := if ageSeconds < 0 then 0 else ageSeconds
  doubles.mul (priority : ℚ) (doubles.exp (doubles.ofRat (-ageSeconds / HALF_LIFE_SECONDS)))

def entry (id : Uuid) (priority age : Int) : NewsEntry doubles :=
  entryOf doubles ⟨[], [], []⟩ (item id priority age) none (score priority age)

/-- The entry of a sample item. -/
lemma newsEntry_item (id : Uuid) {priority : Int} (age : Int)
    (h : (Json.int priority).or (.int 5) = .int priority) :
    newsEntry doubles ⟨[], [], []⟩ published.micros (item id priority age) =
      .ok (entry id priority age) := by
  apply newsEntry_eq_ok.2
  refine ⟨none, score priority age, rfl, ?_, rfl⟩
  unfold calculateHotScore
  dsimp only [item]
  rw [h]
  rfl

/-- A row of a sorted table is alone on its page. -/
lemma page_eq {sort : String} {rows : ItemsTable} (before after : List Item) (id : Uuid)
    {priority : Int} (age : Int) (hpriority : (Json.int priority).or (.int 5) = .int priority)
    (hrows : matching library rows (query sort) category.id SYSTEM_TENANT_ID =
      before ++ item id priority age :: after)
    (hsorted : (before ++ item id priority age :: after).Pairwise (query sort).Before) :
    page sort rows before.length =
      .ok ⟨[entry id priority age], (before ++ item id priority age :: after).length,
        before.length + 1, 1⟩ := by
  have hlisting : (matching library rows (query sort) category.id SYSTEM_TENANT_ID).mergeSort
      (query sort).before = before ++ item id priority age :: after := by
    rw [hrows]
    exact List.mergeSort_of_pairwise hsorted
  have hitems : Query.page 1 before.length (before ++ item id priority age :: after) = [item id priority age] := by
    unfold Query.page
    rw [Nat.mul_one, List.drop_left]
    rfl
  unfold page listCategoryItems
  show (do
    let data ← (Query.page 1 before.length ((matching library rows (query sort) category.id
      SYSTEM_TENANT_ID).mergeSort (query sort).before)).mapM
        (newsEntry doubles ⟨[], [], []⟩ published.micros)
    _) = _
  rw [hlisting, hitems, List.mapM_cons, newsEntry_item id age hpriority]
  show Except.ok _ = _
  congr 2
  · split <;> simp
  · exact congrArg List.length hlisting

end TwoItems

open TwoItems in
/-- Without a change of the ties between the queries, two items on pages of one are there once. -/
theorem tied_pages :
    ∃ feeds : Nat → Feed doubles,
      (∀ i, page "relevance" tied i = .ok (feeds i)) ∧
      ((concatenation feeds 2 1).map (·.id)).Perm [uuidA.text, uuidB.text] := by
  have renders : ∀ a ∈ matching library tied (query "relevance") category.id SYSTEM_TENANT_ID,
      Renders doubles published.micros a := by
    intro a ha
    have hin : a ∈ tied.rows := (List.mem_filter.1 ha).1
    rcases List.mem_cons.1 hin with rfl | hin
    · exact ⟨⟨none, rfl⟩, _, rfl⟩
    · rw [List.mem_singleton.1 hin]
      exact ⟨⟨none, rfl⟩, _, rfl⟩
  obtain ⟨feeds, hfeeds, _, _, _, hcomplete⟩ := @paged_feed doubles library ⟨[], [], []⟩
    published.micros comparable tied (query "relevance") (by decide) category.id SYSTEM_TENANT_ID
    (fun _ => tied) (fun _ => List.Perm.refl _) renders
  exact ⟨feeds, hfeeds, hcomplete (.inr fun _ => rfl)⟩

open TwoItems in
/-- The old item of high priority is on the first "hot" page, before the hotter one; and where two
items tie, one of them can be on both pages and the other on none. -/
theorem not_one_sorted_list :
    (¬ ∀ (table : ItemsTable) (q : FeedQuery) (feeds : Nat → Feed doubles),
      0 < q.pageSize → q.sort = "hot" →
      (∀ i < lastPage (matching library table q category.id SYSTEM_TENANT_ID).length q.pageSize,
        listCategoryItems doubles library ⟨[], [], []⟩ table published.micros (q.onPage i)
          category.id SYSTEM_TENANT_ID = .ok (feeds i)) →
      (concatenation feeds (matching library table q category.id SYSTEM_TENANT_ID).length
        q.pageSize).Pairwise NewsEntry.Hotter) ∧
    ¬ ∀ (table : ItemsTable) (q : FeedQuery) (tables : Nat → ItemsTable)
      (feeds : Nat → Feed doubles),
      0 < q.pageSize → q.sort = "relevance" → (∀ i, (tables i).rows.Perm table.rows) →
      (∀ i < lastPage (matching library table q category.id SYSTEM_TENANT_ID).length q.pageSize,
        listCategoryItems doubles library ⟨[], [], []⟩ (tables i) published.micros (q.onPage i)
          category.id SYSTEM_TENANT_ID = .ok (feeds i)) →
      ((concatenation feeds (matching library table q category.id SYSTEM_TENANT_ID).length
        q.pageSize).map (·.id)).Perm
          ((matching library table q category.id SYSTEM_TENANT_ID).map Item.strId) := by
  constructor
  · intro h
    let old := entry uuidA 9 432000
    let fresh := entry uuidB 1 0
    have hold : page "hot" oldAndNew 0 = .ok ⟨[old], 2, 1, 1⟩ :=
      page_eq [] [item uuidB 1 0] uuidA 432000 rfl rfl (by decide +kernel)
    have hfresh : page "hot" oldAndNew 1 = .ok ⟨[fresh], 2, 2, 1⟩ :=
      page_eq [item uuidA 9 432000] [] uuidB 0 rfl rfl (by decide +kernel)
    have hsorted := h oldAndNew (query "hot")
      (fun i => if i = 0 then ⟨[old], 2, 1, 1⟩ else ⟨[fresh], 2, 2, 1⟩) (by decide) rfl (by
        intro i hi
        have hcases : i = 0 ∨ i = 1 := by
          have hlt : i < 2 := hi
          omega
        rcases hcases with rfl | rfl
        · exact hold
        · exact hfresh)
    have hpair : [old, fresh].Pairwise NewsEntry.Hotter := hsorted
    have hcold : ¬ old.Hotter fresh := by
      unfold NewsEntry.Hotter
      decide +kernel
    exact hcold (List.pairwise_pair.1 hpair)
  · intro h
    let kept := entry uuidA 5 0
    have hfirst : page "relevance" tied 0 = .ok ⟨[kept], 2, 1, 1⟩ :=
      page_eq [] [item uuidB 5 0] uuidA 0 rfl rfl (by decide +kernel)
    have hsecond : page "relevance" tied' 1 = .ok ⟨[kept], 2, 2, 1⟩ :=
      page_eq [item uuidB 5 0] [] uuidA 0 rfl rfl (by decide +kernel)
    have hperm := h tied (query "relevance") (fun i => if i = 0 then tied else tied')
      (fun i => if i = 0 then ⟨[kept], 2, 1, 1⟩ else ⟨[kept], 2, 2, 1⟩) (by decide) rfl (by
        intro i
        split
        · exact List.Perm.refl _
        · exact List.Perm.swap _ _ _) (by
        intro i hi
        have hcases : i = 0 ∨ i = 1 := by
          have hlt : i < 2 := hi
          omega
        rcases hcases with rfl | rfl
        · exact hfirst
        · exact hsecond)
    have hmem : uuidB.text ∈ [uuidA.text, uuidA.text] :=
      hperm.mem_iff.2 (List.mem_cons_of_mem _ List.mem_cons_self)
    exact absurd hmem (by decide +kernel)

end TechService

end InstantBoard
