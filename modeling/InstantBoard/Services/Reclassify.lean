import InstantBoard.Lib.Fallible
import InstantBoard.Lib.Paging
import InstantBoard.Services.CategoryReads
import InstantBoard.Services.Tech

/-!
# Reclassifying the items of a category

`reclassify_category_items` makes the tags of the tenant's items of a category again, in pages by the
item's key. The key and the columns that select an item are not written, so the pages stand still while
the loop rewrites their rows: the loop ends, and each item is visited once (`reclassify_exact`).
-/

namespace InstantBoard

open Fallible Paging

/-! ## Rows -/

/-- What the collectors and the processors put in the columns of an item. -/
structure Item.Stored (item : Item) : Prop where
  title : ∃ s, item.title = .str s
  summary : item.summary = .null ∨ ∃ s, item.summary = .str s
  topicTags : item.topicTags = .null ∨ ∃ tags, item.topicTags = .arr tags
  extraData : item.extraData = .null ∨ ∃ fields, item.extraData = .obj fields

/-- The items table with what it holds. -/
structure StoredItems extends ItemsTable where
  stored : ∀ item ∈ rows, item.Stored

namespace CategoryService

def RECLASSIFY_BATCH_SIZE : Nat := 500

/-! ## The service -/

/-- `_recompute_item_tags` -/
def recomputeItemTags (py : Stdlib) (item : Item) (category : Category) :
    Except PyError (List String) :=
  let title := item.title.or (.str "")
  let summary := item.summary.or (.str "")
  let text := title.format py ++ " " ++ summary.format py
  if category.type = "tech" then
    .ok (TechTopicExtractor.extractWithLevel1 py text category.slug)
  else if category.type = "finance" then do
    let financeTags ← CategorizerProcessor.determineFinanceTags py
      [("title", title), ("summary", summary), ("extra_data", item.extraData.or (.obj []))]
    return "finance" :: financeTags
  else .ok [category.slug]

/-- `list(item.topic_tags or [])` -/
def currentTags (item : Item) : Except PyError (List Json) :=
  TechService.iterate (item.topicTags.or (.arr []))

/-- The row that the loop writes for an item, if its tags have changed. -/
def retagged (py : Stdlib) (category : Category) (item : Item) : Except PyError (Option Item) := do
  let newTags ← recomputeItemTags py item category
  let current ← currentTags item
  if newTags.map Json.str ≠ current then
    return some { item with topicTags := CategorizerProcessor.tagList newTags }
  else return none

/-- The `where` of a batch. -/
def ownItem (category : Category) (tenantId : String) (item : Item) : Bool :=
  item.categoryId = category.id ∧ item.tenantId = tenantId

structure ReclassifyResponse where
  scanned : Nat
  updated : Nat
deriving DecidableEq

inductive ReclassifyError where
  | refused (e : ReadError)
  | raised (e : PyError)

/-- The loop over the batches, with a bound on its turns. -/
def reclassifyBatches (py : Stdlib) (fuel : Nat) (category : Category) (tenantId : String)
    (batchSize : Nat) (rows : List Item) : Option (Except PyError (Scan Item)) :=
  scan Item.strId (retagged py category) (listing Item.strId (ownItem category tenantId)) batchSize
    fuel 0 ⟨rows, 0, 0⟩

/-- `reclassify_category_items` -/
def reclassifyCategoryItems (py : Stdlib) (fuel : Nat) (db : CategoryTables) (rows : List Item)
    (categoryId tenantId : String) (batchSize : Nat) :
    Option (Except ReclassifyError (ReclassifyResponse × List Item)) :=
  match findAccessible db categoryId tenantId with
  | .error e => some (.error (.refused e))
  | .ok category =>
    (reclassifyBatches py fuel category.toCategory tenantId batchSize rows).map fun result =>
      (result.mapError .raised).map fun s => (⟨s.scanned, s.updated⟩, s.rows)

/-! ## What it does -/

/-- The tags of the item are not those that are made of it. -/
def stale (py : Stdlib) (category : Category) (item : Item) : Bool :=
  (recomputeItemTags py item category).toOption.map (·.map Json.str) ≠ (currentTags item).toOption

/-- What a run leaves. -/
structure Reclassified (py : Stdlib) (category : Category) (tenantId : String) (before after : List Item)
    (response : ReclassifyResponse) : Prop where
  scanned : response.scanned = (before.filter (ownItem category tenantId)).length
  updated : response.updated =
    (before.filter fun item => ownItem category tenantId item && stale py category item).length
  tags : ∀ item ∈ after, ownItem category tenantId item = true →
    ∃ tags, recomputeItemTags py item category = .ok tags ∧
      currentTags item = .ok (tags.map Json.str)
  frame : List.Forall₂ (fun item item' =>
    if ownItem category tenantId item then item' = { item with topicTags := item'.topicTags }
    else item' = item) before after

section

variable {py : Stdlib} {category : Category} {tenantId : String} {item item' : Item}

/-- A text or null is formatted as a text. -/
lemma or_format {v : Json} (h : v = .null ∨ ∃ s, v = .str s) : ∃ s, v.or (.str "") = .str s := by
  rcases h with rfl | ⟨s, rfl⟩
  · exact ⟨"", rfl⟩
  · unfold Json.or
    split
    · exact ⟨s, rfl⟩
    · exact ⟨"", rfl⟩

/-- `or {}` keeps an object. -/
lemma or_obj_eq {fields : Dict} : (Json.obj fields).or (.obj []) = .obj fields := by
  unfold Json.or
  cases fields with
  | nil => rfl
  | cons field fields => rfl

/-- An object or null is read as an object. -/
lemma or_obj {v : Json} (h : v = .null ∨ ∃ fields, v = .obj fields) :
    ∃ fields, v.or (.obj []) = .obj fields := by
  rcases h with rfl | ⟨fields, rfl⟩
  · exact ⟨[], rfl⟩
  · exact ⟨fields, or_obj_eq⟩

/-- What the finance rules read off the words of a text. -/
def wordGroup (text : String) : List String :=
  if ["etf", "nav", "估值", "基金净值", "fund"].any (Text.contains text) then ["fund-nav"]
  else if ["指数", "index", "s&p", "nasdaq", "沪深300", "上证", "深证"].any (Text.contains text) then
    ["market-indices"]
  else if ["黄金", "原油", "gold", "oil", "commodity", "期货", "大宗商品"].any (Text.contains text) then
    ["commodities"]
  else ["china-stock"]

/-- What the finance rules make of the type, the region and the text of an item. -/
def financeGroup (type region : Json) (text : String) : List String :=
  if type.isStr "cn_stock" || region.isStr "CN" then ["china-stock"]
  else if type.isStr "index" || type.isStr "cn_index" then ["market-indices"]
  else if type.isStr "commodity" then ["commodities"]
  else wordGroup text

/-- The finance rules raise on no item whose texts are strings and whose extra data are a dictionary. -/
lemma determineFinanceTags_eq {item : Dict} {title summary : String} {fields : Dict}
    (htitle : item.getD "title" (.str "") = .str title)
    (hsummary : item.getD "summary" (.str "") = .str summary)
    (hextra : (item.getD "extra_data" (.obj [])).or (.obj []) = .obj fields) :
    CategorizerProcessor.determineFinanceTags py item =
      .ok (financeGroup (item.getD "type" .null) (fields.getD "region" .null)
        (py.lower title ++ " " ++ py.lower summary)) := by
  unfold CategorizerProcessor.determineFinanceTags financeGroup wordGroup
  rw [htitle, hsummary, hextra]
  dsimp only [Json.strAttr, Json.dictGet, bind, Except.bind, pure, Except.pure]
  cases (item.getD "type" .null).isStr "cn_stock" with
  | true => rfl
  | false =>
    cases (Dict.getD fields "region" .null).isStr "CN" with
    | true => rfl
    | false =>
      simp only [Bool.false_eq_true, if_false, Bool.or_self]
      repeat' split
      all_goals rfl

/-- The tags of a row have no type to go by. -/
lemma determineFinanceTags_row {title summary : String} {fields : Dict} :
    CategorizerProcessor.determineFinanceTags py
      [("title", .str title), ("summary", .str summary), ("extra_data", .obj fields)] =
      .ok (financeGroup .null (fields.getD "region" .null)
        (py.lower title ++ " " ++ py.lower summary)) :=
  determineFinanceTags_eq rfl rfl or_obj_eq

/-- The tags of a stored item can be computed. -/
lemma recompute_ok (h : item.Stored) : ∃ tags, recomputeItemTags py item category = .ok tags := by
  obtain ⟨title, htitle⟩ := or_format (.inr h.title)
  obtain ⟨summary, hsummary⟩ := or_format h.summary
  unfold recomputeItemTags
  rw [htitle, hsummary]
  dsimp only
  split
  · exact ⟨_, rfl⟩
  · split
    · obtain ⟨fields, hextra⟩ := or_obj h.extraData
      rw [hextra]
      exact ⟨_, bind_eq_ok.2 ⟨_, determineFinanceTags_row, rfl⟩⟩
    · exact ⟨_, rfl⟩

/-- The current tags of a list are it. -/
lemma currentTags_arr {tags : List Json} (h : item.topicTags = .arr tags) :
    currentTags item = .ok tags := by
  unfold currentTags Json.or
  rw [h]
  cases tags with
  | nil => rfl
  | cons tag tags => rfl

/-- The current tags of a stored item can be read. -/
lemma currentTags_ok (h : item.Stored) : ∃ tags, currentTags item = .ok tags := by
  rcases h.topicTags with hnull | ⟨tags, harr⟩
  · refine ⟨[], ?_⟩
    unfold currentTags
    rw [hnull]
    rfl
  · exact ⟨tags, currentTags_arr harr⟩

/-- The row that is written for an item, if there is one. -/
def rewritten (py : Stdlib) (category : Category) (item : Item) : Option Item :=
  (retagged py category item).toOption.getD none

/-- Only the tags are written. -/
lemma rewritten_eq_some (h : rewritten py category item = some item') :
    ∃ tags, item' = { item with topicTags := CategorizerProcessor.tagList tags } := by
  unfold rewritten at h
  cases hretag : retagged py category item with
  | error e =>
    rw [hretag] at h
    cases h
  | ok o =>
    rw [hretag] at h
    obtain ⟨tags, _, hretag⟩ := bind_eq_ok.1 hretag
    obtain ⟨current, _, hretag⟩ := bind_eq_ok.1 hretag
    change o = some item' at h
    subst h
    split at hretag
    · cases hretag
      exact ⟨tags, rfl⟩
    · cases hretag

/-- A row that is written keeps its key and is selected as before. -/
lemma rewritten_keeps (h : rewritten py category item = some item') :
    item'.strId = item.strId ∧ ownItem category tenantId item' = ownItem category tenantId item := by
  obtain ⟨tags, rfl⟩ := rewritten_eq_some h
  exact ⟨rfl, rfl⟩

/-- An item whose visit raises nothing: it is written when its tags are not those made of it, and has
them then. -/
lemma retagged_of_stored (h : item.Stored) :
    retagged py category item = .ok (rewritten py category item) ∧
      (rewritten py category item).isSome = stale py category item ∧
      ∃ tags, recomputeItemTags py (visited (rewritten py category) item) category = .ok tags ∧
        currentTags (visited (rewritten py category) item) = .ok (tags.map Json.str) := by
  obtain ⟨tags, htags⟩ : ∃ tags, recomputeItemTags py item category = .ok tags := recompute_ok h
  obtain ⟨current, hcurrent⟩ := currentTags_ok h
  have hretag : retagged py category item = .ok (if tags.map Json.str ≠ current then
      some { item with topicTags := CategorizerProcessor.tagList tags } else none) := by
    unfold retagged
    rw [htags, hcurrent]
    dsimp only [bind, Except.bind]
    split
    · rfl
    · rfl
  have hrewritten : rewritten py category item = if tags.map Json.str ≠ current then
      some { item with topicTags := CategorizerProcessor.tagList tags } else none := by
    unfold rewritten
    rw [hretag]
    rfl
  have hstale : stale py category item = decide (tags.map Json.str ≠ current) := by
    unfold stale
    rw [htags, hcurrent]
    simp [Except.toOption]
  refine ⟨by rw [hretag, hrewritten], ?_, ?_⟩
  · rw [hrewritten, hstale]
    split
    · rename_i hne
      exact (decide_eq_true hne).symm
    · rename_i heq
      exact (decide_eq_false heq).symm
  · unfold visited
    rw [hrewritten]
    split
    · exact ⟨tags, htags, currentTags_arr rfl⟩
    · rename_i heq
      exact ⟨tags, htags, hcurrent.trans (congrArg Except.ok (Decidable.not_not.1 heq).symm)⟩

/-- The batches of a table with its columns filled as they are. -/
lemma reclassifyBatches_eq_ok (table : StoredItems) {batchSize fuel : Nat} (hsize : 0 < batchSize)
    (hfuel : (table.rows.filter (ownItem category tenantId)).length < fuel) :
    reclassifyBatches py fuel category tenantId batchSize table.rows =
      some (.ok ⟨table.rows.map fun item => if ownItem category tenantId item then
          visited (rewritten py category) item else item,
        (table.rows.filter (ownItem category tenantId)).length,
        (table.rows.filter fun item => ownItem category tenantId item &&
          stale py category item).length⟩) := by
  unfold reclassifyBatches
  rw [scan_eq_ok table.primaryKey (fun _ _ h => rewritten_keeps h)
    (fun item hitem _ => (retagged_of_stored (table.stored item hitem)).1) hsize hfuel]
  congr 3
  rw [List.filter_filter]
  congr 1
  apply List.filter_congr
  intro item hitem
  rw [(retagged_of_stored (table.stored item hitem)).2.1, Bool.and_comm]

/-- A visited item is stored like the others. -/
lemma visited_stored (h : item.Stored) : (visited (rewritten py category) item).Stored := by
  unfold visited
  cases hrewritten : rewritten py category item with
  | none => exact h
  | some item' =>
    obtain ⟨tags, rfl⟩ := rewritten_eq_some hrewritten
    exact ⟨h.title, h.summary, .inr ⟨_, rfl⟩, h.extraData⟩

end

/-- The table after a run. -/
def reclassified (py : Stdlib) (category : Category) (tenantId : String)
    (table : StoredItems) : StoredItems where
  rows := table.rows.map fun item =>
    if ownItem category tenantId item then visited (rewritten py category) item else item
  primaryKey := by
    rw [List.map_map]
    have hsame : table.rows.map (Item.strId ∘ fun item =>
        if ownItem category tenantId item then visited (rewritten py category) item else item) =
        table.rows.map Item.strId := by
      apply List.map_congr_left
      intro item _
      show Item.strId (if ownItem category tenantId item then _ else item) = _
      split
      · exact (key_visited (p := ownItem category tenantId) (fun _ _ h => rewritten_keeps h) item).1
      · rfl
    rw [hsame]
    exact table.primaryKey
  stored := by
    intro item hitem
    obtain ⟨before, hbefore, rfl⟩ := List.mem_map.1 hitem
    split
    · exact visited_stored (table.stored before hbefore)
    · exact table.stored before hbefore

section

variable {py : Stdlib} {category : Category} {tenantId : String} {table : StoredItems}

/-- Afterwards every own item has its computed tags. -/
lemma reclassified_tags {item : Item} (hitem : item ∈ (reclassified py category tenantId table).rows)
    (hown : ownItem category tenantId item = true) :
    ∃ tags, recomputeItemTags py item category = .ok tags ∧
      currentTags item = .ok (tags.map Json.str) := by
  obtain ⟨before, hbefore, rfl⟩ := List.mem_map.1 hitem
  split
  · exact (retagged_of_stored (table.stored before hbefore)).2.2
  · rename_i hother
    rw [if_neg hother] at hown
    exact absurd hown hother

/-- The own items stay as many. -/
lemma length_own_reclassified :
    ((reclassified py category tenantId table).rows.filter (ownItem category tenantId)).length =
      (table.rows.filter (ownItem category tenantId)).length := by
  unfold reclassified
  rw [List.filter_map, List.length_map]
  congr 1
  apply List.filter_congr
  intro item _
  show ownItem category tenantId (if ownItem category tenantId item then _ else item) = _
  split
  · exact (@key_visited _ _ Item.strId _ _ (fun _ _ h => rewritten_keeps h) item).2
  · rfl

/-- No item of a reclassified table is stale. -/
lemma reclassified_fresh {item : Item} (hitem : item ∈ (reclassified py category tenantId table).rows)
    (hown : ownItem category tenantId item = true) : stale py category item = false := by
  obtain ⟨tags, htags, hcurrent⟩ := reclassified_tags hitem hown
  unfold stale
  rw [htags, hcurrent]
  exact decide_eq_false (not_not_intro rfl)

/-- Another run leaves it as it is. -/
lemma reclassified_twice :
    (reclassified py category tenantId (reclassified py category tenantId table)).rows =
      (reclassified py category tenantId table).rows := by
  apply (List.map_congr_left _).trans (List.map_id' _)
  intro item hitem
  split
  · rename_i hown
    have hsome : (rewritten py category item).isSome = _ :=
      (retagged_of_stored ((reclassified py category tenantId table).stored item hitem)).2.1
    rw [reclassified_fresh hitem hown] at hsome
    have hnone : rewritten py category item = none := by
      apply Option.not_isSome_iff_eq_none.1
      rw [hsome]
      exact Bool.false_ne_true
    unfold visited
    rw [hnone]
    rfl
  · rfl

/-- What is not the tenant's stays, and of its own items only the tags change. -/
lemma reclassified_frame : List.Forall₂ (fun item item' =>
    if ownItem category tenantId item then item' = { item with topicTags := item'.topicTags }
    else item' = item) table.rows (reclassified py category tenantId table).rows := by
  apply List.forall₂_map_right_iff.2
  apply List.forall₂_same.2
  intro item _
  split
  · unfold visited
    cases hrewritten : rewritten py category item with
    | none => rfl
    | some item' =>
      obtain ⟨tags, rfl⟩ := rewritten_eq_some hrewritten
      rfl
  · rfl

end

/-- On a table that nobody else writes, a run on a category that the tenant may see ends with the items
of the tenant in it reclassified, all of them and nothing else, and the next run has nothing to do. -/
theorem reclassify_exact {py : Stdlib} {db : CategoryTables} {categoryId tenantId : String}
    {category : CategoryRow} (haccess : findAccessible db categoryId tenantId = .ok category)
    {batchSize : Nat} (hsize : 0 < batchSize) (table : StoredItems) :
    ∃ after response, Reclassified py category.toCategory tenantId table.rows after response ∧
      ∀ fuel, (table.rows.filter (ownItem category.toCategory tenantId)).length < fuel →
        reclassifyCategoryItems py fuel db table.rows categoryId tenantId batchSize =
            some (.ok (response, after)) ∧
          reclassifyCategoryItems py fuel db after categoryId tenantId batchSize =
            some (.ok ({ response with updated := 0 }, after)) := by
  refine ⟨(reclassified py category.toCategory tenantId table).rows,
    ⟨(table.rows.filter (ownItem category.toCategory tenantId)).length,
      (table.rows.filter fun item => ownItem category.toCategory tenantId item &&
        stale py category.toCategory item).length⟩,
    ⟨rfl, rfl, fun _ hitem hown => reclassified_tags hitem hown, reclassified_frame⟩, ?_⟩
  intro fuel hfuel
  constructor
  · unfold reclassifyCategoryItems
    rw [haccess]
    dsimp only
    rw [reclassifyBatches_eq_ok table hsize hfuel]
    rfl
  · unfold reclassifyCategoryItems
    rw [haccess]
    dsimp only
    rw [reclassifyBatches_eq_ok (reclassified py category.toCategory tenantId table) hsize
      (by rw [length_own_reclassified]; exact hfuel), length_own_reclassified]
    have hfresh : (reclassified py category.toCategory tenantId table).rows.filter (fun item =>
        ownItem category.toCategory tenantId item && stale py category.toCategory item) = [] := by
      apply List.filter_eq_nil_iff.2
      intro item hitem hboth
      obtain ⟨hown, hstale⟩ := Bool.and_eq_true_iff.1 hboth
      rw [reclassified_fresh hitem hown] at hstale
      cases hstale
    rw [hfresh]
    have htwice : (reclassified py category.toCategory tenantId
        (reclassified py category.toCategory tenantId table)).rows = _ := reclassified_twice
    change some (Except.ok (_, (reclassified py category.toCategory tenantId
      (reclassified py category.toCategory tenantId table)).rows)) = _
    rw [htwice]
    rfl

namespace Sample

/-- A category of the tenant `t`. -/
def reading : CategoryRow where
  id := "c"
  tenantId := "t"
  slug := "reading"
  type := "custom"
  refreshIntervalSeconds := 300
  keywordsFilter := []
  name := "Reading"
  description := none
  icon := none
  color := none
  prioritySort := false
  isActive := true
  createdAt := 0
  updatedAt := 0

def readingTables : CategoryTables where
  tenants := []
  categories := [reading]
  sources := []
  items := []

/-- An item with an id and tags. -/
def paper (id : Uuid) (tenantId : String) (tags : List Json) : Item where
  id := some id
  tenantId
  categoryId := "c"
  sourceId := "s"
  title := .str "A paper"
  summary := .null
  url := .str "https://example.org/paper"
  imageUrl := .str ""
  publishedAt := ⟨0, true, ""⟩
  topicTags := .arr tags
  extraData := .obj []
  priority := .int 5
  isProcessed := true

/-- The sample paper is stored. -/
lemma paper_stored (id : Uuid) (tenantId : String) (tags : List Json) : (paper id tenantId tags).Stored :=
  ⟨⟨_, rfl⟩, .inl rfl, .inr ⟨_, rfl⟩, .inr ⟨_, rfl⟩⟩

/-- Three papers of the tenant, one of them tagged as it should be, and one of another tenant. -/
def papers : StoredItems where
  rows :=
    [paper { text := "00000000-0000-0000-0000-000000000004" } "t" [.str "old"],
     paper { text := "00000000-0000-0000-0000-000000000001" } "t" [],
     paper { text := "00000000-0000-0000-0000-000000000003" } "u" [.str "old"],
     paper { text := "00000000-0000-0000-0000-000000000002" } "t" [.str "reading"]]
  primaryKey := by decide
  stored := by
    intro item hitem
    simp only [List.mem_cons, List.not_mem_nil, or_false] at hitem
    rcases hitem with rfl | rfl | rfl | rfl
    · exact paper_stored ..
    · exact paper_stored ..
    · exact paper_stored ..
    · exact paper_stored ..

end Sample

open Sample in
/-- Three papers, in batches of two. -/
theorem reclassify_exact_papers :
    ∃ after response, Reclassified AsyncSchedulerManager.Sample.library reading.toCategory "t"
        papers.rows after response ∧
      ∀ fuel, (papers.rows.filter (ownItem reading.toCategory "t")).length < fuel →
        reclassifyCategoryItems AsyncSchedulerManager.Sample.library fuel readingTables papers.rows "c"
            "t" 2 = some (.ok (response, after)) ∧
          reclassifyCategoryItems AsyncSchedulerManager.Sample.library fuel readingTables after "c" "t"
            2 = some (.ok ({ response with updated := 0 }, after)) :=
  reclassify_exact rfl (by decide) papers

open Sample in
/-- Two of the three are written. -/
example : (reclassifyCategoryItems AsyncSchedulerManager.Sample.library 4 readingTables papers.rows "c"
    "t" 2).map (·.toOption.map (·.1)) = some (some ⟨3, 2⟩) := by
  decide +kernel

end CategoryService

end InstantBoard
