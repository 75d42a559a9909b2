import InstantBoard.Processors.Accepted
import InstantBoard.Processors.TagOrder
import InstantBoard.Services.Reclassify

/-!
# Reclassifying what has just been collected

The categorizer tags an item as the filter leaves it; the row has the title stripped, the summary
cleaned and cut, and no `type`. `_recompute_item_tags` reads the row, so it finds the tags of the
collection where both texts name the same ones (`agrees_iff_sameTags`), and a run of
`reclassify_category_items` on rows that agree has nothing to write.
-/

namespace InstantBoard.CategoryService

open AsyncSchedulerManager CategorizerProcessor Fallible FilterProcessor Paging ProcessorChain
open TechTopicExtractor (SameFound extractWithLevel1_eq_iff)
open TransformerProcessor (Made cleanHtmlSummary made_of_process)

/-- The tags of a row are those that are made of it. -/
def Agrees (py : Stdlib) (category : Category) (item : Item) : Prop :=
  (recomputeItemTags py item category).toOption.map tagList = some item.topicTags

instance (py : Stdlib) (category : Category) (item : Item) : Decidable (Agrees py category item) :=
  inferInstanceAs (Decidable (_ = _))

section

variable (py : Stdlib) (raw : Dict)

def rawTitle : String :=
  (raw.getD "title" (.str "")).format py

def rawSummary : String :=
  (keptSummary raw).format py

def storedTitle : String :=
  Text.strip (rawTitle py raw)

def storedSummary : String :=
  cleanHtmlSummary
    ((((keptSummary raw).or (raw.getD "description" (.str ""))).or (.str "")).format py)

end

/-- The group that the finance rules give a type, if they do. -/
def typeGroup (type : Json) : Option (List String) :=
  if type.isStr "cn_stock" then some ["china-stock"]
  else if type.isStr "index" || type.isStr "cn_index" then some ["market-indices"]
  else if type.isStr "commodity" then some ["commodities"]
  else none

/-- The region in the extra data, which are a dictionary. -/
def regionOf (raw : Dict) : Option Json :=
  match (raw.getD "extra_data" (.obj [])).or (.obj []) with
  | .obj fields => some (Dict.getD fields "region" .null)
  | _ => none

/-- The words of the row name the group of the item, unless its region does. -/
def SameGroup (py : Stdlib) (raw : Dict) : Prop :=
  ∃ region, regionOf raw = some region ∧ (region.isStr "CN" = true ∨
    wordGroup (py.lower (storedTitle py raw) ++ " " ++ py.lower (storedSummary py raw)) =
      (typeGroup (raw.getD "type" .null)).getD
        (wordGroup (py.lower (rawTitle py raw) ++ " " ++ py.lower (rawSummary py raw))))

/-- What the type of the category asks of an item. -/
def SameTags (py : Stdlib) (category : Category) (raw : Dict) : Prop :=
  if category.type = "tech" then
    SameFound py category.slug (rawTitle py raw ++ " " ++ rawSummary py raw)
      (storedTitle py raw ++ " " ++ storedSummary py raw)
  else if category.type = "finance" then SameGroup py raw
  else True

section

variable {py : Stdlib} {category : Category} {source : CollectedSource} {t : Fetched × RedisSet}
  {raw : Dict} {item : Item}

/-- `or ""` keeps a string. -/
lemma str_or {s : String} : (Json.str s).or (.str "") = .str s := by
  unfold Json.or Json.truthy
  by_cases hs : s = ""
  · rw [hs]
    rfl
  · rw [if_pos (bne_iff_ne.2 hs)]

/-- `or {}` twice is `or {}` once. -/
lemma or_or {v : Json} : (v.or (.obj [])).or (.obj []) = v.or (.obj []) := by
  unfold Json.or
  split
  · rfl
  · rfl

/-- What the row of an accepted item holds. -/
structure RowOf (py : Stdlib) (category : Category) (raw : Dict) (item : Item) : Prop where
  title : item.title = .str (storedTitle py raw)
  summary : item.summary = .str (storedSummary py raw)
  extraData : item.extraData = (raw.getD "extra_data" (.obj [])).or (.obj [])
  topicTags : ∃ kept tags, tagsOf py category kept = .ok tags ∧ item.topicTags = tagList tags ∧
    kept.getD "summary" (.str "") = keptSummary raw ∧
    ∀ key v, key ≠ "summary" → key ≠ "_dedup_hash" → kept.getD key v = raw.getD key v

/-- The categorizer does not touch the summary. -/
lemma keptSummary_marked : keptSummary (marked py raw) = keptSummary raw := by
  unfold keptSummary bare marked
  simp only [Dict.getD_set, String.reduceEq, if_false]

/-- A stored row is of its item. -/
lemma rowOf_of_stored (hcategory : source.category = some category) {row : Row}
    (hrow : (stored py source t).row = some row) (herrors : (result py source t).errors = []) :
    RowOf py category t.1.2 row.item := by
  unfold stored at hrow
  obtain hnone | ⟨made, time, hmade, _, _, hsome⟩ := storeItem_cases py source t.1 (result py source t)
  · rw [hnone] at hrow
    cases hrow
  · rw [hsome] at hrow
    cases hrow
    obtain ⟨kept, tagged, h⟩ := accepted_of_errors_nil hmade herrors
    obtain ⟨tags, htags, htagged⟩ := tags_of_process hcategory h.categorizer
    obtain ⟨title, summary, h'⟩ := made_of_process h.transformer
    have hkept : ∀ key v, key ≠ "summary" → key ≠ "_dedup_hash" →
        kept.getD key v = t.1.2.getD key v := by
      intro key v hsummary hmark
      rw [FilterProcessor.getD_of_process h.filter hsummary]
      unfold marked
      rw [Dict.getD_set, if_neg hmark]
    have hsummary : kept.getD "summary" (.str "") = keptSummary t.1.2 := by
      rw [summary_of_process h.filter, keptSummary_marked]
    have hread : ∀ key v, key ≠ "category_id" → key ≠ "topic_tags" →
        tagged.getD key v = kept.getD key v :=
      fun _ _ hid htags => CategorizerProcessor.getD_of_process h.categorizer hid htags
    have htitle_raw := h'.title_str
    rw [hread _ _ (by decide) (by decide), hkept _ _ (by decide) (by decide)] at htitle_raw
    have hsummary_raw := h'.summary_str
    rw [hread _ _ (by decide) (by decide), hread _ _ (by decide) (by decide), hsummary,
      hkept _ _ (by decide) (by decide)] at hsummary_raw
    refine ⟨?_, ?_, ?_, kept, tags, htags, h'.topicTags _ htagged, hsummary, hkept⟩
    · show made.getD "title" (.str "") = _
      unfold storedTitle rawTitle
      rw [h'.title, htitle_raw]
      rfl
    · show made.getD "summary" (.str "") = _
      unfold storedSummary
      rw [h'.summary, hsummary_raw]
      rfl
    · show made.getD "extra_data" (.obj []) = _
      rw [h'.extraData, hread _ _ (by decide) (by decide), hkept _ _ (by decide) (by decide)]

/-! ## The finance rules -/

/-- Where there are tags the title and the summary are strings. -/
lemma strs_of_determineFinanceTags {item : Dict} {tags : List String}
    (h : determineFinanceTags py item = .ok tags) :
    ∃ title summary, item.getD "title" (.str "") = .str title ∧
      item.getD "summary" (.str "") = .str summary := by
  obtain ⟨title, htitle, h⟩ := bind_eq_ok.1 h
  obtain ⟨summary, hsummary, _⟩ := bind_eq_ok.1 h
  exact ⟨title, summary, Json.strAttr_eq_ok htitle, Json.strAttr_eq_ok hsummary⟩

/-- Where there are tags the extra data is an object. -/
lemma obj_of_determineFinanceTags {item : Dict} {tags : List String}
    (h : determineFinanceTags py item = .ok tags)
    (htype : (item.getD "type" .null).isStr "cn_stock" = false) :
    ∃ fields, (item.getD "extra_data" (.obj [])).or (.obj []) = .obj fields := by
  obtain ⟨title, _, h⟩ := bind_eq_ok.1 h
  obtain ⟨summary, _, h⟩ := bind_eq_ok.1 h
  dsimp only at h
  rw [htype, if_neg Bool.false_ne_true] at h
  obtain ⟨fields, hfields, _⟩ := bind_eq_ok.1 h
  exact ⟨fields, Json.dictGet_eq_ok hfields⟩

/-- The group is told by the region, then the type, then the words. -/
lemma financeGroup_eq {type region : Json} {text : String} :
    financeGroup type region text =
      if region.isStr "CN" then ["china-stock"] else (typeGroup type).getD (wordGroup text) := by
  unfold financeGroup typeGroup
  cases region.isStr "CN" with
  | true => rw [Bool.or_true, if_pos rfl, if_pos rfl]
  | false =>
    rw [Bool.or_false, if_neg Bool.false_ne_true]
    split
    · rfl
    · split
      · rfl
      · split
        · rfl
        · rfl

/-- Lists of tags are equal as values if they are as lists. -/
lemma tagList_inj {tags tags' : List String} : tagList tags = tagList tags' ↔ tags = tags' := by
  constructor
  · intro h
    exact List.map_injective_iff.2 (fun _ _ => Json.str.inj) (Json.arr.inj h)
  · exact congrArg tagList

/-- What the rules read of a row. -/
lemma recompute_finance (h : RowOf py category raw item) (htech : category.type ≠ "tech")
    (hfinance : category.type = "finance") :
    recomputeItemTags py item category = ("finance" :: ·) <$> determineFinanceTags py
      [("title", .str (storedTitle py raw)), ("summary", .str (storedSummary py raw)),
        ("extra_data", (raw.getD "extra_data" (.obj [])).or (.obj []))] := by
  unfold recomputeItemTags
  rw [h.title, h.summary, h.extraData, str_or, str_or, or_or]
  dsimp only
  rw [if_neg htech, if_pos hfinance]
  rfl

/-- A finance item agrees exactly if its group is the same. -/
lemma agrees_iff_sameGroup (h : RowOf py category raw item) (htech : category.type ≠ "tech")
    (hfinance : category.type = "finance") : Agrees py category item ↔ SameGroup py raw := by
  obtain ⟨kept, tags, htags, htopic, hsummary, hkept⟩ := h.topicTags
  unfold tagsOf at htags
  rw [if_neg htech, if_pos hfinance] at htags
  obtain ⟨financeTags, hfinanceTags, rfl⟩ := map_eq_ok.1 htags
  obtain ⟨title, summary, htitle, hsummary'⟩ := strs_of_determineFinanceTags hfinanceTags
  have hrawTitle : rawTitle py raw = title := by
    unfold rawTitle
    rw [← hkept _ _ (by decide) (by decide), htitle]
    rfl
  have hrawSummary : rawSummary py raw = summary := by
    unfold rawSummary
    rw [← hsummary, hsummary']
    rfl
  unfold Agrees SameGroup
  rw [recompute_finance h htech hfinance, htopic]
  by_cases hobj : ∃ fields, (raw.getD "extra_data" (.obj [])).or (.obj []) = .obj fields
  · obtain ⟨fields, hextra⟩ := hobj
    rw [determineFinanceTags_eq htitle hsummary' (by rw [hkept _ _ (by decide) (by decide), hextra]),
      hkept _ _ (by decide) (by decide)] at hfinanceTags
    cases hfinanceTags
    unfold regionOf
    rw [hextra, determineFinanceTags_row, financeGroup_eq, financeGroup_eq, hrawTitle, hrawSummary]
    show some (tagList ("finance" :: _)) = some (tagList ("finance" :: _)) ↔ _
    rw [Option.some_inj, tagList_inj, List.cons_inj_right]
    cases hregion : (Dict.getD fields "region" .null).isStr "CN" with
    | true => exact iff_of_true rfl ⟨_, rfl, .inl hregion⟩
    | false =>
      rw [if_neg Bool.false_ne_true, if_neg Bool.false_ne_true]
      constructor
      · intro heq
        exact ⟨_, rfl, .inr heq⟩
      · rintro ⟨region, hsome, hCN | heq⟩
        · cases hsome
          rw [hregion] at hCN
          cases hCN
        · exact heq
  · -- nothing is read of extra data of another kind, and the rules raise on the row
    apply iff_of_false
    · intro heq
      obtain ⟨newTags, hnew, _⟩ := Option.map_eq_some_iff.1 heq
      obtain ⟨newGroup, hgroup, _⟩ := map_eq_ok.1 (toOption_eq_some.1 hnew)
      obtain ⟨fields, hfields⟩ := obj_of_determineFinanceTags hgroup rfl
      exact hobj ⟨fields, or_or.symm.trans hfields⟩
    · rintro ⟨region, hregion, _⟩
      unfold regionOf at hregion
      split at hregion
      · rename_i fields hfields
        exact hobj ⟨fields, hfields⟩
      · cases hregion

/-- An accepted item keeps its tags exactly when its texts before and after the cleaning name the
same. -/
lemma agrees_iff_sameTags (h : RowOf py category raw item) :
    Agrees py category item ↔ SameTags py category raw := by
  unfold SameTags
  split
  · rename_i htech
    obtain ⟨kept, tags, htags, htopic, hsummary, hkept⟩ := h.topicTags
    unfold tagsOf at htags
    rw [if_pos htech] at htags
    cases htags
    have htext : CategorizerProcessor.text py kept = rawTitle py raw ++ " " ++ rawSummary py raw := by
      unfold CategorizerProcessor.text rawTitle rawSummary
      rw [hsummary, hkept _ _ (by decide) (by decide)]
    unfold Agrees recomputeItemTags
    rw [h.title, h.summary, str_or, str_or, htopic, htext]
    dsimp only
    rw [if_pos htech, ← extractWithLevel1_eq_iff]
    show some (tagList _) = some (tagList _) ↔ _
    rw [Option.some_inj, tagList_inj]
    exact eq_comm
  · rename_i htech
    split
    · rename_i hfinance
      exact agrees_iff_sameGroup h htech hfinance
    · rename_i hfinance
      obtain ⟨kept, tags, htags, htopic, _⟩ := h.topicTags
      unfold tagsOf at htags
      rw [if_neg htech, if_neg hfinance] at htags
      cases htags
      apply iff_of_true _ trivial
      unfold Agrees recomputeItemTags
      rw [htopic]
      dsimp only
      rw [if_neg htech, if_neg hfinance]
      rfl

end

/-! ## Runs -/

/-- A run of the service on a table writes nothing. -/
def NothingToUpdate (py : Stdlib) (category : CategoryRow) (items : List Item) : Prop :=
  ∀ db categoryId tenantId batchSize fuel, findAccessible db categoryId tenantId = .ok category →
    0 < batchSize → (items.filter (ownItem category.toCategory tenantId)).length < fuel →
    reclassifyCategoryItems py fuel db items categoryId tenantId batchSize =
      some (.ok (⟨(items.filter (ownItem category.toCategory tenantId)).length, 0⟩, items))

section

variable {py : Stdlib} {category : CategoryRow}

/-- An item that agrees is not tagged again. -/
lemma retagged_of_agrees {item : Item} (h : Agrees py category.toCategory item) :
    retagged py category.toCategory item = .ok none := by
  obtain ⟨tags, htags, htopic⟩ := Option.map_eq_some_iff.1 h
  unfold retagged
  rw [toOption_eq_some.1 htags, currentTags_arr htopic.symm]
  dsimp only [bind, Except.bind]
  rw [if_neg (not_not_intro rfl)]
  rfl

/-- Where all items agree there is nothing to update. -/
lemma nothingToUpdate_of_agrees {items : List Item} (hkeyed : Table.Unique Item.strId items)
    (h : ∀ item ∈ items, item.categoryId = category.id → Agrees py category.toCategory item) :
    NothingToUpdate py category items := by
  intro db categoryId tenantId batchSize fuel haccess hsize hfuel
  have hvisit : ∀ item ∈ items, ownItem category.toCategory tenantId item = true →
      retagged py category.toCategory item = .ok none := by
    intro item hitem hown
    exact retagged_of_agrees (h item hitem (of_decide_eq_true hown).1)
  unfold reclassifyCategoryItems reclassifyBatches
  rw [haccess]
  dsimp only
  have hkey : ∀ item item' : Item, none = some item' → item'.strId = item.strId ∧
      ownItem category.toCategory tenantId item' = ownItem category.toCategory tenantId item :=
    fun _ _ h => by cases h
  rw [scan_eq_ok hkeyed hkey hvisit hsize hfuel]
  have hsame : (items.map fun item => if ownItem category.toCategory tenantId item then
      visited (fun _ => none) item else item) = items := by
    apply (List.map_congr_left _).trans (List.map_id' items)
    intro item _
    exact ite_self item
  have hnone : (items.filter (ownItem category.toCategory tenantId)).filter
      (fun _ => (none : Option Item).isSome) = [] := List.filter_false _
  rw [hsame, hnone]
  rfl

end

/-- A row that the chain has accepted for a source of a category agrees with its collection exactly
when the texts of the item name the same tags before and after the cleaning. Where all items of a run
do, and the rows before it agree, reclassifying right after the run updates nothing. -/
theorem reclassify_agrees_iff {py : Stdlib} {store : Store} {run : Run} {category : CategoryRow}
    (hcategory : run.source.category = some category.toCategory) :
    (∀ t row, (stored py run.source t).row = some row → (result py run.source t).errors = [] →
      (Agrees py category.toCategory row.item ↔ SameTags py category.toCategory t.1.2)) ∧
    (Table.Unique Item.strId ((runCollection py store run).store.items.map (·.item)) →
      (∀ row ∈ store.items, row.item.categoryId = category.id →
        Agrees py category.toCategory row.item) →
      (∀ t ∈ considered py store run, (stored py run.source t).row ≠ none →
        (result py run.source t).errors = [] ∧ SameTags py category.toCategory t.1.2) →
      NothingToUpdate py category ((runCollection py store run).store.items.map (·.item))) := by
  have hrow : ∀ t row, (stored py run.source t).row = some row →
      (result py run.source t).errors = [] →
      (Agrees py category.toCategory row.item ↔ SameTags py category.toCategory t.1.2) :=
    fun t row hrow herrors => agrees_iff_sameTags (rowOf_of_stored hcategory hrow herrors)
  refine ⟨hrow, fun hkeyed hbefore hsame => nothingToUpdate_of_agrees hkeyed ?_⟩
  intro item hitem hin
  obtain ⟨row, hmem, rfl⟩ := List.mem_map.1 hitem
  have hreport := runCollection_isReport py store run
  rw [hreport.items] at hmem
  split at hmem
  · rcases List.mem_append.1 hmem with hmem | hmem
    · exact hbefore row hmem hin
    · obtain ⟨added, hadded, rfl⟩ := List.mem_map.1 hmem
      rw [hreport.added] at hadded
      obtain ⟨t, ht, hadded⟩ := List.mem_filterMap.1 hadded
      obtain ⟨row, hstored, rfl⟩ := Option.map_eq_some_iff.1 hadded
      have hsome : (stored py run.source t).row ≠ none := by
        rw [hstored]
        exact Option.some_ne_none row
      obtain ⟨herrors, htags⟩ := hsame t ht hsome
      -- the key of the row is not read
      exact (hrow t row hstored herrors).2 htags
  · exact hbefore row hmem hin

namespace Sample

open AsyncSchedulerManager.Sample

/-- A category of market news. -/
def market : CategoryRow where
  id := category.id
  tenantId := SYSTEM_TENANT_ID
  slug := "finance"
  type := "finance"
  refreshIntervalSeconds := 300
  keywordsFilter := []
  name := "Finance"
  description := none
  icon := none
  color := none
  prioritySort := false
  isActive := true
  createdAt := 0
  updatedAt := 0

def marketTables : CategoryTables where
  tenants := []
  categories := [market]
  sources := []
  items := []

/-- A report from the market, with or without a type. -/
def report (fields : Dict) : Fetched :=
  (env 0 uuidA, ("title", .str "Dow closes") :: ("url", .str "https://a.io/c") :: fields)

def marketRun (fields : Dict) : Run :=
  ⟨{ source with category := some market.toCategory }, [report fields], .completes⟩

end Sample

open AsyncSchedulerManager.Sample Sample

/-- A report without a type. -/
theorem reclassify_agrees_iff_report :
    (∃ row, (stored library (marketRun []).source (report [], RedisSet.empty)).row = some row ∧
      Agrees library market.toCategory row.item) ∧
    NothingToUpdate library market
      ((runCollection library Store.empty (marketRun [])).store.items.map (·.item)) := by
  have hsame : SameTags library market.toCategory (report []).2 :=
    ⟨.null, rfl, .inr (by decide +kernel)⟩
  have herrors : (result library (marketRun []).source (report [], RedisSet.empty)).errors = [] := by
    decide +kernel
  have hagrees := @reclassify_agrees_iff library Store.empty (marketRun []) market rfl
  constructor
  · obtain ⟨row, hrow⟩ := Option.isSome_iff_exists.1
      (show (stored library (marketRun []).source (report [], RedisSet.empty)).row.isSome = true by
        decide +kernel)
    exact ⟨row, hrow, (hagrees.1 _ row hrow herrors).2 hsame⟩
  · apply hagrees.2
    · decide +kernel
    · exact fun row hrow => by cases hrow
    · intro t ht _
      have hturns : turns library [report []] RedisSet.empty = [(report [], RedisSet.empty)] := by
        rw [turns, turns, ite_self]
      unfold considered at ht
      split at ht
      · cases ht
      · change t ∈ Through.through _ (turns library [report []] RedisSet.empty) at ht
        rw [hturns, Through.through_cons, Through.through_nil, ite_self] at ht
        obtain rfl := List.mem_singleton.1 ht
        exact ⟨herrors, hsame⟩

/-- The type of an item is not in its row: a report that is filed under the market indices for its type
becomes one of the china stocks, right after its collection. -/
theorem type_not_kept :
    (∃ t row, (stored library (marketRun [("type", .str "index")]).source t).row = some row ∧
      (result library (marketRun [("type", .str "index")]).source t).errors = [] ∧
      ¬ Agrees library market.toCategory row.item) ∧
    (reclassifyCategoryItems library 2 marketTables
        ((runCollection library Store.empty (marketRun [("type", .str "index")])).store.items.map
          (·.item)) market.id SYSTEM_TENANT_ID RECLASSIFY_BATCH_SIZE).map
      (fun answer => answer.toOption.map (·.1)) = some (some ⟨1, 1⟩) := by
  have hrow : (stored library (marketRun [("type", .str "index")]).source
      (report [("type", .str "index")], RedisSet.empty)).row.any
        (fun row => ¬ Agrees library market.toCategory row.item) = true := by
    decide +kernel
  obtain ⟨row, hrow, hnot⟩ := (Option.any_eq_true _ _).1 hrow
  refine ⟨⟨_, row, hrow, by decide +kernel, of_decide_eq_true hnot⟩, by decide +kernel⟩

end InstantBoard.CategoryService
