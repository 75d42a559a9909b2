import InstantBoard.Lib.Fallible
import InstantBoard.Processors.Default

/-!
# What the chain makes of an item it accepts

An item that no processor turns down or raises on: what the filter keeps of it, which tags the
categorizer gives it then, and what the transformer makes of both (`accepted_of_errors_nil`).
-/

namespace InstantBoard

open Fallible

namespace Json

variable {v : Json}

/-! What has the attributes and the text that are read is of the type that has them. -/

/-- Only a string has a string's methods. -/
lemma strAttr_eq_ok {name s : String} (h : v.strAttr name = .ok s) : v = .str s := by
  cases v with
  | str t =>
    cases h
    rfl
  | _ => cases h

/-- Only a string is substituted in. -/
lemma subText_eq_ok {s : String} (h : v.subText = .ok s) : v = .str s := by
  cases v with
  | str t =>
    cases h
    rfl
  | _ => cases h

/-- Only an object has `get`. -/
lemma dictGet_eq_ok {fields : Dict} (h : v.dictGet = .ok fields) : v = .obj fields := by
  cases v with
  | obj fields' =>
    cases h
    rfl
  | _ => cases h

end Json

namespace FilterProcessor

/-- The summary of an item that the filter lets pass. -/
def keptSummary (item : Dict) : Json :=
  if (bare item ((item.getD "summary" (.str "")).or (.str ""))).toOption = some true then
    item.getD "title" (.str "")
  else item.getD "summary" (.str "")

variable {py : Stdlib} {source : CollectedSource} {item item' : Dict}

/-- The cleaner keeps every key but the summary. -/
lemma getD_of_process {key : String} {v : Json} (h : process py source item = .ok (some item'))
    (hkey : key ≠ "summary") : item'.getD key v = item.getD key v := by
  unfold Dict.getD
  rw [get?_of_process h hkey]

/-- The summary of a cleaned item. -/
lemma summary_of_process (h : process py source item = .ok (some item')) :
    item'.getD "summary" (.str "") = keptSummary item := by
  obtain ⟨short, _, h⟩ := bind_eq_ok.1 h
  dsimp only at h
  cases short with
  | true => cases h
  | false =>
    rw [if_neg Bool.false_ne_true] at h
    split at h
    · cases h
    · obtain ⟨alone, halone, h⟩ := bind_eq_ok.1 h
      unfold keptSummary
      rw [halone]
      split at h
      · rename_i htrue
        cases h
        rw [Dict.getD_set, if_pos rfl, htrue]
        rfl
      · rename_i hfalse
        rw [Bool.not_eq_true] at hfalse
        have hsame : item' = item := by
          split at h
          · cases h
            rfl
          · split at h
            · cases h
              rfl
            · cases h
        rw [hsame, hfalse]
        rfl

end FilterProcessor

namespace CategorizerProcessor

variable {py : Stdlib} {source : CollectedSource} {category : Category} {item item' : Dict}

/-- The categorizer keeps every key but the category and the tags. -/
lemma getD_of_process {key : String} {v : Json} (h : process py source item = .returned item')
    (hid : key ≠ "category_id") (htags : key ≠ "topic_tags") : item'.getD key v = item.getD key v := by
  unfold Dict.getD
  rw [get?_of_process h hid htags]

/-- The category does not matter for the finance tags. -/
lemma determineFinanceTags_set {v : Json} :
    determineFinanceTags py (item.set "category_id" v) = determineFinanceTags py item := by
  unfold determineFinanceTags
  simp only [Dict.getD_set, String.reduceEq, if_false]

/-- The category does not matter for the text. -/
lemma text_set {v : Json} : text py (item.set "category_id" v) = text py item := by
  unfold text
  simp only [Dict.getD_set, String.reduceEq, if_false]

/-- The tags of an item of a category. -/
def tagsOf (py : Stdlib) (category : Category) (item : Dict) : Except PyError (List String) :=
  if category.type = "tech" then
    .ok (TechTopicExtractor.extractWithLevel1 py (text py item) category.slug)
  else if category.type = "finance" then ("finance" :: ·) <$> determineFinanceTags py item
  else .ok [category.slug]

/-- The tags of a categorized item. -/
lemma tags_of_process (hcategory : source.category = some category)
    (h : process py source item = .returned item') :
    ∃ tags, tagsOf py category item = .ok tags ∧
      item'.getD "topic_tags" (.arr []) = tagList tags := by
  unfold process at h
  rw [hcategory] at h
  dsimp only at h
  unfold tagsOf
  split at h
  · rename_i htech
    cases h
    rw [if_pos htech, text_set]
    exact ⟨_, rfl, by rw [Dict.getD_set, if_pos rfl]⟩
  · rename_i htech
    rw [if_neg htech]
    split at h
    · rename_i hfinance
      rw [if_pos hfinance, ← determineFinanceTags_set (v := .str category.id)]
      cases hdetermine : determineFinanceTags py (item.set "category_id" (.str category.id)) with
      | error e =>
        rw [hdetermine] at h
        cases h
      | ok financeTags =>
        rw [hdetermine] at h
        cases h
        exact ⟨_, rfl, by rw [Dict.getD_set, if_pos rfl]⟩
    · rename_i hfinance
      cases h
      rw [if_neg hfinance]
      exact ⟨_, rfl, by rw [Dict.getD_set, if_pos rfl]⟩

end CategorizerProcessor

namespace TransformerProcessor

variable {py : Stdlib} {source : CollectedSource} {clock : Clock} {item item' : Dict}

/-- What the transformer makes of an item, as far as the tags go. -/
structure Made (item item' : Dict) (title summary : String) : Prop where
  title_str : item.getD "title" (.str "") = .str title
  summary_str : ((item.getD "summary" (.str "")).or (item.getD "description" (.str ""))).or (.str "") =
    .str summary
  title : item'.getD "title" (.str "") = .str (Text.strip title)
  summary : item'.getD "summary" (.str "") = .str (cleanHtmlSummary summary)
  extraData : item'.getD "extra_data" (.obj []) = (item.getD "extra_data" (.obj [])).or (.obj [])
  topicTags : ∀ tags, item.getD "topic_tags" (.arr []) = .arr tags →
    item'.getD "topic_tags" (.arr []) = .arr tags

/-- What the transformer makes. -/
lemma made_of_process (h : process py source clock item = .ok (some item')) :
    ∃ title summary, Made item item' title summary := by
  obtain ⟨title, htitle, h⟩ := bind_eq_ok.1 h
  by_cases htitleEmpty : Text.strip title = ""
  · rw [if_pos htitleEmpty] at h
    cases h
  · rw [if_neg htitleEmpty] at h
    obtain ⟨summary, hsummary, h⟩ := bind_eq_ok.1 h
    obtain ⟨url, _, h⟩ := bind_eq_ok.1 h
    by_cases hurlEmpty : normalizeUrl py url = ""
    · rw [if_pos hurlEmpty] at h
      cases h
    · rw [if_neg hurlEmpty] at h
      obtain ⟨imageUrl, _, h⟩ := bind_eq_ok.1 h
      obtain ⟨publishedAt, _, h⟩ := bind_eq_ok.1 h
      obtain ⟨priority, _, h⟩ := bind_eq_ok.1 h
      cases h
      refine ⟨title, summary, Json.strAttr_eq_ok htitle, Json.subText_eq_ok hsummary, rfl, rfl, rfl, ?_⟩
      intro tags htags
      rw [htags]
      rfl

end TransformerProcessor

namespace ProcessorChain

variable {py : Stdlib} {source : CollectedSource} {t : Fetched × RedisSet}

/-- An item that no processor turned down or raised on. -/
structure Accepted (py : Stdlib) (source : CollectedSource) (f : Fetched) (kept tagged made : Dict) :
    Prop where
  filter : FilterProcessor.process py source (marked py f.2) = .ok (some kept)
  categorizer : CategorizerProcessor.process py source kept = .returned tagged
  transformer : TransformerProcessor.process py source f.1.clock tagged = .ok (some made)

/-- Without an error at the end no processor raised. -/
lemma errors_record {vs : List (String × Outcome)} {result : ProcessResult}
    (h : (vs.foldl (fun r v => r.record v.1 v.2) result).errors = []) :
    result.errors = [] ∧ ∀ v ∈ vs, v.2.isRaised = false := by
  induction vs generalizing result with
  | nil => exact ⟨h, fun v hv => by cases hv⟩
  | cons v vs ih =>
    obtain ⟨hrecord, hrest⟩ := ih h
    obtain ⟨name, outcome⟩ := v
    cases outcome with
    | returned item => exact ⟨hrecord, List.forall_mem_cons.2 ⟨rfl, hrest⟩⟩
    | rejected => exact ⟨hrecord, List.forall_mem_cons.2 ⟨rfl, hrest⟩⟩
    | raised e item => exact absurd hrecord (List.append_ne_nil_of_right_ne_nil _ (List.cons_ne_nil _ _))

/-- An item that is left without an error is accepted. -/
lemma accepted_of_errors_nil {item : Dict} (hitem : (result py source t).item = some item)
    (herrors : (result py source t).errors = []) :
    ∃ kept tagged, Accepted py source t.1 kept tagged item := by
  unfold result at hitem herrors
  split at hitem
  · rename_i hpasses
    rw [if_pos hpasses] at herrors
    obtain ⟨_, hraised⟩ := errors_record herrors
    unfold content at hitem
    have hvisits : contentVisits py source t.1 = _ := contentVisits_eq t.1
    rcases hfilter : FilterProcessor.process py source (marked py t.1.2) with e | ⟨_ | kept⟩
    · rw [hvisits, hfilter] at hraised
      cases hraised _ List.mem_cons_self
    · rw [hvisits, hfilter] at hitem
      cases hitem
    · rw [hfilter] at hvisits
      dsimp only at hvisits
      unfold fromCategorizer at hvisits
      cases hcategorizer : CategorizerProcessor.process py source kept with
      | rejected => exact absurd hcategorizer (CategorizerProcessor.process_ne_rejected _ _ _)
      | raised e tagged =>
        rw [hvisits, hcategorizer] at hraised
        cases hraised _ (List.mem_cons_of_mem _ List.mem_cons_self)
      | returned tagged =>
        rw [hcategorizer] at hvisits
        dsimp only at hvisits
        rw [hvisits] at hitem hraised
        rcases htransformer : TransformerProcessor.process py source t.1.1.clock tagged
          with e | ⟨_ | made⟩
        · rw [htransformer] at hraised
          cases hraised _ (List.mem_cons_of_mem _ (List.mem_cons_of_mem _ List.mem_cons_self))
        · rw [htransformer] at hitem
          cases hitem
        · rw [htransformer] at hitem
          cases hitem
          exact ⟨kept, tagged, hfilter, hcategorizer, htransformer⟩
  · cases hitem

end ProcessorChain

end InstantBoard
