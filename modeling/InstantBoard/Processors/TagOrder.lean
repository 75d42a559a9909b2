import InstantBoard.Lib.Ordered
import InstantBoard.Processors.Categorizer

/-!
# The order of the tags

`_sort_tags` lists a set of tags in a fixed order, so two texts get the same list exactly when the same
tags are found in them. `extract_with_level1` can put one more tag at the front.
-/

namespace InstantBoard.TechTopicExtractor

open Ordered

def TAG_ORDER : List String :=
  level1Order ++ level2Order

/-- The tags found in a text; `general` where there is no keyword. -/
def foundTags (py : Stdlib) (text : String) : List String :=
  let tags := (KEYWORD_TO_TAG.filter fun k =>
    Text.contains (py.lower text) (py.lower k.1)).flatMap (·.2)
  if tags.isEmpty then ["general"] else tags

variable {py : Stdlib}

/-- No tag comes twice in the order. -/
lemma tagOrder_nodup : TAG_ORDER.Nodup := by
  decide

/-- The two levels are one order. -/
lemma sortTags_eq (tags : List String) : sortTags tags = sortBy TAG_ORDER tags := by
  have hlevels : level2Order.foldl (fun result tag =>
      if tag ∈ tags ∧ tag ∉ result then result ++ [tag] else result)
      (level1Order.filter (· ∈ tags)) = TAG_ORDER.filter (· ∈ tags) := by
    have hnodup := List.nodup_append'.1 tagOrder_nodup
    rw [foldl_if_and, appendNew_of_disjoint (hnodup.2.1.filter _), TAG_ORDER, List.filter_append]
    intro tag h h'
    exact hnodup.2.2 (List.mem_filter.1 h).1 (List.mem_filter.1 h').1
  unfold sortTags sortBy
  dsimp only
  rw [hlevels]
  rfl

/-- The tags are those found, in the order. -/
lemma extractTags_eq (text : String) : extractTags py text = sortBy TAG_ORDER (foundTags py text) :=
  sortTags_eq _

/-- The slug of the first level comes first. -/
lemma extractWithLevel1_eq (text slug : String) :
    extractWithLevel1 py text slug = atFront slug (sortBy TAG_ORDER (foundTags py text)) := by
  unfold extractWithLevel1
  rw [extractTags_eq]
  rfl

/-- The same tags are found in two texts, but for the tag of the first level, which may be found in one
of them only when it comes before the others. -/
structure SameFound (py : Stdlib) (slug text text' : String) : Prop where
  others : ∀ tag, tag ≠ slug → (tag ∈ foundTags py text ↔ tag ∈ foundTags py text')
  level1 : (slug ∈ foundTags py text ↔ slug ∈ foundTags py text') ∨
    ∀ tag ∈ foundTags py text, tag ≠ slug → Before TAG_ORDER slug tag

/-- Two texts have the same tags exactly if the same are found in them. -/
lemma extractWithLevel1_eq_iff {text text' slug : String} :
    extractWithLevel1 py text slug = extractWithLevel1 py text' slug ↔
      SameFound py slug text text' := by
  rw [extractWithLevel1_eq, extractWithLevel1_eq,
    atFront_eq_iff (pairwise_sortBy tagOrder_nodup _) (pairwise_sortBy tagOrder_nodup _)]
  simp only [mem_sortBy]
  exact ⟨fun h => ⟨h.1, h.2⟩, fun h => ⟨h.others, h.level1⟩⟩

end InstantBoard.TechTopicExtractor
