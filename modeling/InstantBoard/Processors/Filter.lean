import InstantBoard.Processors.Base

/-!
# The filter processor
-/

namespace InstantBoard.FilterProcessor

def MIN_TITLE_LENGTH : Nat := 5

def MIN_CONTENT_LENGTH : Nat := 20

def BLACKLIST_KEYWORDS : List String :=
  ["sponsor", "sponsored", "advertisement", "promo", "affiliate", "click here", "buy now",
   "limited offer"]

/-- `not v or len(v.strip()) < n`. -/
def shorter (v : Json) (n : Nat) : Except PyError Bool :=
  if v.truthy then do
    let s ← v.strAttr "strip"
    pure (decide ((Text.strip s).length < n))
  else pure true

/-- The condition under which the title stands in for the summary. -/
def bare (item : Dict) (summary : Json) : Except PyError Bool := do
  if ← shorter summary MIN_CONTENT_LENGTH then do
    let extra ← (item.getD "extra_data" (.obj [])).dictGet
    pure !(extra.getD "hn_score" (.int 0)).truthy
  else pure false

/-- The source's own keywords, else those of its category. -/
def keywordsFilter (source : CollectedSource) : List String :=
  if source.keywordsFilter.isEmpty then (source.category.map (·.keywordsFilter)).getD []
  else source.keywordsFilter

/-- `process`. -/
def process (py : Stdlib) (source : CollectedSource) (item : Dict) :
    Except PyError (Option Dict) := do
  let title := item.getD "title" (.str "")
  let summary := (item.getD "summary" (.str "")).or (.str "")
  if ← shorter title MIN_TITLE_LENGTH then pure none else do
  let combinedText := py.lower (title.format py ++ " " ++ summary.format py)
  if BLACKLIST_KEYWORDS.any fun k => Text.contains combinedText (py.lower k) then pure none else do
  if ← bare item summary then pure (some (item.set "summary" title))
  else if (keywordsFilter source).isEmpty then pure (some item)
  else if (keywordsFilter source).any fun k => Text.contains combinedText (py.lower k) then
    pure (some item)
  else pure none

/-- The filter returns the item as it came, or with the title for its summary. -/
lemma eq_of_process {py : Stdlib} {source : CollectedSource} {item item' : Dict}
    (h : process py source item = .ok (some item')) :
    item' = item ∨ item' = item.set "summary" (item.getD "title" (.str "")) := by
  unfold process at h
  simp only [bind, Except.bind, pure, Except.pure] at h
  split at h
  · cases h
  · split at h
    · cases h
    · split at h
      · cases h
      · split at h
        · cases h
        · split at h
          · cases h
            exact Or.inr rfl
          · split at h
            · cases h
              exact Or.inl rfl
            · split at h
              · cases h
                exact Or.inl rfl
              · cases h

/-- A key other than the summary's reads as before. -/
lemma get?_of_process {py : Stdlib} {source : CollectedSource} {item item' : Dict} {key : String}
    (h : process py source item = .ok (some item')) (hk : key ≠ "summary") :
    item'.get? key = item.get? key := by
  obtain rfl | rfl := eq_of_process h
  · rfl
  · rw [Dict.get?_set, if_neg hk]

end InstantBoard.FilterProcessor
