import InstantBoard.Processors.TagOrder
import InstantBoard.Python.Urllib

/-!
# The listing of the tags

`_sort_tags` lists a set of tags without loss or repetition, first those of the two tables and then the
others by their name, so the list is known by the set. More text never loses a tag, but for `general`,
which stands for the absence of all others.
-/

namespace InstantBoard.TechTopicExtractor

open Ordered

/-- The list of a set of tags: nothing lost, nothing twice, and in the order of the tables. -/
structure Listing (tags listed : List String) : Prop where
  nodup : listed.Nodup
  mem_iff : ∀ tag, tag ∈ listed ↔ tag ∈ tags
  levels : ∃ rest : List String, rest.Pairwise (· < ·) ∧
    (∀ tag, tag ∈ rest ↔ tag ∈ tags ∧ tag ∉ level1Order ∧ tag ∉ level2Order) ∧
    listed = level1Order.filter (· ∈ tags) ++ level2Order.filter (· ∈ tags) ++ rest

/-- No tag comes twice when sorted. -/
lemma sortTags_nodup (tags : List String) : (sortTags tags).Nodup := by
  rw [sortTags_eq]
  apply (pairwise_sortBy tagOrder_nodup tags).imp
  rintro tag tag' h rfl
  exact Std.Irrefl.irrefl tag h

/-- Sorting keeps the tags. -/
lemma mem_sortTags {tags : List String} {tag : String} : tag ∈ sortTags tags ↔ tag ∈ tags := by
  rw [sortTags_eq, mem_sortBy]

/-- Sorting lists the tags. -/
lemma sortTags_listing (tags : List String) : Listing tags (sortTags tags) := by
  refine ⟨sortTags_nodup tags, fun _ => mem_sortTags, ?_⟩
  obtain ⟨rest, hsorted, hmem, hlist⟩ := sortBy_eq_append tagOrder_nodup tags
  refine ⟨rest, hsorted, ?_, ?_⟩
  · intro tag
    rw [hmem, TAG_ORDER, List.mem_append, not_or]
  · rw [sortTags_eq, hlist, TAG_ORDER, List.filter_append]

/-- The order in which the set is read is of no account. -/
lemma sortTags_congr {tags tags' : List String} (h : ∀ tag, tag ∈ tags ↔ tag ∈ tags') :
    sortTags tags = sortTags tags' := by
  rw [sortTags_eq, sortTags_eq]
  apply (eq_iff_of_pairwise (pairwise_sortBy tagOrder_nodup _) (pairwise_sortBy tagOrder_nodup _)).2
  intro tag
  rw [mem_sortBy, mem_sortBy]
  exact h tag

/-- No tag comes twice when extracted. -/
lemma extractWithLevel1_nodup (py : Stdlib) (text slug : String) :
    (extractWithLevel1 py text slug).Nodup := by
  have hnodup : (extractTags py text).Nodup := sortTags_nodup _
  unfold extractWithLevel1
  dsimp only
  split
  · exact hnodup
  · rename_i hslug
    exact List.nodup_cons.2 ⟨hslug, hnodup⟩

/-- The slug of the first level is among the tags. -/
lemma mem_extractWithLevel1 (py : Stdlib) (text slug : String) :
    slug ∈ extractWithLevel1 py text slug := by
  unfold extractWithLevel1
  dsimp only
  split
  · assumption
  · exact List.mem_cons_self

/-! ### More text -/

/-- The small sigma at the end of a word is written as the other one. -/
def sigma (c : Char) : Char :=
  if c = 'ς' then 'σ' else c

/-- `str.lower` takes a text character by character, but for the form of a small sigma, which depends
on what stands around it; and a small sigma comes of a sigma only. -/
structure LowersEach (py : Stdlib) (mapping : Char → List Char) : Prop where
  lower : ∀ s, (py.lower s).toList.map sigma = s.toList.flatMap mapping
  sigma : ∀ c, 'σ' ∈ mapping c → c = 'Σ' ∨ c = 'σ' ∨ c = 'ς'

/-- What a text is found in does not depend on a map that leaves its elements alone and takes nothing
else to them. -/
lemma isInfix_map_iff {α : Type*} {f : α → α} {w l : List α} (hfix : ∀ a ∈ w, f a = a)
    (honly : ∀ a, f a ∈ w → f a = a) : w <:+: l.map f ↔ w <:+: l := by
  have hw : w.map f = w := by
    rw [List.map_congr_left (g := id) hfix, List.map_id]
  constructor
  · intro ⟨before, behind, h⟩
    obtain ⟨front, back, rfl, hfront, _⟩ := List.map_eq_append_iff.1 h.symm
    obtain ⟨l₁, l₂, rfl, _, hl₂⟩ := List.map_eq_append_iff.1 hfront
    have hsame : l₂.map f = l₂ := by
      rw [List.map_congr_left (g := id), List.map_id]
      intro a ha
      apply honly
      rw [← hl₂]
      exact List.mem_map_of_mem ha
    rw [← hl₂, hsame]
    exact ⟨l₁, back, rfl⟩
  · intro h
    rw [← hw]
    exact h.map f

variable {py : Stdlib} {mapping : Char → List Char} {s t tag : String}

/-- No keyword has a sigma. -/
lemma keyword_sigma {k : String × List String} (hk : k ∈ KEYWORD_TO_TAG) :
    ∀ c ∈ k.1.toList, ¬ (c = 'Σ' ∨ c = 'σ' ∨ c = 'ς') := by
  have hall : (KEYWORD_TO_TAG.all fun k =>
      k.1.toList.all fun c => c ≠ 'Σ' && c ≠ 'σ' && c ≠ 'ς') = true := by
    decide +kernel
  intro c hc
  have h := List.all_eq_true.1 (List.all_eq_true.1 hall k hk) c hc
  simpa [and_assoc] using h

/-- Whether a keyword is in a lowered text is seen from the characters of the text one by one. -/
lemma contains_lower_iff (hlower : LowersEach py mapping) {k : String × List String}
    (hk : k ∈ KEYWORD_TO_TAG) :
    Text.contains (py.lower s) (py.lower k.1) = true ↔
      (py.lower k.1).toList <:+: s.toList.flatMap mapping := by
  have hnone : 'σ' ∉ (py.lower k.1).toList.map sigma := by
    rw [hlower.lower, List.mem_flatMap]
    intro ⟨c, hc, hsigma⟩
    exact keyword_sigma hk c hc (hlower.sigma c hsigma)
  have hfix : ∀ c ∈ (py.lower k.1).toList, sigma c = c := by
    intro c hc
    rcases em (c = 'ς') with rfl | hother
    · exact absurd (List.mem_map.2 ⟨'ς', hc, rfl⟩) hnone
    · exact if_neg hother
  have honly : ∀ c, sigma c ∈ (py.lower k.1).toList → sigma c = c := by
    intro c hc
    rcases em (c = 'ς') with rfl | hother
    · exact absurd (List.mem_map.2 ⟨'σ', hc, rfl⟩) hnone
    · exact if_neg hother
  rw [Text.contains, decide_eq_true_eq, ← isInfix_map_iff hfix honly, hlower.lower]

/-- A keyword in a part is in the whole. -/
lemma contains_lower_mono (hlower : LowersEach py mapping) (h : s.toList <:+: t.toList)
    {k : String × List String} (hk : k ∈ KEYWORD_TO_TAG)
    (hs : Text.contains (py.lower s) (py.lower k.1) = true) :
    Text.contains (py.lower t) (py.lower k.1) = true := by
  rw [contains_lower_iff hlower hk] at hs ⊢
  obtain ⟨before, behind, ht⟩ := h
  apply hs.trans
  rw [← ht, List.flatMap_append, List.flatMap_append]
  exact ⟨_, _, rfl⟩

/-- The tags other than `general` are those of the keywords in the text. -/
lemma mem_extractTags_iff (h : tag ≠ "general") :
    tag ∈ extractTags py s ↔ ∃ k ∈ KEYWORD_TO_TAG,
      Text.contains (py.lower s) (py.lower k.1) = true ∧ tag ∈ k.2 := by
  have htags : tag ∈ ((KEYWORD_TO_TAG.filter fun k =>
        Text.contains (py.lower s) (py.lower k.1)).flatMap (·.2)) ↔
      ∃ k ∈ KEYWORD_TO_TAG, Text.contains (py.lower s) (py.lower k.1) = true ∧ tag ∈ k.2 := by
    simp only [List.mem_flatMap, List.mem_filter, and_assoc]
  rw [extractTags_eq, mem_sortBy, ← htags]
  unfold foundTags
  dsimp only
  split
  · rename_i hempty
    rw [List.isEmpty_iff.1 hempty, List.mem_singleton]
    exact iff_of_false h List.not_mem_nil
  · rfl

/-- A tag of a part is a tag of the whole. -/
lemma extractTags_mono (hlower : LowersEach py mapping) (h : s.toList <:+: t.toList)
    (hne : tag ≠ "general") (hs : tag ∈ extractTags py s) : tag ∈ extractTags py t := by
  obtain ⟨k, hk, hcontains, htag⟩ := (mem_extractTags_iff hne).1 hs
  exact (mem_extractTags_iff hne).2 ⟨k, hk, contains_lower_mono hlower h hk hcontains, htag⟩

/-- The tags of a text are a listing of a set that only grows with the text. -/
theorem extraction_canonical (hlower : LowersEach py mapping) :
    (∀ tags, Listing tags (sortTags tags) ∧
      ∀ tags', (∀ tag, tag ∈ tags ↔ tag ∈ tags') → sortTags tags = sortTags tags') ∧
    (∀ text slug, (extractWithLevel1 py text slug).count slug = 1 ∧
      (extractWithLevel1 py text slug).Nodup) ∧
    ∀ s t : String, s.toList <:+: t.toList →
      ∀ tag, tag ≠ "general" → tag ∈ extractTags py s → tag ∈ extractTags py t := by
  refine ⟨?_, ?_, ?_⟩
  · intro tags
    exact ⟨sortTags_listing tags, fun _ h => sortTags_congr h⟩
  · intro text slug
    have hnodup := extractWithLevel1_nodup py text slug
    exact ⟨List.count_eq_one_of_mem hnodup (mem_extractWithLevel1 py text slug), hnodup⟩
  · intro s t h tag hne hs
    exact extractTags_mono hlower h hne hs

/-- Lower-casing of the letters without accents; the extraction uses nothing else of the library. -/
def asciiLower : Stdlib where
  lower s := String.ofList (s.toList.map Char.toLower)
  reprStr s := "'" ++ s ++ "'"
  md5 s := s
  urlparse _ := none
  parseQs _ := []
  urlencode _ := ""
  urlunparse p := p.path
  strptime _ _ := none
  fromisoformat _ := none

/-- The sample takes a text character by character. -/
lemma asciiLower_lowersEach : LowersEach asciiLower fun c => [sigma c.toLower] where
  lower s := by
    show (String.ofList (s.toList.map Char.toLower)).toList.map sigma = _
    rw [String.toList_ofList, List.map_map]
    exact List.map_eq_flatMap
  sigma c h := by
    have hsigma : sigma c.toLower = 'σ' := (List.mem_singleton.1 h).symm
    unfold sigma at hsigma
    split at hsigma
    · rename_i hfinal
      exact .inr (.inr (Urllib.eq_of_toLower_eq (by decide) hfinal))
    · exact .inr (.inl (Urllib.eq_of_toLower_eq (by decide) hsigma))

/-- The tag of a shorter text is found in a longer one. -/
theorem llm_in_longer_text :
    "llm" ∈ extractTags asciiLower "GPT-4" ∧ "llm" ∈ extractTags asciiLower "A GPT-4 drone" := by
  have hshort : "llm" ∈ extractTags asciiLower "GPT-4" := by
    apply (mem_extractTags_iff (by decide)).2
    exact ⟨("GPT", ["ai", "llm"]), List.mem_cons_self, by decide, by decide⟩
  refine ⟨hshort, ?_⟩
  exact (extraction_canonical asciiLower_lowersEach).2.2 "GPT-4" "A GPT-4 drone"
    ⟨"A ".toList, " drone".toList, by decide⟩ "llm" (by decide) hshort

end InstantBoard.TechTopicExtractor
