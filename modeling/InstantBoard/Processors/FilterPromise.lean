import InstantBoard.Processors.Filter
import InstantBoard.Scheduler.Collection

/-!
# What the filter promises and what it admits

The data-flow rule for `FilterProcessor`: a title that is long enough, no blacklisted keyword in
title or summary, and one of the keywords in title or summary unless the list is empty
(`Promised`). The code departs from it in two places. An item with a short summary and no score is
returned before the keywords are looked at, and every keyword is looked for in the joined text
`title + " " + summary`, where it can also stand across the joint. `process_eq` says what the code
returns; `meets_promise_iff` that it meets the promise on exactly the items that are neither
`WronglyAdmitted` nor `WronglyRefused`.
-/

namespace InstantBoard.FilterProcessor

/-- What the values of an item's keys are: a string for the title, a string or null for the summary
(null read as empty), an object or nothing for the extra data. -/
structure Typed (item : Dict) (title summary : String) (extra : Dict) : Prop where
  title : item.getD "title" (.str "") = .str title
  summary : item.getD "summary" (.str "") = .str summary ∨
    item.getD "summary" (.str "") = .null ∧ summary = ""
  extra : item.getD "extra_data" (.obj []) = .obj extra

variable (py : Stdlib) (source : CollectedSource) (title summary : String) (extra : Dict)

/-- The keyword occurs in the text, whatever the case of either. -/
def Occurs (keyword text : String) : Prop :=
  Text.contains (py.lower text) (py.lower keyword) = true

/-- The keyword occurs in the title or in the summary. -/
def Mentioned (keyword : String) : Prop :=
  Occurs py keyword title ∨ Occurs py keyword summary

/-- The keyword occurs in the joined text only: it stands across the joint. -/
def Spanning (keyword : String) : Prop :=
  Occurs py keyword (title ++ " " ++ summary) ∧ ¬ Mentioned py title summary keyword

def LongTitle : Prop := MIN_TITLE_LENGTH ≤ (Text.strip title).length

def Blacklisted : Prop := ∃ k ∈ BLACKLIST_KEYWORDS, Mentioned py title summary k

def Wanted : Prop :=
  keywordsFilter source = [] ∨ ∃ k ∈ keywordsFilter source, Mentioned py title summary k

/-- The rule of the data-flow design. -/
def Promised : Prop :=
  LongTitle title ∧ ¬ Blacklisted py title summary ∧ Wanted py source title summary

/-- The summary is short and there is no `hn_score`. -/
def Bare : Prop :=
  (Text.strip summary).length < MIN_CONTENT_LENGTH ∧
    (extra.getD "hn_score" (.int 0)).truthy = false

/-- None of the keywords is mentioned, but the item is bare or a keyword stands across the joint. -/
def WronglyAdmitted : Prop :=
  LongTitle title ∧ ¬ Blacklisted py title summary ∧
    (∀ k ∈ BLACKLIST_KEYWORDS, ¬ Spanning py title summary k) ∧
    ¬ Wanted py source title summary ∧
    (Bare summary extra ∨ ∃ k ∈ keywordsFilter source, Spanning py title summary k)

/-- The item is as it should be, but a blacklisted keyword stands across the joint. -/
def WronglyRefused : Prop :=
  LongTitle title ∧ ¬ Blacklisted py title summary ∧ Wanted py source title summary ∧
    ∃ k ∈ BLACKLIST_KEYWORDS, Spanning py title summary k

instance {keyword text : String} : Decidable (Occurs py keyword text) :=
  inferInstanceAs (Decidable (_ = true))

instance : DecidablePred (Mentioned py title summary) := fun _ => inferInstanceAs (Decidable (_ ∨ _))

instance : DecidablePred (Spanning py title summary) := fun _ => inferInstanceAs (Decidable (_ ∧ _))

instance : Decidable (LongTitle title) := inferInstanceAs (Decidable (_ ≤ _))

instance : Decidable (Blacklisted py title summary) :=
  inferInstanceAs (Decidable (∃ k ∈ BLACKLIST_KEYWORDS, _))

instance : Decidable (Wanted py source title summary) := inferInstanceAs (Decidable (_ ∨ _))

instance : Decidable (Bare summary extra) := inferInstanceAs (Decidable (_ ∧ _))

instance : Decidable (WronglyAdmitted py source title summary extra) :=
  inferInstanceAs (Decidable (_ ∧ _ ∧ (∀ k ∈ BLACKLIST_KEYWORDS, _) ∧ _ ∧ _))

instance : Decidable (WronglyRefused py source title summary) :=
  inferInstanceAs (Decidable (_ ∧ _))

variable {py source title summary extra} {item : Dict}

/-! ## What the code returns -/

/-- The code's three checks: it returns the item after the first two if the item is bare. -/
def Returned (py : Stdlib) (source : CollectedSource) (title summary : String) (extra : Dict) :
    Prop :=
  LongTitle title ∧
    (∀ k ∈ BLACKLIST_KEYWORDS, ¬ Occurs py k (title ++ " " ++ summary)) ∧
    (Bare summary extra ∨ keywordsFilter source = [] ∨
      ∃ k ∈ keywordsFilter source, Occurs py k (title ++ " " ++ summary))

/-- A string is short when it is empty or short without its spaces. -/
lemma shorter_str (s : String) {n : Nat} (hn : 0 < n) :
    shorter (.str s) n = .ok (decide ((Text.strip s).length < n)) := by
  unfold shorter
  by_cases hs : s = ""
  · subst hs
    have hzero : (Text.strip "").length = 0 := by decide
    rw [hzero, decide_eq_true hn]
    rfl
  · have htruthy : (Json.str s).truthy = true := by simp [Json.truthy, hs]
    rw [if_pos htruthy]
    rfl

/-- The code's bareness is that of the promise. -/
lemma bare_eq (h : Typed item title summary extra) :
    bare item (.str summary) = .ok (decide (Bare summary extra)) := by
  unfold bare
  rw [shorter_str summary (by decide), h.extra]
  by_cases hshort : (Text.strip summary).length < MIN_CONTENT_LENGTH
  · cases htruthy : (extra.getD "hn_score" (.int 0)).truthy <;>
      simp [Bare, hshort, htruthy, bind, Except.bind, pure, Except.pure, Json.dictGet]
  · simp [Bare, hshort, bind, Except.bind, pure, Except.pure]

/-- The summary, null read as empty. -/
lemma summary_or (h : Typed item title summary extra) :
    (item.getD "summary" (.str "")).or (.str "") = .str summary := by
  rcases h.summary with hstr | ⟨hnull, hempty⟩
  · rw [hstr]
    by_cases hs : summary = ""
    · rw [hs]
      rfl
    · simp [Json.or, Json.truthy, hs]
  · rw [hnull, hempty]
    rfl

/-- The code never raises on such an item; these are its checks in their order. -/
lemma process_eq (h : Typed item title summary extra) :
    process py source item = .ok (
      if ¬ LongTitle title then none
      else if ∃ k ∈ BLACKLIST_KEYWORDS, Occurs py k (title ++ " " ++ summary) then none
      else if Bare summary extra then some (item.set "summary" (.str title))
      else if keywordsFilter source = [] ∨
        ∃ k ∈ keywordsFilter source, Occurs py k (title ++ " " ++ summary) then some item
      else none) := by
  have hany : ∀ keywords : List String, (keywords.any fun k =>
      Text.contains (py.lower (title ++ " " ++ summary)) (py.lower k)) =
      decide (∃ k ∈ keywords, Occurs py k (title ++ " " ++ summary)) := by
    intro keywords
    rw [Bool.eq_iff_iff, decide_eq_true_eq, List.any_eq_true]
    rfl
  have hlong : decide ((Text.strip title).length < MIN_TITLE_LENGTH) = decide (¬ LongTitle title) := by
    rw [decide_eq_decide, LongTitle, Nat.not_le]
  unfold process
  dsimp only
  rw [h.title, summary_or h, shorter_str title (by decide : 0 < MIN_TITLE_LENGTH), bare_eq h]
  simp only [bind, Except.bind, pure, Except.pure, Json.format, hany, hlong, decide_eq_true_eq,
    List.isEmpty_iff]
  split
  · rfl
  · split
    · rfl
    · split
      · rfl
      · by_cases hempty : keywordsFilter source = []
        · rw [if_pos hempty, if_pos (.inl hempty)]
        · rw [if_neg hempty]
          simp only [hempty, false_or]
          split <;> rfl

/-- The items that the code returns. -/
lemma returned_iff (h : Typed item title summary extra) :
    (∃ item', process py source item = .ok (some item')) ↔
      Returned py source title summary extra := by
  rw [process_eq h]
  unfold Returned
  by_cases hlong : LongTitle title
  · by_cases hblack : ∃ k ∈ BLACKLIST_KEYWORDS, Occurs py k (title ++ " " ++ summary)
    · have hnot : ¬ ∀ k ∈ BLACKLIST_KEYWORDS, ¬ Occurs py k (title ++ " " ++ summary) := by
        obtain ⟨k, hk, hoccurs⟩ := hblack
        exact fun hall => hall k hk hoccurs
      simp [hlong, hblack, hnot]
    · have hall : ∀ k ∈ BLACKLIST_KEYWORDS, ¬ Occurs py k (title ++ " " ++ summary) :=
        fun k hk hoccurs => hblack ⟨k, hk, hoccurs⟩
      rw [if_neg (not_not.2 hlong), if_neg hblack]
      by_cases hbare : Bare summary extra
      · rw [if_pos hbare]
        exact ⟨fun _ => ⟨hlong, hall, .inl hbare⟩, fun _ => ⟨_, rfl⟩⟩
      · rw [if_neg hbare]
        split
        · rename_i hwanted
          exact ⟨fun _ => ⟨hlong, hall, .inr hwanted⟩, fun _ => ⟨item, rfl⟩⟩
        · rename_i hunwanted
          constructor
          · rintro ⟨item', heq⟩
            cases heq
          · rintro ⟨_, _, hbare' | hwanted⟩
            · exact absurd hbare' hbare
            · exact absurd hwanted hunwanted
  · simp [hlong]

/-! ## Where the promise is met -/

/-- `str.lower` maps the two sides of a space on their own: the only rule that looks at other
letters, that of the final sigma, stops at it. -/
def LowersJoined (py : Stdlib) : Prop :=
  ∀ s t, py.lower (s ++ " " ++ t) = py.lower s ++ " " ++ py.lower t

/-- What is mentioned occurs in the joined text. -/
lemma Mentioned.occurs (lowers : LowersJoined py) {k : String} (h : Mentioned py title summary k) :
    Occurs py k (title ++ " " ++ summary) := by
  unfold Occurs Text.contains
  rw [lowers, String.toList_append, String.toList_append, decide_eq_true_eq]
  rcases h with h | h
  · have hin := of_decide_eq_true h
    exact hin.trans ((List.prefix_append _ _).trans (List.prefix_append _ _)).isInfix
  · have hin := of_decide_eq_true h
    exact hin.trans (List.suffix_append _ _).isInfix

/-- A keyword of the joined text is mentioned or stands across the joint. -/
lemma occurs_iff (lowers : LowersJoined py) {k : String} :
    Occurs py k (title ++ " " ++ summary) ↔
      Mentioned py title summary k ∨ Spanning py title summary k := by
  constructor
  · intro h
    by_cases hm : Mentioned py title summary k
    · exact .inl hm
    · exact .inr ⟨h, hm⟩
  · rintro (h | h)
    · exact h.occurs lowers
    · exact h.1

/-- Where a check with an early way out and a check of what it lets through agree: nothing leaves
early that is not wanted, and nothing wanted is stopped. -/
lemma admits_iff {long black clear wanted early spans : Prop} :
    ((long ∧ (¬ black ∧ clear) ∧ (early ∨ wanted ∨ spans)) ↔ (long ∧ ¬ black ∧ wanted)) ↔
      ¬ (long ∧ ¬ black ∧ clear ∧ ¬ wanted ∧ (early ∨ spans)) ∧
        ¬ (long ∧ ¬ black ∧ wanted ∧ ¬ clear) := by
  by_cases hwanted : wanted
  · by_cases hclear : clear <;> simp [hwanted, hclear]
  · by_cases hclear : clear <;> simp [hwanted, hclear]

/-- The filter meets the promise on exactly the items that it neither admits nor refuses wrongly. -/
theorem meets_promise_iff (lowers : LowersJoined py) (h : Typed item title summary extra) :
    ((∃ item', process py source item = .ok (some item')) ↔ Promised py source title summary) ↔
      ¬ WronglyAdmitted py source title summary extra ∧
        ¬ WronglyRefused py source title summary := by
  rw [returned_iff h]
  unfold Returned Promised WronglyAdmitted WronglyRefused
  have hblack : (∀ k ∈ BLACKLIST_KEYWORDS, ¬ Occurs py k (title ++ " " ++ summary)) ↔
      ¬ Blacklisted py title summary ∧ ∀ k ∈ BLACKLIST_KEYWORDS, ¬ Spanning py title summary k := by
    simp only [occurs_iff lowers, not_or, Blacklisted, not_exists, not_and]
    exact ⟨fun hall => ⟨fun k hk => (hall k hk).1, fun k hk => (hall k hk).2⟩,
      fun hall k hk => ⟨hall.1 k hk, hall.2 k hk⟩⟩
  have hwhite : (keywordsFilter source = [] ∨
      ∃ k ∈ keywordsFilter source, Occurs py k (title ++ " " ++ summary)) ↔
      Wanted py source title summary ∨
        ∃ k ∈ keywordsFilter source, Spanning py title summary k := by
    simp only [occurs_iff lowers, Wanted, and_or_left, exists_or, or_assoc]
  have hspan : (∃ k ∈ BLACKLIST_KEYWORDS, Spanning py title summary k) ↔
      ¬ ∀ k ∈ BLACKLIST_KEYWORDS, ¬ Spanning py title summary k := by
    simp only [not_forall, not_not, exists_prop]
  rw [hblack, hwhite, hspan]
  exact admits_iff

/-! ## Two items of a source that asks for "AI" -/

open AsyncSchedulerManager (Sample.library Sample.source)

/-- The sample lowers the two sides of a space on their own. -/
lemma lowersJoined_library : LowersJoined Sample.library := by
  intro s t
  simp [Sample.library, String.ofList_append, String.append_assoc]

/-- The sample source with a keyword of its own. -/
def aiSource : CollectedSource := { Sample.source with keywordsFilter := ["AI"] }

/-- The item of the robots mentions the keyword, and the promise is met. -/
theorem robots_meet_promise :
    (∃ item', process Sample.library aiSource
      [("title", .str "Robots learn to walk"), ("summary", .str "An ai lab in Graz reports progress.")] =
        .ok (some item')) ↔
      Promised Sample.library aiSource "Robots learn to walk" "An ai lab in Graz reports progress." :=
  (@meets_promise_iff Sample.library aiSource _ _ [] _ lowersJoined_library ⟨rfl, .inl rfl, rfl⟩).2
    ⟨by decide +kernel, by decide +kernel⟩

/-- An item without a summary is returned, whatever the keywords. -/
theorem garden_not_promised :
    ¬ ∀ (py : Stdlib) (source : CollectedSource) (item : Dict) (title summary : String)
      (extra : Dict), LowersJoined py → Typed item title summary extra →
        ((∃ item', process py source item = .ok (some item')) ↔
          Promised py source title summary) := by
  intro h
  have returned : ∃ item', process Sample.library aiSource
      [("title", .str "Gardening tips"), ("summary", .null)] = .ok (some item') :=
    ⟨_, rfl⟩
  have promised := (h Sample.library aiSource _ "Gardening tips" "" []
    lowersJoined_library ⟨rfl, .inr ⟨rfl, rfl⟩, rfl⟩).1 returned
  exact absurd promised.2.2 (by decide +kernel)

end InstantBoard.FilterProcessor
