import InstantBoard.Lib.Transition
import Mathlib.Data.List.Nodup

/-!
# The tech store

The news list of the frontend's `useTechStore`: the selected filter and page, the requests that
`fetchNews` has sent, and the items shown. Responses arrive in any order and are applied to the page
and the filter the store has by then.

Each item carries the request or event it came from, which the code does not record. `Listed` says
that no id is shown twice and every item is the current filter's. A step keeps the store `Sound`
(listed, or about to be replaced by a response that is) exactly when it is `Timely` (`sound_iff`), so
after a run of such steps the list is right as soon as nothing is pending (`listed_of_timely`).
-/

namespace InstantBoard.Client

open Transition

/-! ## The store -/

/-- A news item, as far as the store reads it. -/
structure TechNewsItem where
  id : String
  topicTags : List String
  deriving DecidableEq

inductive TechSort where
  | hot
  | time
  | relevance
  deriving DecidableEq

/-- The query of `GET /tech/news`. -/
structure NewsParams where
  page : Nat
  pageSize : Nat
  sort : TechSort
  domain : Option String
  subcategory : Option String
  deriving DecidableEq

/-- The part of a query that selects items. -/
def NewsParams.filter (r : NewsParams) : Option String × Option String :=
  (r.domain, r.subcategory)

/-- `meta` of a response; the backend takes no `page_size` below one. -/
structure ResponseMeta where
  total : Nat
  page : Nat
  pageSize : Nat
  pos : 0 < pageSize

structure NewsResponse where
  data : List TechNewsItem
  info : Option ResponseMeta

/-- What the body of a failed response holds. -/
inductive ErrorDetail where
  | text (detail : String)
  | envelope (message description : Option String)
  | missing

/-- `getApiErrorMessage` -/
def getApiErrorMessage (err : ErrorDetail) (fallback : String) : String :=
  match err with
  | .text detail => if detail = "" then fallback else detail
  | .envelope message description =>
    ((message.filter (· ≠ "")).or (description.filter (· ≠ ""))).getD fallback
  | .missing => fallback

/-- Where a shown item came from. -/
inductive Origin where
  | response (request : NewsParams)
  | event
  deriving DecidableEq

structure ShownItem where
  item : TechNewsItem
  origin : Origin
  deriving DecidableEq

/-- The refs of the store, and the requests that are under way. -/
structure TechStore where
  newsItems : List ShownItem
  currentDomain : String
  currentSort : TechSort
  currentSubcategory : String
  isFeedMode : Bool
  currentPage : Nat
  totalPages : Nat
  isLoading : Bool
  error : Option String
  pending : List NewsParams

namespace TechStore

def initial : TechStore where
  newsItems := []
  currentDomain := "all"
  currentSort := .hot
  currentSubcategory := ""
  isFeedMode := false
  currentPage := 1
  totalPages := 0
  isLoading := false
  error := none
  pending := []

/-- The `params` of a request made now. -/
def params (s : TechStore) : NewsParams where
  page := s.currentPage
  pageSize := 20
  sort := s.currentSort
  domain := if s.currentDomain = "all" then none else some s.currentDomain
  subcategory := if s.currentSubcategory = "" then none else some s.currentSubcategory

/-- The current filter. -/
def filter (s : TechStore) : Option String × Option String :=
  s.params.filter

/-- `fetchNews`, up to its `await`. -/
def fetchNews (s : TechStore) : TechStore :=
  { s with
    isLoading := true
    error := none
    pending := s.pending ++ [s.params] }

def setDomain (s : TechStore) (domain : String) : TechStore :=
  { s with
    currentDomain := domain
    currentSubcategory := ""
    currentPage := 1 }.fetchNews

def setSubcategory (s : TechStore) (subcategory : String) : TechStore :=
  { s with
    currentSubcategory := subcategory
    currentPage := 1 }.fetchNews

def setSort (s : TechStore) (sort : TechSort) : TechStore :=
  { s with
    currentSort := sort
    currentPage := 1 }.fetchNews

def setFeedMode (s : TechStore) (mode : Bool) : TechStore :=
  { s with
    isFeedMode := mode
    currentPage := 1 }.fetchNews

def loadMore (s : TechStore) : TechStore :=
  if s.currentPage < s.totalPages then
    { s with currentPage := s.currentPage + 1 }.fetchNews
  else s

/-- An item with this id is shown. -/
def has (s : TechStore) (id : String) : Bool :=
  s.newsItems.any (·.item.id = id)

def addItemFromSSE (s : TechStore) (data : TechNewsItem) : TechStore :=
  if s.has data.id then s
  else if s.currentSort = .hot then { s with newsItems := ⟨data, .event⟩ :: s.newsItems }
  else { s with newsItems := s.newsItems ++ [⟨data, .event⟩] }

/-- The request at this position is no longer under way. -/
def settle (s : TechStore) (i : Nat) : TechStore :=
  { s with pending := s.pending.eraseIdx i }

/-- `fetchNews` from its `await` on, with a response to the request. -/
def receive (s : TechStore) (request : NewsParams) (response : NewsResponse) : TechStore :=
  let items := response.data.map fun item => ⟨item, .response request⟩
  { s with
    newsItems := if s.currentPage = 1 then items else s.newsItems ++ items
    totalPages := match response.info with
      | none => s.totalPages
      | some info => (info.total + info.pageSize - 1) / info.pageSize
    isLoading := false }

/-- `fetchNews` from its `await` on, with an error. -/
def fail (s : TechStore) (err : ErrorDetail) : TechStore :=
  { s with
    error := some (getApiErrorMessage err "加载科技新闻失败，请稍后重试。")
    isLoading := false }

end TechStore

/-! ## Runs -/

inductive TechAction where
  | setDomain (domain : String)
  | setSubcategory (subcategory : String)
  | setSort (sort : TechSort)
  | setFeedMode (mode : Bool)
  | fetchNews
  | loadMore
  | itemUpdate (data : TechNewsItem)
  | answered (i : Nat) (response : NewsResponse)
  | failed (i : Nat) (err : ErrorDetail)

def TechStore.step (s : TechStore) : TechAction → Option TechStore
  | .setDomain domain => some (s.setDomain domain)
  | .setSubcategory subcategory => some (s.setSubcategory subcategory)
  | .setSort sort => some (s.setSort sort)
  | .setFeedMode mode => some (s.setFeedMode mode)
  | .fetchNews => some s.fetchNews
  | .loadMore => some s.loadMore
  | .itemUpdate data => some (s.addItemFromSSE data)
  | .answered i response => s.pending[i]?.map fun request => (s.settle i).receive request response
  | .failed i err => s.pending[i]?.map fun _ => (s.settle i).fail err

def TechStep (s : TechStore) (a : TechAction) (t : TechStore) : Prop :=
  s.step a = some t

/-- The tags of an item match a filter. -/
def Matches (f : Option String × Option String) (item : TechNewsItem) : Prop :=
  (∀ domain ∈ f.1, domain ∈ item.topicTags) ∧ ∀ subcategory ∈ f.2, subcategory ∈ item.topicTags

/-- The item comes from a response to a request with the filter, or from an event that matches it. -/
def ShownItem.BelongsTo (x : ShownItem) (f : Option String × Option String) : Prop :=
  match x.origin with
  | .response request => request.filter = f
  | .event => Matches f x.item

namespace TechStore

/-- No id is shown twice and every item belongs to the current filter. -/
structure Listed (s : TechStore) : Prop where
  distinct : (s.newsItems.map (·.item.id)).Nodup
  current : ∀ x ∈ s.newsItems, x.BelongsTo s.filter

/-- The first page of the current filter is under way, so the list is going to be replaced. -/
def Refreshing (s : TechStore) : Prop :=
  s.currentPage = 1 ∧ ∃ r ∈ s.pending, r.filter = s.filter

def Sound (s : TechStore) : Prop :=
  s.Refreshing ∨ s.Listed

/-- The response is one to the current filter and repeats no item: not of its own, nor, where it is
appended, of the list. -/
structure Fits (s : TechStore) (request : NewsParams) (response : NewsResponse) : Prop where
  current : response.data ≠ [] → request.filter = s.filter
  distinct : (response.data.map (·.id)).Nodup
  fresh : s.currentPage ≠ 1 → ∀ item ∈ response.data, s.has item.id = false

/-- The steps after which the list is right, or the next response is still going to replace it. -/
def Timely (s : TechStore) : TechAction → Prop
  | .loadMore => s.currentPage < s.totalPages → s.Listed
  | .itemUpdate data => s.Refreshing ∨ s.has data.id = true ∨ Matches s.filter data
  | .answered i response =>
    (s.settle i).Refreshing ∨ ∃ request, s.pending[i]? = some request ∧ s.Fits request response
  | .failed i _ => (s.settle i).Refreshing ∨ s.Listed
  | _ => True

/-! ## Steps -/

variable {s t : TechStore}

/-- Whether the list is right depends on the items and the filter. -/
lemma listed_congr (hitems : t.newsItems = s.newsItems) (hfilter : t.filter = s.filter) :
    t.Listed ↔ s.Listed := by
  constructor
  · rintro ⟨hdistinct, hcurrent⟩
    rw [hitems] at hdistinct hcurrent
    rw [hfilter] at hcurrent
    exact ⟨hdistinct, hcurrent⟩
  · rintro ⟨hdistinct, hcurrent⟩
    rw [← hitems] at hdistinct hcurrent
    rw [← hfilter] at hcurrent
    exact ⟨hdistinct, hcurrent⟩

/-- The store has no item with the id. -/
lemma has_eq_false {id : String} : s.has id = false ↔ id ∉ s.newsItems.map (·.item.id) := by
  simp [has]

/-- A list that goes on with new items is right when both parts are. -/
lemma listed_append {more : List ShownItem} (hs : s.Listed)
    (hitems : t.newsItems.Perm (s.newsItems ++ more)) (hfilter : t.filter = s.filter) :
    t.Listed ↔ (more.map (·.item.id)).Nodup ∧ (∀ x ∈ more, s.has x.item.id = false) ∧
      ∀ x ∈ more, x.BelongsTo s.filter := by
  have hids : (t.newsItems.map (·.item.id)).Perm
      (s.newsItems.map (·.item.id) ++ more.map (·.item.id)) := by
    rw [← List.map_append]
    exact hitems.map _
  constructor
  · rintro ⟨hdistinct, hcurrent⟩
    obtain ⟨-, hmore, hdisjoint⟩ := List.nodup_append'.1 (hids.nodup_iff.1 hdistinct)
    refine ⟨hmore, ?_, ?_⟩
    · intro x hx
      apply has_eq_false.2
      intro hmem
      exact hdisjoint hmem (List.mem_map_of_mem hx)
    · intro x hx
      rw [← hfilter]
      exact hcurrent x (hitems.mem_iff.2 (List.mem_append_right _ hx))
  · rintro ⟨hmore, hfresh, hcurrent⟩
    refine ⟨hids.nodup_iff.2 (List.nodup_append'.2 ⟨hs.distinct, hmore, ?_⟩), ?_⟩
    · intro id hid hid'
      obtain ⟨x, hx, rfl⟩ := List.mem_map.1 hid'
      exact has_eq_false.1 (hfresh x hx) hid
    · intro x hx
      rw [hfilter]
      rcases List.mem_append.1 (hitems.mem_iff.1 hx) with hold | hnew
      · exact hs.current x hold
      · exact hcurrent x hnew

/-- A fetch of the first page is what the list waits for. -/
lemma fetchNews_refreshing (h : s.currentPage = 1) : s.fetchNews.Refreshing :=
  ⟨h, s.params, List.mem_append_right _ (List.mem_singleton_self _), rfl⟩

/-- A request keeps the store sound. -/
lemma Sound.fetchNews (h : s.Sound) : s.fetchNews.Sound := by
  rcases h with ⟨hpage, _⟩ | hlisted
  · exact .inl (fetchNews_refreshing hpage)
  · exact .inr ((listed_congr (s := s) (t := s.fetchNews) rfl rfl).2 hlisted)

/-- A fetch of a later page leaves the list to be what it is. -/
lemma sound_loadMore (h : s.Sound) (hpage : 1 ≤ s.currentPage) :
    s.loadMore.Sound ↔ (s.currentPage < s.totalPages → s.Listed) := by
  by_cases hlt : s.currentPage < s.totalPages
  · have hnext : s.loadMore = { s with currentPage := s.currentPage + 1 }.fetchNews := if_pos hlt
    have hlisted : s.loadMore.Listed ↔ s.Listed := by
      rw [hnext]
      exact listed_congr rfl rfl
    constructor
    · rintro (⟨hone, _⟩ | hright)
      · rw [hnext] at hone
        have hone' : s.currentPage + 1 = 1 := hone
        omega
      · exact fun _ => hlisted.1 hright
    · intro hright
      exact .inr (hlisted.2 (hright hlt))
  · have hsame : s.loadMore = s := if_neg hlt
    rw [hsame]
    exact iff_of_true h fun hlt' => absurd hlt' hlt

/-- A new item is added to those there are, in some order. -/
lemma addItemFromSSE_eq (data : TechNewsItem) (hnew : s.has data.id = false) :
    ∃ items, items.Perm (s.newsItems ++ [⟨data, .event⟩]) ∧
      s.addItemFromSSE data = { s with newsItems := items } := by
  unfold addItemFromSSE
  rw [if_neg (by rw [hnew]; exact Bool.false_ne_true)]
  split
  · exact ⟨_, List.perm_append_singleton _ _ |>.symm, rfl⟩
  · exact ⟨_, List.Perm.refl _, rfl⟩

/-- An event adds an item that matches the filter, or one that goes with the list. -/
lemma sound_addItemFromSSE (h : s.Sound) (data : TechNewsItem) :
    (s.addItemFromSSE data).Sound ↔ s.Refreshing ∨ s.has data.id = true ∨ Matches s.filter data := by
  cases hhas : s.has data.id with
  | true =>
    have hsame : s.addItemFromSSE data = s := if_pos hhas
    rw [hsame]
    exact iff_of_true h (.inr (.inl rfl))
  | false =>
    obtain ⟨items, hperm, heq⟩ := s.addItemFromSSE_eq data hhas
    rw [heq]
    constructor
    · rintro (hrefreshing | hlisted)
      · exact .inl hrefreshing
      · right
        right
        exact hlisted.current ⟨data, .event⟩
          (hperm.mem_iff.2 (List.mem_append_right _ (List.mem_singleton_self _)))
    · rintro (hrefreshing | htrue | hmatches)
      · exact .inl hrefreshing
      · cases htrue
      · rcases h with hrefreshing | hlisted
        · exact .inl hrefreshing
        · right
          have hlonger := listed_append (t := { s with newsItems := items }) hlisted hperm rfl
          refine hlonger.2 ⟨List.nodup_singleton _, ?_, ?_⟩
          · intro x hx
            rw [List.mem_singleton.1 hx]
            exact hhas
          · intro x hx
            rw [List.mem_singleton.1 hx]
            exact hmatches

/-- The items of a response, as they are shown. -/
lemma shown_ids (request : NewsParams) (data : List TechNewsItem) :
    (data.map fun item => (⟨item, .response request⟩ : ShownItem)).map (·.item.id) =
      data.map (·.id) := by
  rw [List.map_map]
  rfl

/-- A response makes the list right exactly when it fits. -/
lemma listed_receive {request : NewsParams} {response : NewsResponse}
    (h : s.currentPage ≠ 1 → s.Listed) :
    (s.receive request response).Listed ↔ s.Fits request response := by
  have hbelongs : (∀ x ∈ response.data.map fun item => (⟨item, .response request⟩ : ShownItem),
      x.BelongsTo s.filter) ↔ (response.data ≠ [] → request.filter = s.filter) := by
    constructor
    · intro hall hne
      obtain ⟨item, hitem⟩ := List.exists_mem_of_ne_nil _ hne
      exact hall _ (List.mem_map_of_mem hitem)
    · intro hfilter x hx
      obtain ⟨item, hitem, rfl⟩ := List.mem_map.1 hx
      exact hfilter (List.ne_nil_of_mem hitem)
  by_cases hpage : s.currentPage = 1
  · have hitems : (s.receive request response).newsItems =
        response.data.map fun item => ⟨item, .response request⟩ := if_pos hpage
    constructor
    · rintro ⟨hdistinct, hcurrent⟩
      rw [hitems] at hdistinct hcurrent
      rw [shown_ids] at hdistinct
      exact ⟨hbelongs.1 hcurrent, hdistinct, fun hne => absurd hpage hne⟩
    · rintro ⟨hcurrent, hdistinct, -⟩
      refine ⟨?_, ?_⟩
      · rw [hitems, shown_ids]
        exact hdistinct
      · rw [hitems]
        exact hbelongs.2 hcurrent
  · have hitems : (s.receive request response).newsItems = s.newsItems ++
        response.data.map fun item => ⟨item, .response request⟩ := if_neg hpage
    rw [listed_append (h hpage) (List.Perm.of_eq hitems) rfl, hbelongs, shown_ids]
    constructor
    · rintro ⟨hdistinct, hfresh, hcurrent⟩
      exact ⟨hcurrent, hdistinct, fun _ item hitem => hfresh _ (List.mem_map_of_mem hitem)⟩
    · rintro ⟨hcurrent, hdistinct, hfresh⟩
      refine ⟨hdistinct, ?_, hcurrent⟩
      intro x hx
      obtain ⟨item, hitem, rfl⟩ := List.mem_map.1 hx
      exact hfresh hpage item hitem

/-- A step keeps the store sound exactly when it is timely. -/
lemma sound_iff {a : TechAction} (hpage : 1 ≤ s.currentPage) (h : s.Sound) (hst : TechStep s a t) :
    t.Sound ↔ s.Timely a := by
  cases a with
  | setDomain domain =>
    cases hst
    exact iff_of_true (.inl (fetchNews_refreshing rfl)) trivial
  | setSubcategory subcategory =>
    cases hst
    exact iff_of_true (.inl (fetchNews_refreshing rfl)) trivial
  | setSort sort =>
    cases hst
    exact iff_of_true (.inl (fetchNews_refreshing rfl)) trivial
  | setFeedMode mode =>
    cases hst
    exact iff_of_true (.inl (fetchNews_refreshing rfl)) trivial
  | fetchNews =>
    cases hst
    exact iff_of_true h.fetchNews trivial
  | loadMore =>
    cases hst
    exact sound_loadMore h hpage
  | itemUpdate data =>
    cases hst
    exact sound_addItemFromSSE h data
  | answered i response =>
    obtain ⟨request, hrequest, heq⟩ := Option.map_eq_some_iff.1 hst
    subst heq
    have hlisted : (s.settle i).currentPage ≠ 1 → (s.settle i).Listed := by
      intro hne
      rcases h with ⟨hone, _⟩ | hlisted
      · exact absurd hone hne
      · exact (listed_congr (s := s) (t := s.settle i) rfl rfl).2 hlisted
    constructor
    · rintro (hrefreshing | hright)
      · exact .inl hrefreshing
      · have hfits := (listed_receive hlisted).1 hright
        exact .inr ⟨request, hrequest, hfits.current, hfits.distinct, hfits.fresh⟩
    · rintro (hrefreshing | ⟨request', hrequest', hfits⟩)
      · exact .inl hrefreshing
      · rw [hrequest] at hrequest'
        cases hrequest'
        exact .inr ((listed_receive hlisted).2 ⟨hfits.current, hfits.distinct, hfits.fresh⟩)
  | failed i err =>
    obtain ⟨request, _, heq⟩ := Option.map_eq_some_iff.1 hst
    subst heq
    exact or_congr Iff.rfl (listed_congr rfl rfl)

/-- The page stays positive. -/
lemma currentPage_pos {a : TechAction} (hpage : 1 ≤ s.currentPage) (hst : TechStep s a t) :
    1 ≤ t.currentPage := by
  cases a with
  | loadMore =>
    cases hst
    unfold loadMore
    split
    · exact Nat.le_add_left 1 _
    · exact hpage
  | itemUpdate data =>
    cases hst
    unfold addItemFromSSE
    split
    · exact hpage
    · split
      · exact hpage
      · exact hpage
  | answered i response =>
    obtain ⟨request, _, heq⟩ := Option.map_eq_some_iff.1 hst
    subst heq
    exact hpage
  | failed i err =>
    obtain ⟨request, _, heq⟩ := Option.map_eq_some_iff.1 hst
    subst heq
    exact hpage
  | fetchNews =>
    cases hst
    exact hpage
  | _ =>
    cases hst
    exact Nat.le_refl 1

end TechStore

/-! ## Runs -/

/-- The runs of timely steps are those that keep the store sound. -/
lemma timely_iff_sound (as : List TechAction) (s : TechStore) :
    Guarded TechStep TechStore.Timely TechStore.initial as s ↔
      Guarded TechStep (fun s _ => s.Sound) TechStore.initial as s ∧ s.Sound :=
  Guarded.iff_along (R := TechStep) (C := TechStore.Timely) (W := fun s => 1 ≤ s.currentPage)
    (fun h hst => TechStore.currentPage_pos h hst) (fun h hs hst => TechStore.sound_iff h hs hst)
    (Nat.le_refl 1) (.inr ⟨List.nodup_nil, fun _ hx => absurd hx List.not_mem_nil⟩)

/-- In a run of timely steps the list is right whenever nothing is pending. -/
theorem listed_of_timely {as : List TechAction} {s : TechStore}
    (run : Guarded TechStep TechStore.Timely TechStore.initial as s) (hquiet : s.pending = []) :
    s.Listed := by
  rcases ((timely_iff_sound as s).1 run).2 with ⟨_, r, hr, _⟩ | hlisted
  · rw [hquiet] at hr
    cases hr
  · exact hlisted

/-- A domain is selected, an event comes before the response and one after it. -/
theorem listed_after_events : ∃ s : TechStore, s.pending = [] ∧ s.newsItems.length = 2 ∧ s.Listed := by
  have run : Guarded TechStep TechStore.Timely TechStore.initial
      [.setDomain "ai", .itemUpdate ⟨"n1", ["space"]⟩,
        .answered 0 ⟨[⟨"n2", ["ai", "llm"]⟩], some ⟨1, 1, 20, by decide⟩⟩,
        .itemUpdate ⟨"n3", ["ai"]⟩] _ :=
    .cons trivial rfl (.cons (.inl ⟨rfl, _, List.mem_singleton_self _, rfl⟩) rfl
      (.cons (.inr ⟨_, rfl, fun _ => rfl, by decide, fun hne => absurd rfl hne⟩) rfl
        (.cons (.inr (.inr ⟨by decide, by decide⟩)) rfl .nil)))
  exact ⟨_, rfl, rfl, listed_of_timely run rfl⟩

/-- The response to an earlier filter, when it comes last, stays in the list. -/
theorem stale_response_stays :
    ¬ ∀ as s, Steps TechStep TechStore.initial as s → s.pending = [] → s.Listed := by
  intro h
  have run : Steps TechStep TechStore.initial
      [.setDomain "ai", .setDomain "space", .answered 1 ⟨[⟨"n1", ["space"]⟩], none⟩,
        .answered 0 ⟨[⟨"n2", ["ai"]⟩], none⟩] _ :=
    .cons rfl (.cons rfl (.cons rfl (.cons rfl .nil)))
  have hcurrent : (some "ai", none) = (some "space", (none : Option String)) :=
    (h _ _ run rfl).current _ List.mem_cons_self
  exact absurd hcurrent (by decide)

end InstantBoard.Client
