import InstantBoard.Scheduler.Collection

/-!
# What a run publishes

The event of an item is built from the `Item` object before the flush gives it a key, so it carries
`str(None)` and no row's id, whatever the commit does later. A run whose events all refer to
committed rows is therefore one that publishes nothing (`announced_iff`). In the browser
`addItemFromSSE` takes every event after the first for a copy (`kept_le_one`).
-/

namespace InstantBoard

/-- `addItemFromSSE` of the tech store: `hot` says that the current sort is `hot`. -/
def addItemFromSSE (hot : Bool) (newsItems : List Dict) (data : Dict) : List Dict :=
  if newsItems.any fun item => item.get? "id" = data.get? "id" then newsItems
  else if hot then data :: newsItems else newsItems ++ [data]

/-- A client that has an item with the id of the event does not take it. -/
lemma addItemFromSSE_second {hot : Bool} {newsItems : List Dict} {item data : Dict}
    (h : item ∈ newsItems) (hid : item.get? "id" = data.get? "id") :
    addItemFromSSE hot newsItems data = newsItems := by
  rw [addItemFromSSE, if_pos]
  rw [List.any_eq_true]
  exact ⟨item, h, by simpa using hid⟩

namespace AsyncSchedulerManager

open ProcessorChain

variable (py : Stdlib)

/-- Published implies stored: each event carries the key of a committed row, no two events the same
key, and a client without these keys that receives the events keeps every one of them. -/
structure Announced (store : Store) (run : Run) : Prop where
  stored : ∀ e ∈ (runCollection py store run).published,
    ∃ row ∈ (runCollection py store run).store.items, ∃ id, row.item.id = some id ∧
      e.data.get? "id" = some (.str id.text)
  distinct : (runCollection py store run).published.Pairwise fun a b =>
    a.data.get? "id" ≠ b.data.get? "id"
  kept : ∀ hot newsItems, (∀ item ∈ newsItems, ∀ e ∈ (runCollection py store run).published,
      Dict.get? item "id" ≠ e.data.get? "id") →
    ∀ e ∈ (runCollection py store run).published,
      e.data ∈ ((runCollection py store run).published.map (·.data)).foldl (addItemFromSSE hot)
        newsItems

/-- The item of a turn is published: the dedup set lets it pass, the other processors leave an item
whose time can be read, and its add and its publish go through. -/
structure IsPublished (source : CollectedSource) (t : Fetched × RedisSet) : Prop where
  passes : passes py t = true
  item : ∃ item, (content py source t.1).item = some item ∧
    ∃ time, publishedAt py t.1.1.clock item = .ok time
  add : t.1.1.add = true
  sent : t.1.1.publish.sent = true

variable {py} {store : Store} {run : Run}

/-- Every event is the one of an item that has no key yet. -/
lemma storeItem_event {source : CollectedSource} {f : Fetched} {result : ProcessResult}
    {e : ItemUpdate} (h : (storeItem py source f result).event = some e) :
    e.data.get? "id" = some (.str "None") := by
  obtain ⟨row, -, hid, rfl⟩ := storeItem_event_eq_some h
  simp [itemUpdate, Item.strId, hid, Dict.get?]

/-- There is an event exactly for what is published. -/
lemma stored_event_isSome {source : CollectedSource} {t : Fetched × RedisSet} :
    (∃ e, (stored py source t).event = some e) ↔ IsPublished py source t := by
  constructor
  · rintro ⟨e, h⟩
    have hp : passes py t = true := by
      by_contra hp
      rw [stored_of_not_passes (by simpa using hp)] at h
      cases h
    rw [stored_of_passes hp] at h
    obtain hs | ⟨item, time, hi, ht, ha, hs⟩ :=
      storeItem_cases py source t.1 (content py source t.1)
    · rw [hs] at h
      cases h
    · rw [hs] at h
      simp only at h
      split at h
      next hsent => exact ⟨hp, ⟨item, hi, time, ht⟩, ha, hsent⟩
      next => cases h
  · rintro ⟨hp, ⟨item, hi, time, ht⟩, ha, hs⟩
    rw [stored_of_passes hp]
    refine ⟨itemUpdate source (itemObj source item time), ?_⟩
    simp [storeItem, hi, ht, ha, hs]

/-- The key of a row is not the text of `None`. -/
lemma Uuid.text_ne_none (id : Uuid) : id.text ≠ "None" := by
  intro h
  have hl := id.length_eq
  rw [h] at hl
  exact absurd hl (by decide)

/-- A client that has an item with this id takes nothing more with it. -/
lemma foldl_addItemFromSSE {hot : Bool} {id : Json} {datas newsItems : List Dict}
    (hdatas : ∀ data ∈ datas, data.get? "id" = some id)
    (h : ∃ item ∈ newsItems, item.get? "id" = some id) :
    datas.foldl (addItemFromSSE hot) newsItems = newsItems := by
  induction datas with
  | nil => rfl
  | cons data datas ih =>
    obtain ⟨item, hitem, hid⟩ := h
    obtain ⟨hdata, hdatas⟩ := List.forall_mem_cons.1 hdatas
    rw [List.foldl_cons, addItemFromSSE_second hitem (by rw [hid, hdata])]
    exact ih hdatas

/-- Of everything a run publishes a client keeps at most one item. -/
theorem kept_le_one (py : Stdlib) (store : Store) (run : Run) (hot : Bool) (newsItems : List Dict) :
    (((runCollection py store run).published.map (·.data)).foldl (addItemFromSSE hot)
      newsItems).length ≤ newsItems.length + 1 := by
  have hids : ∀ data ∈ (runCollection py store run).published.map (·.data),
      Dict.get? data "id" = some (.str "None") := by
    intro data h
    obtain ⟨e, he, rfl⟩ := List.mem_map.1 h
    rw [(runCollection_isReport py store run).published, List.mem_filterMap] at he
    obtain ⟨t, -, he⟩ := he
    exact storeItem_event he
  generalize (runCollection py store run).published.map (·.data) = datas at hids
  cases datas with
  | nil => exact Nat.le_succ _
  | cons data datas =>
    obtain ⟨hdata, hdatas⟩ := List.forall_mem_cons.1 hids
    rw [List.foldl_cons, addItemFromSSE]
    split
    next h =>
      obtain ⟨item, hitem, hid⟩ := List.any_eq_true.1 h
      rw [foldl_addItemFromSSE hdatas ⟨item, hitem, by simpa [hdata] using hid⟩]
      exact Nat.le_succ _
    next =>
      split
      · rw [foldl_addItemFromSSE hdatas ⟨data, List.mem_cons_self, hdata⟩]
        exact Nat.le_refl _
      · rw [foldl_addItemFromSSE hdatas ⟨data, by simp, hdata⟩]
        simp

/-- A run announces only what it stores exactly when no item it gets to is published. -/
theorem announced_iff (py : Stdlib) (store : Store) (run : Run) :
    Announced py store run ↔ ∀ t ∈ considered py store run, ¬ IsPublished py run.source t := by
  have hr := (runCollection_isReport py store run).published
  constructor
  · intro h t ht hp
    obtain ⟨e, he⟩ := stored_event_isSome.2 hp
    have hmem : e ∈ (runCollection py store run).published := by
      rw [hr, List.mem_filterMap]
      exact ⟨t, ht, he⟩
    obtain ⟨row, -, id, -, hid⟩ := h.stored e hmem
    rw [storeItem_event he] at hid
    simp only [Option.some.injEq, Json.str.injEq] at hid
    exact Uuid.text_ne_none id hid.symm
  · intro h
    have hnil : (runCollection py store run).published = [] := by
      rw [hr, List.filterMap_eq_nil_iff]
      intro t ht
      cases he : (stored py run.source t).event with
      | none => rfl
      | some e => exact absurd (stored_event_isSome.1 ⟨e, he⟩) (h t ht)
    constructor
    · simp [hnil]
    · simp [hnil]
    · simp [hnil]

/-- Two new items, no failure: both are stored under their keys, both events carry `None`, and the
client drops the second one. -/
theorem twoItems_not_announced :
    ¬ Announced Sample.library Store.empty Sample.twoItems ∧
      (runCollection Sample.library Store.empty Sample.twoItems).store.items.map (·.item.id) =
        [some Sample.uuidA, some Sample.uuidB] ∧
      (((runCollection Sample.library Store.empty Sample.twoItems).published.map (·.data)).foldl
        (addItemFromSSE true) []).length = 1 := by
  have key : (runCollection Sample.library Store.empty Sample.twoItems).published.map
        (·.data.get? "id") = [some (.str "None"), some (.str "None")] ∧
      (runCollection Sample.library Store.empty Sample.twoItems).store.items.map (·.item.id) =
        [some Sample.uuidA, some Sample.uuidB] ∧
      (((runCollection Sample.library Store.empty Sample.twoItems).published.map (·.data)).foldl
        (addItemFromSSE true) []).length = 1 := by
    decide +kernel
  obtain ⟨hids, hitems, hclient⟩ := key
  refine ⟨?_, hitems, hclient⟩
  intro h
  have hd : ((runCollection Sample.library Store.empty Sample.twoItems).published.map
      (·.data.get? "id")).Pairwise (· ≠ ·) := List.pairwise_map.2 h.distinct
  rw [hids] at hd
  simp at hd

end AsyncSchedulerManager

end InstantBoard
