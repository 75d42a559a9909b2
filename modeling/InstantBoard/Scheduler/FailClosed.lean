import InstantBoard.Scheduler.Collection

/-!
# Errors in the processing chain

`execute` returns one result per item in the order of the batch, but an exception of a processor is
only noted: the processors after it run on what it left, and the storing loop stores the result. A
batch is processed fail-closed exactly when an exception comes from nothing but the transformer, on
an item the storing loop fails to build a row from, and the mark the item has left in the dedup set
changes no later answer (`failClosed_iff`).
-/

namespace InstantBoard.AsyncSchedulerManager

open ProcessorChain

variable (py : Stdlib) (source : CollectedSource)

/-- One item of `validate_data`: the required fields are there and not empty. -/
def validateData (item : Dict) : Bool :=
  ["title", "url"].all fun f => (item.getD f .null).truthy

/-- Fail-closed processing of one item, with the set it finds and the items after it: it is stored
only if all four processors have returned it, no processor runs after one that raised, and the
items after an item with an error give what they give without it. -/
structure ItemFailClosed (f : Fetched) (s : RedisSet) (post : List Fetched) : Prop where
  accepted : (stored py source (f, s)).row.isSome →
    (visits f.1 (ProcessorChain.default py source) f.2 s).map (·.1) =
        ["DedupProcessor", "FilterProcessor", "CategorizerProcessor", "TransformerProcessor"] ∧
      ∀ v ∈ visits f.1 (ProcessorChain.default py source) f.2 s, v.2.isReturned = true
  stops : ∀ v ∈ (visits f.1 (ProcessorChain.default py source) f.2 s).dropLast,
    v.2.isRaised = false
  undisturbed : (∃ v ∈ visits f.1 (ProcessorChain.default py source) f.2 s, v.2.isRaised = true) →
    (execute (ProcessorChain.default py source) post (ask py f s).2).results =
      (execute (ProcessorChain.default py source) post s).results

/-- Fail-closed processing of a batch. `execute` returns when no await is cancelled. -/
structure FailClosed (batch : List Fetched) (s : RedisSet) : Prop where
  returns : (∀ t ∈ turns py batch s, (ask py t.1 t.2).1 ≠ .cancelled) →
    (execute (ProcessorChain.default py source) batch s).cancelled = false ∧
      List.Forall₂ (fun f result => ∃ s₁ s₂, processItem f.1 (ProcessorChain.default py source)
          { item := some f.2 } f.2 s₁ = (some result, s₂))
        batch (execute (ProcessorChain.default py source) batch s).results
  items : EachTurn py (ItemFailClosed py source) batch s

/-- None of the last three processors raises on an item. -/
def RaisesNothing (f : Fetched) : Prop :=
  FilterProcessor.process py source (marked py f.2) = .ok none ∨
    ∃ item item' result, FilterProcessor.process py source (marked py f.2) = .ok (some item) ∧
      CategorizerProcessor.process py source item = .returned item' ∧
      TransformerProcessor.process py source f.1.clock item' = .ok result

/-- The filter and the categorizer return an item and the transformer raises on it. -/
def OnlyTransformerRaises (f : Fetched) : Prop :=
  ∃ item item' e, FilterProcessor.process py source (marked py f.2) = .ok (some item) ∧
    CategorizerProcessor.process py source item = .returned item' ∧
    TransformerProcessor.process py source f.1.clock item' = .error e

/-- A `published_at` that is neither empty nor a string. -/
def unreadable (raw : Dict) : Bool :=
  (raw.getD "published_at" (.str "")).truthy && !(raw.getD "published_at" (.str "")).isText

/-- No processor raises on an item the dedup set lets pass; or only the transformer does, the
storing loop fails to add it, and its mark changes no later answer of the set. -/
def ItemHarmless (f : Fetched) (s : RedisSet) (post : List Fetched) : Prop :=
  passes py (f, s) = true → RaisesNothing py source f ∨
    (OnlyTransformerRaises py source f ∧ (f.1.add = false ∨ unreadable f.2 = true) ∧
      verdicts py post (ask py f s).2 = verdicts py post s)

variable {py source}

/-- An item that passes the dedup processor does not have the result of a duplicate. -/
lemma content_ne_duplicateResult (f : Fetched) : content py source f ≠ duplicateResult := by
  intro h
  have hmeta : (content py source f).metadata = [("filtered_by", "DedupProcessor")] := by rw [h]; rfl
  obtain hn | ⟨v, hv, hn⟩ := metadata_record (contentVisits py source f)
    { item := some (marked py f.2) }
  · rw [content, hn] at hmeta
    cases hmeta
  · rw [content, hn] at hmeta
    obtain ⟨p, hp, hname⟩ := name_of_mem_visits hv
    have hne : ∀ p ∈ contentProcessors py source Unit, p.name ≠ "DedupProcessor" := by
      simp [contentProcessors, contentSteps, BaseProcessor.pure]
    apply hne p hp
    rw [← hname]
    simpa using hmeta

/-- Two runs of the chain over the same items have the same results exactly when the dedup sets they
start from give the same answers. -/
lemma results_eq_iff (batch : List Fetched) (s s' : RedisSet) :
    (execute (ProcessorChain.default py source) batch s).results =
        (execute (ProcessorChain.default py source) batch s').results ↔
      verdicts py batch s = verdicts py batch s' := by
  induction batch generalizing s s' with
  | nil => exact ⟨fun _ => rfl, fun _ => rfl⟩
  | cons f batch ih =>
    have hne : content py source f ≠ duplicateResult := content_ne_duplicateResult f
    unfold verdicts at ih ⊢
    rw [execute_cons, execute_cons, turns, turns, List.map_cons, List.map_cons]
    cases h : (ask py f s).1 <;> cases h' : (ask py f s').1 <;>
      simp [resultOf, ih, hne, hne.symm]

/-- What the filter and the categorizer return has the `published_at` of the raw item. -/
lemma published_at_of_returned {raw item item' : Dict}
    (hf : FilterProcessor.process py source (marked py raw) = .ok (some item))
    (hc : CategorizerProcessor.process py source item = .returned item') :
    item'.getD "published_at" (.str "") = raw.getD "published_at" (.str "") := by
  unfold Dict.getD
  rw [CategorizerProcessor.get?_of_process hc (by decide) (by decide),
    FilterProcessor.get?_of_process hf (by decide), marked, Dict.get?_set, if_neg (by decide)]

/-- The time of an item can be read unless its text is a truthy value of another type. -/
lemma publishedAt_isOk (clock : Clock) (item : Dict) :
    (∃ t, publishedAt py clock item = .ok t) ↔ unreadable item = false := by
  unfold publishedAt unreadable
  generalize item.getD "published_at" (.str "") = v
  dsimp only
  cases ht : v.truthy with
  | false => simp [pure, Except.pure]
  | true => cases v <;> simp [Json.strAttr, Json.isText, bind, Except.bind, pure, Except.pure]

/-- An item the transformer raises on is stored as the categorizer left it, when its time can be
read and its add succeeds. -/
lemma stored_of_onlyTransformerRaises {f : Fetched} {s : RedisSet}
    (hp : passes py (f, s) = true) (h : OnlyTransformerRaises py source f) :
    (stored py source (f, s)).row.isSome = true ↔ f.1.add = true ∧ unreadable f.2 = false := by
  obtain ⟨item, item', e, hf, hc, ht⟩ := h
  have hitem : (content py source f).item = some item' := by
    rw [content, contentVisits_eq, hf]
    simp [fromCategorizer, hc, ht, Outcome.of, ProcessResult.record]
  have hun : unreadable item' = unreadable f.2 := by
    unfold unreadable
    rw [published_at_of_returned hf hc]
  have hok : (∃ t, publishedAt py f.1.clock item' = .ok t) ↔ unreadable item' = false :=
    publishedAt_isOk f.1.clock item'
  rw [stored_of_passes hp, storeItem, hitem, ← hun, ← hok]
  cases hpub : publishedAt py f.1.clock item' with
  | error e => simp [hpub]
  | ok t => cases f.1.add <;> simp [hpub]

/-- An item the dedup set does not let pass is rejected or not processed at all. -/
lemma itemFailClosed_of_not_passes {f : Fetched} {s : RedisSet} (h : passes py (f, s) = false)
    (post : List Fetched) : ItemFailClosed py source f s post := by
  have hv : visits f.1 (ProcessorChain.default py source) f.2 s = _ := visits_default f s
  have hr : stored py source (f, s) = _ := stored_of_not_passes h
  cases hask : (ask py f s).1 with
  | passes => simp [passes, hask] at h
  | duplicate =>
    rw [hask] at hv
    exact ⟨by simp [hr], by simp [hv], by simp [hv, Outcome.isRaised]⟩
  | cancelled =>
    rw [hask] at hv
    exact ⟨by simp [hr], by simp [hv], by simp [hv]⟩

/-- The visits of an item the dedup set lets pass. -/
lemma visits_of_passes {f : Fetched} {s : RedisSet} (h : passes py (f, s) = true) :
    visits f.1 (ProcessorChain.default py source) f.2 s =
      ("DedupProcessor", .returned (marked py f.2)) :: contentVisits py source f := by
  have hask : (ask py f s).1 = .passes := by simpa [passes] using h
  rw [visits_default, hask]

/-- The filter's exception does not stop the chain. -/
lemma not_itemFailClosed_of_filter {f : Fetched} {s : RedisSet} {post : List Fetched} {e : PyError}
    (hp : passes py (f, s) = true)
    (hf : FilterProcessor.process py source (marked py f.2) = .error e) :
    ¬ ItemFailClosed py source f s post := by
  intro h
  have := h.stops ("FilterProcessor", .raised e (marked py f.2))
    (by simp [visits_of_passes hp, contentVisits_eq, hf, fromCategorizer, Outcome.of])
  cases this

/-- Nor does the categorizer's. -/
lemma not_itemFailClosed_of_categorizer {f : Fetched} {s : RedisSet} {post : List Fetched}
    {item item' : Dict} {e : PyError} (hp : passes py (f, s) = true)
    (hf : FilterProcessor.process py source (marked py f.2) = .ok (some item))
    (hc : CategorizerProcessor.process py source item = .raised e item') :
    ¬ ItemFailClosed py source f s post := by
  intro h
  have := h.stops ("CategorizerProcessor", .raised e item')
    (by simp [visits_of_passes hp, contentVisits_eq, hf, fromCategorizer, hc, Outcome.of])
  cases this

/-- Without an exception an item is processed fail-closed. -/
lemma itemFailClosed_of_raisesNothing {f : Fetched} {s : RedisSet} (post : List Fetched)
    (hp : passes py (f, s) = true) (h : RaisesNothing py source f) :
    ItemFailClosed py source f s post := by
  have hv : visits f.1 (ProcessorChain.default py source) f.2 s = _ := visits_of_passes hp
  rw [contentVisits_eq] at hv
  have hstored : stored py source (f, s) = _ := stored_of_passes hp
  obtain hf | ⟨item, item', result, hf, hc, ht⟩ := h
  · have hn : (content py source f).item = none := by
      rw [content, contentVisits_eq, hf]
      rfl
    rw [hf] at hv
    exact ⟨by simp [hstored, storeItem, hn], by simp [hv, Outcome.isRaised],
      by simp [hv, Outcome.of, Outcome.isRaised]⟩
  · rw [hf] at hv
    simp only [fromCategorizer, hc, ht] at hv
    cases result with
    | none =>
      have hn : (content py source f).item = none := by
        rw [content, contentVisits_eq, hf]
        simp only [fromCategorizer, hc, ht]
        rfl
      exact ⟨by simp [hstored, storeItem, hn], by simp [hv, Outcome.of, Outcome.isRaised],
        by simp [hv, Outcome.of, Outcome.isRaised]⟩
    | some result =>
      exact ⟨fun _ => by simp [hv, Outcome.of, Outcome.isReturned],
        by simp [hv, Outcome.of, Outcome.isRaised], by simp [hv, Outcome.of, Outcome.isRaised]⟩

/-- After an exception of the transformer alone. -/
lemma itemFailClosed_of_onlyTransformerRaises {f : Fetched} {s : RedisSet} {post : List Fetched}
    (hp : passes py (f, s) = true) (h : OnlyTransformerRaises py source f) :
    ItemFailClosed py source f s post ↔ (f.1.add = false ∨ unreadable f.2 = true) ∧
      verdicts py post (ask py f s).2 = verdicts py post s := by
  have hrow : (stored py source (f, s)).row.isSome = true ↔ _ :=
    stored_of_onlyTransformerRaises hp h
  have hv : visits f.1 (ProcessorChain.default py source) f.2 s = _ := visits_of_passes hp
  obtain ⟨item, item', e, hf, hc, ht⟩ := h
  simp only [contentVisits_eq, hf, fromCategorizer, hc, ht, Outcome.of] at hv
  constructor
  · intro h
    refine ⟨?_, ?_⟩
    · -- an item that is stored would have been returned by the transformer
      by_contra hn
      simp only [not_or, Bool.not_eq_false, Bool.not_eq_true] at hn
      have := (h.accepted (hrow.2 hn)).2 ("TransformerProcessor", .raised e item') (by simp [hv])
      cases this
    · rw [← results_eq_iff]
      exact h.undisturbed ⟨("TransformerProcessor", .raised e item'), by simp [hv], rfl⟩
  · rintro ⟨hn, hverdicts⟩
    refine ⟨?_, by simp [hv, Outcome.isRaised], fun _ => (results_eq_iff post _ _).2 hverdicts⟩
    intro hsome
    obtain ⟨hadd, hread⟩ := hrow.1 hsome
    obtain hn | hn := hn
    · rw [hadd] at hn
      cases hn
    · rw [hread] at hn
      cases hn

/-- One item is processed fail-closed exactly when it is harmless. -/
lemma itemFailClosed_iff (f : Fetched) (s : RedisSet) (post : List Fetched) :
    ItemFailClosed py source f s post ↔ ItemHarmless py source f s post := by
  cases hp : passes py (f, s) with
  | false =>
    refine ⟨fun _ h => ?_, fun _ => itemFailClosed_of_not_passes hp post⟩
    rw [hp] at h
    cases h
  | true =>
    constructor
    · intro h _
      -- the two exceptions that do not stop the chain are out
      rcases hf : FilterProcessor.process py source (marked py f.2) with e | ⟨_ | item⟩
      · exact absurd h (not_itemFailClosed_of_filter hp hf)
      · exact Or.inl (Or.inl hf)
      · cases hc : CategorizerProcessor.process py source item with
        | rejected => exact absurd hc (CategorizerProcessor.process_ne_rejected py source item)
        | raised e item' => exact absurd h (not_itemFailClosed_of_categorizer hp hf hc)
        | returned item' =>
          cases ht : TransformerProcessor.process py source f.1.clock item' with
          | ok result => exact Or.inl (Or.inr ⟨item, item', result, hf, hc, ht⟩)
          | error e =>
            have hlast : OnlyTransformerRaises py source f := ⟨item, item', e, hf, hc, ht⟩
            exact Or.inr ⟨hlast, (itemFailClosed_of_onlyTransformerRaises hp hlast).1 h⟩
    · intro h
      obtain h | ⟨hlast, h⟩ := h hp
      · exact itemFailClosed_of_raisesNothing post hp h
      · exact (itemFailClosed_of_onlyTransformerRaises hp hlast).2 h

/-- A batch is processed fail-closed exactly when every item is harmless at its turn. -/
theorem failClosed_iff (py : Stdlib) (source : CollectedSource) (batch : List Fetched)
    (s : RedisSet) :
    FailClosed py source batch s ↔ EachTurn py (ItemHarmless py source) batch s := by
  have hitems : EachTurn py (ItemFailClosed py source) batch s ↔
      EachTurn py (ItemHarmless py source) batch s := EachTurn.congr itemFailClosed_iff batch s
  constructor
  · intro h
    exact hitems.1 h.items
  · intro h
    refine ⟨fun hx => ?_, hitems.2 h⟩
    have hc : (execute (ProcessorChain.default py source) batch s).cancelled = false := by
      rw [← Bool.not_eq_true, (execute_default batch s).2]
      rintro ⟨t, ht, hcancel⟩
      exact hx t ht hcancel
    exact ⟨hc, execute_forall₂ hc⟩

/-- An item whose summary is a number: the filter and the transformer raise on it, and it is stored
as it was fetched. -/
theorem numberSummary_not_failClosed :
    let item : Dict := [("title", .str "Rust 2.0"), ("url", .str "https://a.io/r/"),
      ("summary", .int 5)]
    validateData item = true ∧
      ¬ FailClosed Sample.library Sample.source [(Sample.env 0 Sample.uuidA, item)]
        RedisSet.empty ∧
      (runCollection Sample.library Store.empty
        (Sample.run [(Sample.env 0 Sample.uuidA, item)])).store.items.map (·.item.url) =
        [.str "https://a.io/r/"] := by
  have key : let item : Dict := [("title", .str "Rust 2.0"), ("url", .str "https://a.io/r/"),
        ("summary", .int 5)]
      (visits (Sample.env 0 Sample.uuidA) (ProcessorChain.default Sample.library Sample.source) item
          RedisSet.empty).dropLast.all (fun v => !v.2.isRaised) = false ∧
        (runCollection Sample.library Store.empty
          (Sample.run [(Sample.env 0 Sample.uuidA, item)])).store.items.map (·.item.url) =
          [.str "https://a.io/r/"] := by
    decide +kernel
  obtain ⟨hstops, hitems⟩ := key
  refine ⟨by decide, ?_, hitems⟩
  intro h
  obtain ⟨hitem, -⟩ := h.items
  obtain ⟨v, hv, hraised⟩ := List.all_eq_false.1 hstops
  rw [hitem.stops v hv] at hraised
  exact hraised rfl

end InstantBoard.AsyncSchedulerManager
