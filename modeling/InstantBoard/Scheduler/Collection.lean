import InstantBoard.Lib.Through
import InstantBoard.Processors.Default

/-!
# Collection runs

`_run_collection` from the collected batch on: the chain, the storing loop (`Item(...)`,
`session.add`, `publish_item_update`, each item in its own `try`), and the commit. A run can be
cancelled in any of its awaits; what it leaves behind then is what a run in progress has left
behind at that point. `afterRuns` is the store after a sequence of runs of one source.
-/

namespace InstantBoard

/-- An `Item` object. `id` is `None` until the flush gives the row its key. -/
structure Item where
  id : Option Uuid
  tenantId : String
  categoryId : String
  sourceId : String
  title : Json
  summary : Json
  url : Json
  imageUrl : Json
  publishedAt : Moment
  topicTags : Json
  extraData : Json
  priority : Json
  isProcessed : Bool
  deriving DecidableEq

/-- `str(item_obj.id)`. -/
def Item.strId (item : Item) : String :=
  match item.id with
  | none => "None"
  | some id => id.text

/-- The columns of `uq_items_dedup`; a time column holds the UTC time. -/
def Item.uqKey (item : Item) : String × String × Json × Int :=
  (item.tenantId, item.sourceId, item.url, item.publishedAt.micros)

/-- An item in the session or in the table, with the raw item it was made from. The raw item is no
column and no modelled function reads it. -/
structure Row where
  item : Item
  raw : Dict
  deriving DecidableEq

/-- A call of `publish_item_update`. -/
structure ItemUpdate where
  category : String
  data : Dict
  tenantId : String
  deriving DecidableEq

namespace AsyncSchedulerManager

/-- `item_obj.published_at`. Only a `ValueError` falls back to the clock; a truthy value that is
not a string has no `replace` and raises. -/
def publishedAt (py : Stdlib) (clock : Clock) (item : Dict) : Except PyError Moment := do
  let now : Moment := ⟨clock.storedAt, true, Moment.utcIso clock.storedAt⟩
  let publishedAtStr := item.getD "published_at" (.str "")
  if publishedAtStr.truthy then do
    let text ← publishedAtStr.strAttr "replace"
    pure ((py.fromisoformat (Text.replace text "Z" "+00:00")).getD now)
  else pure now

/-- The `Item(...)` of a result. -/
def itemObj (source : CollectedSource) (item : Dict) (publishedAt : Moment) : Item :=
  { id := none
    tenantId := source.tenantId
    categoryId := source.categoryId
    sourceId := source.id
    title := item.getD "title" (.str "")
    summary := item.getD "summary" (.str "")
    url := item.getD "url" (.str "")
    imageUrl := item.getD "image_url" (.str "")
    publishedAt
    topicTags := item.getD "topic_tags" (.arr [])
    extraData := item.getD "extra_data" (.obj [])
    priority := item.getD "priority" (.int 5)
    isProcessed := true }

/-- The event of a stored item. -/
def itemUpdate (source : CollectedSource) (item : Item) : ItemUpdate :=
  { category := (source.category.map (·.slug)).getD ""
    data :=
      [("id", .str item.strId),
       ("title", item.title),
       ("summary", item.summary),
       ("url", item.url),
       ("source_name", .str source.name),
       ("topic_tags", item.topicTags),
       ("published_at", .str item.publishedAt.iso),
       ("priority", item.priority)]
    tenantId := if source.tenantId = "" then SYSTEM_TENANT_ID else source.tenantId }

/-- What the storing loop does with one result. -/
structure StoreOutcome where
  row : Option Row
  event : Option ItemUpdate
  cancelled : Bool
  deriving DecidableEq

/-- The loop body. The row stays in the session when the publish fails. -/
def storeItem (py : Stdlib) (source : CollectedSource) (f : Fetched) (result : ProcessResult) :
    StoreOutcome :=
  match result.item with
  | none => ⟨none, none, false⟩
  | some item =>
    match publishedAt py f.1.clock item with
    | .error _ => ⟨none, none, false⟩
    | .ok t =>
      if f.1.add then
        ⟨some ⟨itemObj source item t, f.2⟩,
          if f.1.publish.sent then some (itemUpdate source (itemObj source item t)) else none,
          f.1.publish.isCancelled⟩
      else ⟨none, none, false⟩

/-- What the storing loop leaves in the session, with the key each row gets when it is flushed, and
what it has published. -/
structure Session where
  added : List (Row × Uuid)
  published : List ItemUpdate
  cancelled : Bool

/-- The storing loop. -/
def storeLoop (py : Stdlib) (source : CollectedSource) : List (Fetched × ProcessResult) → Session
  | [] => ⟨[], [], false⟩
  | (f, result) :: rest =>
    let o := storeItem py source f result
    let added := (o.row.map fun row => (row, f.1.uuid)).toList
    if o.cancelled then ⟨added, o.event.toList, true⟩
    else
      let session := storeLoop py source rest
      { session with added := added ++ session.added
                     published := o.event.toList ++ session.published }

/-- How the commit ends, when nothing in the rows forbids it. -/
inductive CommitReply where
  | completes
  | raises (applied : Bool)
  | cancelled (applied : Bool)
  deriving DecidableEq

def CommitReply.applied : CommitReply → Bool
  | .completes => true
  | .raises applied => applied
  | .cancelled applied => applied

/-- A run: the source as it is loaded, the batch its collector returns (empty when the run ends
before the chain: source gone or inactive, no collector, failed or empty collection), and the
commit. -/
structure Run where
  source : CollectedSource
  batch : List Fetched
  commit : CommitReply

/-- What is shared by the runs of a source: its dedup set in Redis, the `items` table, and, as a
record that no modelled function reads, the raw items its content filter has turned down. -/
structure Store where
  dedup : RedisSet
  items : List Row
  rejected : List Dict

def Store.empty : Store := ⟨RedisSet.empty, [], []⟩

/-- `uq_items_dedup` holds with the rows of a session in the table. -/
def uqHolds (items : List Row) (added : List (Row × Uuid)) : Prop :=
  added.Pairwise (fun a b => a.1.item.uqKey ≠ b.1.item.uqKey) ∧
    ∀ a ∈ added, ∀ row ∈ items, a.1.item.uqKey ≠ row.item.uqKey

instance (items : List Row) (added : List (Row × Uuid)) : Decidable (uqHolds items added) :=
  inferInstanceAs (Decidable (_ ∧ _))

/-- A row with its key. -/
def flush (a : Row × Uuid) : Row :=
  { a.1 with item := { a.1.item with id := some a.2 } }

/-- What a run has done when it ends. -/
structure Report where
  store : Store
  added : List (Row × Uuid)
  published : List ItemUpdate
  committed : Bool

/-- Whether the content filter turned a result down. -/
def filteredOut (result : ProcessResult) : Bool :=
  result.metadata = [("filtered_by", "FilterProcessor")]

/-- `_run_collection`, from the batch on. -/
def runCollection (py : Stdlib) (store : Store) (run : Run) : Report :=
  let executed :=
    ProcessorChain.execute (ProcessorChain.default py run.source) run.batch store.dedup
  let done := run.batch.zip executed.results
  let store := { store with
    dedup := executed.state
    rejected := store.rejected ++ (done.filter fun d => filteredOut d.2).map (·.1.2) }
  if run.batch.isEmpty || executed.cancelled then ⟨store, [], [], false⟩
  else
    let session := storeLoop py run.source done
    if session.cancelled then ⟨store, session.added, session.published, false⟩
    else if run.commit.applied ∧ uqHolds store.items session.added then
      ⟨{ store with items := store.items ++ session.added.map flush }, session.added,
        session.published, true⟩
    else ⟨store, session.added, session.published, false⟩

/-- The store after a sequence of runs. -/
def afterRuns (py : Stdlib) (store : Store) (runs : List Run) : Store :=
  runs.foldl (fun store run => (runCollection py store run).store) store

/-- `P` holds of every run of a sequence, from the store it finds. -/
def EachRun (py : Stdlib) (P : Store → Run → Prop) : Store → List Run → Prop
  | _, [] => True
  | store, run :: runs => P store run ∧ EachRun py P (runCollection py store run).store runs

/-- The same property of every run. -/
lemma EachRun.congr {py : Stdlib} {P Q : Store → Run → Prop} (h : ∀ store run, P store run ↔ Q store run)
    (store : Store) (runs : List Run) : EachRun py P store runs ↔ EachRun py Q store runs := by
  induction runs generalizing store with
  | nil => exact Iff.rfl
  | cons run runs ih => exact and_congr (h store run) (ih _)

/-- What every run preserves holds after any sequence of runs that meet a condition. -/
lemma EachRun.induction {py : Stdlib} {P : Store → Run → Prop} {I : Store → Prop}
    (step : ∀ store run, I store → P store run → I (runCollection py store run).store)
    {store : Store} {runs : List Run} (h : I store) (hr : EachRun py P store runs) :
    I (afterRuns py store runs) := by
  induction runs generalizing store with
  | nil => exact h
  | cons run runs ih =>
    obtain ⟨hp, hr⟩ := hr
    exact ih (step store run h hp) hr

section Report

open ProcessorChain Through

variable (py : Stdlib)

/-- What the storing loop does with the item of a turn. -/
def stored (source : CollectedSource) (t : Fetched × RedisSet) : StoreOutcome :=
  storeItem py source t.1 (result py source t)

/-- The turns of a run whose items the storing loop gets to. -/
def considered (store : Store) (run : Run) : List (Fetched × RedisSet) :=
  if ∃ t ∈ turns py run.batch store.dedup, (ask py t.1 t.2).1 = .cancelled then []
  else through (fun t => (stored py run.source t).cancelled) (turns py run.batch store.dedup)

variable {py} {store : Store} {run : Run}

/-- What the loop body leaves of an item: nothing, or its row and, if the publish is sent, the
event of that row. -/
lemma storeItem_cases (py : Stdlib) (source : CollectedSource) (f : Fetched)
    (result : ProcessResult) :
    storeItem py source f result = ⟨none, none, false⟩ ∨
    ∃ item time, result.item = some item ∧ publishedAt py f.1.clock item = .ok time ∧
      f.1.add = true ∧ storeItem py source f result =
        ⟨some ⟨itemObj source item time, f.2⟩,
          if f.1.publish.sent then some (itemUpdate source (itemObj source item time)) else none,
          f.1.publish.isCancelled⟩ := by
  unfold storeItem
  cases hi : result.item with
  | none => exact .inl rfl
  | some item =>
    cases ht : publishedAt py f.1.clock item with
    | error e =>
      left
      simp only [ht]
    | ok time =>
      cases ha : f.1.add with
      | false =>
        left
        simp [ht]
      | true =>
        right
        exact ⟨item, time, rfl, ht, rfl, by simp [ht]⟩

/-- A row knows the raw item it was made from. -/
lemma storeItem_raw {source : CollectedSource} {f : Fetched} {result : ProcessResult} {row : Row}
    (h : (storeItem py source f result).row = some row) : row.raw = f.2 := by
  obtain hs | ⟨item, time, -, -, -, hs⟩ := storeItem_cases py source f result
  · rw [hs] at h
    cases h
  · rw [hs] at h
    cases h
    rfl

/-- An event is the one of the item's row, which has no key yet. -/
lemma storeItem_event_eq_some {source : CollectedSource} {f : Fetched} {result : ProcessResult}
    {e : ItemUpdate} (h : (storeItem py source f result).event = some e) :
    ∃ row, (storeItem py source f result).row = some row ∧ row.item.id = none ∧
      e = itemUpdate source row.item := by
  obtain hs | ⟨item, time, -, -, -, hs⟩ := storeItem_cases py source f result
  · rw [hs] at h
    cases h
  · rw [hs] at h ⊢
    refine ⟨_, rfl, rfl, ?_⟩
    simp only at h
    split at h
    · cases h
      rfl
    · cases h

/-- The storing loop gets through its first cancelled publish. -/
lemma storeLoop_eq (source : CollectedSource) (l : List (Fetched × ProcessResult)) :
    storeLoop py source l =
      { added := (through (fun d => (storeItem py source d.1 d.2).cancelled) l).filterMap fun d =>
          (storeItem py source d.1 d.2).row.map fun row => (row, d.1.1.uuid)
        published := (through (fun d => (storeItem py source d.1 d.2).cancelled) l).filterMap fun d =>
          (storeItem py source d.1 d.2).event
        cancelled := l.any fun d => (storeItem py source d.1 d.2).cancelled } := by
  induction l with
  | nil => rfl
  | cons d l ih =>
    obtain ⟨f, result⟩ := d
    rw [storeLoop, through_cons]
    cases hc : (storeItem py source f result).cancelled with
    | true =>
      cases hr : (storeItem py source f result).row <;>
        cases he : (storeItem py source f result).event <;> simp [hc, hr, he]
    | false =>
      cases hr : (storeItem py source f result).row <;>
        cases he : (storeItem py source f result).event <;> simp [hc, hr, he, ih]

/-- The storing loop of a run whose chain returns. -/
lemma storeLoop_zip (source : CollectedSource) {batch : List Fetched} {s : RedisSet}
    (h : (execute (ProcessorChain.default py source) batch s).cancelled = false) :
    storeLoop py source (batch.zip (execute (ProcessorChain.default py source) batch s).results) =
      { added := (through (fun t => (stored py source t).cancelled) (turns py batch s)).filterMap
          fun t => (stored py source t).row.map fun row => (row, t.1.1.uuid)
        published := (through (fun t => (stored py source t).cancelled) (turns py batch s)).filterMap
          fun t => (stored py source t).event
        cancelled := (turns py batch s).any fun t => (stored py source t).cancelled } := by
  rw [storeLoop_eq, zip_results_of_executed h, through_map, List.filterMap_map, List.filterMap_map,
    List.any_map]
  rfl

/-- The run gets to its commit, and nothing but the unique key can still forbid it. -/
structure ReachesCommit (py : Stdlib) (store : Store) (run : Run) : Prop where
  nonempty : run.batch ≠ []
  executed : ∀ t ∈ turns py run.batch store.dedup, (ask py t.1 t.2).1 ≠ .cancelled
  stored : ∀ t ∈ turns py run.batch store.dedup, (stored py run.source t).cancelled = false
  applied : run.commit.applied = true

/-- What a run's report says, in terms of its turns. -/
structure IsReport (py : Stdlib) (store : Store) (run : Run) (report : Report) : Prop where
  added : report.added = (considered py store run).filterMap fun t =>
    (stored py run.source t).row.map fun row => (row, t.1.1.uuid)
  published : report.published = (considered py store run).filterMap fun t =>
    (stored py run.source t).event
  committed : report.committed = true ↔
    ReachesCommit py store run ∧ uqHolds store.items report.added
  items : report.store.items =
    if report.committed then store.items ++ report.added.map flush else store.items
  dedup : report.store.dedup =
    (execute (ProcessorChain.default py run.source) run.batch store.dedup).state
  rejected : report.store.rejected = store.rejected ++
    ((run.batch.zip (execute (ProcessorChain.default py run.source) run.batch store.dedup).results
      ).filter fun d => filteredOut d.2).map (·.1.2)

/-- An item that does not pass the dedup processor leaves nothing. -/
lemma stored_of_not_passes {source : CollectedSource} {t : Fetched × RedisSet}
    (h : passes py t = false) : stored py source t = ⟨none, none, false⟩ := by
  rw [stored, result, h]
  rfl

/-- An item that passes it is stored by its content. -/
lemma stored_of_passes {source : CollectedSource} {t : Fetched × RedisSet}
    (h : passes py t = true) :
    stored py source t = storeItem py source t.1 (content py source t.1) := by
  rw [stored, result, h]
  rfl

/-- A run that is cancelled in the chain considers nothing. -/
lemma considered_of_cancelled
    (h : (execute (ProcessorChain.default py run.source) run.batch store.dedup).cancelled = true) :
    considered py store run = [] := by
  rw [considered, if_pos]
  exact (execute_default run.batch store.dedup).2.1 h

/-- What is considered goes up to the first cancelled item. -/
lemma considered_of_executed
    (h : (execute (ProcessorChain.default py run.source) run.batch store.dedup).cancelled = false) :
    considered py store run =
      through (fun t => (stored py run.source t).cancelled) (turns py run.batch store.dedup) := by
  rw [considered, if_neg]
  intro hc
  rw [(execute_default run.batch store.dedup).2.2 hc] at h
  cases h

/-- What a collection returns is its report. -/
theorem runCollection_isReport (py : Stdlib) (store : Store) (run : Run) :
    IsReport py store run (runCollection py store run) := by
  unfold runCollection
  rcases hb : run.batch with _ | ⟨f, batch⟩
  · -- the run ends before the chain
    have hn : considered py store run = [] := by simp [considered, hb, turns]
    refine ⟨by simp [hn], by simp [hn], ?_, by simp, by simp [hb], by simp [hb]⟩
    simp only [List.isEmpty_nil, Bool.true_or, if_true, Bool.false_eq_true, false_iff]
    intro h
    exact h.1.nonempty hb
  · rw [← hb]
    have hne : run.batch ≠ [] := by simp [hb]
    have hemp : run.batch.isEmpty = false := by simp [hb]
    cases hc : (execute (ProcessorChain.default py run.source) run.batch store.dedup).cancelled with
    | true =>
      have hn := considered_of_cancelled hc
      obtain ⟨t, ht, hcancel⟩ := (execute_default run.batch store.dedup).2.1 hc
      simp only [hemp, hc, Bool.false_or, if_true]
      refine ⟨by simp [hn], by simp [hn], ?_, by simp, rfl, rfl⟩
      simp only [Bool.false_eq_true, false_iff]
      intro h
      exact h.1.executed t ht hcancel
    | false =>
      have hn := considered_of_executed hc
      have hx : ∀ t ∈ turns py run.batch store.dedup, (ask py t.1 t.2).1 ≠ .cancelled := by
        intro t ht h
        rw [(execute_default run.batch store.dedup).2.2 ⟨t, ht, h⟩] at hc
        cases hc
      simp only [hemp, hc, Bool.false_or, Bool.false_eq_true, if_false, storeLoop_zip run.source hc,
        ← hn]
      split
      next hcut =>
        refine ⟨rfl, rfl, ?_, by simp, rfl, rfl⟩
        simp only [Bool.false_eq_true, false_iff]
        intro h
        obtain ⟨t, ht, hcut⟩ := List.any_eq_true.1 hcut
        rw [h.1.stored t ht] at hcut
        cases hcut
      next hcut =>
        have hs : ∀ t ∈ turns py run.batch store.dedup,
            (stored py run.source t).cancelled = false := by
          simpa using hcut
        split
        next h =>
          refine ⟨rfl, rfl, ?_, by simp, rfl, rfl⟩
          simp only [true_iff]
          exact ⟨⟨hne, hx, hs, h.1⟩, h.2⟩
        next h =>
          refine ⟨rfl, rfl, ?_, by simp, rfl, rfl⟩
          simp only [Bool.false_eq_true, false_iff]
          intro h'
          exact h ⟨h'.1.applied, h'.2⟩

/-- The report of a run that commits: its rows are those of all its turns. -/
lemma mem_items_of_commits (h : ReachesCommit py store run)
    (hu : uqHolds store.items (runCollection py store run).added) {t : Fetched × RedisSet} {row : Row}
    (ht : t ∈ turns py run.batch store.dedup) (hrow : (stored py run.source t).row = some row) :
    flush (row, t.1.1.uuid) ∈ (runCollection py store run).store.items := by
  have hr := runCollection_isReport py store run
  have hc : considered py store run = turns py run.batch store.dedup := by
    rw [considered, if_neg]
    · apply through_eq_self
      simpa using h.stored
    · rintro ⟨t, ht, hcancel⟩
      exact h.executed t ht hcancel
  rw [hr.items, if_pos (hr.committed.2 ⟨h, hu⟩), hr.added, hc, List.mem_append]
  right
  apply List.mem_map_of_mem
  rw [List.mem_filterMap]
  exact ⟨t, ht, by simp [hrow]⟩

end Report

/-! Two items of a news source, and the standard library on the texts they lead to. -/

namespace Sample

/-- 2026-08-25T10:00:00Z. -/
def published : Moment := ⟨63923248800000000, true, "2026-08-25T10:00:00+00:00"⟩

/-- The library functions on lower-case ASCII texts, plain `https` URLs without a query, and the
times and titles below. -/
def library : Stdlib where
  lower s := String.ofList (s.toList.map Char.toLower)
  reprStr s := "'" ++ s ++ "'"
  md5 s :=
    if s = "Rust 2.0:https://a.io/r" then "ff407de37999f0abe1f0265ded171da1"
    else if s = "Zig 1.0:https://a.io/z" then "4927db42311e38bcd6a722a0a7622a95"
    else s
  urlparse url :=
    let rest := url.toList.drop 8
    some ⟨"https", String.ofList (rest.takeWhile (· ≠ '/')),
      String.ofList (rest.dropWhile (· ≠ '/')), "", ""⟩
  parseQs _ := []
  urlencode _ := ""
  urlunparse p := p.scheme ++ "://" ++ p.netloc ++ p.path
  strptime text format :=
    if text = "2026-08-25T10:00:00Z" ∧ format = "%Y-%m-%dT%H:%M:%S%z" then some published else none
  fromisoformat text := if text = published.iso then some published else none

def category : Category :=
  { id := "0c7a2f2e-54f5-4e0e-8f53-6a8b1a0d3c11", tenantId := SYSTEM_TENANT_ID, slug := "news",
    type := "news", refreshIntervalSeconds := 300, keywordsFilter := [] }

def source : CollectedSource :=
  { id := "5be1c3b0-9c0f-4a55-9d0e-1d2f3a4b5c6d", tenantId := SYSTEM_TENANT_ID,
    categoryId := category.id, name := "Example", sourceType := "rss",
    url := "https://a.io/feed", config := [], refreshIntervalSeconds := some 300,
    isActive := true, priority := 5, category := some category, keywordsFilter := [] }

/-- An item whose Redis calls, add and publish succeed, fetched `now` seconds into the server's
clock. -/
def env (now : Nat) (uuid : Uuid) : ItemEnv :=
  { dedup := ⟨now, .completes, now, .completes⟩
    clock :=
      let micros := 63923252400000000 + now * 1000000
      ⟨micros, micros, micros, micros⟩
    add := true
    publish := .completes
    uuid }

def uuidA : Uuid := ⟨"1f0e8d7c-6b5a-4f3e-9d2c-1b0a99887766", by decide⟩

def uuidB : Uuid := ⟨"2f0e8d7c-6b5a-4f3e-9d2c-1b0a99887766", by decide⟩

def uuidC : Uuid := ⟨"3f0e8d7c-6b5a-4f3e-9d2c-1b0a99887766", by decide⟩

def itemA : Dict :=
  [("title", .str "Rust 2.0"), ("url", .str "https://a.io/r"),
   ("published_at", .str "2026-08-25T10:00:00Z")]

def itemB : Dict :=
  [("title", .str "Zig 1.0"), ("url", .str "https://a.io/z"),
   ("published_at", .str "2026-08-25T10:00:00Z")]

/-- A run over some items that meets no failure. -/
def run (batch : List Fetched) : Run := ⟨source, batch, .completes⟩

/-- Two new items at once. -/
def twoItems : Run := run [(env 0 uuidA, itemA), (env 0 uuidB, itemB)]

end Sample

end AsyncSchedulerManager

end InstantBoard
