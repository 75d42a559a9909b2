import InstantBoard.Scheduler.Collection
import InstantBoard.Services.Category
import InstantBoard.Sse.ExactlyOnce

/-!
# Items collected in the worker

The worker publishes an item on the channel of its category, whatever the slug is, and a stream may
register any slug; but the listener of the API process subscribes to five channels only. So the
items of a category reach the streams of the API process exactly when its slug is one of the five
(`reachesQueue_iff`).
-/

namespace InstantBoard

open Transition

/-- `publish_item_update` hands the item on to `push_event`. -/
structure ItemUpdate.PushedAs (item : ItemUpdate) (p : Sse.PushEvent) : Prop where
  category : p.category = item.category
  eventType : p.eventType = .ITEM_UPDATE
  data : p.data = .obj item.data
  tenantId : p.tenantId.val = item.tenantId

namespace Sse

/-- The categories the listener subscribes to. -/
def LISTENED_CATEGORIES : List String :=
  ["finance", "tech", "dashboard", "admin", "all"]

/-- The channels listened to are those of the categories listened to. -/
lemma mem_listened {category : String} :
    RedisKeys.channelKey category ∈ LISTENED ↔ category ∈ LISTENED_CATEGORIES := by
  unfold LISTENED
  rw [List.mem_map]
  constructor
  · rintro ⟨c, hc, heq⟩
    rw [RedisKeys.channelKey_inj] at heq
    exact heq ▸ hc
  · intro h
    exact ⟨category, h, rfl⟩

/-- The router reads a listened category back off the channel's name. -/
lemma Event.category_of_listened {u : Event} {p : PushEvent} (hbody : u.body = .pushed p)
    (hlisted : p.category ∈ LISTENED_CATEGORIES) : u.category = p.category := by
  have hplain : ∀ slug ∈ LISTENED_CATEGORIES, ¬ "channel:".toList <:+: slug.toList := by decide
  simp only [Event.category, Event.channel, hbody, Body.channel]
  exact channelCategory_channelKey (hplain p.category hlisted)

/-- In the run, the event `u` is an item of the category that a collection in another process
publishes, and the client of the item's tenant streams the category, or "all" without a selector,
from before the run to its end. -/
structure Collected (py : Stdlib) (category : Category) (w : World) (ls : List Label) (w' : World)
    (u : Event) (c : Client) : Prop where
  live : LiveRun w ls w'
  logged : Logged w'.log u
  new : w.log.length ≤ u.seq
  published : ∃ (store : AsyncSchedulerManager.Store) (run : AsyncSchedulerManager.Run),
    run.source.category = some category ∧
      ∃ item ∈ (AsyncSchedulerManager.runCollection py store run).published,
        ∃ p, u.body = .pushed p ∧ p.process ≠ .api ∧ item.PushedAs p ∧ c.tenantId = p.tenantId
  stays : StaysIn w ls c
  streams : c.categories = categoriesOf category.slug none ∨ c.categories = categoriesOf "all" none

/-- The event comes into the client's queue. -/
def ReachesQueue (w' : World) (u : Event) (c : Client) : Prop :=
  0 < w'.router.copies c.id u.seq

/-- What a run publishes is on the channel of the source's category. -/
lemma category_of_published {py : Stdlib} {store : AsyncSchedulerManager.Store}
    {run : AsyncSchedulerManager.Run} {category : Category} {item : ItemUpdate}
    (hcategory : run.source.category = some category)
    (h : item ∈ (AsyncSchedulerManager.runCollection py store run).published) :
    item.category = category.slug := by
  rw [(AsyncSchedulerManager.runCollection_isReport py store run).published, List.mem_filterMap] at h
  obtain ⟨t, -, he⟩ := h
  obtain ⟨row, -, -, rfl⟩ := AsyncSchedulerManager.storeItem_event_eq_some he
  simp [AsyncSchedulerManager.itemUpdate, hcategory]

/-- The event of a collected item takes the listener's route if the listener has its channel, and
no other. -/
lemma Collected.copies {py : Stdlib} {category : Category} {w w' : World} {ls : List Label}
    {u : Event} {c : Client} (h : Collected py category w ls w' u c) :
    w'.router.copies c.id u.seq =
      (decide (category.slug ∈ LISTENED_CATEGORIES)).toNat * (u.reaches c).toNat := by
  obtain ⟨store, run, hcategory, item, hitem, p, hbody, hprocess, pushed, _⟩ := h.published
  rw [h.live.copies_eq h.stays h.logged h.new]
  have hslug : p.category = category.slug :=
    pushed.category.trans (category_of_published hcategory hitem)
  have hlocal : u.isLocal = false := by simp [Event.isLocal, hbody, Body.pushed?, hprocess]
  have hchannel : u.channel = RedisKeys.channelKey category.slug := by
    simp [Event.channel, hbody, Body.channel, hslug]
  simp only [Event.routes, hlocal, hchannel, mem_listened, Bool.toNat_false, Nat.zero_add]

/-- A collected item is for its clients, if the category's slug is read off the channel name. -/
lemma Collected.reaches {py : Stdlib} {category : Category} {w w' : World} {ls : List Label}
    {u : Event} {c : Client} (h : Collected py category w ls w' u c)
    (hlisted : category.slug ∈ LISTENED_CATEGORIES) : u.reaches c = true := by
  obtain ⟨store, run, hcategory, item, hitem, p, hbody, _, pushed, htenant⟩ := h.published
  have hslug : p.category = category.slug :=
    pushed.category.trans (category_of_published hcategory hitem)
  have hread : u.category = category.slug := by
    rw [← hslug] at hlisted ⊢
    exact Event.category_of_listened hbody hlisted
  unfold Event.reaches
  rw [hread, (Event.admits_pushed hbody c.tenantId).2 htenant.symm, Bool.true_and, Bool.or_eq_true,
    decide_eq_true_iff, decide_eq_true_iff]
  rcases h.streams with hc | hc
  · left
    rw [hc]
    exact List.mem_singleton_self _
  · right
    rw [hc]
    exact List.mem_singleton_self _

/-- A collected item reaches the queue of its clients in the API process exactly when the listener
subscribes to its category. -/
theorem reachesQueue_iff {py : Stdlib} {category : Category} {w w' : World} {ls : List Label}
    {u : Event} {c : Client} (h : Collected py category w ls w' u c) :
    ReachesQueue w' u c ↔ category.slug ∈ LISTENED_CATEGORIES := by
  unfold ReachesQueue
  rw [h.copies]
  constructor
  · intro hpos
    by_contra hnot
    simp [hnot] at hpos
  · intro hlisted
    simp [hlisted, h.reaches hlisted]

/-! ## One item, one client -/

namespace WorkerPush

open AsyncSchedulerManager (runCollection)
open Sample (clock start)

def systemTenant : TenantId := ⟨SYSTEM_TENANT_ID, by decide⟩

def clientId : String := SYSTEM_TENANT_ID ++ ":u1:8a4b6a6e"

/-- A category of the system tenant. -/
def category (slug : String) : Category :=
  { AsyncSchedulerManager.Sample.category with slug }

/-- A collection of two new items of the category. -/
def run (slug : String) : AsyncSchedulerManager.Run :=
  { AsyncSchedulerManager.Sample.twoItems with
    source := { AsyncSchedulerManager.Sample.source with category := some (category slug) } }

def published (slug : String) : List ItemUpdate :=
  (runCollection AsyncSchedulerManager.Sample.library .empty (run slug)).published

/-- The first item it publishes. -/
def item (slug : String) : ItemUpdate :=
  { category := slug, data := ((published slug).head?.map (·.data)).getD [],
    tenantId := SYSTEM_TENANT_ID }

def client (slug : String) : Client := ⟨clientId, [slug], systemTenant⟩

/-- The worker's push of the item. -/
def push (slug : String) : PushEvent :=
  { process := .other 0, category := slug, eventType := .ITEM_UPDATE, data := .obj (item slug).data,
    tenantId := systemTenant, second := 1787652000, counter := 1, publishedAt := clock 0 }

/-- The client's stream enters its live loop. -/
def connecting (slug : String) : List Label :=
  [.connect clientId slug none systemTenant none, .commit clientId, .greet clientId (clock 0),
    .enter clientId]

/-- The item is published. -/
def pushing (slug : String) : List Label :=
  [.push (push slug), .store 0 true, .publish 0 true]

/-- The listener takes it. -/
def dispatching : List Label :=
  [.take 0, .visit 0 clientId, .secondLoop 0, .finish 0]

/-- What a sample run has to show for itself. -/
lemma collected {slug : String} {ls : List Label} {w w' : World}
    (hitem : item slug ∈ published slug) (hw : Steps Step start (connecting slug) w)
    (hrun : Steps Step w ls w') (idle : w.Idle) (idle' : w'.Idle)
    (hls : ∀ l ∈ ls, l.RedisUp ∧ l.Keeps clientId)
    (hclient : w.router.HoldsClient (client slug)) (hlog : w.log = [])
    (hpushed : Logged w'.log ⟨0, .pushed (push slug)⟩) :
    Collected AsyncSchedulerManager.Sample.library (category slug) w ls w'
      ⟨0, .pushed (push slug)⟩ (client slug) where
  live := ⟨⟨_, _, hw⟩, idle, hrun, fun l hl => (hls l hl).1, idle'⟩
  logged := hpushed
  new := by rw [hlog]; exact Nat.le_refl 0
  published := ⟨.empty, run slug, rfl, item slug, hitem, push slug, rfl, nofun,
    ⟨rfl, rfl, rfl, rfl⟩, rfl⟩
  stays := ⟨hclient, fun l hl => (hls l hl).2⟩
  streams := .inl rfl

end WorkerPush

open WorkerPush in
/-- An item of "tech" comes through the listener. -/
theorem techItem_reachesQueue_iff :
    ∃ w w', Steps Step Sample.start (connecting "tech") w ∧
      Steps Step w (pushing "tech" ++ dispatching) w' ∧
      (ReachesQueue w' ⟨0, .pushed (push "tech")⟩ (client "tech") ↔
        "tech" ∈ LISTENED_CATEGORIES) := by
  have connected := World.steps_after Sample.start (connecting "tech") (by decide)
  have pushed := World.steps_after (Sample.start.after (connecting "tech") (by decide))
    (pushing "tech" ++ dispatching) (by decide)
  refine ⟨_, _, connected, pushed, ?_⟩
  exact reachesQueue_iff (collected (by decide +kernel) connected pushed ⟨rfl, rfl, rfl⟩
    ⟨rfl, rfl, rfl⟩ (by simp [pushing, dispatching, Label.RedisUp, Label.Keeps])
    ⟨.new ["tech"] systemTenant, rfl, ⟨rfl, rfl⟩⟩ rfl rfl)

open WorkerPush in
/-- A category named "News" gets the slug "news"; its items are published where nobody listens. -/
theorem newsItem_not_reachesQueue :
    ¬ ∀ (py : Stdlib) (isalnum : Char → Bool) (db db' : Tables) (maxCategories : Nat)
      (data : CategoryService.CategoryCreate) (tenantId id : String) (category : Category),
      CategoryService.createCategory py isalnum db maxCategories data tenantId id =
        .ok (db', category) →
      ∀ w ls w' u c, Collected py category w ls w' u c → ReachesQueue w' u c := by
  intro h
  let tables : Tables := { tenants := [⟨SYSTEM_TENANT_ID, 10⟩], categories := [], sources := [] }
  have created : CategoryService.createCategory AsyncSchedulerManager.Sample.library
      Char.isAlphanum tables 10 ⟨"News", none, "news", 300, none⟩ SYSTEM_TENANT_ID
      (category "news").id =
        .ok ({ tables with categories := [category "news"] }, category "news") := by
    rfl
  have connected := World.steps_after Sample.start (connecting "news") (by decide)
  have pushed := World.steps_after (Sample.start.after (connecting "news") (by decide))
    (pushing "news") (by decide)
  have reached := h _ _ _ _ _ _ _ _ _ created _ _ _ _ _
    (collected (by decide +kernel) connected pushed ⟨rfl, rfl, rfl⟩ ⟨rfl, rfl, rfl⟩
      (by simp [pushing, Label.RedisUp, Label.Keeps])
      ⟨.new ["news"] systemTenant, rfl, ⟨rfl, rfl⟩⟩ rfl rfl)
  have none : ((Sample.start.after (connecting "news") (by decide)).after (pushing "news")
      (by decide)).router.copies clientId 0 = 0 := by decide
  exact absurd reached (by unfold ReachesQueue; exact none ▸ Nat.lt_irrefl 0)

end Sse

end InstantBoard
