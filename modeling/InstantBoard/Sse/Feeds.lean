import InstantBoard.Services.Tech
import InstantBoard.Sse.CrossProcess

/-!
# The live feed and the item feed

A stored item is shown twice: its live event goes to the streams of its channel, and
`list_category_items` has its row. The router forwards the event to its own tenant alone; the select
also takes the system tenant's rows for every tenant. `sent_iff` and `TechService.lists_iff` say
what each feed does with an item, and `sent_iff_lists_iff` when they agree.
-/

namespace InstantBoard.Sse

open AsyncSchedulerManager (Run Store considered flush itemUpdate runCollection stored)
open TechService (Lists Renders)
open Transition

/-- What became of the publish of an item: nothing left the process, or it is an event of the
run. -/
inductive Publication (w w' : World) : Option ItemUpdate → Option Event → Prop where
  | unsent : Publication w w' none none
  | sent {item : ItemUpdate} {u : Event} {p : PushEvent} (logged : Logged w'.log u)
      (new : w.log.length ≤ u.seq) (body : u.body = .pushed p) (pushed : item.PushedAs p) :
      Publication w w' (some item) (some u)

/-- The channel `_run_collection` publishes the items of a run on. -/
def itemCategory (run : Run) : String :=
  (run.source.category.map (·.slug)).getD ""

/-- The collection run stores `row`, made in its turn `t`, and in the run of the API process `u` is
the row's live event; the client streams the item's channel, or "all", throughout. The tenant of a
source is never null. -/
structure Watched (py : Stdlib) (store : Store) (run : Run)
    (t : Fetched × RedisSet) (row : Row) (w : World) (ls : List Label) (w' : World)
    (u : Option Event) (c : Client) : Prop where
  considered : t ∈ considered py store run
  row : (stored py run.source t).row = some row
  committed : (runCollection py store run).committed = true
  tenant : run.source.tenantId ≠ ""
  live : LiveRun w ls w'
  published : Publication w w' (stored py run.source t).event u
  stays : StaysIn w ls c
  subscribed : itemCategory run ∈ c.categories ∨ "all" ∈ c.categories

/-- The stored item. -/
def storedItem (t : Fetched × RedisSet) (row : Row) : Item :=
  (flush (row, t.1.1.uuid)).item

/-- The client is sent the item's live event. -/
def Sent (w' : World) (u : Option Event) (c : Client) : Prop :=
  ∃ e, u = some e ∧ ReachesQueue w' e c

/-- The item was published, and on a channel that leads to the router: the listener has it, or the
collection runs in the API process and the router reads a category of the client off its name. -/
def GetsThrough (u : Option Event) (c : Client) : Prop :=
  ∃ e, u = some e ∧ (e.channel ∈ LISTENED ∨
    (e.isLocal = true ∧ (e.category ∈ c.categories ∨ "all" ∈ c.categories)))

/-- What makes the two feeds show an item alike to a tenant: an item of its own gets through if its
row is rendered, and only then; a row of the system tenant is not rendered for the others. -/
structure ShownAlike (floats : FloatLib) (now : Int) (item : Item) (u : Option Event) (c : Client) :
    Prop where
  own : item.tenantId = c.tenantId.val → (GetsThrough u c ↔ Renders floats now item)
  system : item.tenantId ≠ c.tenantId.val → item.tenantId = SYSTEM_TENANT_ID →
    ¬ Renders floats now item

/-- What a turn stores and publishes belongs to the source. -/
lemma stored_cases {py : Stdlib} {run : Run} {t : Fetched × RedisSet} {row : Row}
    (h : (stored py run.source t).row = some row) :
    row.item.tenantId = run.source.tenantId ∧ row.item.categoryId = run.source.categoryId ∧
      ∀ item, (stored py run.source t).event = some item →
        item = itemUpdate run.source row.item := by
  obtain hs | ⟨item, time, -, -, -, hs⟩ :=
    AsyncSchedulerManager.storeItem_cases py run.source t.1 (ProcessorChain.result py run.source t)
  · rw [stored, hs] at h
    cases h
  · have hrow := h
    rw [stored, hs] at hrow
    cases hrow
    refine ⟨rfl, rfl, ?_⟩
    intro e he
    obtain ⟨row', hrow', -, rfl⟩ := AsyncSchedulerManager.storeItem_event_eq_some he
    cases h.symm.trans hrow'
    rfl

section Watched

variable {py : Stdlib} {store : Store} {run : Run} {t : Fetched × RedisSet} {row : Row}
  {w w' : World} {ls : List Label} {u : Option Event} {c : Client}

/-- The live event of an item goes out under the source's tenant, on the channel of its category. -/
lemma Watched.pushed (h : Watched py store run t row w ls w' u c) {e : Event} (he : u = some e) :
    Logged w'.log e ∧ w.log.length ≤ e.seq ∧ ∃ p, e.body = .pushed p ∧
      p.category = itemCategory run ∧ p.tenantId.val = run.source.tenantId := by
  have hpub := h.published
  generalize hevent : (stored py run.source t).event = event at hpub
  cases hpub with
  | unsent => cases he
  | sent logged new body pushed =>
    cases he
    obtain rfl := (stored_cases h.row).2.2 _ hevent
    refine ⟨logged, new, _, body, pushed.category, ?_⟩
    rw [pushed.tenantId]
    exact if_neg h.tenant

/-- The client's queue gets the event exactly if it gets through and the tenant is the event's. -/
lemma Watched.queued_iff (h : Watched py store run t row w ls w' u c) {e : Event}
    (he : u = some e) :
    ReachesQueue w' e c ↔ GetsThrough u c ∧ run.source.tenantId = c.tenantId.val := by
  obtain ⟨logged, new, p, hbody, hcategory, htenant⟩ := h.pushed he
  have hadmits : e.admits c.tenantId = true ↔ run.source.tenantId = c.tenantId.val := by
    rw [Event.admits_pushed hbody, ← htenant]
    exact TenantId.val_inj.symm
  -- on a listened channel the client's own subscription is the one the router finds
  have hlisted : e.channel ∈ LISTENED → (e.category ∈ c.categories ∨ "all" ∈ c.categories) := by
    intro hl
    have hmem : p.category ∈ LISTENED_CATEGORIES := by
      rw [← mem_listened]
      simpa [Event.channel, hbody, Body.channel] using hl
    rw [Event.category_of_listened hbody hmem, hcategory]
    exact h.subscribed
  have hthrough : GetsThrough u c ↔ 0 < e.routes ∧
      (e.category ∈ c.categories ∨ "all" ∈ c.categories) := by
    unfold GetsThrough Event.routes
    constructor
    · rintro ⟨e', he', hc⟩
      cases he.symm.trans he'
      rcases hc with hl | ⟨hl, hc⟩
      · exact ⟨by simp [hl], hlisted hl⟩
      · exact ⟨by simp [hl], hc⟩
    · rintro ⟨hroutes, hc⟩
      refine ⟨e, he, ?_⟩
      by_cases hl : e.channel ∈ LISTENED
      · exact .inl hl
      · right
        refine ⟨?_, hc⟩
        cases hlocal : e.isLocal with
        | true => rfl
        | false => simp [hl, hlocal] at hroutes
  have hpos : 0 < e.routes * (e.reaches c).toNat ↔ 0 < e.routes ∧ e.reaches c = true := by
    cases e.reaches c <;> simp
  have hreaches : e.reaches c = true ↔ e.admits c.tenantId = true ∧
      (e.category ∈ c.categories ∨ "all" ∈ c.categories) := by
    simp [Event.reaches]
  unfold ReachesQueue
  rw [h.live.copies_eq h.stays logged new, hpos, hreaches, hthrough, ← hadmits, and_assoc,
    and_comm (a := e.admits c.tenantId = true)]

/-- The live feed has an item for its own tenant, if the event gets through. -/
theorem sent_iff (h : Watched py store run t row w ls w' u c) :
    Sent w' u c ↔ GetsThrough u c ∧ (storedItem t row).tenantId = c.tenantId.val := by
  rw [show (storedItem t row).tenantId = run.source.tenantId from (stored_cases h.row).1]
  constructor
  · rintro ⟨e, he, hreach⟩
    exact (h.queued_iff he).1 hreach
  · rintro ⟨hthrough, htenant⟩
    obtain ⟨e, he, -⟩ := id hthrough
    exact ⟨e, he, (h.queued_iff he).2 ⟨hthrough, htenant⟩⟩

/-- The two feeds agree on an item, for a tenant, exactly when it is shown alike: what the live feed
has for the owner alone, the item feed has for everybody if the owner is the system tenant. -/
theorem sent_iff_lists_iff (h : Watched py store run t row w ls w' u c) (floats : FloatLib)
    (db : Tables) {table : ItemsTable} (hstored : storedItem t row ∈ table.rows) (now : Int)
    (sort : String) :
    (Sent w' u c ↔ Lists floats py db table now sort run.source.categoryId c.tenantId.val
        (storedItem t row)) ↔
      ShownAlike floats now (storedItem t row) u c := by
  have hcategory : (storedItem t row).categoryId = run.source.categoryId := (stored_cases h.row).2.1
  rw [← hcategory, sent_iff h, TechService.lists_iff hstored]
  constructor
  · intro hagree
    refine ⟨?_, ?_⟩
    · intro hown
      constructor
      · intro hthrough
        exact (hagree.1 ⟨hthrough, hown⟩).2
      · intro hrenders
        exact (hagree.2 ⟨.inl hown, hrenders⟩).1
    · intro hother hsystem hrenders
      exact hother (hagree.2 ⟨.inr hsystem, hrenders⟩).2
  · intro halike
    constructor
    · rintro ⟨hthrough, hown⟩
      exact ⟨.inl hown, (halike.own hown).1 hthrough⟩
    · rintro ⟨hvisible, hrenders⟩
      -- the select has a row of the system tenant for everybody, the router for one tenant
      by_cases hown : (storedItem t row).tenantId = c.tenantId.val
      · exact ⟨(halike.own hown).2 hrenders, hown⟩
      · rcases hvisible with hown' | hsystem
        · exact absurd hown' hown
        · exact absurd hrenders (halike.system hown hsystem)

end Watched

/-! ## An item of the system tenant, two viewers -/

namespace TwoViewers

open AsyncSchedulerManager.Sample (library env uuidA itemA published)
open Sample (clock start)
open WorkerPush (push pushing run systemTenant)

/-- Rationals for floats: exact on integers, with `exp` and `log1p` exact at 0. -/
def rationals : FloatLib where
  F := ℚ
  ofRat x := x
  float
    | .bool b => .ok b.toInt
    | .int n => .ok n
    | .float x _ => .ok x
    | .str s => .error (.valueError ("could not convert string to float: " ++ library.reprStr s))
    | v => .error (.typeError
        ("float() argument must be a string or a real number, not '" ++ v.typeName ++ "'"))
  add x y := x + y
  mul x y := x * y
  exp x := 1 + x
  log1p x := if -1 < x then .ok x else .error (.valueError "math domain error")
  round4 x := (x * 10000).floor / 10000
  le x y := decide (x ≤ y)

/-- A viewer of the tenant on the channel "tech". -/
def viewer (tenantId : TenantId) : Client :=
  ⟨tenantId.val ++ ":u1:8a4b6a6e", ["tech"], tenantId⟩

def connecting (c : Client) : List Label :=
  [.connect c.id "tech" none c.tenantId none, .commit c.id, .greet c.id (clock 0), .enter c.id]

def delivering (c : Client) : List Label :=
  pushing "tech" ++ [.take 0, .visit 0 c.id, .secondLoop 0, .finish 0]

/-- The first turn of the worker's collection. -/
def turn : Fetched × RedisSet := ((env 0 uuidA, itemA), .empty)

def row : Row :=
  ((stored library (run "tech").source turn).row).get (by decide +kernel)

def event : Event := ⟨0, .pushed (push "tech")⟩

def tables : Tables := ⟨[], [], []⟩

def table : ItemsTable := ⟨[storedItem turn row], List.nodup_singleton _⟩

/-- The stored item of the sample can be shown. -/
lemma renders : Renders rationals published.micros (storedItem turn row) :=
  ⟨⟨_, rfl⟩, _, rfl⟩

/-- What a viewer's run has to show for itself. -/
lemma watched {c : Client} {w w' : World} (connected : Steps Step start (connecting c) w)
    (delivered : Steps Step w (delivering c) w') (idle : w.Idle) (idle' : w'.Idle)
    (held : w.router.HoldsClient c) (hlog : w.log = []) (hpushed : Logged w'.log event)
    (hcategories : c.categories = ["tech"]) :
    Watched library .empty (run "tech") turn row w (delivering c) w' (some event) c where
  considered := by
    have heq : considered library .empty (run "tech") = turn :: [_] := rfl
    rw [heq]
    exact List.mem_cons_self
  row := (Option.some_get _).symm
  committed := by decide +kernel
  tenant := by decide
  live :=
    { reachable := ⟨_, _, connected⟩
      idle
      steps := delivered
      up := by simp [delivering, pushing, Label.RedisUp]
      idle' }
  published := by
    have heq : (stored library (run "tech").source turn).event = some (WorkerPush.item "tech") := rfl
    rw [heq]
    exact .sent hpushed (by rw [hlog]; exact Nat.le_refl 0) rfl ⟨rfl, rfl, rfl, rfl⟩
  stays := ⟨held, by simp [delivering, pushing, Label.Keeps]⟩
  subscribed := .inl (by rw [hcategories]; exact List.mem_singleton_self _)

end TwoViewers

open TwoViewers in
/-- The system tenant's own viewer. -/
theorem ownItem_sent_iff_lists_iff :
    ∃ w w', Steps Step Sample.start (connecting (viewer WorkerPush.systemTenant)) w ∧
      Steps Step w (delivering (viewer WorkerPush.systemTenant)) w' ∧
      ((Sent w' (some event) (viewer WorkerPush.systemTenant) ↔
          Lists rationals AsyncSchedulerManager.Sample.library tables table
            AsyncSchedulerManager.Sample.published.micros "hot"
            (WorkerPush.run "tech").source.categoryId SYSTEM_TENANT_ID (storedItem turn row)) ↔
        ShownAlike rationals AsyncSchedulerManager.Sample.published.micros
          (storedItem turn row) (some event) (viewer WorkerPush.systemTenant)) := by
  have connected := World.steps_after Sample.start (connecting (viewer WorkerPush.systemTenant))
    (by decide)
  have delivered := World.steps_after
    (Sample.start.after (connecting (viewer WorkerPush.systemTenant)) (by decide))
    (delivering (viewer WorkerPush.systemTenant)) (by decide)
  refine ⟨_, _, connected, delivered, ?_⟩
  exact sent_iff_lists_iff
    (watched connected delivered ⟨rfl, rfl, rfl⟩ ⟨rfl, rfl, rfl⟩
      ⟨.new ["tech"] WorkerPush.systemTenant, rfl, ⟨rfl, rfl⟩⟩ rfl rfl rfl)
    rationals tables (List.mem_singleton_self _) _ "hot"

open TwoViewers in
/-- Another tenant's viewer finds the item in its feed and is sent nothing. -/
theorem sharedItem_not_sent :
    ¬ ∀ (py : Stdlib) (store : Store) (run : Run) (t : Fetched × RedisSet) (row : Row)
      (w : World) (ls : List Label) (w' : World) (u : Option Event) (c : Client),
      Watched py store run t row w ls w' u c →
      ∀ (floats : FloatLib) (db : Tables) (table : ItemsTable), storedItem t row ∈ table.rows →
      ∀ (now : Int) (sort : String),
      (Sent w' u c ↔ Lists floats py db table now sort run.source.categoryId c.tenantId.val
        (storedItem t row)) := by
  intro h
  have connected := World.steps_after Sample.start (connecting (viewer Sample.tenant)) (by decide)
  have delivered := World.steps_after
    (Sample.start.after (connecting (viewer Sample.tenant)) (by decide))
    (delivering (viewer Sample.tenant)) (by decide)
  have hwatched := watched connected delivered ⟨rfl, rfl, rfl⟩ ⟨rfl, rfl, rfl⟩
    ⟨.new ["tech"] Sample.tenant, rfl, ⟨rfl, rfl⟩⟩ rfl rfl rfl
  have hmem : storedItem turn row ∈ table.rows := List.mem_singleton_self _
  have hshared : (storedItem turn row).tenantId = SYSTEM_TENANT_ID := (stored_cases hwatched.row).1
  have hlists : Lists rationals AsyncSchedulerManager.Sample.library tables table _ "hot"
      (WorkerPush.run "tech").source.categoryId Sample.tenant.val (storedItem turn row) :=
    (TechService.lists_iff hmem "hot" Sample.tenant.val).2 ⟨.inr hshared, renders⟩
  have hsent := (h _ _ _ _ _ _ _ _ _ _ hwatched rationals tables table hmem _ "hot").2 hlists
  have hother : SYSTEM_TENANT_ID ≠ Sample.tenant.val := by decide
  exact hother (hshared.symm.trans ((sent_iff hwatched).1 hsent).2)

end InstantBoard.Sse
