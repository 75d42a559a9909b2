import InstantBoard.Sse.Exec
import InstantBoard.Sse.Received

/-!
# Tenant isolation and provenance

Every queue entry other than a heartbeat should come from a message that carries an event type and
was pushed for the connection's own tenant (`World.Isolated`). The dispatch filters pushed events
by tenant, but lets a message without a `tenant_id` through to everyone and gives one without an
`event_type` the type `item_update`; a lifecycle notice of the source service is such a message.
Runs in which no dispatch of a notice accepts a client are isolated throughout
(`isolated_of_unheard`), and any other visit with room in the queue breaks the isolation
(`visit_notice_leaks`).
-/

namespace InstantBoard.Sse

open Transition

/-- The entry is a heartbeat, or it is what it says it is and was pushed for the tenant. -/
def Frame.Proper (f : Frame) (t : TenantId) : Prop :=
  (∃ now, f = heartbeatEntry now) ∨ ∃ e p, f.origin = some e ∧ e.body = .pushed p ∧
    p.tenantId = t ∧ f.eventType = .str p.eventType.value

/-- Whatever was put in a queue is proper for the tenant of its connection. -/
def World.Isolated (w : World) : Prop :=
  ∀ cid conn, w.router.connections cid = some conn → ∀ f ∈ conn.received, f.Proper conn.tenantId

/-- The step is not one in which the dispatch of a lifecycle notice accepts a client. -/
def World.Unheard (w : World) (l : Label) : Prop :=
  ∀ i cid d n conn, l = .visit i cid → w.dispatches[i]? = some d → d.event.body = .notice n →
    w.router.connections cid = some conn → ¬ d.Accepts w.router cid conn

/-- The message of an accepted pushed event is proper. -/
lemma Dispatch.Accepts.proper {d : Dispatch} {r : SSEEventRouter} {cid : String}
    {conn : SSEConnection} (h : d.Accepts r cid conn) {p : PushEvent}
    (hp : d.event.body = .pushed p) : d.event.frame.Proper conn.tenantId := by
  obtain ⟨_, hadm, _⟩ := h
  refine .inr ⟨d.event, p, rfl, hp, (Event.admits_pushed hp _).1 hadm, ?_⟩
  simp [Event.frame, Event.eventType, Event.message, hp, Body.message, Dict.getD]

/-! ## What a dispatch waits for -/

/-- A put does not forget a client id. -/
lemma World.Fresh.of_setConnection {w : World} {cid cid' : String} {conn : SSEConnection}
    (h : (w.router.setConnection cid' (some conn)).connections cid = none) :
    w.router.connections cid = none := by
  by_cases hcid : cid = cid'
  · simp [SSEEventRouter.setConnection, hcid] at h
  · simpa [SSEEventRouter.setConnection, hcid] using h

/-- A stream that goes on is not forgotten. -/
lemma World.Fresh.of_setStream {w : World} {cid cid' : String} {s : Stream}
    (h : (w.setStream cid' s).streams cid = none) : w.streams cid = none ∧ cid ≠ cid' := by
  by_cases hcid : cid = cid'
  · simp [World.setStream, hcid] at h
  · exact ⟨by simpa [World.setStream, hcid] using h, hcid⟩

/-- A client id once used stays used. -/
lemma Step.fresh {w w' : World} {l : Label} (h : Step w l w') {cid : String} (hf : w'.Fresh cid) :
    w.Fresh cid := by
  obtain ⟨hc, hs⟩ := hf
  cases h
  case visit i d cid' _ _ _ =>
    rcases d.visit_cases w.router cid' with ⟨hv, _⟩ | ⟨_, _, _, _, _, hv⟩ | ⟨_, _, _, hv⟩
    · rw [hv] at hc
      exact ⟨hc, hs⟩
    · rw [hv] at hc
      exact ⟨World.Fresh.of_setConnection hc, hs⟩
    · rw [hv] at hc
      exact ⟨hc, hs⟩
  case resume hr =>
    obtain ⟨_, _, _, _, _, _, _, rfl⟩ := Dispatch.resume_eq_some hr
    exact ⟨World.Fresh.of_setConnection hc, hs⟩
  case heartbeat => exact ⟨World.Fresh.of_setConnection hc, hs⟩
  case register cid' categories tenantId hf =>
    by_cases hcid : cid = cid'
    · rw [hcid]
      exact hf
    · exact ⟨by simpa [World.register, SSEEventRouter.register, hcid] using hc, hs⟩
  case connect cid' category raw channels tenantId lastEventId hf _ =>
    by_cases hcid : cid = cid'
    · rw [hcid]
      exact hf
    · refine ⟨?_, (World.Fresh.of_setStream hs).1⟩
      simpa [World.connect, World.setStream, World.register, SSEEventRouter.register,
        hcid] using hc
  case commit => exact ⟨hc, (World.Fresh.of_setStream hs).1⟩
  case greet => exact ⟨hc, (World.Fresh.of_setStream hs).1⟩
  case start => exact ⟨hc, (World.Fresh.of_setStream hs).1⟩
  case read => exact ⟨hc, (World.Fresh.of_setStream hs).1⟩
  case replay => exact ⟨hc, (World.Fresh.of_setStream hs).1⟩
  case enter => exact ⟨hc, (World.Fresh.of_setStream hs).1⟩
  case timeout => exact ⟨hc, (World.Fresh.of_setStream hs).1⟩
  case get => exact ⟨World.Fresh.of_setConnection hc, (World.Fresh.of_setStream hs).1⟩
  case exit cid' s _ _ =>
    -- the stream stays in the table, so its id is not new
    obtain ⟨hs', hne⟩ := World.Fresh.of_setStream (w := w) hs
    refine ⟨?_, hs'⟩
    simp only [World.exit] at hc
    split at hc
    · rwa [SSEEventRouter.connections_unregister, if_neg hne] at hc
    · exact hc
  all_goals exact ⟨hc, hs⟩

/-- What a step can do to a dispatch: leave it alone, end its waiting, or let it wait for a client
it accepts. -/
lemma Step.waiting {w w' : World} {l : Label} (h : Step w l w') {d' : Dispatch}
    (hd' : d' ∈ w'.dispatches) : d' ∈ w.dispatches ∨ d'.waiting = none ∨
    ∃ i cid d conn, l = .visit i cid ∧ w.dispatches[i]? = some d ∧ d'.event = d.event ∧
      d'.waiting = some cid ∧ w.router.connections cid = some conn ∧ d.Accepts w.router cid conn := by
  cases h
  case direct =>
    rcases List.mem_append.1 hd' with hd | hd
    · exact .inl hd
    · rw [List.mem_singleton.1 hd]
      exact .inr (.inl rfl)
  case take =>
    rcases List.mem_append.1 hd' with hd | hd
    · exact .inl hd
    · rw [List.mem_singleton.1 hd]
      exact .inr (.inl rfl)
  case visit i d cid hi hw _ =>
    rcases List.mem_or_eq_of_mem_set hd' with hd | rfl
    · exact .inl hd
    · rcases d.visit_cases w.router cid with ⟨hv, _⟩ | ⟨_, _, _, _, _, hv⟩ | ⟨conn, hc, ha, hv⟩
      · rw [hv]
        exact .inr (.inl hw)
      · rw [hv]
        exact .inr (.inl hw)
      · rw [hv]
        exact .inr (.inr ⟨i, cid, d, conn, rfl, hi, rfl, rfl, hc, ha⟩)
  case resume i d d'' r hi hr =>
    obtain ⟨_, _, _, _, _, _, rfl, _⟩ := Dispatch.resume_eq_some hr
    rcases List.mem_or_eq_of_mem_set hd' with hd | rfl
    · exact .inl hd
    · exact .inr (.inl rfl)
  case secondLoop i d hi hw _ _ =>
    rcases List.mem_or_eq_of_mem_set hd' with hd | rfl
    · exact .inl hd
    · exact .inr (.inl hw)
  case finish => exact .inl (List.mem_of_mem_eraseIdx hd')
  all_goals exact .inl hd'

/-- A dispatch waits only for a client it was pushed for. -/
def World.WaitsProperly (w : World) : Prop :=
  ∀ d ∈ w.dispatches, ∀ cid, d.waiting = some cid → ¬ w.Fresh cid ∧
    ∀ conn, w.router.connections cid = some conn → d.event.frame.Proper conn.tenantId

/-- What a guarded step keeps: every entry is proper, and so is every message waited for. -/
structure World.Clean (w : World) : Prop where
  isolated : w.Isolated
  waits : w.WaitsProperly

/-- The world begins clean. -/
lemma World.Clean.init (db : Tables) : (World.init db).Clean where
  isolated := by
    intro cid conn hc
    cases hc
  waits := by
    intro d hd
    cases hd

/-- An accepted message of an unheard step is proper. -/
lemma World.Unheard.proper {w : World} {l : Label} (hg : w.Unheard l) {i : Nat} {cid : String}
    {d : Dispatch} {conn : SSEConnection} (hl : l = .visit i cid)
    (hi : w.dispatches[i]? = some d) (hc : w.router.connections cid = some conn)
    (ha : d.Accepts w.router cid conn) : d.event.frame.Proper conn.tenantId := by
  cases hb : d.event.body with
  | pushed p => exact ha.proper hb
  | notice n => exact absurd ha (hg i cid d n conn hl hi hb hc)

/-- A step with the notices unheard keeps the world clean. -/
lemma World.Clean.step {w w' : World} {l : Label} (hg : w.Unheard l) (hw : w.Clean)
    (h : Step w l w') : w'.Clean := by
  refine ⟨?_, ?_⟩
  · intro cid conn' hc' f hf
    rcases h.received hc' with ⟨_, _, hnil⟩ | ⟨conn, hc, ht, hrec⟩
    · rw [hnil] at hf
      cases hf
    · rw [ht]
      rcases hrec with heq | ⟨now, heq⟩ | ⟨i, d, hi, heq, hd⟩
      · rw [heq] at hf
        exact hw.isolated cid conn hc f hf
      · rw [heq, List.mem_append, List.mem_singleton] at hf
        rcases hf with hf | rfl
        · exact hw.isolated cid conn hc f hf
        · exact .inl ⟨now, rfl⟩
      · rw [heq, List.mem_append, List.mem_singleton] at hf
        rcases hf with hf | rfl
        · exact hw.isolated cid conn hc f hf
        · rcases hd with ⟨hl, ha⟩ | ⟨_, hwait⟩
          · exact hg.proper hl hi hc ha
          · exact (hw.waits d (List.mem_of_getElem? hi) cid hwait).2 conn hc
  · intro d' hd' cid hwait
    rcases h.waiting hd' with hd | hnone | ⟨i, cid', d, conn, hl, hi, he, hwait', hc, ha⟩
    · obtain ⟨hused, hproper⟩ := hw.waits d' hd cid hwait
      refine ⟨fun hf => hused (h.fresh hf), ?_⟩
      intro conn' hc'
      rcases h.received hc' with ⟨_, hf, _⟩ | ⟨conn, hc, ht, _⟩
      · exact absurd hf hused
      · rw [ht]
        exact hproper conn hc
    · rw [hnone] at hwait
      cases hwait
    · rw [hwait'] at hwait
      cases hwait
      have hused : ¬ w.Fresh cid := by
        intro hf
        rw [hf.1] at hc
        cases hc
      refine ⟨fun hf => hused (h.fresh hf), ?_⟩
      intro conn' hc'
      rcases h.received hc' with ⟨_, hf, _⟩ | ⟨conn₀, hc₀, ht, _⟩
      · exact absurd hf hused
      · rw [hc] at hc₀
        cases hc₀
        rw [ht, he]
        exact hg.proper hl hi hc ha

/-! ## Runs -/

/-- A run in which no dispatch of a lifecycle notice accepts a client is isolated: in every state
it reaches, whatever was put in a queue is a heartbeat or says what it is and was pushed for the
tenant of the connection. -/
theorem isolated_of_unheard {db : Tables} {ls : List Label} {w : World}
    (run : Guarded Step World.Unheard (World.init db) ls w) : w.Isolated :=
  (run.invariant (I := World.Clean) World.Clean.step (.init db)).isolated

/-- A notice that a dispatch hands to a client with room in its queue breaks the isolation. -/
theorem visit_notice_leaks {w w' : World} {i : Nat} {cid : String} {d : Dispatch}
    {n : LifecycleNotice} {conn : SSEConnection} (h : Step w (.visit i cid) w')
    (hi : w.dispatches[i]? = some d) (hn : d.event.body = .notice n)
    (hc : w.router.connections cid = some conn) (ha : d.Accepts w.router cid conn)
    (hroom : conn.queue.length < QUEUE_MAXSIZE) : ¬ w'.Isolated := by
  intro hiso
  cases h with
  | @visit _ d' _ hi' _ _ =>
    rw [hi] at hi'
    cases hi'
    have hsend : ∃ conn', conn.sendEvent d.event.frame = some conn' :=
      ⟨_, by rw [SSEConnection.sendEvent, if_pos hroom]⟩
    obtain ⟨conn', hs⟩ := hsend
    have hsel : Dispatch.selects { d with pending := d.pending.erase cid } w.router cid = true :=
      ha.2.2
    have hv : (d.visit w.router cid).2 = w.router.setConnection cid (some conn') := by
      simp [Dispatch.visit, hc, ha.1, ha.2.1, hsel, hs]
    have hc' : (w.setDispatch i (d.visit w.router cid).1
        (d.visit w.router cid).2).router.connections cid = some conn' := by
      simp [World.setDispatch, hv, SSEEventRouter.setConnection]
    have heq := SSEConnection.sendEvent_eq_some hs
    have hmem : d.event.frame ∈ conn'.received := by
      rw [heq]
      simp
    rcases hiso cid conn' hc' _ hmem with ⟨now, hbeat⟩ | ⟨e, p, horigin, hbody, _⟩
    · have := congrArg Frame.origin hbeat
      cases this
    · cases horigin
      rw [hn] at hbody
      cases hbody

/-! ## A source created by another tenant -/

/-- Whether the step is no visit by the dispatch of a notice. -/
def World.silent (w : World) : Label → Bool
  | .visit i _ => (w.dispatches[i]?).all (·.event.body.pushed?.isSome)
  | _ => true

/-- A silent step leaves the notices unheard. -/
lemma World.silent_unheard {w : World} {l : Label} (h : w.silent l = true) : w.Unheard l := by
  rintro i cid d n conn rfl hi hn _ _
  simp [World.silent, hi, hn, Body.pushed?] at h

namespace SourceCreated

open Sample

def tenantB : String := "b1d7e9f0-2c55-4a7e-8a35-90f1c2d3e4f5"

/-- Another tenant, B, with one category. -/
def tables : Tables :=
  { tenants := [⟨tenantB, 10⟩]
    categories := [⟨"c0ffee00-0000-4000-8000-000000000001", tenantB, "tech", "tech", 3600, []⟩]
    sources := [] }

/-- The request of an admin of tenant B. -/
def request : SourceService.Request :=
  .create
    { name := "Feed", categoryId := "c0ffee00-0000-4000-8000-000000000001", sourceType := "rss",
      url := "https://example.org/feed", config := none, refreshIntervalSeconds := none,
      isActive := true }
    tenantB "5eed0000-0000-4000-8000-000000000001"

/-- A health update for the sample tenant, pushed by the worker. -/
def event : PushEvent :=
  { itemUpdate (.other 0) "dashboard" 0 1 with eventType := .SOURCE_HEALTH_UPDATE }

/-- A dashboard stream of the sample tenant is open, and tenant B creates a source. -/
def labels : List Label :=
  [.connect clientId "dashboard" none tenant none, .admin request, .announce 0 true, .take 0,
    .visit 0 clientId]

def world : World := (World.init tables).after labels (by decide)

/-- Tenant B creates the source before anyone listens; then an event is pushed for the
sample tenant. -/
def quietLabels : List Label :=
  [.admin request, .announce 0 true, .take 0, .secondLoop 0, .finish 0,
    .connect clientId "dashboard" none tenant none, .push event, .store 0 true, .publish 0 true,
    .take 0, .visit 0 clientId, .secondLoop 0, .finish 0]

def quietWorld : World :=
  ((World.init tables).execWhile World.silent quietLabels).get (by decide)

end SourceCreated

open Sample SourceCreated in
/-- That run is isolated, with an entry in the queue. -/
theorem sourceCreated_quiet :
    quietWorld.Isolated ∧ (quietWorld.router.connections clientId).any
      (fun conn => conn.received.length = 1) = true :=
  ⟨isolated_of_unheard (execWhile_guarded World.silent_unheard (Option.some_get (by decide)).symm),
    by decide⟩

open Sample SourceCreated in
/-- The connection of the sample tenant gets an `item_update` out of tenant B's notice. -/
theorem sourceCreated_leaks :
    world.Reachable ∧ ¬ world.Isolated ∧
      (world.router.connections clientId).any
        (fun conn => conn.received.any (·.eventType.isStr "item_update")) = true := by
  refine ⟨⟨tables, labels, World.steps_after _ _ _⟩, ?_, by decide⟩
  intro hiso
  have hnotice : (world.router.connections clientId).any (fun conn =>
      conn.received.any fun f => f.origin.any fun e => e.body.pushed?.isNone) = true := by decide
  obtain ⟨conn, hc, hany⟩ := (Option.any_eq_true _ _).1 hnotice
  obtain ⟨f, hf, horigin⟩ := List.any_eq_true.1 hany
  obtain ⟨e, he, hnone⟩ := (Option.any_eq_true _ _).1 horigin
  rcases hiso clientId conn hc f hf with ⟨now, rfl⟩ | ⟨e', p, he', hbody, _⟩
  · cases he
  · rw [he] at he'
    cases he'
    rw [hbody] at hnone
    cases hnone

end InstantBoard.Sse
