import InstantBoard.Sse.Message
import InstantBoard.Sse.Subscriptions

/-!
# The router

`SSEEventRouter` of the API process: the connections, what `register` and `unregister` make of
the registry, and the dispatch of one message (`_on_redis_message`).

A dispatch is cut at its `await conn.send_event(...)`. Python lets other tasks run there only when
the queue is full; the model lets them run after every put, in any order of the members, so it has
every interleaving the program has.
-/

namespace InstantBoard.Sse

/-- `asyncio.Queue(maxsize=1000)`. -/
def QUEUE_MAXSIZE : Nat := 1000

/-- An entry of a connection's queue. `origin` is the publication it was made from, which the code
does not keep; a heartbeat has none. -/
structure Frame where
  eventType : Json
  data : Json
  origin : Option Event

/-- `SSEConnection`. `received` collects everything that was ever put in the queue; no modelled
function reads it. -/
structure SSEConnection where
  categories : List String
  tenantId : TenantId
  queue : List Frame
  isActive : Bool
  eventsSentCount : Nat
  received : List Frame

/-- `SSEConnection.__init__`. -/
def SSEConnection.new (categories : List String) (tenantId : TenantId) : SSEConnection :=
  { categories, tenantId, queue := [], isActive := true, eventsSentCount := 0, received := [] }

/-- `send_event`: the put waits (`none`) while the queue is full. `Queue.put` never raises
`QueueFull`. -/
def SSEConnection.sendEvent (conn : SSEConnection) (frame : Frame) : Option SSEConnection :=
  if conn.queue.length < QUEUE_MAXSIZE then
    some { conn with
      queue := conn.queue ++ [frame]
      eventsSentCount := conn.eventsSentCount + 1
      received := conn.received ++ [frame] }
  else none

/-- A put changes nothing but the queue and the counter. -/
lemma SSEConnection.sendEvent_eq_some {conn conn' : SSEConnection} {f : Frame}
    (h : conn.sendEvent f = some conn') :
    conn' = { conn with
      queue := conn.queue ++ [f]
      eventsSentCount := conn.eventsSentCount + 1
      received := conn.received ++ [f] } := by
  unfold sendEvent at h
  split at h
  · simpa [eq_comm] using h
  · cases h

/-- How many copies of the publication `seq` the connection has received. -/
def SSEConnection.copies (conn : SSEConnection) (seq : Nat) : Nat :=
  conn.received.countP fun f => f.origin.any (·.seq == seq)

/-! ## What a message says to the dispatch -/

/-- `event_data.get("event_type", "item_update")`. -/
def Event.eventType (e : Event) : Json :=
  e.message.getD "event_type" (.str "item_update")

/-- `event_data.get("data", {})`. -/
def Event.data (e : Event) : Json :=
  e.message.getD "data" (.obj [])

/-- The queue entry a message becomes. -/
def Event.frame (e : Event) : Frame :=
  ⟨e.eventType, e.data, some e⟩

/-- `not (tenant_id and conn.tenant_id != tenant_id)`. -/
def Event.admits (e : Event) (tenantId : TenantId) : Bool :=
  let tenant := e.message.getD "tenant_id" .null
  !(tenant.truthy && !tenant.isStr tenantId.val)

/-- A tenant's text tells the tenant. -/
lemma TenantId.val_inj {s t : TenantId} : s.val = t.val ↔ s = t := by
  constructor
  · intro h
    cases s
    cases t
    cases h
    rfl
  · intro h
    rw [h]

/-- A pushed event is admitted by its own tenant only. -/
lemma Event.admits_pushed {e : Event} {p : PushEvent} (h : e.body = .pushed p) (t : TenantId) :
    e.admits t = true ↔ p.tenantId = t := by
  have hne : p.tenantId.val ≠ "" := p.tenantId.ne_empty
  simp [Event.admits, Event.message, h, Body.message, Dict.getD, Json.truthy, hne, TenantId.val_inj]

/-! ## The registry -/

/-- The registry of `SSEEventRouter`: `_connections` and `_subscriptions`. -/
structure SSEEventRouter where
  connections : String → Option SSEConnection
  subscriptions : Subscriptions

namespace SSEEventRouter

/-- The router of a process that has just started. -/
def init : SSEEventRouter :=
  { connections := fun _ => none, subscriptions := .empty }

/-- Replace the connection object of a client id. -/
def setConnection (r : SSEEventRouter) (clientId : String) (conn : Option SSEConnection) :
    SSEEventRouter :=
  { r with connections := Function.update r.connections clientId conn }

/-- `register`. -/
def register (r : SSEEventRouter) (clientId : String) (categories : List String)
    (tenantId : TenantId) : SSEEventRouter :=
  { r with
    connections := Function.update r.connections clientId (some (.new categories tenantId))
    subscriptions := categories.foldl (Subscriptions.add clientId) r.subscriptions }

/-- `unregister`. The connection object it pops is no longer reachable from the registry. -/
def unregister (r : SSEEventRouter) (clientId : String) : SSEEventRouter :=
  match r.connections clientId with
  | some conn =>
    { r with
      connections := Function.update r.connections clientId none
      subscriptions := conn.categories.foldl (Subscriptions.discard clientId) r.subscriptions }
  | none => r

end SSEEventRouter

/-! ## The dispatch of one message -/

/-- Who called `_on_redis_message`. -/
inductive Route where
  | direct
  | listener
  deriving DecidableEq

/-- The two loops of `_on_redis_message`. -/
inductive Loop where
  | subscribers
  | allSubscribers
  deriving DecidableEq

/-- A call of `_on_redis_message`: the message, the set object it looked up (none for the
temporary `set()`), the loop it is in, the copied members it has not visited yet, and the client
whose full queue it waits for. -/
structure Dispatch where
  route : Route
  event : Event
  subscribers : Option Nat
  loop : Loop
  pending : Finset String
  waiting : Option String

namespace Dispatch

/-- `_on_redis_message(channel, event_data)` up to its first loop. -/
def start (r : SSEEventRouter) (route : Route) (channel : String) (e : Event) : Dispatch :=
  let category := channelCategory channel
  { route, event := e, subscribers := r.subscriptions.index category, loop := .subscribers,
    pending := r.subscriptions.members category, waiting := none }

/-- The members of `subscribers` as the set is now. -/
def members (d : Dispatch) (r : SSEEventRouter) : Finset String :=
  match d.subscribers with
  | some s => r.subscriptions.sets s
  | none => ∅

/-- `client_id not in subscribers`, asked in the second loop only. -/
def selects (d : Dispatch) (r : SSEEventRouter) (clientId : String) : Bool :=
  d.loop = .subscribers || clientId ∉ d.members r

/-- One iteration of a loop. -/
def visit (d : Dispatch) (r : SSEEventRouter) (clientId : String) : Dispatch × SSEEventRouter :=
  let d := { d with pending := d.pending.erase clientId }
  match r.connections clientId with
  | none => (d, r)
  | some conn =>
    if conn.isActive && d.event.admits conn.tenantId && d.selects r clientId then
      match conn.sendEvent d.event.frame with
      | some conn => (d, r.setConnection clientId (some conn))
      | none => ({ d with waiting := some clientId }, r)
    else (d, r)

/-- The condition under which an iteration calls `send_event`. -/
def Accepts (d : Dispatch) (r : SSEEventRouter) (clientId : String) (conn : SSEConnection) : Prop :=
  conn.isActive = true ∧ d.event.admits conn.tenantId = true ∧ d.selects r clientId = true

/-- What an iteration can do: skip the client, put the message, or start to wait. -/
lemma visit_cases (d : Dispatch) (r : SSEEventRouter) (clientId : String) :
    (d.visit r clientId = ({ d with pending := d.pending.erase clientId }, r) ∧
      ∀ conn, r.connections clientId = some conn → ¬ d.Accepts r clientId conn) ∨
    (∃ conn conn', r.connections clientId = some conn ∧ d.Accepts r clientId conn ∧
      conn.sendEvent d.event.frame = some conn' ∧
      d.visit r clientId = ({ d with pending := d.pending.erase clientId },
        r.setConnection clientId (some conn'))) ∨
    (∃ conn, r.connections clientId = some conn ∧ d.Accepts r clientId conn ∧
      d.visit r clientId = ({ d with
        pending := d.pending.erase clientId
        waiting := some clientId }, r)) := by
  have hsel : ∀ p, Dispatch.selects { d with pending := p } r clientId = d.selects r clientId :=
    fun _ => rfl
  cases hc : r.connections clientId with
  | none =>
    left
    simp [visit, hc]
  | some conn =>
    by_cases ha : d.Accepts r clientId conn
    · right
      obtain ⟨h₁, h₂, h₃⟩ := ha
      cases hs : conn.sendEvent d.event.frame with
      | none =>
        right
        exact ⟨conn, rfl, ⟨h₁, h₂, h₃⟩, by simp [visit, hc, h₁, h₂, hsel, h₃, hs]⟩
      | some conn' =>
        left
        exact ⟨conn, conn', rfl, ⟨h₁, h₂, h₃⟩, hs, by simp [visit, hc, h₁, h₂, hsel, h₃, hs]⟩
    · left
      refine ⟨?_, ?_⟩
      · have hfalse : (conn.isActive && d.event.admits conn.tenantId && d.selects r clientId)
            = false := by
          rw [Bool.eq_false_iff]
          intro h
          simp only [Bool.and_eq_true] at h
          exact ha ⟨h.1.1, h.1.2, h.2⟩
        simp [visit, hc, hsel, hfalse]
      · intro conn' hc'
        cases hc'
        exact ha

/-- The put a dispatch waits in succeeds. The connection object outlives its registration, but
nobody reads the queue of an unregistered one, so that wait never ends. -/
def resume (d : Dispatch) (r : SSEEventRouter) : Option (Dispatch × SSEEventRouter) := do
  let clientId ← d.waiting
  let conn ← r.connections clientId
  let conn ← conn.sendEvent d.event.frame
  return ({ d with waiting := none }, r.setConnection clientId (some conn))

/-- What a successful wait does. -/
lemma resume_eq_some {d d' : Dispatch} {r r' : SSEEventRouter} (h : d.resume r = some (d', r')) :
    ∃ clientId conn conn', d.waiting = some clientId ∧ r.connections clientId = some conn ∧
      conn.sendEvent d.event.frame = some conn' ∧ d' = { d with waiting := none } ∧
      r' = r.setConnection clientId (some conn') := by
  simp only [Dispatch.resume, Option.pure_def, Option.bind_eq_bind, Option.bind_eq_some_iff,
    Option.some.injEq, Prod.mk.injEq] at h
  obtain ⟨clientId, hw, conn, hc, conn', hs, hd, hr⟩ := h
  exact ⟨clientId, conn, conn', hw, hc, hs, hd.symm, hr.symm⟩

/-- The second loop starts over a copy of the subscribers of "all". -/
def secondLoop (d : Dispatch) (r : SSEEventRouter) : Dispatch :=
  { d with loop := .allSubscribers, pending := r.subscriptions.members "all" }

end Dispatch

/-! ## What `register` and `unregister` do to the registry -/

namespace Subscriptions

/-- Adding a client under several categories. -/
lemma members_foldl_add (clientId : String) (categories : List String) (subs : Subscriptions)
    (category : String) :
    (categories.foldl (add clientId) subs).members category =
      if category ∈ categories then insert clientId (subs.members category)
      else subs.members category := by
  induction categories generalizing subs with
  | nil => simp
  | cons c categories ih =>
    rw [List.foldl_cons, ih, members_add]
    by_cases h : category = c <;> by_cases hc : category ∈ categories <;> simp [h, hc]

/-- Discarding a client from several categories. -/
lemma members_foldl_discard (clientId : String) (categories : List String) (subs : Subscriptions)
    (category : String) :
    (categories.foldl (discard clientId) subs).members category =
      if category ∈ categories then (subs.members category).erase clientId
      else subs.members category := by
  induction categories generalizing subs with
  | nil => simp
  | cons c categories ih =>
    rw [List.foldl_cons, ih, members_discard]
    by_cases h : category = c <;> by_cases hc : category ∈ categories <;> simp [h, hc]

/-- Adding a client leaves the others in their sets. -/
lemma mem_sets_foldl_add {clientId other : String} (h : other ≠ clientId)
    (categories : List String) (subs : Subscriptions) (s : Nat) :
    other ∈ (categories.foldl (add clientId) subs).sets s ↔ other ∈ subs.sets s := by
  induction categories generalizing subs with
  | nil => rfl
  | cons c categories ih => rw [List.foldl_cons, ih, mem_sets_add h]

/-- Discarding a client leaves the others in their sets. -/
lemma mem_sets_foldl_discard {clientId other : String} (h : other ≠ clientId)
    (categories : List String) (subs : Subscriptions) (s : Nat) :
    other ∈ (categories.foldl (discard clientId) subs).sets s ↔ other ∈ subs.sets s := by
  induction categories generalizing subs with
  | nil => rfl
  | cons c categories ih => rw [List.foldl_cons, ih, mem_sets_discard h]

end Subscriptions

namespace SSEEventRouter

/-- A connection is the one set or another client's. -/
lemma setConnection_eq_some {r : SSEEventRouter} {clientId other : String}
    {conn conn' : SSEConnection}
    (h : (r.setConnection clientId (some conn)).connections other = some conn') :
    (other = clientId ∧ conn' = conn) ∨ (other ≠ clientId ∧ r.connections other = some conn') := by
  by_cases ho : other = clientId
  · left
    exact ⟨ho, by simpa [setConnection, ho, eq_comm] using h⟩
  · right
    exact ⟨ho, by simpa [setConnection, ho] using h⟩

/-- A connection is the one registered or another client's. -/
lemma register_eq_some {r : SSEEventRouter} {clientId other : String} {categories : List String}
    {tenantId : TenantId} {conn' : SSEConnection}
    (h : (r.register clientId categories tenantId).connections other = some conn') :
    (other = clientId ∧ conn' = .new categories tenantId) ∨
      (other ≠ clientId ∧ r.connections other = some conn') := by
  by_cases ho : other = clientId
  · left
    exact ⟨ho, by simpa [register, ho, eq_comm] using h⟩
  · right
    exact ⟨ho, by simpa [register, ho] using h⟩

/-- The registry is consistent: the subscription sets list exactly the registered clients, each
under its categories, and a registered connection is active. -/
structure Consistent (r : SSEEventRouter) : Prop where
  mem_members : ∀ {category clientId}, clientId ∈ r.subscriptions.members category ↔
    ∃ conn, r.connections clientId = some conn ∧ category ∈ conn.categories
  active : ∀ {clientId conn}, r.connections clientId = some conn → conn.isActive = true

/-- The registry begins consistent. -/
lemma Consistent.init : Consistent init where
  mem_members := by simp [SSEEventRouter.init, Subscriptions.members, Subscriptions.empty]
  active := by simp [SSEEventRouter.init]

/-- Registering a new client id keeps the registry consistent. -/
lemma Consistent.register {r : SSEEventRouter} (hr : r.Consistent) {clientId : String}
    (fresh : r.connections clientId = none) (categories : List String) (tenantId : TenantId) :
    (r.register clientId categories tenantId).Consistent where
  mem_members := by
    intro category other
    have hnew : clientId ∉ r.subscriptions.members category := by
      rw [hr.mem_members]
      simp [fresh]
    simp only [SSEEventRouter.register, Subscriptions.members_foldl_add]
    by_cases ho : other = clientId
    · subst ho
      by_cases hc : category ∈ categories <;> simp [hc, hnew, SSEConnection.new]
    · by_cases hc : category ∈ categories <;> simp [hc, ho, hr.mem_members]
  active := by
    intro other conn h
    obtain ⟨-, rfl⟩ | ⟨-, h⟩ := register_eq_some h
    · rfl
    · exact hr.active h

/-- What is left of the sets when a client is unregistered. -/
lemma Consistent.members_unregister {r : SSEEventRouter} (hr : r.Consistent) {clientId : String}
    {conn : SSEConnection} (h : r.connections clientId = some conn) (category : String) :
    (r.unregister clientId).subscriptions.members category =
      (r.subscriptions.members category).erase clientId := by
  simp only [unregister, h, Subscriptions.members_foldl_discard]
  by_cases hc : category ∈ conn.categories
  · simp [hc]
  · have : clientId ∉ r.subscriptions.members category := by
      rw [hr.mem_members]
      simp [h, hc]
    simp [hc, this]

/-- Unregistering keeps the registry consistent. -/
lemma Consistent.unregister {r : SSEEventRouter} (hr : r.Consistent) (clientId : String) :
    (r.unregister clientId).Consistent := by
  cases h : r.connections clientId with
  | none =>
    have : r.unregister clientId = r := by simp [SSEEventRouter.unregister, h]
    rwa [this]
  | some conn =>
    refine ⟨?_, ?_⟩
    · intro category other
      rw [hr.members_unregister h, Finset.mem_erase, hr.mem_members]
      by_cases ho : other = clientId
      · simp [SSEEventRouter.unregister, h, ho]
      · simp [SSEEventRouter.unregister, h, ho]
    · intro other conn' h'
      by_cases ho : other = clientId
      · simp [SSEEventRouter.unregister, h, ho] at h'
      · exact hr.active (by simpa [SSEEventRouter.unregister, h, ho] using h')

/-- Updating a connection without touching its categories or its flag keeps the registry
consistent. -/
lemma Consistent.setConnection {r : SSEEventRouter} (hr : r.Consistent) {clientId : String}
    {conn conn' : SSEConnection} (h : r.connections clientId = some conn)
    (hc : conn'.categories = conn.categories) (ha : conn'.isActive = conn.isActive) :
    (r.setConnection clientId (some conn')).Consistent where
  mem_members := by
    intro category other
    have : other ∈ r.subscriptions.members category ↔ _ := hr.mem_members
    by_cases ho : other = clientId
    · subst ho
      simpa [SSEEventRouter.setConnection, h, hc] using this
    · simpa [SSEEventRouter.setConnection, ho] using this
  active := by
    intro other conn'' h'
    obtain ⟨-, rfl⟩ | ⟨-, h'⟩ := setConnection_eq_some h'
    · rw [ha]
      exact hr.active h
    · exact hr.active h'

/-- Registering a client leaves the others in their sets. -/
lemma mem_sets_register {r : SSEEventRouter} {clientId other : String} (h : other ≠ clientId)
    (categories : List String) (tenantId : TenantId) (s : Nat) :
    other ∈ (r.register clientId categories tenantId).subscriptions.sets s ↔
      other ∈ r.subscriptions.sets s :=
  Subscriptions.mem_sets_foldl_add h _ _ _

/-- Unregistering a client leaves the others in their sets. -/
lemma mem_sets_unregister {r : SSEEventRouter} {clientId other : String} (h : other ≠ clientId)
    (s : Nat) : other ∈ (r.unregister clientId).subscriptions.sets s ↔
      other ∈ r.subscriptions.sets s := by
  unfold unregister
  split
  · exact Subscriptions.mem_sets_foldl_discard h _ _ _
  · rfl

end SSEEventRouter

end InstantBoard.Sse
