import InstantBoard.Lib.Transition
import InstantBoard.Sse.SlowClient

/-!
# The registry over whole runs

Runs of `register` (with a client id that is not in use) and `unregister`, between which the
queues of the registered connections fill and drain as they like. `_connections` and
`_subscriptions` stay inverse to each other and no subscription set is left empty
(`WellFormed`, one lemma for each step). In such a state one message reaches each connection of its
tenant that is subscribed to the category, to "all" or to both exactly once, and nobody else
(`registered_and_dispatched`).
-/

namespace InstantBoard.Sse

open Transition

/-! ## No set is empty -/

namespace Subscriptions

/-- Every category of the dictionary has a member. -/
def NoneEmpty (subs : Subscriptions) : Prop :=
  ∀ category s, subs.index category = some s → subs.sets s ≠ ∅

/-- There is no category at first. -/
lemma NoneEmpty.empty : Subscriptions.empty.NoneEmpty := by
  intro category s h
  cases h

/-- A set that is not empty may be stored. -/
lemma NoneEmpty.setMembers {subs : Subscriptions} (h : subs.NoneEmpty) {s : Nat}
    {members : Finset String} (hs : s < subs.next) (hne : members ≠ ∅) :
    (subs.setMembers s members hs).NoneEmpty := by
  intro category s' hs'
  simp only [Subscriptions.setMembers] at hs' ⊢
  by_cases heq : s' = s
  · rw [heq, Function.update_self]
    exact hne
  · rw [Function.update_of_ne heq]
    exact h _ _ hs'

/-- A category may be added with a member. -/
lemma NoneEmpty.alloc {subs : Subscriptions} (h : subs.NoneEmpty) {category : String}
    {members : Finset String} (hne : members ≠ ∅) : (subs.alloc category members).NoneEmpty := by
  intro category' s hs
  simp only [Subscriptions.alloc] at hs ⊢
  by_cases hc : category' = category
  · rw [hc, Function.update_self] at hs
    cases hs
    rw [Function.update_self]
    exact hne
  · rw [Function.update_of_ne hc] at hs
    have hlt := subs.index_lt hs
    rw [Function.update_of_ne (by omega)]
    exact h _ _ hs

/-- Adding a client leaves no set empty. -/
lemma NoneEmpty.add {subs : Subscriptions} (h : subs.NoneEmpty) (clientId category : String) :
    (subs.add clientId category).NoneEmpty := by
  unfold Subscriptions.add
  split
  · exact h.setMembers _ (Finset.insert_ne_empty _ _)
  · exact h.alloc (Finset.singleton_ne_empty _)

/-- The set that `discard` empties is the one it deletes: no other category has it. -/
lemma NoneEmpty.discard {subs : Subscriptions} (h : subs.NoneEmpty) (clientId category : String) :
    (subs.discard clientId category).NoneEmpty := by
  unfold Subscriptions.discard
  split
  · rename_i s hs
    split
    · exact h
    · dsimp only
      split
      · intro category' s' hs'
        simp only [del, Subscriptions.setMembers] at hs' ⊢
        by_cases hc : category' = category
        · rw [hc, Function.update_self] at hs'
          cases hs'
        · rw [Function.update_of_ne hc] at hs'
          have hne : s' ≠ s := by
            rintro rfl
            exact hc (subs.index_inj hs' hs)
          rw [Function.update_of_ne hne]
          exact h _ _ hs'
      · rename_i hleft
        exact h.setMembers _ hleft
  · exact h

/-- Adding a client to categories leaves no set empty. -/
lemma NoneEmpty.foldl_add {subs : Subscriptions} (h : subs.NoneEmpty) (clientId : String)
    (categories : List String) : (categories.foldl (Subscriptions.add clientId) subs).NoneEmpty := by
  induction categories generalizing subs with
  | nil => exact h
  | cons c categories ih => exact ih (h.add clientId c)

/-- Discarding a client leaves no set empty. -/
lemma NoneEmpty.foldl_discard {subs : Subscriptions} (h : subs.NoneEmpty) (clientId : String)
    (categories : List String) :
    (categories.foldl (Subscriptions.discard clientId) subs).NoneEmpty := by
  induction categories generalizing subs with
  | nil => exact h
  | cons c categories ih => exact ih (h.discard clientId c)

end Subscriptions

/-- The connection is active, of the tenant, and subscribed to the category or to "all". -/
def SSEConnection.Follows (conn : SSEConnection) (category : String) (t : TenantId) : Prop :=
  conn.isActive = true ∧ conn.tenantId = t ∧ (category ∈ conn.categories ∨ "all" ∈ conn.categories)

/-- A message that names a tenant is admitted by its connections only. -/
lemma Event.admits_tenant {e : Event} {s t : TenantId}
    (h : e.message.getD "tenant_id" .null = .str t.val) : e.admits s = true ↔ s = t := by
  have hne : t.val ≠ "" := t.ne_empty
  simp only [Event.admits, h]
  simp [Json.truthy, hne, TenantId.val_inj, eq_comm (a := s)]

namespace SSEEventRouter

/-! ## Runs of the registry -/

/-- A call on the registry, or traffic in the queue of a registered connection. -/
inductive Call where
  | register (clientId : String) (categories : List String) (tenantId : TenantId)
  | unregister (clientId : String)
  | traffic (clientId : String)

/-- What a call does. A `register` is for a client id that is not in use. -/
inductive Calls : SSEEventRouter → Call → SSEEventRouter → Prop where
  | register {r clientId categories tenantId} :
    r.connections clientId = none →
    Calls r (.register clientId categories tenantId) (r.register clientId categories tenantId)
  | unregister {r clientId} :
    Calls r (.unregister clientId) (r.unregister clientId)
  | traffic {r clientId conn queue eventsSentCount received} :
    r.connections clientId = some conn →
    Calls r (.traffic clientId)
      (r.setConnection clientId (some { conn with queue, eventsSentCount, received }))

/-- The two dictionaries agree, and no subscription set is empty. -/
structure WellFormed (r : SSEEventRouter) : Prop where
  consistent : r.Consistent
  noneEmpty : r.subscriptions.NoneEmpty

/-- The registry begins well formed. -/
lemma WellFormed.init : SSEEventRouter.init.WellFormed where
  consistent := Consistent.init
  noneEmpty := Subscriptions.NoneEmpty.empty

/-- One call keeps the registry well-formed. -/
lemma WellFormed.step {r r' : SSEEventRouter} {a : Call} (h : r.WellFormed) (hst : Calls r a r') :
    r'.WellFormed := by
  cases hst with
  | @register clientId categories tenantId fresh =>
    exact ⟨h.consistent.register fresh _ _, h.noneEmpty.foldl_add _ _⟩
  | @unregister clientId =>
    refine ⟨h.consistent.unregister _, ?_⟩
    unfold SSEEventRouter.unregister
    split
    · exact h.noneEmpty.foldl_discard _ _
    · exact h.noneEmpty
  | traffic hconn =>
    exact ⟨h.consistent.setConnection hconn rfl rfl, h.noneEmpty⟩

/-- Every reachable registry is well-formed. -/
lemma WellFormed.of_reachable {r : SSEEventRouter} (h : Reachable Calls .init r) : r.WellFormed :=
  h.invariant WellFormed.step .init

/-! ## One message -/

/-- The state after a message for the tenant on the category: it is in the queue of each connection
that follows the category, once, and nothing else has changed. -/
structure Enqueued (r : SSEEventRouter) (category : String) (t : TenantId) (frame : Frame)
    (r' : SSEEventRouter) : Prop where
  once : ∀ {clientId conn}, r.connections clientId = some conn → conn.Follows category t →
    ∃ conn', r'.connections clientId = some conn' ∧ conn'.queue = conn.queue ++ [frame]
  others : ∀ {clientId conn}, r.connections clientId = some conn → ¬ conn.Follows category t →
    r'.connections clientId = some conn
  absent : ∀ {clientId}, r.connections clientId = none → r'.connections clientId = none

/-- In a well-formed registry the connections a message is for are those that follow its category. -/
lemma WellFormed.matches_iff {r : SSEEventRouter} (h : r.WellFormed) {category : String}
    {t : TenantId} {e : Event} (hname : ¬ "channel:".toList <:+: category.toList)
    (htenant : e.message.getD "tenant_id" .null = .str t.val) {clientId : String}
    {conn : SSEConnection} (hconn : r.connections clientId = some conn) :
    r.Matches (RedisKeys.channelKey category) e clientId conn ↔ conn.Follows category t := by
  have hmember : ∀ c, clientId ∈ r.subscriptions.members c ↔ c ∈ conn.categories := by
    intro c
    rw [h.consistent.mem_members]
    simp [hconn]
  constructor
  · intro m
    have hsub := m.subscribed
    rw [channelCategory_channelKey hname, hmember, hmember] at hsub
    exact ⟨m.active, (Event.admits_tenant htenant).1 m.admitted, hsub⟩
  · rintro ⟨hactive, ht, hsub⟩
    refine ⟨hconn, hactive, (Event.admits_tenant htenant).2 ht, ?_⟩
    rw [channelCategory_channelKey hname, hmember, hmember]
    exact hsub

/-- What serving everyone comes to when every queue has room. -/
lemma WellFormed.enqueued {r : SSEEventRouter} (h : r.WellFormed) {category : String}
    {t : TenantId} {e : Event} (hname : ¬ "channel:".toList <:+: category.toList)
    (htenant : e.message.getD "tenant_id" .null = .str t.val)
    (room : ∀ clientId conn, r.connections clientId = some conn →
      conn.queue.length < QUEUE_MAXSIZE) {result : Dispatch × SSEEventRouter}
    (served : r.Served (RedisKeys.channelKey category) e result) :
    r.Enqueued category t e.frame result.2 where
  once := by
    intro clientId conn hconn follows
    obtain ⟨conn', hsend, hconn'⟩ := served.delivered clientId conn
      ((h.matches_iff hname htenant hconn).2 follows) (room clientId conn hconn)
    rw [SSEConnection.sendEvent_eq_some hsend] at hconn'
    exact ⟨_, hconn', rfl⟩
  others := by
    intro clientId conn hconn hnot
    rw [served.others clientId ?_, hconn]
    intro conn₀ m
    have heq := m.registered
    rw [hconn] at heq
    cases heq
    exact hnot ((h.matches_iff hname htenant hconn).1 m)
  absent := by
    intro clientId hnone
    rw [served.others clientId ?_, hnone]
    intro conn m
    have heq := m.registered
    rw [hnone] at heq
    cases heq

/-- In every reachable registry a client is in a subscription set exactly if its connection is
registered for the category, no set is empty, and a message that finds room in all queues ends up
once in the queue of each connection that follows its category and nowhere else, whatever the order
of iteration. -/
theorem registered_and_dispatched {r : SSEEventRouter} (reachable : Reachable Calls .init r) :
    (∀ category clientId, clientId ∈ r.subscriptions.members category ↔
      ∃ conn, r.connections clientId = some conn ∧ category ∈ conn.categories) ∧
    (∀ category s, r.subscriptions.index category = some s → r.subscriptions.sets s ≠ ∅) ∧
    ∀ (category : String) (t : TenantId) (e : Event) (route : Route)
      (first : Order (r.subscriptions.members (channelCategory (RedisKeys.channelKey category))))
      (second : Order (r.subscriptions.members "all")),
      ¬ "channel:".toList <:+: category.toList →
      e.message.getD "tenant_id" .null = .str t.val →
      (∀ clientId conn, r.connections clientId = some conn → conn.queue.length < QUEUE_MAXSIZE) →
      let result := r.onRedisMessage route (RedisKeys.channelKey category) e first second
      result.1.waiting = none ∧ r.Enqueued category t e.frame result.2 := by
  have h := WellFormed.of_reachable reachable
  refine ⟨fun _ _ => h.consistent.mem_members, h.noneEmpty, ?_⟩
  intro category t e route first second hname htenant room
  have served := served_of_room r route (RedisKeys.channelKey category) e first second
    fun clientId conn m => room clientId conn m.registered
  exact ⟨served.completed.1, h.enqueued hname htenant room served⟩

/-- A client that lists both "finance" and "all" is in both passes and gets the message once. -/
theorem both_passes_once :
    ∃ (r r' : SSEEventRouter) (e : Event) (conn conn' : SSEConnection),
      r.connections "both" = some conn ∧ conn.categories = ["finance", "all"] ∧
      r'.connections "both" = some conn' ∧ conn'.queue = [e.frame] := by
  let t : TenantId := ⟨"3f0c7a52-6f0e-4c39-9d0a-5a4f0b6a1d11", by decide⟩
  let p : PushEvent :=
    { process := .other 0, category := "finance", eventType := .ITEM_UPDATE, data := .obj [],
      tenantId := t, second := 1787652000, counter := 1,
      publishedAt := ⟨2026, 8, 25, 10, 0, 0, 0, by decide, by decide, by decide, by decide,
        by decide, by decide, by decide⟩ }
  let e : Event := ⟨0, .pushed p⟩
  let r : SSEEventRouter := SSEEventRouter.init.register "both" ["finance", "all"] t
  have hconn : r.connections "both" = some (.new ["finance", "all"] t) := by
    simp [r, register]
  have hall : ∀ clientId conn, r.connections clientId = some conn →
      clientId = "both" ∧ conn = .new ["finance", "all"] t := by
    intro clientId conn h
    obtain ⟨hid, rfl⟩ | ⟨_, h⟩ := register_eq_some h
    · exact ⟨hid, rfl⟩
    · cases h
  have hmembers : ∀ category ∈ ["finance", "all"], r.subscriptions.members category = {"both"} := by
    intro category hc
    simp only [r, register, Subscriptions.members_foldl_add, if_pos hc]
    rfl
  have hfinance : channelCategory (RedisKeys.channelKey "finance") = "finance" := by decide
  let first : Order (r.subscriptions.members (channelCategory (RedisKeys.channelKey "finance"))) :=
    ⟨["both"], by decide, by rw [hfinance, hmembers _ (by decide)]; simp⟩
  let second : Order (r.subscriptions.members "all") :=
    ⟨["both"], by decide, by rw [hmembers _ (by decide)]; simp⟩
  have result := (registered_and_dispatched (r := r) (Reachable.refl.step (.register rfl))).2.2
    "finance" t e .listener first second (by decide) rfl (by
      intro clientId conn h
      rw [(hall clientId conn h).2]
      decide)
  obtain ⟨conn', hconn', hqueue⟩ := result.2.once hconn ⟨rfl, rfl, .inl (by decide)⟩
  exact ⟨r, _, e, _, conn', hconn, rfl, hconn', hqueue⟩

end SSEEventRouter

end InstantBoard.Sse
