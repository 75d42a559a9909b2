import InstantBoard.Lib.Pool
import InstantBoard.Sse.Received

/-!
# Live delivery

How many copies of a publication reach the queue of a client that stays registered. What a client
has received of a publication and what is still owed to it (by the publisher's task, the listener's
inbox and the dispatches) is conserved by every step while Redis is up (`Step.balance`): a
publication that `push_event` makes is due once for every route to the router that it takes, and
the direct call and the listener are two routes.
-/

namespace InstantBoard.Sse

open Transition

/-- A registered client. -/
structure Client where
  id : String
  categories : List String
  tenantId : TenantId

/-- The client is registered as given. -/
def SSEEventRouter.HoldsClient (r : SSEEventRouter) (c : Client) : Prop :=
  r.Holds c.id c.categories c.tenantId

/-! ## What is due -/

/-- The category the dispatch of a publication looks up. -/
def Event.category (e : Event) : String := channelCategory e.channel

/-- The client is to receive the publication from a dispatch: its tenant is admitted and it is
subscribed to the category or to "all". -/
def Event.reaches (e : Event) (c : Client) : Bool :=
  e.admits c.tenantId && (decide (e.category ∈ c.categories) || decide ("all" ∈ c.categories))

/-- The routes a publication takes to the router: the direct call of a `push_event` in this
process, and the listener. -/
def Event.routes (e : Event) : Nat :=
  e.isLocal.toNat + (decide (e.channel ∈ LISTENED)).toNat

/-- A lifecycle notice goes out on a channel the listener has. -/
lemma Event.listened_notice {e : Event} {m : LifecycleNotice} (h : e.body = .notice m) :
    e.channel ∈ LISTENED := by
  have hd : RedisKeys.channelKey "dashboard" ∈ LISTENED := by decide
  simpa [Event.channel, h, Body.channel] using hd

/-- The listener is the only route of a lifecycle notice. -/
lemma Event.routes_notice {e : Event} {m : LifecycleNotice} (h : e.body = .notice m) :
    e.routes = 1 := by
  simp [Event.routes, Event.listened_notice h, Event.isLocal, h, Body.pushed?]

/-- What a task still owes the client of the publication `n`. -/
def PushTask.owes (c : Client) (n : Nat) : PushTask → Nat
  | .publishing e => if e.seq = n then e.routes * (e.reaches c).toNat else 0
  | .directing e => if e.seq = n then (e.reaches c).toNat else 0
  | _ => 0

/-- What the listener owes for a publication in its inbox. -/
def Event.owes (e : Event) (c : Client) (n : Nat) : Nat :=
  if e.seq = n then (e.reaches c).toNat else 0

/-- The puts that the loops of a dispatch have still to come: a pending visit, and a visit of the
second loop. -/
def Dispatch.toVisit (d : Dispatch) (r : SSEEventRouter) (c : Client) : Nat :=
  if d.event.admits c.tenantId then
    match d.loop with
    | .subscribers => (if c.id ∈ d.pending then 1 else 0) +
        if "all" ∈ c.categories ∧ c.id ∉ d.members r then 1 else 0
    | .allSubscribers => if c.id ∈ d.pending ∧ c.id ∉ d.members r then 1 else 0
  else 0

/-- What a dispatch owes: the put it waits in and those to come. -/
def Dispatch.rest (d : Dispatch) (r : SSEEventRouter) (c : Client) : Nat :=
  (if d.waiting = some c.id then 1 else 0) + d.toVisit r c

/-- What a dispatch owes the client of the publication `n`. -/
def Dispatch.owes (d : Dispatch) (r : SSEEventRouter) (c : Client) (n : Nat) : Nat :=
  if d.event.seq = n then d.rest r c else 0

/-- What the client has received of the publication `n`. -/
def SSEEventRouter.copies (r : SSEEventRouter) (cid : String) (n : Nat) : Nat :=
  match r.connections cid with
  | some conn => conn.copies n
  | none => 0

namespace World

/-- What is still owed to the client of the publication `n`. -/
def owed (w : World) (c : Client) (n : Nat) : Nat :=
  Pool.weigh (PushTask.owes c n) w.pushes + Pool.weigh (·.owes c n) w.inbox +
    Pool.weigh (·.owes w.router c n) w.dispatches

/-- What was due to the client of the publication `n` when it was published. -/
def due (w : World) (c : Client) (n : Nat) : Nat :=
  match w.log[n]? with
  | some e => e.routes * (e.reaches c).toNat
  | none => 0

/-- What the client has received together with what it is owed. -/
def balance (w : World) (c : Client) (n : Nat) : Nat :=
  w.router.copies c.id n + w.owed c n

end World

/-! ## One dispatch -/

/-- A dispatch looks at the registry only to ask whether the client is in the set it holds. -/
lemma Dispatch.rest_congr {d : Dispatch} {r r' : SSEEventRouter} {c : Client}
    (h : ∀ s, c.id ∈ r'.subscriptions.sets s ↔ c.id ∈ r.subscriptions.sets s) :
    d.rest r' c = d.rest r c := by
  have hm : c.id ∈ d.members r' ↔ c.id ∈ d.members r := by
    unfold Dispatch.members
    cases d.subscribers with
    | none => rfl
    | some s => exact h s
  unfold Dispatch.rest Dispatch.toVisit
  simp only [hm]

/-- A message is dispatched to a client once. -/
lemma Dispatch.rest_start {r : SSEEventRouter} (hr : r.Consistent) {c : Client}
    (hc : r.HoldsClient c) (route : Route) (e : Event) :
    (Dispatch.start r route e.channel e).rest r c = (e.reaches c).toNat := by
  obtain ⟨conn, hconn, hfor⟩ := hc
  have hmem : c.id ∈ r.subscriptions.members e.category ↔ e.category ∈ c.categories := by
    rw [hr.mem_members, ← hfor.categories]
    simp [hconn]
  have hview : (Dispatch.start r route e.channel e).members r
      = r.subscriptions.members e.category := rfl
  have hpending : (Dispatch.start r route e.channel e).pending
      = r.subscriptions.members e.category := rfl
  have hwaiting : (Dispatch.start r route e.channel e).waiting = none := rfl
  unfold Dispatch.rest Dispatch.toVisit
  rw [hview, hpending, hwaiting]
  simp only [hmem, Dispatch.start, Event.reaches]
  by_cases ha : e.admits c.tenantId = true <;> by_cases h₁ : e.category ∈ c.categories <;>
    by_cases h₂ : "all" ∈ c.categories <;> simp [ha, h₁, h₂]

/-- The second loop owes what the first one still had to come. -/
lemma Dispatch.rest_secondLoop {d : Dispatch} {r : SSEEventRouter} (hr : r.Consistent)
    {c : Client} (hc : r.HoldsClient c) (hw : d.waiting = none) (hp : d.pending = ∅)
    (hl : d.loop = .subscribers) : (d.secondLoop r).rest r c = d.rest r c := by
  obtain ⟨conn, hconn, hfor⟩ := hc
  have hmem : c.id ∈ r.subscriptions.members "all" ↔ "all" ∈ c.categories := by
    rw [hr.mem_members, ← hfor.categories]
    simp [hconn]
  have hview : (d.secondLoop r).members r = d.members r := rfl
  unfold Dispatch.rest Dispatch.toVisit
  rw [hview]
  simp only [Dispatch.secondLoop, hw, hp, hl, hmem, Finset.notMem_empty, if_false]
  simp

/-- A dispatch that is done owes nothing. -/
lemma Dispatch.rest_done {d : Dispatch} {r : SSEEventRouter} {c : Client} (hw : d.waiting = none)
    (hp : d.pending = ∅) (hl : d.loop = .allSubscribers) : d.rest r c = 0 := by
  simp [Dispatch.rest, Dispatch.toVisit, hw, hp, hl]

/-- What a put adds to the copies of its own message. -/
lemma SSEConnection.copies_sendEvent {conn conn' : SSEConnection} {e : Event} (n : Nat)
    (h : conn.sendEvent e.frame = some conn') :
    conn'.copies n = conn.copies n + if e.seq = n then 1 else 0 := by
  rw [SSEConnection.sendEvent_eq_some h]
  simp only [SSEConnection.copies, List.countP_append, List.countP_singleton, Event.frame,
    Option.any_some, beq_iff_eq]

/-- The copies in the queues after one connection is set. -/
lemma SSEEventRouter.copies_setConnection (r : SSEEventRouter) (cid cid' : String)
    (conn : SSEConnection) (n : Nat) :
    (r.setConnection cid' (some conn)).copies cid n =
      if cid = cid' then conn.copies n else r.copies cid n := by
  by_cases h : cid = cid' <;> simp [SSEEventRouter.copies, SSEEventRouter.setConnection, h]

/-- A change of a connection that brings no copy brings nobody one. -/
lemma SSEEventRouter.copies_setConnection_of_eq {r : SSEEventRouter} {cid' : String}
    {conn conn' : SSEConnection} {n : Nat} (hconn : r.connections cid' = some conn)
    (h : conn'.copies n = conn.copies n) (cid : String) :
    (r.setConnection cid' (some conn')).copies cid n = r.copies cid n := by
  rw [SSEEventRouter.copies_setConnection]
  split
  next heq =>
    rw [h, heq]
    simp [SSEEventRouter.copies, hconn]
  next => rfl

/-- A pending visit counts exactly when the iteration accepts the client. -/
lemma Dispatch.rest_erase {d : Dispatch} {r : SSEEventRouter} {c : Client} (hp : c.id ∈ d.pending) :
    d.rest r c = Dispatch.rest { d with pending := d.pending.erase c.id } r c +
      (d.event.admits c.tenantId && d.selects r c.id).toNat := by
  have hview : Dispatch.members { d with pending := d.pending.erase c.id } r = d.members r := rfl
  unfold Dispatch.rest Dispatch.toVisit
  rw [hview]
  cases ha : d.event.admits c.tenantId
  · simp
  · cases hl : d.loop
    · simp [Dispatch.selects, hl, hp]
      omega
    · by_cases hm : c.id ∈ d.members r <;> simp [Dispatch.selects, hl, hp, hm]

/-- Erasing another client from the pending ones, and waiting for another client, owes the same. -/
lemma Dispatch.rest_other {d : Dispatch} {c : Client} {cid : String} (hne : cid ≠ c.id)
    (hd : d.waiting = none) {r r' : SSEEventRouter}
    (h : ∀ s, c.id ∈ r'.subscriptions.sets s ↔ c.id ∈ r.subscriptions.sets s)
    {waiting : Option String} (hw : waiting ≠ some c.id) :
    Dispatch.rest { d with pending := d.pending.erase cid, waiting := waiting } r' c =
      d.rest r c := by
  rw [Dispatch.rest_congr h]
  have hview : Dispatch.members { d with pending := d.pending.erase cid, waiting := waiting } r
      = d.members r := rfl
  unfold Dispatch.rest Dispatch.toVisit
  rw [hview]
  simp [hd, hw, Ne.symm hne]

/-- A visit moves what the client is owed into its queue, or leaves both alone. -/
lemma Dispatch.visit_balance {d : Dispatch} {r : SSEEventRouter} (hr : r.Consistent) {c : Client}
    (hc : r.HoldsClient c) {cid : String} (hw : d.waiting = none) (hp : cid ∈ d.pending) (n : Nat) :
    (d.visit r cid).2.copies c.id n + (d.visit r cid).1.owes (d.visit r cid).2 c n =
      r.copies c.id n + d.owes r c n := by
  obtain ⟨held, hheld, hfor⟩ := hc
  by_cases hcid : cid = c.id
  · subst hcid
    have hcopies : r.copies c.id n = held.copies n := by simp [SSEEventRouter.copies, hheld]
    have herase := Dispatch.rest_erase (r := r) hp
    rcases d.visit_cases r c.id with ⟨hv, hno⟩ | ⟨conn, conn', hconn, ha, hs, hv⟩ |
      ⟨conn, hconn, ha, hv⟩
    · -- not accepted: another tenant, or already served by the first loop
      have hnot : (d.event.admits c.tenantId && d.selects r c.id) = false := by
        rw [Bool.eq_false_iff]
        intro h
        rw [Bool.and_eq_true] at h
        exact hno held hheld ⟨hr.active hheld, by rw [hfor.tenantId]; exact h.1, h.2⟩
      rw [hnot] at herase
      rw [hv]
      simp only [Dispatch.owes, herase, Bool.toNat_false, Nat.add_zero]
    · rw [hheld] at hconn
      cases hconn
      obtain ⟨_, hadm, hsel⟩ := ha
      rw [hfor.tenantId] at hadm
      rw [hadm, hsel] at herase
      have hput := SSEConnection.copies_sendEvent n hs
      have hcong : Dispatch.rest { d with pending := d.pending.erase c.id }
          (r.setConnection c.id (some conn')) c =
          Dispatch.rest { d with pending := d.pending.erase c.id } r c :=
        Dispatch.rest_congr fun _ => Iff.rfl
      rw [hv]
      simp only [Dispatch.owes, SSEEventRouter.copies_setConnection, if_true, hcong, hput, hcopies,
        herase, Bool.and_self, Bool.toNat_true]
      split <;> omega
    · rw [hheld] at hconn
      cases hconn
      obtain ⟨_, hadm, hsel⟩ := ha
      rw [hfor.tenantId] at hadm
      rw [hadm, hsel] at herase
      have hwait : Dispatch.rest { d with
          pending := d.pending.erase c.id
          waiting := some c.id } r c =
          Dispatch.rest { d with pending := d.pending.erase c.id } r c + 1 := by
        have hsame : Dispatch.toVisit { d with
            pending := d.pending.erase c.id
            waiting := some c.id } r c =
            Dispatch.toVisit { d with pending := d.pending.erase c.id } r c := rfl
        simp only [Dispatch.rest, hsame, hw, reduceCtorEq, if_true, if_false]
        omega
      rw [hv]
      simp only [Dispatch.owes, hwait, herase, Bool.and_self, Bool.toNat_true]
  · have hwc : (some cid : Option String) ≠ some c.id := fun h => hcid (Option.some.inj h)
    rcases d.visit_cases r cid with ⟨hv, _⟩ | ⟨conn, conn', _, _, _, hv⟩ | ⟨conn, _, _, hv⟩
    · have hrest : Dispatch.rest { d with pending := d.pending.erase cid, waiting := none } r c =
          d.rest r c := Dispatch.rest_other hcid hw (fun _ => Iff.rfl) (by simp)
      rw [hv]
      simp only [Dispatch.owes]
      rw [← hrest, hw]
    · have hrest : Dispatch.rest { d with pending := d.pending.erase cid, waiting := none }
          (r.setConnection cid (some conn')) c = d.rest r c :=
        Dispatch.rest_other hcid hw (fun _ => Iff.rfl) (by simp)
      rw [hv]
      simp only [Dispatch.owes, SSEEventRouter.copies_setConnection, if_neg (Ne.symm hcid)]
      rw [← hrest, hw]
    · have hrest : Dispatch.rest { d with pending := d.pending.erase cid, waiting := some cid } r c =
          d.rest r c := Dispatch.rest_other hcid hw (fun _ => Iff.rfl) hwc
      rw [hv]
      simp only [Dispatch.owes]
      rw [hrest]

/-- The end of a wait moves one copy into the queue waited for. -/
lemma Dispatch.resume_balance {d d' : Dispatch} {r r' : SSEEventRouter} {c : Client}
    (h : d.resume r = some (d', r')) (n : Nat) :
    r'.copies c.id n + d'.owes r' c n = r.copies c.id n + d.owes r c n := by
  obtain ⟨cid, conn, conn', hw, hc, hs, rfl, rfl⟩ := Dispatch.resume_eq_some h
  have hcong : Dispatch.rest { d with waiting := none } (r.setConnection cid (some conn')) c =
      Dispatch.rest { d with waiting := none } r c :=
    Dispatch.rest_congr fun _ => Iff.rfl
  have hput := SSEConnection.copies_sendEvent n hs
  have hrest : d.rest r c = Dispatch.rest { d with waiting := none } r c +
      if cid = c.id then 1 else 0 := by
    have hsame : Dispatch.toVisit { d with waiting := none } r c = d.toVisit r c := rfl
    simp only [Dispatch.rest, hsame, hw, Option.some.injEq, reduceCtorEq, if_false]
    omega
  simp only [Dispatch.owes, hcong, hrest, SSEEventRouter.copies_setConnection]
  by_cases hcid : c.id = cid
  · subst hcid
    have hcopies : r.copies c.id n = conn.copies n := by simp [SSEEventRouter.copies, hc]
    simp only [if_true, hput, hcopies]
    split <;> omega
  · simp only [if_neg hcid, if_neg (Ne.symm hcid), Nat.add_zero]

/-! ## One step -/

/-- The publish of `push_event` reaches Redis. -/
def Label.RedisUp : Label → Prop
  | .publish _ up => up = true
  | _ => True

/-- The request of the client does not end. -/
def Label.Keeps (cid : String) : Label → Prop
  | .exit cid' => cid' ≠ cid
  | _ => True

/-- Replacing a connection object by one of the same owner keeps every client. -/
lemma SSEEventRouter.HoldsClient.setConnection {r : SSEEventRouter} {c : Client}
    (hc : r.HoldsClient c) {cid : String} {conn conn' : SSEConnection}
    (h : r.connections cid = some conn) (hfor : conn'.For conn.categories conn.tenantId) :
    (r.setConnection cid (some conn')).HoldsClient c := by
  obtain ⟨held, hheld, hfor'⟩ := hc
  by_cases hcid : c.id = cid
  · subst hcid
    rw [hheld] at h
    cases h
    refine ⟨conn', by simp [SSEEventRouter.setConnection], ?_⟩
    exact ⟨hfor.categories.trans hfor'.categories, hfor.tenantId.trans hfor'.tenantId⟩
  · exact ⟨held, by simp [SSEEventRouter.setConnection, hcid, hheld], hfor'⟩

/-- A client depends on its own entry of the registry only. -/
lemma SSEEventRouter.HoldsClient.congr {r r' : SSEEventRouter} {c : Client} (hc : r.HoldsClient c)
    (h : r'.connections c.id = r.connections c.id) : r'.HoldsClient c := by
  unfold SSEEventRouter.HoldsClient SSEEventRouter.Holds at *
  rwa [h]

/-- A registered client id is not new. -/
lemma SSEEventRouter.HoldsClient.ne_of_fresh {w : World} {c : Client}
    (hc : w.router.HoldsClient c) {cid : String} (hf : w.Fresh cid) : c.id ≠ cid := by
  rintro rfl
  obtain ⟨conn, hconn, _⟩ := hc
  rw [hf.1] at hconn
  cases hconn

/-- A client stays registered as long as its request does not end. -/
lemma Step.holdsClient {w w' : World} {l : Label} (h : Step w l w') {c : Client}
    (hl : l.Keeps c.id) (hc : w.router.HoldsClient c) : w'.router.HoldsClient c := by
  have hput : ∀ {cid conn conn' f}, w.router.connections cid = some conn →
      conn.sendEvent f = some conn' → (w.router.setConnection cid (some conn')).HoldsClient c := by
    intro cid conn conn' f hconn hs
    have heq := SSEConnection.sendEvent_eq_some hs
    exact hc.setConnection hconn ⟨by rw [heq], by rw [heq]⟩
  cases h
  case visit i d cid hi _ _ =>
    rcases d.visit_cases w.router cid with ⟨hv, _⟩ | ⟨_, _, hconn, _, hs, hv⟩ | ⟨_, _, _, hv⟩
    · rw [hv]
      exact hc
    · rw [hv]
      exact hput hconn hs
    · rw [hv]
      exact hc
  case resume i d d' r hi hr =>
    obtain ⟨cid, conn, conn', _, hconn, hs, _, rfl⟩ := Dispatch.resume_eq_some hr
    exact hput hconn hs
  case heartbeat hconn _ hs => exact hput hconn hs
  case register hf =>
    exact hc.congr (SSEEventRouter.connections_register_of_ne (hc.ne_of_fresh hf) _ _ _)
  case connect hf _ =>
    exact hc.congr (SSEEventRouter.connections_register_of_ne (hc.ne_of_fresh hf) _ _ _)
  case get hs _ _ hconn _ => exact hc.setConnection hconn ⟨rfl, rfl⟩
  case exit cid s _ _ =>
    refine hc.congr ?_
    simp only [World.exit]
    split
    · rw [SSEEventRouter.connections_unregister, if_neg (Ne.symm hl)]
    · rfl
  all_goals exact hc

/-- Only the sets a dispatch holds matter to what it owes. -/
lemma World.weigh_dispatches_congr {r r' : SSEEventRouter} {c : Client}
    (h : ∀ s, c.id ∈ r'.subscriptions.sets s ↔ c.id ∈ r.subscriptions.sets s)
    (ds : List Dispatch) (n : Nat) :
    Pool.weigh (·.owes r' c n) ds = Pool.weigh (·.owes r c n) ds := by
  refine Pool.weigh_congr fun d _ => ?_
  simp only [Dispatch.owes, Dispatch.rest_congr h]

/-- Only the sets a dispatch holds matter to what it owes. -/
lemma Dispatch.owes_congr {r r' : SSEEventRouter} {c : Client}
    (h : ∀ s, c.id ∈ r'.subscriptions.sets s ↔ c.id ∈ r.subscriptions.sets s) (d : Dispatch)
    (n : Nat) : d.owes r' c n = d.owes r c n := by
  simp only [Dispatch.owes, Dispatch.rest_congr h]

/-- A dispatch does not touch the subscriptions. -/
lemma Dispatch.visit_subscriptions (d : Dispatch) (r : SSEEventRouter) (cid : String) :
    (d.visit r cid).2.subscriptions = r.subscriptions := by
  rcases d.visit_cases r cid with ⟨h, _⟩ | ⟨_, _, _, _, _, h⟩ | ⟨_, _, _, h⟩ <;> rw [h]
  rfl

/-- A dispatch that trades what it owes for copies keeps the balance. -/
lemma World.balance_setDispatch {w : World} {c : Client} {n i : Nat} {d d' : Dispatch}
    {r : SSEEventRouter} (hi : w.dispatches[i]? = some d)
    (hsets : r.subscriptions = w.router.subscriptions)
    (h : r.copies c.id n + d'.owes r c n = w.router.copies c.id n + d.owes w.router c n) :
    (w.setDispatch i d' r).balance c n = w.balance c n := by
  have hview : ∀ s, c.id ∈ r.subscriptions.sets s ↔ c.id ∈ w.router.subscriptions.sets s := by
    intro s
    rw [hsets]
  have hset := Pool.weigh_set (f := fun d : Dispatch => d.owes r c n) (y := d') hi
  rw [World.weigh_dispatches_congr hview w.dispatches n] at hset
  simp only [Dispatch.owes_congr hview d n] at hset
  simp only [World.balance, World.owed, World.setDispatch]
  omega

/-- A change of the registry that leaves the client's copies and its place in the sets alone keeps
the balance. -/
lemma World.balance_router {w w' : World} {c : Client} {n : Nat} (hp : w'.pushes = w.pushes)
    (hi : w'.inbox = w.inbox) (hd : w'.dispatches = w.dispatches)
    (hview : ∀ s, c.id ∈ w'.router.subscriptions.sets s ↔ c.id ∈ w.router.subscriptions.sets s)
    (hcopies : w'.router.copies c.id n = w.router.copies c.id n) :
    w'.balance c n = w.balance c n := by
  simp only [World.balance, World.owed, hp, hi, hd, hcopies,
    World.weigh_dispatches_congr hview w.dispatches n]

/-- A publish turns the publisher's debt into that of its direct call and the listener's. -/
lemma World.balance_publish {w : World} {i : Nat} {e : Event}
    (hi : w.pushes[i]? = some (.publishing e)) (c : Client) (n : Nat) :
    (w.publish i e true).balance c n = w.balance c n := by
  have hset := Pool.weigh_set (f := PushTask.owes c n) (y := .directing e) hi
  have herase := Pool.weigh_eraseIdx (f := PushTask.owes c n) hi
  simp only [PushTask.owes, Event.routes] at hset herase
  simp only [World.balance, World.owed, World.publish, World.deliver, Bool.true_and]
  by_cases hloc : e.isLocal = true <;> by_cases hlis : e.channel ∈ LISTENED <;>
    by_cases hn : e.seq = n <;>
    simp only [hloc, hlis, hn, decide_true, decide_false, Bool.toNat_true, Bool.toNat_false,
      if_true, if_false, Bool.false_eq_true, Pool.weigh_append, Pool.weigh_cons, Pool.weigh_nil,
      Event.owes] at hset herase ⊢ <;>
    omega

/-- What a new publication makes due. -/
lemma World.due_append {w w' : World} {b : Body}
    (h : w'.log = w.log ++ [⟨w.log.length, b⟩]) (c : Client) (n : Nat) :
    w'.due c n = w.due c n + if w.log.length = n then
      (⟨w.log.length, b⟩ : Event).routes * ((⟨w.log.length, b⟩ : Event).reaches c).toNat else 0 := by
  unfold World.due
  rw [h]
  by_cases hn : w.log.length = n
  · subst hn
    simp
  · by_cases hlt : n < w.log.length
    · rw [List.getElem?_append_left hlt, if_neg hn, Nat.add_zero]
    · have h₁ : w.log[n]? = none := List.getElem?_eq_none (by omega)
      have h₂ : (w.log ++ [⟨w.log.length, b⟩])[n]? = none :=
        List.getElem?_eq_none (by simp; omega)
      rw [h₁, h₂, if_neg hn]

/-- A notice comes due when it is published. -/
lemma World.balance_announce {w : World} {i : Nat} {m : LifecycleNotice}
    (hi : w.pushes[i]? = some (.announcing m)) (up : Bool) (c : Client) (n : Nat) :
    (w.announce i m up).balance c n + w.due c n = w.balance c n + (w.announce i m up).due c n := by
  have herase := Pool.weigh_eraseIdx (f := PushTask.owes c n) hi
  simp only [PushTask.owes] at herase
  cases up with
  | false =>
    have hdue : (w.announce i m false).due c n = w.due c n := rfl
    rw [hdue]
    simp only [World.balance, World.owed, World.announce, World.deliver, Bool.false_and,
      Bool.false_eq_true, if_false]
    omega
  | true =>
    have hdue : (w.announce i m true).due c n = _ := World.due_append rfl c n
    have hlis := Event.listened_notice (e := ⟨w.log.length, .notice m⟩) rfl
    have hroutes := Event.routes_notice (e := ⟨w.log.length, .notice m⟩) rfl
    rw [hdue, hroutes, Nat.one_mul]
    simp only [World.balance, World.owed, World.announce, World.deliver, Bool.true_and, hlis,
      decide_true, if_true, Pool.weigh_append, Pool.weigh_cons, Pool.weigh_nil, Event.owes]
    omega

/-- A new registration leaves the other clients what they have. -/
lemma SSEEventRouter.copies_register_of_ne {r : SSEEventRouter} {cid cid' : String}
    (hne : cid ≠ cid') (categories : List String) (tenantId : TenantId) (n : Nat) :
    (r.register cid' categories tenantId).copies cid n = r.copies cid n := by
  simp only [SSEEventRouter.copies, SSEEventRouter.connections_register_of_ne hne]

/-- What a client has received and is owed changes in a step by what becomes due in it. -/
theorem Step.balance {w w' : World} {l : Label} (h : Step w l w') (ha : w.Attached) {c : Client}
    (hup : l.RedisUp) (hl : l.Keeps c.id) (hc : w.router.HoldsClient c) (n : Nat) :
    w'.balance c n + w.due c n = w.balance c n + w'.due c n := by
  cases h
  case push p hp =>
    simp only [World.balance, World.owed, World.due, World.push, Pool.weigh_append,
      Pool.weigh_cons, Pool.weigh_nil, PushTask.owes]
    omega
  case store i p up hi =>
    have hset := Pool.weigh_set (f := PushTask.owes c n)
      (y := .publishing ⟨w.log.length, .pushed p⟩) hi
    have hdue : (w.store i p up).due c n = _ := World.due_append rfl c n
    simp only [PushTask.owes] at hset
    rw [hdue]
    simp only [World.balance, World.owed, World.store]
    omega
  case publish i e up hi =>
    have hup : up = true := hup
    subst hup
    rw [World.balance_publish hi]
    rfl
  case announce i m up hi =>
    exact World.balance_announce hi up c n
  case direct i e hi =>
    have herase := Pool.weigh_eraseIdx (f := PushTask.owes c n) hi
    have hstart := Dispatch.rest_start ha.consistent hc .direct e
    have hevent : (Dispatch.start w.router .direct e.channel e).event = e := rfl
    simp only [PushTask.owes] at herase
    simp only [World.balance, World.owed, World.due, World.direct, World.dispatch,
      Pool.weigh_append, Pool.weigh_cons, Pool.weigh_nil, Dispatch.owes, hstart, hevent]
    omega
  case take k e hk hfirst hidle =>
    have herase := Pool.weigh_eraseIdx (f := fun e : Event => e.owes c n) hk
    have hstart := Dispatch.rest_start ha.consistent hc .listener e
    have hevent : (Dispatch.start w.router .listener e.channel e).event = e := rfl
    have howes : e.owes c n = if e.seq = n then (e.reaches c).toNat else 0 := rfl
    rw [howes] at herase
    simp only [World.balance, World.owed, World.due, World.take, World.dispatch,
      Pool.weigh_append, Pool.weigh_cons, Pool.weigh_nil, Dispatch.owes, hstart, hevent]
    omega
  case visit i d cid hi hw hp =>
    have hvisit := Dispatch.visit_balance ha.consistent hc hw hp n
    rw [World.balance_setDispatch hi (d.visit_subscriptions w.router cid) hvisit]
    rfl
  case resume i d d' r hi hres =>
    have hresume := Dispatch.resume_balance (c := c) hres n
    have hsub : r.subscriptions = w.router.subscriptions := by
      obtain ⟨cid, conn, conn', _, _, _, _, hr⟩ := Dispatch.resume_eq_some hres
      rw [hr]
      rfl
    rw [World.balance_setDispatch hi hsub hresume]
    rfl
  case secondLoop i d hi hw hp hloop =>
    have hrest := Dispatch.rest_secondLoop ha.consistent hc hw hp hloop
    have hevent : (d.secondLoop w.router).event = d.event := rfl
    have howes : (d.secondLoop w.router).owes w.router c n = d.owes w.router c n := by
      simp only [Dispatch.owes, hrest, hevent]
    rw [World.balance_setDispatch hi rfl (by rw [howes])]
    rfl
  case finish i d hi hw hp hloop =>
    have herase := Pool.weigh_eraseIdx (f := fun d : Dispatch => d.owes w.router c n) hi
    simp only [Dispatch.owes, Dispatch.rest_done (r := w.router) (c := c) hw hp hloop] at herase
    simp only [World.balance, World.owed, World.due, World.dropDispatch, Dispatch.owes]
    split at herase <;> omega
  case heartbeat cid conn conn' now hconn hact hs =>
    have hsame : conn'.copies n = conn.copies n := by
      rw [SSEConnection.sendEvent_eq_some hs]
      simp [SSEConnection.copies, heartbeatEntry]
    have hbal : (w.setConnection cid conn').balance c n = w.balance c n :=
      World.balance_router rfl rfl rfl (fun _ => Iff.rfl)
        (SSEEventRouter.copies_setConnection_of_eq hconn hsame c.id)
    rw [hbal]
    rfl
  case admin req db notice _ =>
    cases notice <;> simp [World.balance, World.owed, World.due, World.administer, PushTask.owes]
  case register cid categories tenantId hf =>
    have hne := hc.ne_of_fresh hf
    have hbal : (w.register cid categories tenantId).balance c n = w.balance c n :=
      World.balance_router rfl rfl rfl
        (fun s => SSEEventRouter.mem_sets_register hne categories tenantId s)
        (SSEEventRouter.copies_register_of_ne hne categories tenantId n)
    rw [hbal]
    rfl
  case connect cid category raw channels tenantId lastEventId hf _ =>
    have hne := hc.ne_of_fresh hf
    have hbal : (w.connect cid category channels tenantId lastEventId).balance c n =
        w.balance c n :=
      World.balance_router rfl rfl rfl
        (fun s => SSEEventRouter.mem_sets_register hne _ tenantId s)
        (SSEEventRouter.copies_register_of_ne hne _ tenantId n)
    rw [hbal]
    rfl
  case get cid s conn f rest second hs ho hlive hconn hq =>
    have hsame : SSEConnection.copies { conn with queue := rest } n = conn.copies n := rfl
    have hbal : (w.get cid s conn f rest second).balance c n = w.balance c n :=
      World.balance_router rfl rfl rfl (fun _ => Iff.rfl)
        (SSEEventRouter.copies_setConnection_of_eq hconn hsame c.id)
    rw [hbal]
    rfl
  case exit cid s hs ho =>
    have hne : c.id ≠ cid := Ne.symm hl
    have hbal : (w.exit cid s).balance c n = w.balance c n := by
      refine World.balance_router rfl rfl rfl ?_ ?_
      · intro s'
        simp only [World.exit]
        split
        · exact SSEEventRouter.mem_sets_unregister hne s'
        · rfl
      · simp only [World.exit]
        split
        · simp only [SSEEventRouter.copies, SSEEventRouter.connections_unregister, if_neg hne]
        · rfl
    rw [hbal]
    rfl
  all_goals rfl

/-! ## Runs -/

/-- Over a run that the client stays for and in which publishes reach Redis, what it has received
and is owed changes by what becomes due. -/
theorem Steps.balance {w w' : World} {ls : List Label} (run : Steps Step w ls w')
    (ha : w.Attached) {c : Client} (hls : ∀ l ∈ ls, l.RedisUp ∧ l.Keeps c.id)
    (hc : w.router.HoldsClient c) :
    w'.router.HoldsClient c ∧ ∀ n, w'.balance c n + w.due c n = w.balance c n + w'.due c n := by
  have key := run.invariant_of
    (I := fun v => v.Attached ∧ v.router.HoldsClient c ∧
      ∀ n, v.balance c n + w.due c n = w.balance c n + v.due c n) ?_ hls ⟨ha, hc, fun _ => rfl⟩
  · exact key.2
  · rintro s l t ⟨hup, hkeeps⟩ ⟨hs, hcs, heq⟩ hstep
    refine ⟨hs.step hstep, hstep.holdsClient hkeeps hcs, ?_⟩
    intro n
    have := hstep.balance hs hup hkeeps hcs n
    have := heq n
    omega

/-- Nobody has received what is not published yet. -/
lemma World.ReceivedLogged.copies_new {w : World} (hw : w.ReceivedLogged) {n : Nat}
    (hn : w.log.length ≤ n) (cid : String) : w.router.copies cid n = 0 := by
  unfold SSEEventRouter.copies
  cases hc : w.router.connections cid with
  | none => rfl
  | some conn =>
    refine List.countP_eq_zero.2 ?_
    intro f hf hany
    obtain ⟨e, he, hseq⟩ := (Option.any_eq_true _ _).1 hany
    have hlt := (hw.logged hc hf he).lt
    rw [beq_iff_eq] at hseq
    omega

/-- An idle world owes nothing. -/
lemma World.Idle.owed {w : World} (h : w.Idle) (c : Client) (n : Nat) : w.owed c n = 0 := by
  simp [World.owed, h.pushes, h.inbox, h.dispatches]

/-- From an idle state to an idle state, a client that stays receives each new publication once for
every route it took. -/
theorem copies_of_idle {w w' : World} {ls : List Label} (hw : w.Reachable) (idle : w.Idle)
    (run : Steps Step w ls w') (idle' : w'.Idle) {c : Client}
    (hls : ∀ l ∈ ls, l.RedisUp ∧ l.Keeps c.id) (hc : w.router.HoldsClient c) {u : Event}
    (hu : Logged w'.log u) (hnew : w.log.length ≤ u.seq) :
    w'.router.copies c.id u.seq = u.routes * (u.reaches c).toNat := by
  have hbal := (Steps.balance run hw.attached hls hc).2 u.seq
  have hold : w.due c u.seq = 0 := by
    unfold World.due
    rw [List.getElem?_eq_none hnew]
  have hdue : w'.due c u.seq = u.routes * (u.reaches c).toNat := by
    unfold World.due
    rw [show w'.log[u.seq]? = some u from hu]
  have hnone := hw.receivedLogged.copies_new hnew c.id
  simp only [World.balance, idle.owed, idle'.owed, hold, hdue, hnone] at hbal
  omega

end InstantBoard.Sse
