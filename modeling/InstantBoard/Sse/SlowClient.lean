import InstantBoard.Sse.Router

/-!
# A slow client and the others

One call of `_on_redis_message` while no consumer takes a step. `send_event` means to drop the
event when a queue is full, but it awaits `queue.put`, which waits and never raises `QueueFull`: so
the first full queue in the order of iteration stops the call, and whoever comes after it gets
nothing (`slowClient_not_served`). The call serves everyone exactly when no matching connection has
a full queue (`served_iff`).
-/

namespace InstantBoard.Sse

/-- An order in which Python iterates over a copied set. -/
structure Order (s : Finset String) where
  clients : List String
  nodup : clients.Nodup
  mem_iff : ∀ {clientId}, clientId ∈ clients ↔ clientId ∈ s

namespace Dispatch

/-- The rest of a loop, up to its end or to a put that waits. -/
def visitAll : List String → Dispatch × SSEEventRouter → Dispatch × SSEEventRouter
  | [], s => s
  | clientId :: clients, (d, r) =>
    let s := d.visit r clientId
    if s.1.waiting.isSome then s else visitAll clients s

end Dispatch

namespace SSEEventRouter

/-- A call of `_on_redis_message` up to its end or to a put that waits. While nothing waits, no
other task runs in between. -/
def onRedisMessage (r : SSEEventRouter) (route : Route) (channel : String) (e : Event)
    (first : Order (r.subscriptions.members (channelCategory channel)))
    (second : Order (r.subscriptions.members "all")) : Dispatch × SSEEventRouter :=
  let s := Dispatch.visitAll first.clients (.start r route channel e, r)
  if s.1.waiting.isSome then s
  else Dispatch.visitAll second.clients (s.1.secondLoop s.2, s.2)

/-- A connection that the message is for. -/
structure Matches (r : SSEEventRouter) (channel : String) (e : Event) (clientId : String)
    (conn : SSEConnection) : Prop where
  registered : r.connections clientId = some conn
  active : conn.isActive = true
  admitted : e.admits conn.tenantId = true
  subscribed : clientId ∈ r.subscriptions.members (channelCategory channel) ∨
    clientId ∈ r.subscriptions.members "all"

/-- What the call should do: end, put the message in every matching queue that has room, and leave
the full queues and the other connections alone. -/
structure Served (r : SSEEventRouter) (channel : String) (e : Event)
    (result : Dispatch × SSEEventRouter) : Prop where
  completed : result.1.waiting = none ∧ result.1.loop = .allSubscribers ∧ result.1.pending = ∅
  delivered : ∀ clientId conn, r.Matches channel e clientId conn →
    conn.queue.length < QUEUE_MAXSIZE →
      ∃ conn', conn.sendEvent e.frame = some conn' ∧
        result.2.connections clientId = some conn'
  dropped : ∀ clientId conn, r.Matches channel e clientId conn →
    ¬ conn.queue.length < QUEUE_MAXSIZE → result.2.connections clientId = some conn
  others : ∀ clientId, (∀ conn, ¬ r.Matches channel e clientId conn) →
    result.2.connections clientId = r.connections clientId

end SSEEventRouter

/-! ## One iteration -/

/-- A connection takes an event while its queue has room. -/
lemma SSEConnection.sendEvent_isSome_iff (conn : SSEConnection) (f : Frame) :
    (conn.sendEvent f).isSome = true ↔ conn.queue.length < QUEUE_MAXSIZE := by
  unfold sendEvent
  split <;> simp [*]

namespace Dispatch

/-- What an iteration makes of its client's connection when it does not wait. -/
structure Visited (d : Dispatch) (r r' : SSEEventRouter) (clientId : String) : Prop where
  put : ∀ conn, r.connections clientId = some conn → d.Accepts r clientId conn →
    ∃ conn', conn.sendEvent d.event.frame = some conn' ∧
      r'.connections clientId = some conn'
  skip : (∀ conn, r.connections clientId = some conn → ¬ d.Accepts r clientId conn) →
    r'.connections clientId = r.connections clientId

/-- A client that is accepted gets the event. -/
lemma visit_of_accepts {d : Dispatch} {r : SSEEventRouter} {clientId : String}
    {conn conn' : SSEConnection} (hconn : r.connections clientId = some conn)
    (accepts : d.Accepts r clientId conn) (hsend : conn.sendEvent d.event.frame = some conn') :
    d.visit r clientId =
      ({ d with pending := d.pending.erase clientId }, r.setConnection clientId (some conn')) := by
  obtain ⟨hactive, hadmits, hselects⟩ := accepts
  have hselects : Dispatch.selects { d with pending := d.pending.erase clientId } r clientId = true :=
    hselects
  simp only [visit, hconn, hactive, hadmits, hselects, Bool.and_self, if_true, hsend]

/-- An iteration whose client has room, if it accepts, does not wait. -/
lemma visit_of_room {d : Dispatch} {r : SSEEventRouter} {clientId : String}
    (room : ∀ conn, r.connections clientId = some conn → d.Accepts r clientId conn →
      conn.queue.length < QUEUE_MAXSIZE) :
    ∃ r', d.visit r clientId = ({ d with pending := d.pending.erase clientId }, r') ∧
      r'.subscriptions = r.subscriptions ∧ d.Visited r r' clientId ∧
      ∀ x, x ≠ clientId → r'.connections x = r.connections x := by
  by_cases hacc : ∃ conn, r.connections clientId = some conn ∧ d.Accepts r clientId conn
  · obtain ⟨conn, hconn, accepts⟩ := hacc
    obtain ⟨conn', hsend⟩ := Option.isSome_iff_exists.1
      ((conn.sendEvent_isSome_iff d.event.frame).2 (room conn hconn accepts))
    refine ⟨_, visit_of_accepts hconn accepts hsend, rfl, ⟨?_, ?_⟩, ?_⟩
    · intro conn₀ hconn₀ _
      rw [hconn] at hconn₀
      cases hconn₀
      exact ⟨conn', hsend, by simp [SSEEventRouter.setConnection]⟩
    · intro rejects
      exact absurd accepts (rejects conn hconn)
    · intro x hx
      simp [SSEEventRouter.setConnection, hx]
  · have rejects : ∀ conn, r.connections clientId = some conn → ¬ d.Accepts r clientId conn :=
      fun conn hconn accepts => hacc ⟨conn, hconn, accepts⟩
    obtain ⟨hvisit, _⟩ | ⟨conn, _, hconn, accepts, _⟩ | ⟨conn, hconn, accepts, _⟩ :=
      d.visit_cases r clientId
    · exact ⟨r, hvisit, rfl, ⟨fun conn hconn accepts => absurd accepts (rejects conn hconn),
        fun _ => rfl⟩, fun _ _ => rfl⟩
    · exact absurd accepts (rejects conn hconn)
    · exact absurd accepts (rejects conn hconn)

/-! ## A loop -/

/-- A loop in which every accepted connection has room runs to its end. -/
lemma visitAll_of_room {clients : List String} {d : Dispatch} {r : SSEEventRouter}
    (hw : d.waiting = none) (nodup : clients.Nodup)
    (room : ∀ clientId ∈ clients, ∀ conn, r.connections clientId = some conn →
      d.Accepts r clientId conn → conn.queue.length < QUEUE_MAXSIZE) :
    ∃ r', visitAll clients (d, r) = ({ d with pending := d.pending \ clients.toFinset }, r') ∧
      r'.subscriptions = r.subscriptions ∧
      (∀ clientId ∈ clients, d.Visited r r' clientId) ∧
      ∀ clientId, clientId ∉ clients → r'.connections clientId = r.connections clientId := by
  induction clients generalizing d r with
  | nil => exact ⟨r, by simp [visitAll], rfl, by simp, fun _ _ => rfl⟩
  | cons c clients ih =>
    obtain ⟨hnotin, nodup⟩ := List.nodup_cons.1 nodup
    obtain ⟨r₁, hvisit, hsubs₁, hvisited₁, hsame₁⟩ := visit_of_room (room c List.mem_cons_self)
    have hne : ∀ x ∈ clients, x ≠ c := by
      rintro x hx rfl
      exact hnotin hx
    -- whom the rest of the loop accepts is read off the same sets
    have haccepts : ∀ x conn, Dispatch.Accepts { d with pending := d.pending.erase c } r₁ x conn ↔
        d.Accepts r x conn := by
      intro x conn
      simp only [Accepts, selects, members, hsubs₁]
      rfl
    obtain ⟨r', hrest, hsubs, hvisited, hothers⟩ :=
      ih (d := { d with pending := d.pending.erase c }) (r := r₁) hw nodup (by
        intro x hx conn hconn accepts
        rw [hsame₁ x (hne x hx)] at hconn
        exact room x (List.mem_cons_of_mem _ hx) conn hconn ((haccepts x conn).1 accepts))
    refine ⟨r', ?_, hsubs.trans hsubs₁, ?_, ?_⟩
    · have hpending : d.pending.erase c \ clients.toFinset =
          d.pending \ (c :: clients).toFinset := by
        ext x
        simp only [Finset.mem_sdiff, Finset.mem_erase, List.toFinset_cons, Finset.mem_insert]
        tauto
      unfold visitAll
      simp only [hvisit]
      rw [if_neg (by simp [hw]), hrest, hpending]
    · intro x hx
      rcases List.mem_cons.1 hx with rfl | hx
      · have hx' := hothers x hnotin
        constructor
        · intro conn hconn accepts
          rw [hx']
          exact hvisited₁.put conn hconn accepts
        · intro rejects
          rw [hx']
          exact hvisited₁.skip rejects
      · have hx' := hsame₁ x (hne x hx)
        constructor
        · intro conn hconn accepts
          exact (hvisited x hx).put conn (hx'.trans hconn) ((haccepts x conn).2 accepts)
        · intro rejects
          rw [← hx']
          apply (hvisited x hx).skip
          intro conn hconn accepts
          exact rejects conn (hx'.symm.trans hconn) ((haccepts x conn).1 accepts)
    · intro x hx
      rw [List.mem_cons, not_or] at hx
      rw [hothers x hx.2, hsame₁ x hx.1]

/-- A loop that comes to an accepted connection with a full queue waits. -/
lemma visitAll_of_full {clients : List String} {d : Dispatch} {r : SSEEventRouter}
    (nodup : clients.Nodup) {clientId : String} {conn : SSEConnection} (hmem : clientId ∈ clients)
    (hconn : r.connections clientId = some conn) (accepts : d.Accepts r clientId conn)
    (full : ¬ conn.queue.length < QUEUE_MAXSIZE) :
    (visitAll clients (d, r)).1.waiting.isSome = true := by
  induction clients generalizing d r with
  | nil => cases hmem
  | cons c clients ih =>
    obtain ⟨hnotin, nodup⟩ := List.nodup_cons.1 nodup
    simp only [visitAll]
    split
    next hwait => exact hwait
    next hwait =>
      obtain ⟨hvisit, rejects⟩ | ⟨conn₀, conn', hconn₀, _, _, hvisit⟩ | ⟨_, _, _, hvisit⟩ :=
        d.visit_cases r c
      · have hmem : clientId ∈ clients := by
          apply (List.mem_cons.1 hmem).resolve_left
          rintro rfl
          exact rejects conn hconn accepts
        rw [hvisit]
        exact ih nodup hmem hconn accepts
      · have hne : clientId ≠ c := by
          rintro rfl
          rw [hconn] at hconn₀
          cases hconn₀
          apply full
          rw [← conn.sendEvent_isSome_iff d.event.frame]
          simp_all
        rw [hvisit]
        have hconn' : (r.setConnection c (some conn')).connections clientId = some conn := by
          simpa [SSEEventRouter.setConnection, hne] using hconn
        exact ih nodup ((List.mem_cons.1 hmem).resolve_left hne) hconn' accepts
      · rw [hvisit] at hwait
        simp at hwait

end Dispatch

/-! ## The call -/

namespace SSEEventRouter

variable (r : SSEEventRouter) (route : Route) (channel : String) (e : Event)

/-- In the first loop everyone's message is put. -/
lemma accepts_start_iff {clientId : String} {conn : SSEConnection} :
    (Dispatch.start r route channel e).Accepts r clientId conn ↔
      conn.isActive = true ∧ e.admits conn.tenantId = true := by
  simp [Dispatch.Accepts, Dispatch.start, Dispatch.selects]

/-- In the second loop it is put unless the client was in the first set. -/
lemma accepts_secondLoop_iff {clientId : String} {conn : SSEConnection} {pending : Finset String}
    {r' : SSEEventRouter} (hsubs : r'.subscriptions = r.subscriptions) :
    (Dispatch.secondLoop { Dispatch.start r route channel e with pending := pending } r').Accepts r'
        clientId conn ↔
      conn.isActive = true ∧ e.admits conn.tenantId = true ∧
        clientId ∉ r.subscriptions.members (channelCategory channel) := by
  have hmembers : Dispatch.members
      (Dispatch.secondLoop { Dispatch.start r route channel e with pending := pending } r') r' =
        r.subscriptions.members (channelCategory channel) := by
    simp only [Dispatch.members, Dispatch.secondLoop, Dispatch.start, hsubs]
    rfl
  simp only [Dispatch.Accepts, Dispatch.selects, hmembers]
  simp [Dispatch.secondLoop, Dispatch.start]

/-- A matching connection with a full queue stops the call in one of the two loops. -/
lemma onRedisMessage_of_full (first : Order (r.subscriptions.members (channelCategory channel)))
    (second : Order (r.subscriptions.members "all")) {clientId : String} {conn : SSEConnection}
    (matching : r.Matches channel e clientId conn) (full : ¬ conn.queue.length < QUEUE_MAXSIZE) :
    (r.onRedisMessage route channel e first second).1.waiting.isSome = true := by
  unfold onRedisMessage
  simp only
  split
  next hwait => exact hwait
  next hwait =>
    have hroom : ∀ x ∈ first.clients, ∀ conn, r.connections x = some conn →
        (Dispatch.start r route channel e).Accepts r x conn →
          conn.queue.length < QUEUE_MAXSIZE := by
      intro x hx conn hconn accepts
      by_contra hfull
      exact hwait (Dispatch.visitAll_of_full first.nodup hx hconn accepts hfull)
    have hout : clientId ∉ first.clients := by
      intro hin
      exact full (hroom clientId hin conn matching.registered
        ((accepts_start_iff r route channel e).2 ⟨matching.active, matching.admitted⟩))
    obtain ⟨r₁, hfirst, hsubs, _, hothers⟩ := Dispatch.visitAll_of_room rfl first.nodup hroom
    rw [hfirst]
    rw [first.mem_iff] at hout
    apply Dispatch.visitAll_of_full second.nodup
      (second.mem_iff.2 (matching.subscribed.resolve_left hout))
      ((hothers clientId (by rwa [first.mem_iff])).trans matching.registered) _ full
    exact (accepts_secondLoop_iff r route channel e hsubs).2
      ⟨matching.active, matching.admitted, hout⟩

/-- What the two loops of a call do when none of them waits: the router after the first one, the
dispatch the second one starts from, and the router after it. -/
structure BothLoops (first : Order (r.subscriptions.members (channelCategory channel)))
    (second : Order (r.subscriptions.members "all")) (d : Dispatch) (r₁ r₂ : SSEEventRouter) :
    Prop where
  call : r.onRedisMessage route channel e first second =
    ({ Dispatch.start r route channel e with loop := .allSubscribers, pending := ∅ }, r₂)
  visited₁ : ∀ x ∈ first.clients, (Dispatch.start r route channel e).Visited r r₁ x
  others₁ : ∀ x, x ∉ first.clients → r₁.connections x = r.connections x
  accepts₂ : ∀ x conn, d.Accepts r₁ x conn ↔
    conn.isActive = true ∧ e.admits conn.tenantId = true ∧
      x ∉ r.subscriptions.members (channelCategory channel)
  event₂ : d.event = e
  visited₂ : ∀ x ∈ second.clients, d.Visited r₁ r₂ x
  others₂ : ∀ x, x ∉ second.clients → r₂.connections x = r₁.connections x

/-- A call in which every matching connection has room runs through both loops. -/
lemma bothLoops_of_room (first : Order (r.subscriptions.members (channelCategory channel)))
    (second : Order (r.subscriptions.members "all"))
    (room : ∀ clientId conn, r.Matches channel e clientId conn →
      conn.queue.length < QUEUE_MAXSIZE) :
    ∃ d r₁ r₂, r.BothLoops route channel e first second d r₁ r₂ := by
  obtain ⟨r₁, hfirst, hsubs, hvisited₁, hothers₁⟩ :=
    Dispatch.visitAll_of_room (d := .start r route channel e) rfl first.nodup (by
      intro clientId hin conn hconn accepts
      obtain ⟨hactive, hadmitted⟩ := (accepts_start_iff r route channel e).1 accepts
      exact room clientId conn ⟨hconn, hactive, hadmitted, .inl (first.mem_iff.1 hin)⟩)
  obtain ⟨r₂, hsecond, _, hvisited₂, hothers₂⟩ :=
    Dispatch.visitAll_of_room (r := r₁)
      (d := Dispatch.secondLoop { Dispatch.start r route channel e with
        pending := r.subscriptions.members (channelCategory channel) \ first.clients.toFinset } r₁)
      rfl second.nodup (by
        intro clientId hin conn hconn accepts
        obtain ⟨hactive, hadmitted, hout⟩ :=
          (accepts_secondLoop_iff r route channel e hsubs).1 accepts
        rw [hothers₁ clientId (by rwa [first.mem_iff])] at hconn
        exact room clientId conn ⟨hconn, hactive, hadmitted, .inr (second.mem_iff.1 hin)⟩)
  have hcall : r.onRedisMessage route channel e first second =
      ({ Dispatch.start r route channel e with
        loop := .allSubscribers, pending := ∅ }, r₂) := by
    unfold onRedisMessage
    simp only [hfirst]
    rw [if_neg (by simp [Dispatch.start])]
    refine hsecond.trans ?_
    have hempty : r₁.subscriptions.members "all" \ second.clients.toFinset = ∅ := by
      ext x
      simp [hsubs, second.mem_iff]
    simp only [Dispatch.secondLoop, hempty]
  exact ⟨_, r₁, r₂, hcall, hvisited₁, hothers₁,
    fun _ _ => accepts_secondLoop_iff r route channel e hsubs, rfl, hvisited₂, hothers₂⟩

/-- The second loop leaves the clients of the first one alone. -/
lemma BothLoops.kept {first : Order (r.subscriptions.members (channelCategory channel))}
    {second : Order (r.subscriptions.members "all")} {d : Dispatch} {r₁ r₂ : SSEEventRouter}
    (h : r.BothLoops route channel e first second d r₁ r₂) {x : String} (hx : x ∈ first.clients) :
    r₂.connections x = r₁.connections x := by
  by_cases hx₂ : x ∈ second.clients
  · apply (h.visited₂ x hx₂).skip
    intro conn _ accepts
    exact ((h.accepts₂ x conn).1 accepts).2.2 (first.mem_iff.1 hx)
  · exact h.others₂ x hx₂

/-- A call in which every matching connection has room serves them all. -/
lemma served_of_room (first : Order (r.subscriptions.members (channelCategory channel)))
    (second : Order (r.subscriptions.members "all"))
    (room : ∀ clientId conn, r.Matches channel e clientId conn →
      conn.queue.length < QUEUE_MAXSIZE) :
    r.Served channel e (r.onRedisMessage route channel e first second) := by
  obtain ⟨d, r₁, r₂, h⟩ := bothLoops_of_room r route channel e first second room
  rw [h.call]
  refine ⟨⟨rfl, rfl, rfl⟩, ?_, ?_, ?_⟩
  · intro clientId conn matching _
    show ∃ conn', conn.sendEvent e.frame = some conn' ∧ r₂.connections clientId = some conn'
    by_cases hx : clientId ∈ first.clients
    · rw [h.kept r route channel e hx]
      exact (h.visited₁ clientId hx).put conn matching.registered
        ((accepts_start_iff r route channel e).2 ⟨matching.active, matching.admitted⟩)
    · have hout : clientId ∉ r.subscriptions.members (channelCategory channel) := by
        rwa [first.mem_iff] at hx
      have hput := (h.visited₂ clientId
        (second.mem_iff.2 (matching.subscribed.resolve_left hout))).put conn
          ((h.others₁ clientId hx).trans matching.registered)
          ((h.accepts₂ clientId conn).2 ⟨matching.active, matching.admitted, hout⟩)
      rwa [h.event₂] at hput
  · intro clientId conn matching full
    exact absurd (room clientId conn matching) full
  · intro clientId unmatched
    show r₂.connections clientId = r.connections clientId
    by_cases hx : clientId ∈ first.clients
    · rw [h.kept r route channel e hx]
      apply (h.visited₁ clientId hx).skip
      intro conn hconn accepts
      obtain ⟨hactive, hadmitted⟩ := (accepts_start_iff r route channel e).1 accepts
      exact unmatched conn ⟨hconn, hactive, hadmitted, .inl (first.mem_iff.1 hx)⟩
    · rw [← h.others₁ clientId hx]
      by_cases hx₂ : clientId ∈ second.clients
      · apply (h.visited₂ clientId hx₂).skip
        intro conn hconn accepts
        obtain ⟨hactive, hadmitted, _⟩ := (h.accepts₂ clientId conn).1 accepts
        rw [h.others₁ clientId hx] at hconn
        exact unmatched conn ⟨hconn, hactive, hadmitted, .inr (second.mem_iff.1 hx₂)⟩
      · exact h.others₂ clientId hx₂

/-- Without a consumer, a call serves everyone exactly when no matching connection has a full
queue, whatever the order of iteration. -/
theorem served_iff (first : Order (r.subscriptions.members (channelCategory channel)))
    (second : Order (r.subscriptions.members "all")) :
    r.Served channel e (r.onRedisMessage route channel e first second) ↔
      ∀ clientId conn, r.Matches channel e clientId conn → conn.queue.length < QUEUE_MAXSIZE := by
  constructor
  · intro served clientId conn matching
    by_contra full
    have hwait := onRedisMessage_of_full r route channel e first second matching full
    rw [served.completed.1] at hwait
    cases hwait
  · intro room
    exact served_of_room r route channel e first second room

/-- Two clients of one tenant follow "finance"; the queue of the first is full. -/
def oneSlow (t : TenantId) (frame : Frame) : SSEEventRouter :=
  ((init.register "slow" ["finance"] t).register "quick" ["finance"] t).setConnection "slow"
    (some { SSEConnection.new ["finance"] t with queue := List.replicate QUEUE_MAXSIZE frame })

/-- Both clients of the sample follow finance. -/
lemma members_oneSlow (t : TenantId) (frame : Frame) (category : String) :
    (oneSlow t frame).subscriptions.members category =
      if category = "finance" then {"slow", "quick"} else ∅ := by
  simp only [oneSlow, setConnection, register, Subscriptions.members_foldl_add, init,
    List.mem_singleton]
  split
  · ext x
    simp [Subscriptions.members, Subscriptions.empty, or_comm]
  · rfl

/-- The slow client comes first: the call waits for it, and the quick client gets nothing. -/
theorem slowClient_not_served :
    ¬ ∀ (r : SSEEventRouter) (route : Route) (channel : String) (e : Event)
      (first : Order (r.subscriptions.members (channelCategory channel)))
      (second : Order (r.subscriptions.members "all")),
      r.Served channel e (r.onRedisMessage route channel e first second) := by
  intro h
  let t : TenantId := ⟨"3f0c7a52-6f0e-4c39-9d0a-5a4f0b6a1d11", by decide⟩
  let p : PushEvent :=
    { process := .other 0, category := "finance", eventType := .ITEM_UPDATE, data := .obj [],
      tenantId := t, second := 1787652000, counter := 1,
      publishedAt := ⟨2026, 8, 25, 10, 0, 0, 0, by decide, by decide, by decide, by decide,
        by decide, by decide, by decide⟩ }
  let e : Event := ⟨0, .pushed p⟩
  let r := oneSlow t e.frame
  have hcategory : channelCategory "channel:finance" = "finance" := by decide
  have hfinance : r.subscriptions.members (channelCategory "channel:finance") =
      {"slow", "quick"} := by
    rw [members_oneSlow, if_pos hcategory]
  let first : Order (r.subscriptions.members (channelCategory "channel:finance")) :=
    ⟨["slow", "quick"], by decide, by simp [hfinance]⟩
  let second : Order (r.subscriptions.members "all") :=
    ⟨[], by decide, by simp [r, members_oneSlow]⟩
  have served := h r .listener "channel:finance" e first second
  let slow : SSEConnection := { SSEConnection.new ["finance"] t with
    queue := List.replicate QUEUE_MAXSIZE e.frame }
  have matching : r.Matches "channel:finance" e "slow" slow :=
    ⟨by simp [r, oneSlow, setConnection, slow], rfl, (Event.admits_pushed rfl t).2 rfl,
      .inl (by rw [hfinance]; decide)⟩
  have hwait := onRedisMessage_of_full r .listener "channel:finance" e first second matching
    (by simp [slow])
  rw [served.completed.1] at hwait
  cases hwait

end SSEEventRouter

end InstantBoard.Sse
