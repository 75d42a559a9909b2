import InstantBoard.Sse.Exec
import InstantBoard.Sse.Replay
import InstantBoard.Sse.Wire
import Mathlib.Data.List.Pairwise

/-!
# Reconnecting with the last id

A client of one channel is cut off and reconnects with the last `id:` it got. The replay continues
exactly where the client was (`ReplayExact`) when three things hold (`Resumable`): no two
processes stamped two events of the channel's history alike, the last id carries the stamp of the
last event, and no later event of the tenant had overtaken it on the wire
(`replayExact_iff`). A live frame carries the connection's own counter instead of the event's, so
its id is the event's only where the two happen to agree; `liveId_gap` is a run where they do not.
-/

namespace InstantBoard.Sse

open Transition

/-- The last frame that set the client's `Last-Event-ID`. -/
def lastIdFrame (got : List WireFrame) : Option WireFrame :=
  (got.filter (·.id.isSome)).getLast?

/-- The event of the last business frame. -/
def lastEvent (got : List WireFrame) : Option Event :=
  (got.filterMap (·.origin)).getLast?

/-- What the id of a frame is made of: the stamp of a replayed event, or the clock and the counter
of the connection when the live loop took the entry. -/
def WireFrame.stamp (f : WireFrame) : Option (Nat × Nat) :=
  match f.kind with
  | .replayed => (f.origin.bind (·.body.pushed?)).map PushEvent.stamp
  | .live second count => some (second, count)
  | _ => none

/-- A client of the channel got the frames `got` before it was cut off; `f` is the last one with an
id and `e` the last event it got. The history still holds `e` and the tenant's events after it. -/
structure CutOff (w : World) (cid : String) (s : Stream) (got : List WireFrame) (f : WireFrame)
    (id : String) (e : Event) : Prop where
  stream : w.streams cid = some s
  single : s.category ≠ "all"
  received : got <+: s.written
  lastFrame : lastIdFrame got = some f
  lastId : f.id = some id
  lastEvent : lastEvent got = some e
  held : e ∈ w.redis.chronological s.category
  heldLater : ∀ u ∈ w.log, u.isOn s.category s.tenantId = true → e.seq < u.seq →
    u ∈ w.redis.chronological s.category

/-- No two events have the same id. -/
def DistinctIds (l : List Event) : Prop :=
  l.Pairwise fun a b => a.message.get? "event_id" ≠ b.message.get? "event_id"

/-- The replay after the reconnect is exact. -/
structure ReplayExact (w : World) (s : Stream) (got : List WireFrame) (id : String) (e : Event) :
    Prop where
  distinct : DistinctIds (w.redis.chronological s.category)
  identifies : e.hasId id = true
  exact : collectReplayEvents w.redis s.category id s.tenantId.val none =
    w.log.filter fun u => u.isOn s.category s.tenantId && decide (e.seq < u.seq)
  unseen : ∀ u ∈ collectReplayEvents w.redis s.category id s.tenantId.val none,
    ∀ g ∈ got, g.origin ≠ some u

/-- The stamps of the run allow to go on after `e` with the id of `f`. -/
structure Resumable (w : World) (s : Stream) (got : List WireFrame) (f : WireFrame) (e : Event) :
    Prop where
  stamps : ∀ a ∈ w.redis.chronological s.category, ∀ b ∈ w.redis.chronological s.category,
    ∀ p q, a.body = .pushed p → b.body = .pushed q → p.process ≠ q.process → p.stamp ≠ q.stamp
  last : f.stamp = e.body.pushed?.map PushEvent.stamp
  inOrder : ∀ u ∈ w.log, u.isOn s.category s.tenantId = true → e.seq < u.seq →
    ∀ g ∈ got, g.origin ≠ some u

/-! ## Ids -/

/-- An id is the text of a stamp. -/
lemma eventId_inj {a b a' b' : Nat} : eventId a b = eventId a' b' ↔ (a, b) = (a', b') := by
  rw [eventId, eventId, Decimal.dashed_inj, Prod.mk.injEq]

/-- An event's id has a dash. -/
lemma dash_mem_eventId (a b : Nat) : '-' ∈ (eventId a b).toList := by
  rw [eventId, Decimal.toList_dashed]
  simp

/-- The id of a frame is that of a pushed event exactly when the stamps agree. -/
lemma WireFrame.Shaped.id_iff {f : WireFrame} (h : f.Shaped) {id : String} (hid : f.id = some id)
    (p : PushEvent) : eventId p.second p.counter = id ↔ f.stamp = some p.stamp := by
  cases h with
  | connected =>
    cases hid
    refine iff_of_false ?_ ?_
    · intro heq
      have := dash_mem_eventId p.second p.counter
      rw [heq] at this
      exact absurd this (by decide)
    · intro heq
      cases heq
  | @replayed e =>
    cases hb : e.body with
    | pushed q =>
      have hq : some (eventId q.second q.counter) = some id := by
        rw [← hid]
        simp [replayFrame, Event.message, hb, Body.message]
      cases hq
      rw [eventId_inj]
      simp [WireFrame.stamp, replayFrame, hb, Body.pushed?, PushEvent.stamp, eq_comm]
    | notice n =>
      have hempty : some "" = some id := by
        rw [← hid]
        simp [replayFrame, Event.message, hb, Body.message]
      cases hempty
      refine iff_of_false ?_ ?_
      · intro heq
        have := dash_mem_eventId p.second p.counter
        rw [heq] at this
        exact absurd this (by decide)
      · simp [WireFrame.stamp, replayFrame, hb, Body.pushed?]
  | live =>
    cases hid
    rw [eventId_inj]
    simp [WireFrame.stamp, liveFrame, PushEvent.stamp, eq_comm]
  | timeout => cases hid

/-- Distinct ids tell the events apart. -/
lemma DistinctIds.eq_of_id {l : List Event} (h : DistinctIds l) {a b : Event} (ha : a ∈ l)
    (hb : b ∈ l) (hid : a.message.get? "event_id" = b.message.get? "event_id") : a = b := by
  have : Std.Symm fun a b : Event => a.message.get? "event_id" ≠ b.message.get? "event_id" :=
    ⟨fun _ _ hab => hab.symm⟩
  by_contra hne
  exact h.forall ha hb hne hid

/-- Ids in a channel's history are distinct exactly when no two processes stamped alike: within one
process the counter tells the calls apart. -/
lemma distinct_iff {w : World} (hw : w.Reachable) (category : String) :
    DistinctIds (w.redis.chronological category) ↔
      ∀ a ∈ w.redis.chronological category, ∀ b ∈ w.redis.chronological category,
        ∀ p q, a.body = .pushed p → b.body = .pushed q → p.process ≠ q.process →
          p.stamp ≠ q.stamp := by
  have hr := hw.recorded
  have hid : ∀ {a b : Event} {p q : PushEvent}, a.body = .pushed p → b.body = .pushed q →
      (a.message.get? "event_id" = b.message.get? "event_id" ↔ p.stamp = q.stamp) := by
    intro a b p q hp hq
    simp [Event.message, hp, hq, Body.message, eventId_inj, PushEvent.stamp]
  constructor
  · intro hdistinct a ha b hb p q hp hq hproc hstamp
    have heq := hdistinct.eq_of_id ha hb ((hid hp hq).2 hstamp)
    subst heq
    rw [hp] at hq
    cases hq
    exact hproc rfl
  · intro hstamps
    refine (hr.sorted category).imp_of_mem ?_
    intro a b ha hb hlt heq
    obtain ⟨p, hp, _⟩ := hr.category ha
    obtain ⟨q, hq, _⟩ := hr.category hb
    have hstamp := (hid hp hq).1 heq
    by_cases hproc : p.process = q.process
    · have hcounter : p.counter = q.counter := (Prod.mk.inj hstamp).2
      have := hw.numbered.unique (hr.history ha) (hr.history hb) hp hq hproc hcounter
      rw [this] at hlt
      exact Nat.lt_irrefl _ hlt
    · exact hstamps a ha b hb p q hp hq hproc hstamp

/-! ## The replay -/

/-- With an id that only `e` has, the replay is the tenant's part of the log after `e`. -/
lemma CutOff.replay_eq {w : World} (hw : w.Reachable) {cid : String} {s : Stream}
    {got : List WireFrame} {f : WireFrame} {id : String} {e : Event}
    (h : CutOff w cid s got f id e)
    (hdistinct : DistinctIds (w.redis.chronological s.category))
    (hid : e.hasId id = true) :
    collectReplayEvents w.redis s.category id s.tenantId.val none =
      w.log.filter fun u => u.isOn s.category s.tenantId && decide (e.seq < u.seq) := by
  have hr := hw.recorded
  have : Std.Irrefl (fun a b : Event => a.seq < b.seq) := ⟨fun _ => Nat.lt_irrefl _⟩
  have : Std.Antisymm (fun a b : Event => a.seq < b.seq) :=
    ⟨fun _ _ hab hba => absurd hba (Nat.lt_asymm hab)⟩
  rw [collectReplayEvents_single h.single]
  have hsorted₁ : (getMissedEvents w.redis s.category id s.tenantId.val).Pairwise
      (fun a b => a.seq < b.seq) := by
    rw [getMissedEvents_eq_filter (hr.sorted _)]
    exact (hr.sorted _).filter _
  have hlog : w.log.Pairwise (fun a b => a.seq < b.seq) := by
    rw [List.pairwise_iff_getElem]
    intro i j hi hj hij
    rw [hr.log (List.getElem?_eq_getElem hi), hr.log (List.getElem?_eq_getElem hj)]
    exact hij
  refine List.Pairwise.eq_of_mem_iff hsorted₁ (hlog.filter _) ?_
  -- the anchor found is `e` itself
  have hanchor : ∀ a ∈ w.redis.chronological s.category, a.hasId id = true → a = e := by
    intro a ha hida
    obtain ⟨p, hp, _⟩ := hr.category ha
    obtain ⟨q, hq, _⟩ := hr.category h.held
    refine hdistinct.eq_of_id ha h.held ?_
    rw [Event.hasId_pushed hp] at hida
    rw [Event.hasId_pushed hq] at hid
    simp [Event.message, hp, hq, Body.message, hida, hid]
  intro u
  rw [mem_getMissedEvents (hr.sorted _), List.mem_filter, Bool.and_eq_true, decide_eq_true_iff]
  constructor
  · rintro ⟨hu, hforeign, a, ha, hida, hlt⟩
    obtain ⟨p, hp, hpc⟩ := hr.category hu
    obtain ⟨p', hp', ht⟩ := (Event.foreign_pushed hp _).1 hforeign
    rw [hp] at hp'
    cases hp'
    rw [hanchor a ha hida] at hlt
    exact ⟨(hr.history hu).mem, Event.isOn_iff.2 ⟨p, hp, hpc, ht⟩, hlt⟩
  · rintro ⟨hu, hon, hlt⟩
    obtain ⟨p, hp, _, ht⟩ := Event.isOn_iff.1 hon
    exact ⟨h.heldLater u hu hon hlt, (Event.foreign_pushed hp _).2 ⟨p, hp, ht⟩, e, h.held, hid, hlt⟩

/-- The replay after a reconnect is exact if and only if the stamps allow it. -/
theorem replayExact_iff {w : World} (hw : w.Reachable) {cid : String} {s : Stream}
    {got : List WireFrame} {f : WireFrame} {id : String} {e : Event}
    (h : CutOff w cid s got f id e) : ReplayExact w s got id e ↔ Resumable w s got f e := by
  have hr := hw.recorded
  obtain ⟨p, hp, _⟩ := hr.category h.held
  have hshaped : f.Shaped := by
    have hmem : f ∈ got := (List.mem_filter.1 (List.mem_of_getLast? h.lastFrame)).1
    exact hw.shaped.shaped h.stream (h.received.subset hmem)
  have hidentifies : e.hasId id = true ↔ f.stamp = e.body.pushed?.map PushEvent.stamp := by
    rw [Event.hasId_pushed hp, hshaped.id_iff h.lastId p, hp]
    rfl
  constructor
  · rintro ⟨hdistinct, hident, hexact, hunseen⟩
    refine ⟨(distinct_iff hw _).1 hdistinct, hidentifies.1 hident, ?_⟩
    intro u hu hon hlt g hg
    refine hunseen u ?_ g hg
    rw [hexact, List.mem_filter, Bool.and_eq_true, decide_eq_true_iff]
    exact ⟨hu, hon, hlt⟩
  · rintro ⟨hstamps, hlast, horder⟩
    have hdistinct := (distinct_iff hw _).2 hstamps
    have hident := hidentifies.2 hlast
    have hexact := h.replay_eq hw hdistinct hident
    refine ⟨hdistinct, hident, hexact, ?_⟩
    intro u hu g hg
    rw [hexact, List.mem_filter, Bool.and_eq_true, decide_eq_true_iff] at hu
    exact horder u hu.1 hu.2.1 hu.2.2 g hg

/-! ## An id nobody knows -/

namespace LiveId

open Sample

/-- An event before the client connects. -/
def early : PushEvent := itemUpdate (.other 0) "tech" 0 1

/-- The event the client gets live. -/
def seen : PushEvent := itemUpdate (.other 0) "tech" 5 2

/-- The event pushed after the client was cut off. -/
def missed : PushEvent := itemUpdate (.other 0) "tech" 10 3

def labels : List Label :=
  [.push early, .store 0 true, .publish 0 true, .take 0, .secondLoop 0, .finish 0,
    .connect clientId "tech" none tenant none, .commit clientId, .greet clientId (clock 4),
    .enter clientId, .push seen, .store 0 true, .publish 0 true, .take 0, .visit 0 clientId,
    .secondLoop 0, .finish 0, .get clientId 1787652005, .exit clientId, .push missed,
    .store 0 true, .publish 0 true, .take 0, .secondLoop 0, .finish 0]

def world : World := start.after labels (by decide)

def stream : Stream := (world.streams clientId).get (by decide)

/-- The frame of the event seen: its id is the second and the connection's first entry. -/
def frame : WireFrame := liveFrame (⟨1, .pushed seen⟩ : Event).frame 1787652005 1

/-- The sample is reachable. -/
lemma world_reachable : world.Reachable :=
  ⟨_, labels, World.steps_after _ _ _⟩

/-- The sample connection is cut off. -/
lemma cutOff : CutOff world clientId stream [connectedFrame clientId "tech" (clock 4), frame] frame
    "1787652005-1" ⟨1, .pushed seen⟩ where
  stream := (Option.some_get _).symm
  single := by decide
  received := List.prefix_rfl
  lastFrame := rfl
  lastId := by decide
  lastEvent := rfl
  held := List.mem_cons_of_mem _ List.mem_cons_self
  heldLater := fun u hu _ _ => hu

end LiveId

open LiveId Sample in
/-- The equivalence at that cut. -/
theorem liveId_exact_iff :
    ReplayExact world stream [connectedFrame clientId "tech" (clock 4), frame] "1787652005-1"
        ⟨1, .pushed seen⟩ ↔
      Resumable world stream [connectedFrame clientId "tech" (clock 4), frame] frame
        ⟨1, .pushed seen⟩ :=
  replayExact_iff world_reachable cutOff

open LiveId Sample in
/-- The id on the live frame is in no history, so the event missed is not replayed. -/
theorem liveId_gap :
    world.Reachable ∧ CutOff world clientId stream
      [connectedFrame clientId "tech" (clock 4), frame] frame "1787652005-1" ⟨1, .pushed seen⟩ ∧
      ¬ ReplayExact world stream [connectedFrame clientId "tech" (clock 4), frame] "1787652005-1"
        ⟨1, .pushed seen⟩ := by
  refine ⟨world_reachable, cutOff, ?_⟩
  intro h
  have hno : (⟨1, .pushed seen⟩ : Event).hasId "1787652005-1" = false := by decide
  rw [h.identifies] at hno
  cases hno

end InstantBoard.Sse
