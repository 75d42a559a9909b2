import InstantBoard.Sse.Delivery
import InstantBoard.Sse.Exec

/-!
# Exactly-once live delivery

Runs of the API process with its listener, from an idle state to an idle state, Redis up. An event
pushed there on a listened channel takes two routes to the router, the direct call at the end of
`push_event` and the listener, so a subscribed client of its tenant that stays connected receives
it twice (`copies_twice`), whatever the interleaving. Each client receives each event exactly once
only when no pushed event has such a client (`exactlyOnce_iff`).
-/

namespace InstantBoard.Sse

open Transition

/-- A run between idle states in which publishes reach Redis. -/
structure LiveRun (w : World) (ls : List Label) (w' : World) : Prop where
  reachable : w.Reachable
  idle : w.Idle
  steps : Steps Step w ls w'
  up : ∀ l ∈ ls, l.RedisUp
  idle' : w'.Idle

/-- The event was pushed by the API process during the run, on a listened channel. -/
structure PushedIn (w w' : World) (u : Event) : Prop where
  logged : Logged w'.log u
  new : w.log.length ≤ u.seq
  isLocal : u.isLocal = true
  listened : u.channel ∈ LISTENED

/-- The client is connected before the run and its request does not end in it. -/
structure StaysIn (w : World) (ls : List Label) (c : Client) : Prop where
  held : w.router.HoldsClient c
  stays : ∀ l ∈ ls, l.Keeps c.id

/-- Every client that stays received every event pushed for it exactly once. -/
def ExactlyOnce (w : World) (ls : List Label) (w' : World) : Prop :=
  ∀ u c, PushedIn w w' u → StaysIn w ls c → u.reaches c = true →
    w'.router.copies c.id u.seq = 1

/-- An event of this process on a listened channel takes both routes. -/
lemma PushedIn.routes {w w' : World} {u : Event} (h : PushedIn w w' u) : u.routes = 2 := by
  simp [Event.routes, h.isLocal, h.listened]

/-- A client that stays receives an event of the run once for every route it took. -/
lemma LiveRun.copies_eq {w w' : World} {ls : List Label} (run : LiveRun w ls w') {c : Client}
    (hc : StaysIn w ls c) {u : Event} (logged : Logged w'.log u) (new : w.log.length ≤ u.seq) :
    w'.router.copies c.id u.seq = u.routes * (u.reaches c).toNat := by
  have hls : ∀ l ∈ ls, l.RedisUp ∧ l.Keeps c.id := fun l hl => ⟨run.up l hl, hc.stays l hl⟩
  exact copies_of_idle run.reachable run.idle run.steps run.idle' hls hc.held logged new

/-- Every event pushed for a client that stays is received twice. -/
theorem copies_twice {w w' : World} {ls : List Label} (run : LiveRun w ls w') {u : Event}
    {c : Client} (hu : PushedIn w w' u) (hc : StaysIn w ls c) (hreach : u.reaches c = true) :
    w'.router.copies c.id u.seq = 2 := by
  rw [run.copies_eq hc hu.logged hu.new, hu.routes, hreach]
  rfl

/-- Delivery is exactly once only where there is nothing to deliver: no event pushed in the run
has a subscribed client of its tenant. -/
theorem exactlyOnce_iff {w w' : World} {ls : List Label} (run : LiveRun w ls w') :
    ExactlyOnce w ls w' ↔ ∀ u c, PushedIn w w' u → StaysIn w ls c → u.reaches c = false := by
  constructor
  · intro h u c hu hc
    by_contra hreach
    rw [Bool.not_eq_false] at hreach
    have htwo := copies_twice run hu hc hreach
    have hone := h u c hu hc hreach
    omega
  · intro h u c hu hc hreach
    rw [h u c hu hc] at hreach
    cases hreach

/-! ## One push, one client -/

namespace OnePush

open Sample

def client : Client := ⟨clientId, ["tech"], tenant⟩

/-- A push of the API process on the client's channel. -/
def event : PushEvent := itemUpdate .api "tech" 0 1

/-- The client's stream enters its live loop. -/
def connecting : List Label :=
  [.connect clientId "tech" none tenant none, .commit clientId, .greet clientId (clock 0),
    .enter clientId]

/-- The push is published, then dispatched directly and by the listener. -/
def pushing : List Label :=
  [.push event, .store 0 true, .publish 0 true,
    .direct 0, .visit 0 clientId, .secondLoop 0, .finish 0,
    .take 0, .visit 0 clientId, .secondLoop 0, .finish 0]

def before : World := start.after connecting (by decide)

def afterwards : World := before.after pushing (by decide)

/-- The sample run is a live one. -/
lemma liveRun : LiveRun before pushing afterwards where
  reachable := ⟨_, connecting, World.steps_after _ _ _⟩
  idle := ⟨rfl, rfl, rfl⟩
  steps := World.steps_after _ _ _
  up := by simp [pushing, Label.RedisUp]
  idle' := ⟨rfl, rfl, rfl⟩

end OnePush

open OnePush in
/-- The equivalence on that run. -/
theorem onePush_exactlyOnce_iff :
    ExactlyOnce before pushing afterwards ↔
      ∀ u c, PushedIn before afterwards u → StaysIn before pushing c → u.reaches c = false :=
  exactlyOnce_iff liveRun

open Sample OnePush in
/-- The client finds the event in its queue twice. -/
theorem onePush_twice :
    LiveRun before pushing afterwards ∧ ¬ ExactlyOnce before pushing afterwards := by
  refine ⟨liveRun, ?_⟩
  intro h
  have hu : PushedIn before afterwards ⟨0, .pushed event⟩ :=
    ⟨rfl, Nat.le_refl _, by decide, by decide⟩
  have hc : StaysIn before pushing client := by
    refine ⟨⟨.new ["tech"] tenant, rfl, ⟨rfl, rfl⟩⟩, ?_⟩
    simp [pushing, Label.Keeps]
  have htwo : afterwards.router.copies client.id 0 = 2 := by decide
  have hone : afterwards.router.copies client.id 0 = 1 := h _ _ hu hc (by decide)
  omega

end InstantBoard.Sse
