import InstantBoard.Sse.Recorded
import InstantBoard.Sse.Streams

/-!
# What connections receive

The provenance of the entries of a queue: a step puts nothing into a connection but a heartbeat or
the message of a dispatch that accepts the client (`Step.received`), so everything received was
published (`World.ReceivedLogged`).
-/

namespace InstantBoard.Sse

open Transition

/-- What a step can do to a connection: register it, leave what it received alone, or put a
heartbeat or the message of a dispatch. -/
lemma Step.received {w w' : World} {l : Label} (h : Step w l w') {cid : String}
    {conn' : SSEConnection} (hc' : w'.router.connections cid = some conn') :
    (w.router.connections cid = none ∧ w.Fresh cid ∧ conn'.received = []) ∨
    ∃ conn, w.router.connections cid = some conn ∧ conn'.tenantId = conn.tenantId ∧
      (conn'.received = conn.received ∨
      (∃ now, conn'.received = conn.received ++ [heartbeatEntry now]) ∨
      ∃ i d, w.dispatches[i]? = some d ∧ conn'.received = conn.received ++ [d.event.frame] ∧
        ((l = .visit i cid ∧ d.Accepts w.router cid conn) ∨
          (l = .resume i ∧ d.waiting = some cid))) := by
  have same : w.router.connections cid = some conn' →
      ∃ conn, w.router.connections cid = some conn ∧ conn'.tenantId = conn.tenantId ∧
      (conn'.received = conn.received ∨
      (∃ now, conn'.received = conn.received ++ [heartbeatEntry now]) ∨
      ∃ i d, w.dispatches[i]? = some d ∧ conn'.received = conn.received ++ [d.event.frame] ∧
        ((l = .visit i cid ∧ d.Accepts w.router cid conn) ∨
          (l = .resume i ∧ d.waiting = some cid))) :=
    fun hc => ⟨conn', hc, rfl, .inl rfl⟩
  cases h
  case visit i d cid' hi hw hp =>
    right
    rcases d.visit_cases w.router cid' with ⟨hv, _⟩ | ⟨conn, conn'', hconn, ha, hs, hv⟩ |
      ⟨_, _, _, hv⟩
    · rw [hv] at hc'
      exact same hc'
    · rw [hv] at hc'
      rcases SSEEventRouter.setConnection_eq_some hc' with ⟨rfl, rfl⟩ | ⟨-, hc⟩
      · have heq := SSEConnection.sendEvent_eq_some hs
        refine ⟨conn, hconn, by rw [heq], .inr (.inr ⟨i, d, hi, by rw [heq], .inl ⟨rfl, ha⟩⟩)⟩
      · exact same hc
    · rw [hv] at hc'
      exact same hc'
  case resume i d d' r hi hr =>
    right
    obtain ⟨cid', conn, conn'', hwait, hconn, hs, _, rfl⟩ := Dispatch.resume_eq_some hr
    rcases SSEEventRouter.setConnection_eq_some hc' with ⟨rfl, rfl⟩ | ⟨-, hc⟩
    · have heq := SSEConnection.sendEvent_eq_some hs
      refine ⟨conn, hconn, by rw [heq], .inr (.inr ⟨i, d, hi, by rw [heq], .inr ⟨rfl, hwait⟩⟩)⟩
    · exact same hc
  case heartbeat cid' conn conn'' now hconn _ hs =>
    right
    rcases SSEEventRouter.setConnection_eq_some hc' with ⟨rfl, rfl⟩ | ⟨-, hc⟩
    · have heq := SSEConnection.sendEvent_eq_some hs
      exact ⟨conn, hconn, by rw [heq], .inr (.inl ⟨now, by rw [heq]⟩)⟩
    · exact same hc
  case register cid' categories tenantId hf =>
    rcases SSEEventRouter.register_eq_some hc' with ⟨rfl, rfl⟩ | ⟨-, hc⟩
    · left
      exact ⟨hf.1, hf, rfl⟩
    · right
      exact same hc
  case connect cid' category raw channels tenantId lastEventId hf _ =>
    have hc' : (w.router.register cid' (categoriesOf category channels) tenantId).connections cid =
        some conn' := hc'
    rcases SSEEventRouter.register_eq_some hc' with ⟨rfl, rfl⟩ | ⟨-, hc⟩
    · left
      exact ⟨hf.1, hf, rfl⟩
    · right
      exact same hc
  case get cid' s conn f rest second _ _ _ hconn _ =>
    right
    rcases SSEEventRouter.setConnection_eq_some hc' with ⟨rfl, rfl⟩ | ⟨-, hc⟩
    · exact ⟨conn, hconn, rfl, .inl rfl⟩
    · exact same hc
  case exit cid' s _ _ =>
    right
    simp only [World.exit] at hc'
    split at hc'
    · rw [SSEEventRouter.connections_unregister] at hc'
      split at hc'
      · cases hc'
      · exact same hc'
    · exact same hc'
  all_goals exact .inr (same hc')

/-- Everything in a queue was published. -/
structure World.ReceivedLogged (w : World) : Prop where
  logged : ∀ {cid conn f e}, w.router.connections cid = some conn → f ∈ conn.received →
    f.origin = some e → Logged w.log e

/-- In every reachable world what is in a queue was published. -/
lemma World.Reachable.receivedLogged {w : World} (h : w.Reachable) : w.ReceivedLogged := by
  obtain ⟨db, h⟩ := h
  have key := h.invariant (I := fun w => w.Recorded ∧ w.ReceivedLogged) ?_ ⟨.init db, ?_⟩
  · exact key.2
  · rintro w l w' ⟨hr, hw⟩ hstep
    refine ⟨hr.step hstep, ⟨?_⟩⟩
    have grow : ∀ {e}, Logged w.log e → Logged w'.log e := by
      intro e he
      obtain ⟨more, hmore⟩ := hstep.log_prefix
      rw [← hmore]
      exact he.append more
    intro cid conn' f e hc' hf he
    rcases hstep.received hc' with ⟨_, _, hnil⟩ | ⟨conn, hc, _, hrec⟩
    · rw [hnil] at hf
      cases hf
    · rcases hrec with heq | ⟨now, heq⟩ | ⟨i, d, hi, heq, _⟩
      · rw [heq] at hf
        exact grow (hw.logged hc hf he)
      · rw [heq, List.mem_append, List.mem_singleton] at hf
        rcases hf with hf | rfl
        · exact grow (hw.logged hc hf he)
        · cases he
      · rw [heq, List.mem_append, List.mem_singleton] at hf
        rcases hf with hf | rfl
        · exact grow (hw.logged hc hf he)
        · cases he
          refine grow (hr.underWay ?_)
          rw [World.mem_underWay]
          exact .inr (.inr ⟨d, List.mem_of_getElem? hi, rfl⟩)
  · constructor
    intro cid conn f e hc
    cases hc

end InstantBoard.Sse
