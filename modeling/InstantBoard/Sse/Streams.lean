import InstantBoard.Sse.Exec

/-!
# Streams and the registry

The registry is consistent in every reachable state, and a stream has its connection from
`SSEService.connect` on until it ends inside the live loop (`World.Attached`). A request that ends
anywhere else leaves its client id behind, in the registry and in every subscription set of its
categories (`ended_forgot_iff`).
-/

namespace InstantBoard.Sse

open Transition

/-! ## The connection of a stream -/

/-- What a connection keeps for its whole life. -/
structure SSEConnection.For (conn : SSEConnection) (categories : List String) (tenantId : TenantId) :
    Prop where
  categories : conn.categories = categories
  tenantId : conn.tenantId = tenantId

/-- The client id is registered under the given categories for the given tenant. -/
def SSEEventRouter.Holds (r : SSEEventRouter) (cid : String) (categories : List String)
    (tenantId : TenantId) : Prop :=
  ∃ conn, r.connections cid = some conn ∧ conn.For categories tenantId

/-- The connection of a stream is gone exactly when the stream has ended in the live loop. -/
def Stream.Attached (s : Stream) (cid : String) (r : SSEEventRouter) : Prop :=
  if s.ended && s.stage.isLive then r.connections cid = none
  else r.Holds cid (categoriesOf s.category s.channels) s.tenantId

/-- A stream depends on its own entry of the registry only. -/
lemma Stream.Attached.congr {s : Stream} {cid : String} {r r' : SSEEventRouter}
    (hs : s.Attached cid r) (h : r'.connections cid = r.connections cid) : s.Attached cid r' := by
  unfold Stream.Attached SSEEventRouter.Holds at *
  rwa [h]

/-- A put into some connection leaves every stream attached as it was. -/
lemma Stream.Attached.setConnection {s : Stream} {cid cid' : String} {r : SSEEventRouter}
    (hs : s.Attached cid r) {conn conn' : SSEConnection} (hc : r.connections cid' = some conn)
    (hfor : conn'.For conn.categories conn.tenantId) :
    s.Attached cid (r.setConnection cid' (some conn')) := by
  by_cases h : cid = cid'
  · subst h
    unfold Stream.Attached at *
    split at hs
    · rw [hc] at hs
      cases hs
    · rename_i hover
      rw [if_neg hover]
      obtain ⟨conn₀, hc₀, hfor₀⟩ := hs
      rw [hc] at hc₀
      cases hc₀
      refine ⟨conn', by simp [SSEEventRouter.setConnection], ?_⟩
      exact ⟨hfor.categories.trans hfor₀.categories, hfor.tenantId.trans hfor₀.tenantId⟩
  · exact hs.congr (by simp [SSEEventRouter.setConnection, h])

/-- Registering leaves the other entries alone. -/
lemma SSEEventRouter.connections_register_of_ne {cid cid' : String} (h : cid ≠ cid')
    (r : SSEEventRouter) (categories : List String) (tenantId : TenantId) :
    (r.register cid' categories tenantId).connections cid = r.connections cid := by
  simp [SSEEventRouter.register, h]

/-- Unregistering leaves the other entries alone. -/
lemma SSEEventRouter.connections_unregister (r : SSEEventRouter) (cid cid' : String) :
    (r.unregister cid').connections cid = if cid = cid' then none else r.connections cid := by
  unfold SSEEventRouter.unregister
  split
  · by_cases h : cid = cid' <;> simp [h]
  · rename_i hnone
    by_cases h : cid = cid'
    · rw [if_pos h, h]
      exact hnone
    · rw [if_neg h]

/-- The registry is consistent and every stream is attached to it. -/
structure World.Attached (w : World) : Prop where
  consistent : w.router.Consistent
  streams : ∀ {cid s}, w.streams cid = some s → s.Attached cid w.router

/-- The world begins attached. -/
lemma World.Attached.init (db : Tables) : (World.init db).Attached where
  consistent := .init
  streams := by simp [World.init]

/-- A put keeps the registry and the streams. -/
lemma World.Attached.put {w : World} (hw : w.Attached) {cid : String} {conn conn' : SSEConnection}
    {f : Frame} (hc : w.router.connections cid = some conn) (hs : conn.sendEvent f = some conn') :
    (w.router.setConnection cid (some conn')).Consistent ∧
      ∀ {cid' s}, w.streams cid' = some s →
        s.Attached cid' (w.router.setConnection cid (some conn')) := by
  have heq := SSEConnection.sendEvent_eq_some hs
  refine ⟨hw.consistent.setConnection hc (by rw [heq]) (by rw [heq]), ?_⟩
  intro cid' s hs'
  exact (hw.streams hs').setConnection hc ⟨by rw [heq], by rw [heq]⟩

/-- A stream that goes on without ending stays attached. -/
lemma World.Attached.setStream {w : World} (hw : w.Attached) {cid : String} {s s' : Stream}
    (hs : w.streams cid = some s) (hover : s.ended = false) (hover' : s'.ended = false)
    (hc : categoriesOf s'.category s'.channels = categoriesOf s.category s.channels)
    (ht : s'.tenantId = s.tenantId) : (w.setStream cid s').Attached where
  consistent := hw.consistent
  streams := by
    intro cid' s'' h
    by_cases hcid : cid' = cid
    · subst hcid
      simp only [World.setStream, Function.update_self, Option.some.injEq] at h
      subst h
      have ha := hw.streams hs
      unfold Stream.Attached at *
      rw [hover', hc, ht]
      rw [hover] at ha
      exact ha
    · exact hw.streams (by simpa [World.setStream, hcid] using h)

/-- A step keeps the streams attached. -/
lemma World.Attached.step {w w' : World} {l : Label} (hw : w.Attached) (h : Step w l w') :
    w'.Attached := by
  cases h
  case visit i d cid hi _ _ =>
    rcases d.visit_cases w.router cid with ⟨hv, _⟩ | ⟨conn, conn', hc, _, hs, hv⟩ | ⟨_, _, _, hv⟩
    · rw [hv]
      exact ⟨hw.consistent, hw.streams⟩
    · obtain ⟨h₁, h₂⟩ := hw.put hc hs
      rw [hv]
      exact ⟨h₁, h₂⟩
    · rw [hv]
      exact ⟨hw.consistent, hw.streams⟩
  case resume i d d' r hi hr =>
    obtain ⟨cid, conn, conn', _, hc, hs, _, rfl⟩ := Dispatch.resume_eq_some hr
    obtain ⟨h₁, h₂⟩ := hw.put hc hs
    exact ⟨h₁, h₂⟩
  case heartbeat cid conn conn' now hc _ hs =>
    obtain ⟨h₁, h₂⟩ := hw.put hc hs
    exact ⟨h₁, h₂⟩
  case register cid categories tenantId hf =>
    refine ⟨hw.consistent.register hf.1 _ _, ?_⟩
    intro cid' s hs
    have hne : cid' ≠ cid := by
      rintro rfl
      have hnone : w.streams cid' = none := hf.2
      exact absurd (hnone.symm.trans hs) (by simp)
    exact (hw.streams hs).congr (SSEEventRouter.connections_register_of_ne hne _ _ _)
  case connect cid category raw channels tenantId lastEventId hf _ =>
    refine ⟨hw.consistent.register hf.1 _ _, ?_⟩
    intro cid' s hs
    by_cases hne : cid' = cid
    · subst hne
      simp only [World.connect, World.setStream, Function.update_self, Option.some.injEq] at hs
      subst hs
      refine ⟨.new (categoriesOf category channels) tenantId, ?_, ⟨rfl, rfl⟩⟩
      simp [World.connect, World.setStream, World.register, SSEEventRouter.register]
    · have hs' : w.streams cid' = some s := by
        simpa [World.connect, World.setStream, World.register, hne] using hs
      exact (hw.streams hs').congr (SSEEventRouter.connections_register_of_ne hne _ _ _)
  case commit cid s hs ho _ => exact hw.setStream hs ho ho rfl rfl
  case greet cid s now hs ho _ => exact hw.setStream hs ho ho rfl rfl
  case start cid s hs ho _ => exact hw.setStream hs ho ho rfl rfl
  case read cid s c todo missed hs ho _ =>
    cases todo <;> exact hw.setStream hs ho ho rfl rfl
  case replay cid s e rest hs ho _ => exact hw.setStream hs ho ho rfl rfl
  case enter cid s hs ho _ => exact hw.setStream hs ho ho rfl rfl
  case timeout cid s now hs ho _ => exact hw.setStream hs ho ho rfl rfl
  case get cid s conn f rest second hs ho _ hc _ =>
    have hput : (w.setConnection cid { conn with queue := rest }).Attached := by
      refine ⟨hw.consistent.setConnection hc rfl rfl, ?_⟩
      intro cid' s' hs'
      exact (hw.streams hs').setConnection hc ⟨rfl, rfl⟩
    exact hput.setStream hs ho ho rfl rfl
  case exit cid s hs ho =>
    refine ⟨?_, ?_⟩
    · simp only [World.exit]
      split
      · exact hw.consistent.unregister cid
      · exact hw.consistent
    · intro cid' s' hs'
      by_cases hne : cid' = cid
      · subst hne
        simp only [World.exit, World.setStream, Function.update_self, Option.some.injEq] at hs'
        subst hs'
        have ha := hw.streams hs
        unfold Stream.Attached at *
        simp only [ho, Bool.false_and, Bool.false_eq_true, if_false] at ha
        simp only [World.exit, Bool.true_and]
        cases hl : s.stage.isLive
        · simpa using ha
        · simp [SSEEventRouter.connections_unregister]
      · have hs'' : w.streams cid' = some s' := by
          simpa [World.exit, World.setStream, hne] using hs'
        refine (hw.streams hs'').congr ?_
        simp only [World.exit]
        split
        · rw [SSEEventRouter.connections_unregister, if_neg hne]
        · rfl
  all_goals exact ⟨hw.consistent, hw.streams⟩

/-- In every reachable world the streams are attached. -/
lemma World.Reachable.attached {w : World} (h : w.Reachable) : w.Attached := by
  obtain ⟨db, h⟩ := h
  exact h.invariant .step (.init db)

/-! ## Ended requests -/

/-- The router has forgotten the client id. -/
def SSEEventRouter.Forgot (r : SSEEventRouter) (cid : String) : Prop :=
  r.connections cid = none ∧ ∀ category, cid ∉ r.subscriptions.members category

/-- Without a connection there is no subscription either. -/
lemma SSEEventRouter.Consistent.forgot_iff {r : SSEEventRouter} (hr : r.Consistent) (cid : String) :
    r.Forgot cid ↔ r.connections cid = none := by
  constructor
  · exact And.left
  · intro h
    refine ⟨h, ?_⟩
    intro category
    rw [hr.mem_members]
    simp [h]

/-- A request that is over has left nothing behind in the router exactly when it ended inside the
live loop. -/
theorem ended_forgot_iff {w : World} (hw : w.Reachable) {cid : String} {s : Stream}
    (hs : w.streams cid = some s) (hover : s.ended = true) :
    w.router.Forgot cid ↔ s.stage.isLive = true := by
  have ha := hw.attached
  have hatt := ha.streams hs
  rw [ha.consistent.forgot_iff]
  unfold Stream.Attached at hatt
  rw [hover, Bool.true_and] at hatt
  constructor
  · intro hnone
    by_contra hlive
    rw [if_neg hlive] at hatt
    obtain ⟨conn, hc, _⟩ := hatt
    rw [hnone] at hc
    cases hc
  · intro hlive
    rwa [if_pos hlive] at hatt

/-! ## A request closed at its first frame -/

namespace FirstFrame

open Sample

def labels : List Label :=
  [.connect clientId "tech" none tenant none, .commit clientId, .greet clientId (clock 0),
    .exit clientId]

/-- The client went away while the stream was suspended at its first `yield`. -/
def world : World := start.after labels (by decide)

/-- The stream that ended there. -/
def stream : Stream :=
  { category := "tech", channels := none, tenantId := tenant, lastEventId := none,
    stage := .greeted, ended := true, written := [connectedFrame clientId "tech" (clock 0)] }

/-- The sample is reachable. -/
lemma world_reachable : world.Reachable :=
  ⟨_, labels, World.steps_after _ _ _⟩

end FirstFrame

open Sample FirstFrame in
/-- The equivalence at that request. -/
theorem firstFrame_forgot_iff : world.router.Forgot clientId ↔ stream.stage.isLive = true :=
  ended_forgot_iff world_reachable (show world.streams clientId = some stream from rfl) rfl

open Sample FirstFrame in
/-- The request is over and its client id is still subscribed. -/
theorem firstFrame_leak :
    world.Reachable ∧ world.streams clientId = some stream ∧ stream.ended = true ∧
      ¬ world.router.Forgot clientId := by
  refine ⟨world_reachable, rfl, rfl, ?_⟩
  intro h
  exact h.2 "tech" (by decide)

end InstantBoard.Sse
