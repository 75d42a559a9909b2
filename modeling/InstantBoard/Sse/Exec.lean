import InstantBoard.Sse.World

/-!
# Running the system

`World.next` computes the step of a label, and `World.exec` runs a list of labels. The step
relation is exactly what `next` computes (`next_iff`), so a label has at most one outcome in a
state and a computed run is a run.
-/

namespace InstantBoard.Sse

open Transition

namespace World

/-- A step of the stream of a client that is not over. -/
def stream? (w : World) (clientId : String) : Option Stream :=
  (w.streams clientId).filter (!·.ended)

/-- The outcome of a label, if its step is possible. -/
def next (w : World) : Label → Option World
  | .push p => if p.counter = w.counters p.process + 1 then some (w.push p) else none
  | .store i up =>
    match w.pushes[i]? with
    | some (.storing p) => some (w.store i p up)
    | _ => none
  | .publish i up =>
    match w.pushes[i]? with
    | some (.publishing e) => some (w.publish i e up)
    | _ => none
  | .announce i up =>
    match w.pushes[i]? with
    | some (.announcing n) => some (w.announce i n up)
    | _ => none
  | .direct i =>
    match w.pushes[i]? with
    | some (.directing e) => some (w.direct i e)
    | _ => none
  | .take k =>
    match w.inbox[k]? with
    | some e =>
      if (∀ e' ∈ w.inbox.take k, e'.channel ≠ e.channel) ∧
          (∀ d ∈ w.dispatches, d.route ≠ .listener) then
        some (w.take k e)
      else none
    | none => none
  | .visit i cid =>
    match w.dispatches[i]? with
    | some d =>
      if d.waiting = none ∧ cid ∈ d.pending then
        some (w.setDispatch i (d.visit w.router cid).1 (d.visit w.router cid).2)
      else none
    | none => none
  | .resume i =>
    match w.dispatches[i]? with
    | some d =>
      match d.resume w.router with
      | some (d', r) => some (w.setDispatch i d' r)
      | none => none
    | none => none
  | .secondLoop i =>
    match w.dispatches[i]? with
    | some d =>
      if d.waiting = none ∧ d.pending = ∅ ∧ d.loop = .subscribers then
        some (w.setDispatch i (d.secondLoop w.router) w.router)
      else none
    | none => none
  | .finish i =>
    match w.dispatches[i]? with
    | some d =>
      if d.waiting = none ∧ d.pending = ∅ ∧ d.loop = .allSubscribers then some (w.dropDispatch i)
      else none
    | none => none
  | .heartbeat cid now =>
    match w.router.connections cid with
    | some conn =>
      if conn.isActive = true then
        (conn.sendEvent (heartbeatEntry now)).map (w.setConnection cid)
      else none
    | none => none
  | .admin req =>
    match SourceService.handle w.db req with
    | .ok (db, notice) => some (w.administer db notice)
    | .error _ => none
  | .expire category => some (w.expire category)
  | .register cid categories tenantId =>
    match w.router.connections cid, w.streams cid with
    | none, none => some (w.register cid categories tenantId)
    | _, _ => none
  | .connect cid category raw tenantId lastEventId =>
    match w.router.connections cid, w.streams cid, selectedChannels category raw with
    | none, none, .ok channels => some (w.connect cid category channels tenantId lastEventId)
    | _, _, _ => none
  | .commit cid =>
    match w.stream? cid with
    | some s =>
      match s.stage with
      | .connecting => some (w.setStream cid { s with stage := .created })
      | _ => none
    | none => none
  | .greet cid now =>
    match w.stream? cid with
    | some s =>
      match s.stage with
      | .created => some (w.setStream cid (s.write (connectedFrame cid s.category now) .greeted))
      | _ => none
    | none => none
  | .enter cid =>
    match w.stream? cid with
    | some s =>
      match s.stage with
      | .greeted => some (w.setStream cid { s with stage := s.afterGreeting })
      | .replaying [] => some (w.setStream cid { s with stage := .live })
      | _ => none
    | none => none
  | .read cid =>
    match w.stream? cid with
    | some s =>
      match s.stage with
      | .reading (c :: todo) missed => some (w.setStream cid (s.read w.redis c todo missed))
      | _ => none
    | none => none
  | .replay cid =>
    match w.stream? cid with
    | some s =>
      match s.stage with
      | .replaying (e :: rest) =>
        some (w.setStream cid (s.write (replayFrame e) (.replaying rest)))
      | _ => none
    | none => none
  | .get cid second =>
    match w.stream? cid, w.router.connections cid with
    | some s, some conn =>
      match s.stage, conn.queue with
      | .live, f :: rest => some (w.get cid s conn f rest second)
      | _, _ => none
    | _, _ => none
  | .timeout cid now =>
    match w.stream? cid with
    | some s =>
      match s.stage with
      | .live => some (w.setStream cid (s.write (timeoutFrame now) .live))
      | _ => none
    | none => none
  | .exit cid => (w.stream? cid).map (w.exit cid)

/-- Run a list of labels as long as each meets the guard. -/
def execWhile (guard : World → Label → Bool) (w : World) : List Label → Option World
  | [] => some w
  | l :: ls =>
    if guard w l then
      match w.next l with
      | some w => w.execWhile guard ls
      | none => none
    else none

/-- Run a list of labels. -/
def exec (w : World) (ls : List Label) : Option World :=
  w.execWhile (fun _ _ => true) ls

/-- A stream that can act has not ended. -/
lemma stream?_eq_some {w : World} {cid : String} {s : Stream} :
    w.stream? cid = some s ↔ w.streams cid = some s ∧ s.ended = false := by
  simp [stream?, Option.filter_eq_some_iff]

end World

/-- What is computed is a step. -/
lemma next_sound {w w' : World} {l : Label} (h : w.next l = some w') : Step w l w' := by
  cases l with
  | push p =>
    simp only [World.next, Option.ite_none_right_eq_some, Option.some.injEq] at h
    obtain ⟨hc, rfl⟩ := h
    exact .push hc
  | store i up =>
    simp only [World.next] at h
    split at h
    · cases h
      exact .store ‹_›
    · cases h
  | publish i up =>
    simp only [World.next] at h
    split at h
    · cases h
      exact .publish ‹_›
    · cases h
  | announce i up =>
    simp only [World.next] at h
    split at h
    · cases h
      exact .announce ‹_›
    · cases h
  | direct i =>
    simp only [World.next] at h
    split at h
    · cases h
      exact .direct ‹_›
    · cases h
  | take k =>
    simp only [World.next] at h
    split at h
    · simp only [Option.ite_none_right_eq_some, Option.some.injEq] at h
      obtain ⟨⟨hfirst, hidle⟩, rfl⟩ := h
      exact .take ‹_› hfirst hidle
    · cases h
  | visit i cid =>
    simp only [World.next] at h
    split at h
    · simp only [Option.ite_none_right_eq_some, Option.some.injEq] at h
      obtain ⟨⟨hw, hp⟩, rfl⟩ := h
      exact .visit ‹_› hw hp
    · cases h
  | resume i =>
    simp only [World.next] at h
    split at h
    · split at h
      · cases h
        exact .resume ‹_› ‹_›
      · cases h
    · cases h
  | secondLoop i =>
    simp only [World.next] at h
    split at h
    · simp only [Option.ite_none_right_eq_some, Option.some.injEq] at h
      obtain ⟨⟨hw, hp, hl⟩, rfl⟩ := h
      exact .secondLoop ‹_› hw hp hl
    · cases h
  | finish i =>
    simp only [World.next] at h
    split at h
    · simp only [Option.ite_none_right_eq_some, Option.some.injEq] at h
      obtain ⟨⟨hw, hp, hl⟩, rfl⟩ := h
      exact .finish ‹_› hw hp hl
    · cases h
  | heartbeat cid now =>
    simp only [World.next] at h
    split at h
    · simp only [Option.ite_none_right_eq_some, Option.map_eq_some_iff] at h
      obtain ⟨hact, conn', hs, rfl⟩ := h
      exact .heartbeat ‹_› hact hs
    · cases h
  | admin req =>
    simp only [World.next] at h
    split at h
    · cases h
      exact .admin ‹_›
    · cases h
  | expire category =>
    cases h
    exact .expire
  | register cid categories tenantId =>
    simp only [World.next] at h
    split at h
    · cases h
      exact .register ⟨‹_›, ‹_›⟩
    · cases h
  | connect cid category raw tenantId lastEventId =>
    simp only [World.next] at h
    split at h
    · cases h
      exact .connect ⟨‹_›, ‹_›⟩ ‹_›
    · cases h
  | commit cid =>
    simp only [World.next] at h
    split at h
    · obtain ⟨hs, ho⟩ := World.stream?_eq_some.1 ‹_›
      split at h
      · cases h
        exact .commit hs ho ‹_›
      · cases h
    · cases h
  | greet cid now =>
    simp only [World.next] at h
    split at h
    · obtain ⟨hs, ho⟩ := World.stream?_eq_some.1 ‹_›
      split at h
      · cases h
        exact .greet hs ho ‹_›
      · cases h
    · cases h
  | enter cid =>
    simp only [World.next] at h
    split at h
    · obtain ⟨hs, ho⟩ := World.stream?_eq_some.1 ‹_›
      split at h
      · cases h
        exact .start hs ho ‹_›
      · cases h
        exact .enter hs ho ‹_›
      · cases h
    · cases h
  | read cid =>
    simp only [World.next] at h
    split at h
    · obtain ⟨hs, ho⟩ := World.stream?_eq_some.1 ‹_›
      split at h
      · cases h
        exact .read hs ho ‹_›
      · cases h
    · cases h
  | replay cid =>
    simp only [World.next] at h
    split at h
    · obtain ⟨hs, ho⟩ := World.stream?_eq_some.1 ‹_›
      split at h
      · cases h
        exact .replay hs ho ‹_›
      · cases h
    · cases h
  | get cid second =>
    simp only [World.next] at h
    split at h
    · obtain ⟨hs, ho⟩ := World.stream?_eq_some.1 ‹_›
      split at h
      · cases h
        exact .get hs ho ‹_› ‹_› ‹_›
      · cases h
    · cases h
  | timeout cid now =>
    simp only [World.next] at h
    split at h
    · obtain ⟨hs, ho⟩ := World.stream?_eq_some.1 ‹_›
      split at h
      · cases h
        exact .timeout hs ho ‹_›
      · cases h
    · cases h
  | exit cid =>
    simp only [World.next, Option.map_eq_some_iff] at h
    obtain ⟨s, hs, rfl⟩ := h
    obtain ⟨hs, ho⟩ := World.stream?_eq_some.1 hs
    exact .exit hs ho

/-- Every step is computed. -/
lemma next_complete {w w' : World} {l : Label} (h : Step w l w') : w.next l = some w' := by
  have stream : ∀ {cid s}, w.streams cid = some s → s.ended = false → w.stream? cid = some s :=
    fun hs ho => World.stream?_eq_some.2 ⟨hs, ho⟩
  cases h
  case push hc => simp [World.next, hc]
  case store hi => simp [World.next, hi]
  case publish hi => simp [World.next, hi]
  case announce hi => simp [World.next, hi]
  case direct hi => simp [World.next, hi]
  case take hk hfirst hidle =>
    simp only [World.next, hk]
    rw [if_pos ⟨hfirst, hidle⟩]
  case visit hi hw hp => simp [World.next, hi, hw, hp]
  case resume hi hr => simp [World.next, hi, hr]
  case secondLoop hi hw hp hl => simp [World.next, hi, hw, hp, hl]
  case finish hi hw hp hl => simp [World.next, hi, hw, hp, hl]
  case heartbeat hc ha hs => simp [World.next, hc, ha, hs]
  case admin hr => simp [World.next, hr]
  case expire => rfl
  case register hf => simp [World.next, hf.1, hf.2]
  case connect hf hs => simp [World.next, hf.1, hf.2, hs]
  case commit hs ho hst => simp [World.next, stream hs ho, hst]
  case greet hs ho hst => simp [World.next, stream hs ho, hst]
  case start hs ho hst => simp [World.next, stream hs ho, hst]
  case read hs ho hst => simp [World.next, stream hs ho, hst]
  case replay hs ho hst => simp [World.next, stream hs ho, hst]
  case enter hs ho hst => simp [World.next, stream hs ho, hst]
  case get hs ho hst hc hq => simp [World.next, stream hs ho, hst, hc, hq]
  case timeout hs ho hst => simp [World.next, stream hs ho, hst]
  case exit hs ho => simp [World.next, stream hs ho]

/-- The steps of the system are what `next` computes. -/
theorem next_iff {w w' : World} {l : Label} : w.next l = some w' ↔ Step w l w' :=
  ⟨next_sound, next_complete⟩

/-- A computed guarded run is a guarded run. -/
lemma execWhile_guarded {guard : World → Label → Bool} {C : World → Label → Prop}
    (sound : ∀ {w l}, guard w l = true → C w l) {w w' : World} {ls : List Label}
    (h : w.execWhile guard ls = some w') : Guarded Step C w ls w' := by
  induction ls generalizing w with
  | nil =>
    cases h
    exact .nil
  | cons l ls ih =>
    simp only [World.execWhile] at h
    split at h
    · split at h
      · exact .cons (sound ‹_›) (next_iff.1 ‹_›) (ih h)
      · cases h
    · cases h

/-- A computed run is a run. -/
lemma exec_steps {w w' : World} {ls : List Label} (h : w.exec ls = some w') :
    Steps Step w ls w' :=
  (execWhile_guarded (C := fun _ _ => True) (fun _ => trivial) h).steps

/-- The state after a possible step. -/
def World.step (w : World) (l : Label) (h : (w.next l).isSome = true) : World :=
  (w.next l).get h

/-- A step that is computed is a step. -/
lemma World.step_spec (w : World) (l : Label) (h : (w.next l).isSome = true) :
    Step w l (w.step l h) :=
  next_iff.1 (Option.some_get h).symm

/-- The state a computed run ends in. -/
def World.after (w : World) (ls : List Label) (h : (w.exec ls).isSome = true) : World :=
  (w.exec ls).get h

/-- A run that is computed is a run. -/
lemma World.steps_after (w : World) (ls : List Label) (h : (w.exec ls).isSome = true) :
    Steps Step w ls (w.after ls h) :=
  exec_steps (Option.some_get h).symm

/-! ## Sample values -/

namespace Sample

def tenant : TenantId := ⟨"3f0c7a52-6f0e-4c39-9d0a-5a4f0b6a1d11", by decide⟩

def clientId : String := tenant.val ++ ":u1:8a4b6a6e"

/-- 2026-08-25, ten o'clock and some seconds. -/
def clock (second : Nat) : Calendar.Datetime :=
  { year := 2026, month := 8, day := 25, hour := 10, minute := 0, second := second % 60,
    microsecond := 0, second_lt := Nat.mod_lt _ (by decide) }

/-- An item update for the tenant, pushed at that time. -/
def itemUpdate (process : Process) (category : String) (second counter : Nat) :
    PushEvent :=
  { process, category, eventType := .ITEM_UPDATE, data := .obj [], tenantId := tenant,
    second := 1787652000 + second, counter, publishedAt := clock second }

/-- Nothing has happened and the tables are empty. -/
def start : World := .init ⟨[], [], []⟩

end Sample

end InstantBoard.Sse
