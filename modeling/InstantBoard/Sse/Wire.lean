import InstantBoard.Sse.Streams

/-!
# What streams write

The possible moves of one stream (`Stream.Advance`), the shapes of the frames it writes
(`World.Reachable.shaped`), and where what a connection received is: written by the live loop or
still in the queue (`World.Reachable.drains`).
-/

namespace InstantBoard.Sse

open Transition

/-- The moves of the stream of a client: those of `sse_stream`, and its end. -/
inductive Stream.Advance (w : World) (cid : String) (s : Stream) : Stream → Prop where
  | commit : s.stage = .connecting → Advance w cid s { s with stage := .created }
  | greet {now} : s.stage = .created →
      Advance w cid s (s.write (connectedFrame cid s.category now) .greeted)
  | start : s.stage = .greeted → Advance w cid s { s with stage := s.afterGreeting }
  | read {c todo missed} : s.stage = .reading (c :: todo) missed →
      Advance w cid s (s.read w.redis c todo missed)
  | replay {e rest} : s.stage = .replaying (e :: rest) →
      Advance w cid s (s.write (replayFrame e) (.replaying rest))
  | enter : s.stage = .replaying [] → Advance w cid s { s with stage := .live }
  | get {conn f rest second} : s.stage = .live → w.router.connections cid = some conn →
      conn.queue = f :: rest →
      Advance w cid s (s.write (liveFrame f second conn.eventsSentCount) .live)
  | timeout {now} : s.stage = .live → Advance w cid s (s.write (timeoutFrame now) .live)
  | exit : Advance w cid s { s with ended := true }

/-- A step leaves a stream alone or makes one of its moves; a new stream has written nothing. -/
lemma Step.stream {w w' : World} {l : Label} (h : Step w l w') {cid : String} {s' : Stream}
    (hs' : w'.streams cid = some s') :
    (w.streams cid = none ∧ s'.written = [] ∧ s'.stage = .connecting) ∨
      w.streams cid = some s' ∨
      ∃ s, w.streams cid = some s ∧ s.ended = false ∧ s.Advance w cid s' := by
  have set : ∀ {v : World} {cid' : String} {s : Stream},
      (v.setStream cid' s).streams cid = some s' → (cid = cid' ∧ s' = s) ∨ v.streams cid = some s' := by
    intro v cid' s h
    by_cases hcid : cid = cid'
    · left
      simp only [World.setStream, hcid, Function.update_self, Option.some.injEq] at h
      exact ⟨hcid, h.symm⟩
    · right
      simpa [World.setStream, hcid] using h
  cases h
  case connect cid' category raw channels tenantId lastEventId hf _ =>
    rcases set hs' with ⟨rfl, rfl⟩ | hs
    · exact .inl ⟨hf.2, rfl, rfl⟩
    · exact .inr (.inl hs)
  case commit s hs ho hst =>
    rcases set hs' with ⟨rfl, rfl⟩ | hs''
    · exact .inr (.inr ⟨s, hs, ho, .commit hst⟩)
    · exact .inr (.inl hs'')
  case greet s now hs ho hst =>
    rcases set hs' with ⟨rfl, rfl⟩ | hs''
    · exact .inr (.inr ⟨s, hs, ho, .greet hst⟩)
    · exact .inr (.inl hs'')
  case start s hs ho hst =>
    rcases set hs' with ⟨rfl, rfl⟩ | hs''
    · exact .inr (.inr ⟨s, hs, ho, .start hst⟩)
    · exact .inr (.inl hs'')
  case read s c todo missed hs ho hst =>
    rcases set hs' with ⟨rfl, rfl⟩ | hs''
    · exact .inr (.inr ⟨s, hs, ho, .read hst⟩)
    · exact .inr (.inl hs'')
  case replay s e rest hs ho hst =>
    rcases set hs' with ⟨rfl, rfl⟩ | hs''
    · exact .inr (.inr ⟨s, hs, ho, .replay hst⟩)
    · exact .inr (.inl hs'')
  case enter s hs ho hst =>
    rcases set hs' with ⟨rfl, rfl⟩ | hs''
    · exact .inr (.inr ⟨s, hs, ho, .enter hst⟩)
    · exact .inr (.inl hs'')
  case get s conn f rest second hs ho hst hc hq =>
    rcases set hs' with ⟨rfl, rfl⟩ | hs''
    · exact .inr (.inr ⟨s, hs, ho, .get hst hc hq⟩)
    · exact .inr (.inl hs'')
  case timeout s now hs ho hst =>
    rcases set hs' with ⟨rfl, rfl⟩ | hs''
    · exact .inr (.inr ⟨s, hs, ho, .timeout hst⟩)
    · exact .inr (.inl hs'')
  case exit s hs ho =>
    rcases set (v := w) hs' with ⟨rfl, rfl⟩ | hs''
    · exact .inr (.inr ⟨s, hs, ho, .exit⟩)
    · exact .inr (.inl hs'')
  all_goals exact .inr (.inl hs')

/-- A stream is never taken out of the table. -/
lemma Step.streams_none {w w' : World} {l : Label} (h : Step w l w') {cid : String}
    (hs : w'.streams cid = none) : w.streams cid = none := by
  have set : ∀ {v : World} {cid' : String} {s : Stream},
      (v.setStream cid' s).streams cid = none → v.streams cid = none := by
    intro v cid' s h
    by_cases hcid : cid = cid'
    · simp [World.setStream, hcid] at h
    · simpa [World.setStream, hcid] using h
  cases h
  case connect => exact set hs
  case commit => exact set hs
  case greet => exact set hs
  case start => exact set hs
  case read => exact set hs
  case replay => exact set hs
  case enter => exact set hs
  case get => exact set hs
  case timeout => exact set hs
  case exit => exact set (v := w) hs
  all_goals exact hs

/-- A stream stays as it is in a step or makes one of its moves. -/
lemma Step.stream_next {w w' : World} {l : Label} (h : Step w l w') {cid : String} {s : Stream}
    (hs : w.streams cid = some s) :
    ∃ s', w'.streams cid = some s' ∧ (s' = s ∨ s.Advance w cid s') := by
  cases hs' : w'.streams cid with
  | none =>
    rw [h.streams_none hs'] at hs
    cases hs
  | some s' =>
    refine ⟨s', rfl, ?_⟩
    rcases h.stream hs' with ⟨hnone, _⟩ | hsame | ⟨s₀, hs₀, _, hadv⟩
    · rw [hnone] at hs
      cases hs
    · rw [hs] at hsame
      exact .inl (Option.some.inj hsame).symm
    · rw [hs] at hs₀
      cases hs₀
      exact .inr hadv

/-! ## The request of a stream -/

/-- The stream serves the same request. -/
structure Stream.Same (s s' : Stream) : Prop where
  category : s'.category = s.category
  channels : s'.channels = s.channels
  tenantId : s'.tenantId = s.tenantId
  lastEventId : s'.lastEventId = s.lastEventId

/-- A stream serves its own request. -/
lemma Stream.Same.refl (s : Stream) : s.Same s :=
  ⟨rfl, rfl, rfl, rfl⟩

/-- The request is the same over two steps. -/
lemma Stream.Same.trans {s t u : Stream} (h : s.Same t) (h' : t.Same u) : s.Same u :=
  ⟨h'.category.trans h.category, h'.channels.trans h.channels, h'.tenantId.trans h.tenantId,
    h'.lastEventId.trans h.lastEventId⟩

/-- A stream that goes on serves the same request. -/
lemma Stream.Advance.same {w : World} {cid : String} {s s' : Stream} (h : s.Advance w cid s') :
    s.Same s' := by
  cases h
  case read c todo missed _ => cases todo <;> exact ⟨rfl, rfl, rfl, rfl⟩
  all_goals exact ⟨rfl, rfl, rfl, rfl⟩

/-- A stream serves its request over a whole run. -/
lemma Steps.stream_same {w w' : World} {ls : List Label} (run : Steps Step w ls w') {cid : String}
    {s : Stream} (hs : w.streams cid = some s) : ∃ s', w'.streams cid = some s' ∧ s.Same s' := by
  refine run.invariant (I := fun v => ∃ s', v.streams cid = some s' ∧ s.Same s') ?_
    ⟨s, hs, .refl s⟩
  rintro v l v' ⟨s', hs', hsame⟩ hstep
  obtain ⟨s'', hs'', h⟩ := hstep.stream_next hs'
  refine ⟨s'', hs'', ?_⟩
  rcases h with rfl | hadv
  · exact hsame
  · exact hsame.trans hadv.same

/-- A single-channel stream that reads the history reads that of its channel, once. -/
structure World.ReadsOnce (w : World) : Prop where
  reads : ∀ {cid s todo missed}, w.streams cid = some s → s.category ≠ "all" →
    s.stage = .reading todo missed → todo = [s.category] ∧ missed = []

/-- A step keeps what the streams read. -/
lemma World.ReadsOnce.step {w w' : World} {l : Label} (hw : w.ReadsOnce) (h : Step w l w') :
    w'.ReadsOnce := by
  constructor
  intro cid s' todo missed hs' hsingle hst'
  rcases h.stream hs' with ⟨_, _, hconn⟩ | hs | ⟨s, hs, _, hadv⟩
  · rw [hconn] at hst'
    cases hst'
  · exact hw.reads hs hsingle hst'
  · cases hadv
    case start hst =>
      simp only [Stream.afterGreeting] at hst'
      split at hst'
      · have hone : replayChannels s.category s.channels = [s.category] := if_neg hsingle
        rw [hone] at hst'
        cases hst'
        exact ⟨rfl, rfl⟩
      · cases hst'
    case read c todo' missed' hst =>
      cases todo' with
      | nil => cases hst'
      | cons c' cs =>
        obtain ⟨htodo, _⟩ := hw.reads hs hsingle hst
        cases htodo
    case exit =>
      have hread := hw.reads hs hsingle hst'
      exact hread
    all_goals cases hst'

/-- In every reachable world a history is read once. -/
lemma World.Reachable.readsOnce {w : World} (h : w.Reachable) : w.ReadsOnce := by
  obtain ⟨db, h⟩ := h
  refine h.invariant .step ⟨?_⟩
  intro cid s todo missed hs
  cases hs

/-! ## Shapes -/

/-- The frames a stream writes. -/
inductive WireFrame.Shaped : WireFrame → Prop where
  | connected {cid category now} : Shaped (connectedFrame cid category now)
  | replayed {e} : Shaped (replayFrame e)
  | live {f second count} : Shaped (liveFrame f second count)
  | timeout {now} : Shaped (timeoutFrame now)

/-- Every frame written has one of the shapes. -/
structure World.Shaped (w : World) : Prop where
  shaped : ∀ {cid s f}, w.streams cid = some s → f ∈ s.written → f.Shaped

/-- A step keeps the shapes of the frames. -/
lemma World.Shaped.step {w w' : World} {l : Label} (hw : w.Shaped) (h : Step w l w') :
    w'.Shaped := by
  constructor
  intro cid s' f hs' hf
  have written : ∀ {s g stage}, w.streams cid = some s → WireFrame.Shaped g →
      f ∈ (s.write g stage).written → f.Shaped := by
    intro s g stage hs hg hf
    simp only [Stream.write, List.mem_append, List.mem_singleton] at hf
    rcases hf with hf | rfl
    · exact hw.shaped hs hf
    · exact hg
  rcases h.stream hs' with ⟨_, hnil, _⟩ | hs | ⟨s, hs, _, hadv⟩
  · rw [hnil] at hf
    cases hf
  · exact hw.shaped hs hf
  · cases hadv
    case greet => exact written hs .connected hf
    case replay => exact written hs .replayed hf
    case get => exact written hs .live hf
    case timeout => exact written hs .timeout hf
    case read c todo missed _ => cases todo <;> exact hw.shaped hs hf
    all_goals exact hw.shaped hs hf

/-- In every reachable world the frames have their shapes. -/
lemma World.Reachable.shaped {w : World} (h : w.Reachable) : w.Shaped := by
  obtain ⟨db, h⟩ := h
  refine h.invariant .step ⟨?_⟩
  intro cid s f hs
  cases hs

/-! ## Counting copies -/

/-- The frame carries the publication `n`. -/
def WireFrame.carries (n : Nat) (f : WireFrame) : Bool :=
  f.origin.any (·.seq == n)

def WireFrame.isLive (f : WireFrame) : Bool :=
  match f.kind with
  | .live _ _ => true
  | _ => false

/-- The copies of the publication `n` that the live loop wrote. -/
def Stream.liveCopies (s : Stream) (n : Nat) : Nat :=
  s.written.countP fun f => f.isLive && f.carries n

/-- The copies of the publication `n` that the replay wrote. -/
def Stream.replayedCopies (s : Stream) (n : Nat) : Nat :=
  s.written.countP fun f => !f.isLive && f.carries n

/-- The copies of the publication `n` that wait in the queue. -/
def SSEConnection.queued (conn : SSEConnection) (n : Nat) : Nat :=
  conn.queue.countP fun f => f.origin.any (·.seq == n)

/-- A copy on the wire was replayed or written live. -/
lemma Stream.copies_eq (s : Stream) (n : Nat) :
    s.written.countP (·.carries n) = s.replayedCopies n + s.liveCopies n := by
  unfold Stream.replayedCopies Stream.liveCopies
  induction s.written with
  | nil => rfl
  | cons f fs ih =>
    simp only [List.countP_cons, ih]
    cases f.isLive <;> cases f.carries n <;> simp <;> omega

/-- The live copies after a frame is written. -/
lemma Stream.liveCopies_write (s : Stream) (f : WireFrame) (stage : Stage) (n : Nat) :
    (s.write f stage).liveCopies n = s.liveCopies n + (f.isLive && f.carries n).toNat := by
  simp only [Stream.liveCopies, Stream.write, List.countP_append, List.countP_singleton]
  cases f.isLive && f.carries n <;> rfl

/-- The replayed copies after a frame is written. -/
lemma Stream.replayedCopies_write (s : Stream) (f : WireFrame) (stage : Stage) (n : Nat) :
    (s.write f stage).replayedCopies n = s.replayedCopies n + (!f.isLive && f.carries n).toNat := by
  simp only [Stream.replayedCopies, Stream.write, List.countP_append, List.countP_singleton]
  cases !f.isLive && f.carries n <;> rfl

/-- A put queues what it counts. -/
lemma SSEConnection.queued_sendEvent {conn conn' : SSEConnection} {f : Frame} (n : Nat)
    (h : conn.sendEvent f = some conn') :
    conn'.copies n + conn.queued n = conn.copies n + conn'.queued n := by
  rw [SSEConnection.sendEvent_eq_some h]
  simp only [SSEConnection.copies, SSEConnection.queued, List.countP_append]
  omega

/-- What a connection has received was written by the live loop of its stream or is in the
queue. -/
structure World.Drains (w : World) : Prop where
  drains : ∀ {cid s conn}, w.streams cid = some s → w.router.connections cid = some conn →
    ∀ n, conn.copies n = s.liveCopies n + conn.queued n

/-- A put keeps the account. -/
lemma World.Drains.put {w : World} (hw : w.Drains) {cid : String} {conn conn' : SSEConnection}
    {f : Frame} (hc : w.router.connections cid = some conn) (hs : conn.sendEvent f = some conn')
    {cid' : String} {s : Stream} {conn'' : SSEConnection} (hst : w.streams cid' = some s)
    (hc' : (w.router.setConnection cid (some conn')).connections cid' = some conn'') (n : Nat) :
    conn''.copies n = s.liveCopies n + conn''.queued n := by
  obtain ⟨rfl, rfl⟩ | ⟨-, hc'⟩ := SSEEventRouter.setConnection_eq_some hc'
  · have := hw.drains hst hc n
    have := SSEConnection.queued_sendEvent n hs
    omega
  · exact hw.drains hst hc' n

/-- A move that writes nothing live keeps the account. -/
lemma World.Drains.move {w : World} (hw : w.Drains) {cid : String} {s s' : Stream}
    (hst : w.streams cid = some s) {cid' : String} {s'' : Stream} {conn : SSEConnection}
    (hst' : (w.setStream cid s').streams cid' = some s'')
    (hc : w.router.connections cid' = some conn) (heq : ∀ n, s'.liveCopies n = s.liveCopies n)
    (n : Nat) :
    conn.copies n = s''.liveCopies n + conn.queued n := by
  by_cases hcid : cid' = cid
  · subst hcid
    simp only [World.setStream, Function.update_self, Option.some.injEq] at hst'
    subst hst'
    rw [heq]
    exact hw.drains hst hc n
  · exact hw.drains (by simpa [World.setStream, hcid] using hst') hc n

/-- A step keeps what the connections received. -/
lemma World.Drains.step {w w' : World} {l : Label} (hw : w.Drains) (h : Step w l w') :
    w'.Drains := by
  constructor
  intro cid s' conn' hst' hc' n
  have silent : ∀ {s : Stream} {f : WireFrame} {stage : Stage}, f.isLive = false →
      ∀ n, (s.write f stage).liveCopies n = s.liveCopies n := by
    intro s f stage hf n
    rw [Stream.liveCopies_write, hf]
    rfl
  cases h
  case visit i d cid' _ _ _ =>
    rcases d.visit_cases w.router cid' with ⟨hv, _⟩ | ⟨_, _, hc, _, hs, hv⟩ | ⟨_, _, _, hv⟩
    · rw [hv] at hc'
      exact hw.drains hst' hc' n
    · rw [hv] at hc'
      exact hw.put hc hs hst' hc' n
    · rw [hv] at hc'
      exact hw.drains hst' hc' n
  case resume hr =>
    obtain ⟨_, _, _, _, hc, hs, _, rfl⟩ := Dispatch.resume_eq_some hr
    exact hw.put hc hs hst' hc' n
  case heartbeat hc _ hs => exact hw.put hc hs hst' hc' n
  case register cid' categories tenantId hf =>
    have hne : cid ≠ cid' := by
      rintro rfl
      have hnone : w.streams cid = none := hf.2
      exact absurd (hnone.symm.trans hst') (by simp)
    refine hw.drains hst' ?_ n
    rw [← SSEEventRouter.connections_register_of_ne hne _ categories tenantId]
    exact hc'
  case connect cid' category raw channels tenantId lastEventId hf _ =>
    by_cases hne : cid = cid'
    · subst hne
      simp only [World.connect, World.setStream, World.register, SSEEventRouter.register,
        Function.update_self, Option.some.injEq] at hst' hc'
      subst hst'
      subst hc'
      rfl
    · refine hw.drains (by simpa [World.connect, World.setStream, World.register, hne] using hst')
        ?_ n
      rw [← SSEEventRouter.connections_register_of_ne hne _ (categoriesOf category channels)
        tenantId]
      exact hc'
  case commit hst _ _ => exact hw.move hst hst' hc' (fun _ => rfl) n
  case greet hst _ _ => exact hw.move hst hst' hc' (silent rfl) n
  case start hst _ _ => exact hw.move hst hst' hc' (fun _ => rfl) n
  case read c todo missed hst _ _ =>
    cases todo <;> exact hw.move hst hst' hc' (fun _ => rfl) n
  case replay hst _ _ => exact hw.move hst hst' hc' (silent rfl) n
  case enter hst _ _ => exact hw.move hst hst' hc' (fun _ => rfl) n
  case timeout hst _ _ => exact hw.move hst hst' hc' (silent rfl) n
  case get cid' s conn f rest second hst _ _ hc hq =>
    by_cases hne : cid = cid'
    · subst hne
      simp only [World.get, World.setStream, World.setConnection, SSEEventRouter.setConnection,
        Function.update_self, Option.some.injEq] at hst' hc'
      subst hst'
      subst hc'
      have hd := hw.drains hst hc n
      rw [Stream.liveCopies_write]
      simp only [SSEConnection.queued, hq, List.countP_cons] at hd
      simp only [SSEConnection.queued, SSEConnection.copies] at hd ⊢
      have hlive : (liveFrame f second conn.eventsSentCount).isLive = true := rfl
      have hcarries : (liveFrame f second conn.eventsSentCount).carries n =
        f.origin.any (·.seq == n) := rfl
      rw [hlive, hcarries, Bool.true_and]
      cases hb : f.origin.any (·.seq == n) <;> simp [hb] at hd ⊢ <;> omega
    · have hst₀ : w.streams cid = some s' := by
        simpa [World.get, World.setStream, World.setConnection, hne] using hst'
      have hc₀ : w.router.connections cid = some conn' := by
        simpa [World.get, World.setStream, World.setConnection, SSEEventRouter.setConnection,
          hne] using hc'
      exact hw.drains hst₀ hc₀ n
  case exit cid' s hst _ =>
    have hc : w.router.connections cid = some conn' := by
      simp only [World.exit] at hc'
      split at hc'
      · rw [SSEEventRouter.connections_unregister] at hc'
        split at hc'
        · cases hc'
        · exact hc'
      · exact hc'
    have hst₀ : (w.setStream cid' { s with ended := true }).streams cid = some s' := hst'
    exact hw.move hst hst₀ hc (fun _ => rfl) n
  all_goals exact hw.drains hst' hc' n

/-- In every reachable world what was received is written or queued. -/
lemma World.Reachable.drains {w : World} (h : w.Reachable) : w.Drains := by
  obtain ⟨db, h⟩ := h
  refine h.invariant .step ⟨?_⟩
  intro cid s conn hs
  cases hs

/-! ## The replay on the wire -/

/-- What is left of the replay. -/
def Stage.rest : Stage → List Event
  | .replaying rest => rest
  | _ => []

/-- The history has been read. -/
def Stage.hasRead : Stage → Bool
  | .replaying _ => true
  | .live => true
  | _ => false

/-- The copies of the publication `n` that the replay has written or still has to write. -/
def Stream.replay (s : Stream) (n : Nat) : Nat :=
  s.replayedCopies n + s.stage.rest.countP (·.seq == n)

/-- Before the history is read nothing is replayed. -/
structure World.Unread (w : World) : Prop where
  unread : ∀ {cid s}, w.streams cid = some s → s.stage.hasRead = false →
    ∀ n, s.replayedCopies n = 0

/-- A move after the read keeps what the replay has written or still has to write. -/
lemma Stream.Advance.keeps_replay {w : World} {cid : String} {s s' : Stream} (h : s.Advance w cid s')
    (hread : s.stage.hasRead = true) : s'.stage.hasRead = true ∧ ∀ n, s'.replay n = s.replay n := by
  cases h
  case replay e rest hst =>
    refine ⟨rfl, ?_⟩
    intro n
    have hcarries : (replayFrame e).carries n = (e.seq == n) := rfl
    have hlive : (replayFrame e).isLive = false := rfl
    have hstage : (s.write (replayFrame e) (.replaying rest)).stage = .replaying rest := rfl
    simp only [Stream.replay, Stream.replayedCopies_write, hcarries, hlive, hst, hstage, Stage.rest,
      List.countP_cons]
    cases e.seq == n
    · simp
    · simp
      omega
  case enter hst =>
    refine ⟨rfl, ?_⟩
    intro n
    simp only [Stream.replay, hst]
    rfl
  case get conn f rest second hst hc hq =>
    refine ⟨rfl, ?_⟩
    intro n
    have hlive : (liveFrame f second conn.eventsSentCount).isLive = true := rfl
    simp only [Stream.replay, Stream.replayedCopies_write, hlive, hst]
    rfl
  case timeout now hst =>
    refine ⟨rfl, ?_⟩
    intro n
    have hcarries : (timeoutFrame now).carries n = false := rfl
    simp only [Stream.replay, Stream.replayedCopies_write, hcarries, hst]
    simp [Stream.write, Stage.rest]
  case exit => exact ⟨hread, fun _ => rfl⟩
  all_goals
    rename_i hst
    rw [hst] at hread
    cases hread

/-- A step replays nothing before the history is read. -/
lemma World.Unread.step {w w' : World} {l : Label} (hw : w.Unread) (h : Step w l w') :
    w'.Unread := by
  constructor
  intro cid s' hs' hread n
  rcases h.stream hs' with ⟨_, hnil, _⟩ | hs | ⟨s, hs, _, hadv⟩
  · simp [Stream.replayedCopies, hnil]
  · exact hw.unread hs hread n
  · cases hadv
    case commit hst => exact hw.unread hs (by rw [hst]; rfl) n
    case greet now hst =>
      rw [Stream.replayedCopies_write]
      have := hw.unread hs (by rw [hst]; rfl) n
      rw [this]
      rfl
    case start hst => exact hw.unread hs (by rw [hst]; rfl) n
    case read c todo missed hst =>
      have := hw.unread hs (by rw [hst]; rfl) n
      cases todo <;> exact this
    case exit => exact hw.unread hs hread n
    all_goals cases hread

/-- In every reachable world nothing is replayed before the history is read. -/
lemma World.Reachable.unread {w : World} (h : w.Reachable) : w.Unread := by
  obtain ⟨db, h⟩ := h
  refine h.invariant .step ⟨?_⟩
  intro cid s hs
  cases hs

end InstantBoard.Sse
