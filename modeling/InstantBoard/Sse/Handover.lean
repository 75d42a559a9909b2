import InstantBoard.Sse.Delivery
import InstantBoard.Sse.Exec
import InstantBoard.Sse.Replay
import InstantBoard.Sse.Wire

/-!
# The hand-over from replay to live

A reconnecting client of one channel: its connection is registered, then the history is read and
replayed, then the live loop drains the queue. An event is replayed when it was in the history at
the read, and it is written live once for every copy dispatched after the registration. So an
event of the client's tenant after the anchor is written exactly once when exactly one of the two
happens, once (`written_once_iff`): a replayed event must have nothing on its way to the client
any more when the connection is registered, and an event not replayed must take one route.
-/

namespace InstantBoard.Sse

open Transition

/-- A run of a reconnecting client: registered in `w₁`, at the read of the history in `w₂`, and in
`w` nothing is left to deliver. -/
structure Handover (w₁ w₂ w : World) (ls₁ ls₂ : List Label) (c : Client) (channel id : String) :
    Prop where
  connects : ∃ w₀ raw, w₀.Reachable ∧
    Step w₀ (.connect c.id channel raw c.tenantId (some id)) w₁
  single : channel ≠ "all"
  categories : c.categories = [channel]
  before : Steps Step w₁ ls₁ w₂
  reads : ∃ w₃, Step w₂ (.read c.id) w₃ ∧ Steps Step w₃ ls₂ w
  up : ∀ l ∈ ls₁ ++ ls₂, l.RedisUp
  stays : ∀ l ∈ ls₁ ++ ls₂, l.Keeps c.id
  idle : w.Idle

/-- The stream is in its live loop and has written what its connection received. -/
structure Drained (w : World) (cid : String) (s : Stream) : Prop where
  stream : w.streams cid = some s
  live : s.stage = .live
  queue : ∃ conn, w.router.connections cid = some conn ∧ conn.queue = []

/-- The copies of a publication that reach the client after its registration: what is still owed
of one that was published by then, every route of a later one. -/
def World.onTheWay (w₁ : World) (c : Client) (u : Event) : Nat :=
  if u.seq < w₁.log.length then w₁.owed c u.seq else u.routes * (u.reaches c).toNat

/-- Nothing is owed of what is not published yet. -/
lemma World.Recorded.owed_new {w : World} (hw : w.Recorded) (c : Client) {n : Nat}
    (hn : w.log.length ≤ n) : w.owed c n = 0 := by
  have old : ∀ {e}, e ∈ w.underWay → ¬ e.seq = n := by
    intro e he
    have := (hw.underWay he).lt
    omega
  have hp : Pool.weigh (PushTask.owes c n) w.pushes = 0 := by
    refine Pool.weigh_eq_zero fun task ht => ?_
    cases task with
    | publishing e => exact if_neg (old (World.mem_underWay.2 (.inl ⟨_, ht, rfl⟩)))
    | directing e => exact if_neg (old (World.mem_underWay.2 (.inl ⟨_, ht, rfl⟩)))
    | _ => rfl
  have hi : Pool.weigh (·.owes c n) w.inbox = 0 :=
    Pool.weigh_eq_zero fun e he => if_neg (old (World.mem_underWay.2 (.inr (.inl he))))
  have hd : Pool.weigh (·.owes w.router c n) w.dispatches = 0 :=
    Pool.weigh_eq_zero fun d hd =>
      if_neg (old (World.mem_underWay.2 (.inr (.inr ⟨d, hd, rfl⟩))))
  simp only [World.owed, hp, hi, hd]

/-- A place of a history is there once. -/
lemma countP_seq_eq {l : List Event} (sorted : l.Pairwise (·.seq < ·.seq)) (n : Nat) :
    l.countP (·.seq == n) = if n ∈ l.map (·.seq) then 1 else 0 := by
  have hnodup : (l.map (·.seq)).Nodup :=
    (List.pairwise_map.2 sorted).imp Nat.ne_of_lt
  have hcount : l.countP (·.seq == n) = (l.map (·.seq)).count n := by
    rw [List.count, List.countP_map]
    rfl
  rw [hcount]
  split
  · exact List.count_eq_one_of_mem hnodup ‹_›
  · exact List.count_eq_zero.2 ‹_›

namespace Handover

variable {w₁ w₂ w : World} {ls₁ ls₂ : List Label} {c : Client} {channel id : String}

/-- The connection is there, empty, when the client is registered. -/
lemma registered (h : Handover w₁ w₂ w ls₁ ls₂ c channel id) :
    w₁.Reachable ∧ w₁.router.HoldsClient c ∧ (∀ n, w₁.router.copies c.id n = 0) ∧
      ∃ s, w₁.streams c.id = some s ∧ s.category = channel ∧ s.tenantId = c.tenantId ∧
        s.lastEventId = some id := by
  obtain ⟨w₀, raw, hreach, hstep⟩ := h.connects
  refine ⟨?_, ?_⟩
  · obtain ⟨db, hdb⟩ := hreach
    exact ⟨db, hdb.step hstep⟩
  · cases hstep with
    | @connect _ _ _ channels _ _ hf hsel =>
      have hchannels : channels = none := by
        cases raw with
        | none =>
          cases hsel
          rfl
        | some raw =>
          simp only [selectedChannels, if_neg h.single] at hsel
          cases hsel
          rfl
      subst hchannels
      have hconn : (w₀.connect c.id channel none c.tenantId (some id)).router.connections c.id =
          some (.new [channel] c.tenantId) := by
        simp [World.connect, World.setStream, World.register, SSEEventRouter.register,
          categoriesOf]
      refine ⟨⟨_, hconn, ⟨h.categories.symm, rfl⟩⟩, ?_, ?_⟩
      · intro n
        simp only [SSEEventRouter.copies, hconn]
        rfl
      · refine ⟨_, Function.update_self .., rfl, rfl, rfl⟩

/-- What the connection has received in the end. -/
lemma copies (h : Handover w₁ w₂ w ls₁ ls₂ c channel id) {u : Event} (hu : Logged w.log u) :
    w.router.copies c.id u.seq = w₁.onTheWay c u := by
  obtain ⟨hreach, hheld, hzero, _⟩ := h.registered
  obtain ⟨w₃, hread, hafter⟩ := h.reads
  have run : Steps Step w₁ (ls₁ ++ .read c.id :: ls₂) w :=
    h.before.append (.cons hread hafter)
  have hls : ∀ l ∈ ls₁ ++ .read c.id :: ls₂, l.RedisUp ∧ l.Keeps c.id := by
    intro l hl
    by_cases hr : l = .read c.id
    · subst hr
      exact ⟨trivial, trivial⟩
    · have hl' : l ∈ ls₁ ++ ls₂ := by simpa [hr] using hl
      exact ⟨h.up l hl', h.stays l hl'⟩
  have hbal := (Steps.balance run hreach.attached hls hheld).2 u.seq
  simp only [World.balance, h.idle.owed, hzero] at hbal
  have hdue : w.due c u.seq = u.routes * (u.reaches c).toNat := by
    unfold World.due
    rw [show w.log[u.seq]? = some u from hu]
  unfold World.onTheWay
  split
  · -- published before: it was due then, and is due now
    rename_i hlt
    have hold : w₁.log[u.seq]? = some u := by
      obtain ⟨more, hmore⟩ := Steps.log_prefix run
      have hu' : w.log[u.seq]? = some u := hu
      rw [← hmore, List.getElem?_append_left hlt] at hu'
      exact hu'
    have hdue₁ : w₁.due c u.seq = u.routes * (u.reaches c).toNat := by
      unfold World.due
      rw [hold]
    omega
  · rename_i hge
    have howed := hreach.recorded.owed_new c (n := u.seq) (by omega)
    have hdue₁ : w₁.due c u.seq = 0 := by
      unfold World.due
      rw [List.getElem?_eq_none (by omega)]
    omega

/-- What the replay has written in the end. -/
lemma replayed (h : Handover w₁ w₂ w ls₁ ls₂ c channel id) {s : Stream}
    (hs : Drained w c.id s) (n : Nat) :
    s.replayedCopies n =
      (getMissedEvents w₂.redis channel id c.tenantId.val).countP (·.seq == n) := by
  obtain ⟨hreach, _, _, s₁, hs₁, hcat₁, hten₁, hlast₁⟩ := h.registered
  obtain ⟨w₃, hread, hafter⟩ := h.reads
  have hreach₂ : w₂.Reachable := by
    obtain ⟨db, hdb⟩ := hreach
    exact ⟨db, hdb.steps h.before⟩
  obtain ⟨s₂, hs₂, hsame⟩ := Steps.stream_same h.before hs₁
  cases hread with
  | @read _ s₂' ch todo missed hs₂' _ hstage =>
    rw [hs₂] at hs₂'
    cases hs₂'
    have hcat : s₂.category = channel := hsame.category.trans hcat₁
    obtain ⟨htodo, hmissed⟩ := hreach₂.readsOnce.reads hs₂ (by rw [hcat]; exact h.single) hstage
    cases htodo
    subst hmissed
    have hzero := hreach₂.unread.unread hs₂ (by rw [hstage]; rfl) n
    have hid : s₂.anchor.getD "" = id := by
      have hlast : s₂.lastEventId = some id := hsame.lastEventId.trans hlast₁
      by_cases hempty : id = "" <;> simp [Stream.anchor, hlast, hempty, Option.filter_some]
    -- the one read of a single channel fills the replay
    have hstage₃ : (s₂.read w₂.redis s₂.category [] []).stage =
        .replaying (getMissedEvents w₂.redis channel id c.tenantId.val) := by
      have htenant : s₂.tenantId = c.tenantId := hsame.tenantId.trans hten₁
      simp [Stream.read, arrange, hcat, h.single, hid, htenant]
    have hreplay : (s₂.read w₂.redis s₂.category [] []).replay n =
        (getMissedEvents w₂.redis channel id c.tenantId.val).countP (·.seq == n) := by
      have hnone : (s₂.read w₂.redis s₂.category [] []).replayedCopies n = 0 := hzero
      simp only [Stream.replay, hnone, hstage₃, Stage.rest, Nat.zero_add]
    -- from there on it is written frame by frame
    have hrun := hafter.invariant
      (I := fun v => ∃ s', v.streams c.id = some s' ∧ s'.stage.hasRead = true ∧
        s'.replay n = (s₂.read w₂.redis s₂.category [] []).replay n) ?_
      ⟨_, Function.update_self .., by rw [hstage₃]; rfl, rfl⟩
    · obtain ⟨s', hs', _, heq⟩ := hrun
      rw [hs.stream] at hs'
      cases hs'
      rw [hreplay] at heq
      simpa [Stream.replay, hs.live, Stage.rest] using heq
    · rintro v l v' ⟨s', hs', hpast, heq⟩ hstep
      obtain ⟨s'', hs'', rfl | hadv⟩ := hstep.stream_next hs'
      · exact ⟨s'', hs'', hpast, heq⟩
      · obtain ⟨hpast', heq'⟩ := hadv.keeps_replay hpast
        exact ⟨s'', hs'', hpast', (heq' n).trans heq⟩

end Handover

/-- An event of the client's tenant published after the anchor is written exactly once if and only
if either it was in the history when that was read and nothing of it was on its way to the client
since the registration, or it was not and exactly one copy was. -/
theorem written_once_iff {w₁ w₂ w : World} {ls₁ ls₂ : List Label} {c : Client}
    {channel id : String} (h : Handover w₁ w₂ w ls₁ ls₂ c channel id) {s : Stream}
    (hs : Drained w c.id s) {u : Event} (hu : Logged w.log u)
    (hon : u.isOn channel c.tenantId = true)
    (hafter : ∃ a ∈ w₂.redis.chronological channel, a.hasId id = true ∧ a.seq < u.seq) :
    s.written.countP (·.carries u.seq) = 1 ↔
      (u ∈ w₂.redis.chronological channel → w₁.onTheWay c u = 0) ∧
      (u ∉ w₂.redis.chronological channel → w₁.onTheWay c u = 1) := by
  have hreach₂ : w₂.Reachable := by
    obtain ⟨db, hdb⟩ := h.registered.1
    exact ⟨db, hdb.steps h.before⟩
  have hr₂ := hreach₂.recorded
  obtain ⟨w₃, hread, hrest⟩ := h.reads
  have run : Steps Step w₂ (.read c.id :: ls₂) w := .cons hread hrest
  have old : ∀ {e}, Logged w₂.log e → Logged w.log e := by
    intro e he
    obtain ⟨more, hmore⟩ := Steps.log_prefix run
    rw [← hmore]
    exact he.append more
  have hsorted : (getMissedEvents w₂.redis channel id c.tenantId.val).Pairwise (·.seq < ·.seq) := by
    rw [getMissedEvents_eq_filter (hr₂.sorted channel)]
    exact (hr₂.sorted channel).filter _
  have hmem : u.seq ∈ (getMissedEvents w₂.redis channel id c.tenantId.val).map (·.seq) ↔
      u ∈ w₂.redis.chronological channel := by
    rw [List.mem_map]
    constructor
    · rintro ⟨e, he, heq⟩
      have hheld := ((mem_getMissedEvents (hr₂.sorted channel)).1 he).1
      rwa [← (old (hr₂.history hheld)).eq_of_seq hu heq]
    · intro hheld
      refine ⟨u, (mem_getMissedEvents (hr₂.sorted channel)).2 ⟨hheld, ?_, hafter⟩, rfl⟩
      obtain ⟨p, hp, _, ht⟩ := Event.isOn_iff.1 hon
      exact (Event.foreign_pushed hp _).2 ⟨p, hp, ht⟩
  have hlive : s.liveCopies u.seq = w₁.onTheWay c u := by
    obtain ⟨conn, hconn, hempty⟩ := hs.queue
    have hreach : w.Reachable := by
      obtain ⟨db, hdb⟩ := hreach₂
      exact ⟨db, hdb.steps run⟩
    have hdrains := hreach.drains.drains hs.stream hconn u.seq
    have hcopies := h.copies hu
    simp only [SSEEventRouter.copies, hconn] at hcopies
    simp only [SSEConnection.queued, hempty, List.countP_nil] at hdrains
    omega
  rw [Stream.copies_eq, h.replayed hs, hlive, countP_seq_eq hsorted]
  by_cases hheld : u ∈ w₂.redis.chronological channel
  · rw [if_pos (hmem.2 hheld)]
    simp [hheld]
  · rw [if_neg (fun hc => hheld (hmem.1 hc))]
    simp [hheld]

/-! ## An event on the seam -/

namespace Seam

open Sample

def client : Client := ⟨clientId, ["tech"], tenant⟩

/-- The anchor, an event of the worker that was delivered long ago. -/
def anchor : PushEvent := itemUpdate (.other 0) "tech" 0 1

/-- The next one, stored before the history is read and published after that. -/
def event : PushEvent := itemUpdate (.other 0) "tech" 5 2

def earlier : List Label :=
  [.push anchor, .store 0 true, .publish 0 true, .take 0, .secondLoop 0, .finish 0]

def toRead : List Label :=
  [.commit clientId, .greet clientId (clock 4), .enter clientId, .push event, .store 0 true]

def toEnd : List Label :=
  [.publish 0 true, .replay clientId, .enter clientId, .take 0, .visit 0 clientId, .secondLoop 0,
    .finish 0, .get clientId 1787652006]

def connection : Label := .connect clientId "tech" none tenant (some "1787652000-1")

def world₀ : World := start.after earlier (by decide)

def world₁ : World := world₀.step connection (by decide)

def world₂ : World := world₁.after toRead (by decide)

def world₃ : World := world₂.step (.read clientId) (by decide)

def world : World := world₃.after toEnd (by decide)

def stream : Stream := (world.streams clientId).get (by decide)

/-- The sample is a handover. -/
lemma handover : Handover world₁ world₂ world toRead toEnd client "tech" "1787652000-1" where
  connects := ⟨world₀, none, ⟨_, earlier, World.steps_after _ _ _⟩, World.step_spec _ _ _⟩
  single := by decide
  categories := rfl
  before := World.steps_after _ _ _
  reads := ⟨world₃, World.step_spec _ _ _, World.steps_after _ _ _⟩
  up := by simp [toRead, toEnd, Label.RedisUp]
  stays := by simp [toRead, toEnd, Label.Keeps]
  idle := ⟨rfl, rfl, rfl⟩

/-- The sample stream has read its queue. -/
lemma drained : Drained world client.id stream where
  stream := (Option.some_get _).symm
  live := rfl
  queue := ⟨(world.router.connections clientId).get (by decide), (Option.some_get _).symm, rfl⟩

/-- The sample event is in the log. -/
lemma logged : Logged world.log ⟨1, .pushed event⟩ := rfl

/-- The sample event comes after its anchor in the history. -/
lemma after_anchor : ∃ a ∈ world₂.redis.chronological "tech",
    a.hasId "1787652000-1" = true ∧ a.seq < 1 :=
  ⟨⟨0, .pushed anchor⟩, List.mem_cons_self, by decide, by decide⟩

end Seam

open Seam in
/-- The equivalence for that event. -/
theorem seam_once_iff :
    stream.written.countP (·.carries 1) = 1 ↔
      (⟨1, .pushed event⟩ ∈ world₂.redis.chronological "tech" →
        world₁.onTheWay client ⟨1, .pushed event⟩ = 0) ∧
      (⟨1, .pushed event⟩ ∉ world₂.redis.chronological "tech" →
        world₁.onTheWay client ⟨1, .pushed event⟩ = 1) :=
  written_once_iff handover drained logged (by decide) after_anchor

open Seam in
/-- The event is written by the replay and by the live loop. -/
theorem seam_twice :
    Handover world₁ world₂ world toRead toEnd client "tech" "1787652000-1" ∧
      Drained world client.id stream ∧ Logged world.log ⟨1, .pushed event⟩ ∧
      (⟨1, .pushed event⟩ : Event).isOn "tech" client.tenantId = true ∧
      (∃ a ∈ world₂.redis.chronological "tech", a.hasId "1787652000-1" = true ∧ a.seq < 1) ∧
      stream.written.countP (·.carries 1) ≠ 1 :=
  ⟨handover, drained, logged, by decide, after_anchor, by decide⟩

end InstantBoard.Sse
