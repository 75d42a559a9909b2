import InstantBoard.Lib.Gregorian
import InstantBoard.Sse.Wire

/-!
# Replays in the order of publication

`collect_replay_events` sorts what it read of several channels by the text of `published_at`. As texts
of UTC times compare as the instants do, the merge is in the order of the instants, and as the sort is
stable it leaves the events of a channel as they were stored where their times do not decrease
(`replays_sorted_by_instant`); the instant of an event is the time `push_event` read
(`Event.publishedAt_pushed`). In every run the "all" stream replays in that order
(`World.Reachable.replaysInOrder`).
-/

namespace InstantBoard.Sse

open Transition Calendar

/-! ## Times of events -/

/-- The message says that it was published at `t`. -/
def Event.PublishedAt (e : Event) (t : Utc) : Prop :=
  e.message.get? "published_at" = some (.str t.isoformat)

/-- What `push_event` says is the time it read. -/
lemma Event.publishedAt_pushed {e : Event} {p : PushEvent} (h : e.body = .pushed p) {t : Utc} :
    e.PublishedAt t ↔ p.publishedAt = t.toDatetime := by
  unfold Event.PublishedAt Event.message
  rw [h, Body.message, PushEvent.message_published_at, Option.some.injEq, Json.str.injEq,
    isoformat_inj]

/-- `d` was not published after `e`. -/
def Event.InOrder (d e : Event) : Prop :=
  ∀ s t, d.PublishedAt s → e.PublishedAt t → s.instant ≤ t.instant

/-- The key of an event is the ISO text of its time. -/
lemma Event.PublishedAt.publishedKey_eq {e : Event} {t : Utc} (h : e.PublishedAt t) :
    e.publishedKey = t.isoformat := by
  unfold Event.publishedKey
  rw [h]

/-- The order of the keys is that of the instants. -/
lemma Event.inOrder_of_publishedKey_le {d e : Event} (h : d.publishedKey ≤ e.publishedKey) :
    d.InOrder e := by
  intro s t hs ht
  rw [hs.publishedKey_eq, ht.publishedKey_eq] at h
  exact Utc.isoformat_le_iff.1 h

/-! ## The merge -/

/-- What a merge makes of the events it is given: it loses none, their instants are in order, and
events whose keys do not decrease keep the order they had. -/
structure Merged (missed merged : List Event) : Prop where
  perm : merged.Perm missed
  inOrder : merged.Pairwise Event.InOrder
  stable : ∀ kept : List Event, kept.Sublist missed →
    kept.Pairwise (fun d e => d.publishedKey ≤ e.publishedKey) → kept.Sublist merged

/-- Arranging merges. -/
lemma merged_arrange (missed : List Event) : Merged missed (arrange "all" missed) where
  perm := List.perm_insertionSort _ _
  inOrder := by
    have hsorted := List.pairwise_insertionSort
      (fun d e : Event => d.publishedKey ≤ e.publishedKey) missed
    exact hsorted.imp Event.inOrder_of_publishedKey_le
  stable := by
    intro kept hkept hsorted
    exact List.sublist_insertionSort hsorted hkept

/-- The replay of a channel is in the stored order. -/
lemma getMissedEvents_sublist (r : Redis) (category lastEventId tenantId : String) :
    (getMissedEvents r category lastEventId tenantId).Sublist (r.chronological category) := by
  unfold getMissedEvents
  exact List.filter_sublist.trans (Anchor.after_suffix _ _).sublist

/-- Texts of UTC times sort as the times do. The merge of any missed events is therefore in the order
of publication, and events of one channel whose `published_at` does not decrease keep their stored
order. -/
theorem replays_sorted_by_instant :
    (∀ a b : Utc, a.instant < b.instant ↔ a.isoformat < b.isoformat) ∧
    (∀ missed : List Event, Merged missed (arrange "all" missed)) ∧
    ∀ (r : Redis) (channels : Option (List String)) (lastEventId tenantId : String),
      let replay := collectReplayEvents r "all" lastEventId tenantId channels
      replay.Pairwise Event.InOrder ∧
      ∀ c ∈ selectedOrAll channels,
        let missed := getMissedEvents r c lastEventId tenantId
        missed.Sublist (r.chronological c) ∧
        ∀ stored : List Event, stored.Sublist missed →
          stored.Pairwise (fun d e => d.publishedKey ≤ e.publishedKey) →
            stored.Sublist replay := by
  refine ⟨fun _ _ => Utc.isoformat_lt_iff.symm, merged_arrange, ?_⟩
  intro r channels lastEventId tenantId
  have hmerged := merged_arrange
    ((selectedOrAll channels).flatMap fun c => getMissedEvents r c lastEventId tenantId)
  refine ⟨hmerged.inOrder, ?_⟩
  intro c hc
  refine ⟨getMissedEvents_sublist r c lastEventId tenantId, ?_⟩
  intro stored hstored hsorted
  apply hmerged.stable stored _ hsorted
  rw [List.flatMap_def]
  exact hstored.trans (List.sublist_flatten_of_mem (List.mem_map.2 ⟨c, hc, rfl⟩))

namespace SameSecond

open Sample

/-- The event of another process, with its place in its id. -/
def event (category : String) (seq : Nat) (publishedAt : Datetime) : Event :=
  ⟨seq, .pushed { itemUpdate (.other 0) category 0 seq with publishedAt }⟩

/-- On the full second. -/
def first : Event := event "tech" 1 (clock 4)

/-- Later in the second. -/
def second : Event := event "tech" 2 { clock 4 with microsecond := 731204, microsecond_lt := by decide }

/-- Two histories with the same id in front, the newest event first. -/
def histories : Redis where
  lists key :=
    if key = RedisKeys.streamHistoryKey "tech" then
      [.doc second, .doc first, .doc (event "tech" 0 (clock 0))]
    else if key = RedisKeys.streamHistoryKey "finance" then
      [.doc (event "finance" 3 { clock 4 with microsecond := 318, microsecond_lt := by decide }),
        .doc (event "finance" 0 (clock 0))]
    else []

end SameSecond

open Sample SameSecond in
/-- Two events of one second stay in their order. -/
theorem same_second_kept : [first, second].Sublist
    (collectReplayEvents histories "all" "1787652000-0" tenant.val none) := by
  apply ((replays_sorted_by_instant.2.2 histories none "1787652000-0" tenant.val).2 "tech"
    (by decide)).2 [first, second]
  · exact List.Sublist.refl _
  · exact List.pairwise_pair.2 (by decide +kernel)

open Sample SameSecond in
/-- An event of another channel comes between them. -/
example : (collectReplayEvents histories "all" "1787652000-0" tenant.val none).map (·.seq) =
    [1, 3, 2] := by
  decide +kernel

/-! ## The replay of a stream -/

/-- The events that a stream has replayed so far. -/
def Stream.replayed (s : Stream) : List Event :=
  s.written.filterMap fun f => if f.kind = .replayed then f.origin else none

/-- A replayed frame that is written comes last. -/
lemma Stream.replayed_write (s : Stream) (f : WireFrame) (stage : Stage) :
    (s.write f stage).replayed =
      s.replayed ++ (if f.kind = .replayed then f.origin else none).toList := by
  unfold Stream.replayed Stream.write
  rw [List.filterMap_append]
  rfl

/-- A frame of another kind replays nothing. -/
lemma Stream.replayed_write_of_ne (s : Stream) {f : WireFrame} (h : f.kind ≠ .replayed)
    (stage : Stage) : (s.write f stage).replayed = s.replayed := by
  rw [Stream.replayed_write, if_neg h]
  exact List.append_nil _

/-- What the "all" stream has replayed and what is left of the replay are in order, and it has replayed
nothing before it has read the histories. -/
structure Stream.ReplaysInOrder (s : Stream) : Prop where
  unread : s.stage.hasRead = false → s.replayed = []
  inOrder : s.category = "all" → (s.replayed ++ s.stage.rest).Pairwise Event.InOrder

/-- With nothing replayed and nothing left the order is kept. -/
lemma Stream.ReplaysInOrder.of_nil {s : Stream} (h : s.replayed = []) (hrest : s.stage.rest = []) :
    s.ReplaysInOrder where
  unread := fun _ => h
  inOrder := by
    intro _
    rw [h, hrest]
    exact .nil

/-- Past the replay nothing is added to it. -/
lemma Stream.ReplaysInOrder.of_live {s s' : Stream} (h : s.ReplaysInOrder)
    (hcategory : s'.category = s.category) (hreplayed : s'.replayed = s.replayed)
    (hrest : s.stage.rest = []) (hlive : s'.stage = .live) : s'.ReplaysInOrder where
  unread := by
    intro hread
    rw [hlive] at hread
    cases hread
  inOrder := by
    intro hall
    have hinOrder := h.inOrder (hcategory.symm.trans hall)
    rw [hrest] at hinOrder
    rw [hreplayed, hlive]
    exact hinOrder

/-- A stream that goes on keeps the order. -/
lemma Stream.ReplaysInOrder.advance {w : World} {cid : String} {s s' : Stream}
    (h : s.ReplaysInOrder) (hadv : s.Advance w cid s') : s'.ReplaysInOrder := by
  cases hadv
  case commit hst => exact .of_nil (h.unread (by rw [hst]; rfl)) rfl
  case greet now hst =>
    have hkind : FrameKind.connected ≠ .replayed := nofun
    apply Stream.ReplaysInOrder.of_nil _ rfl
    rw [Stream.replayed_write_of_ne s hkind]
    exact h.unread (by rw [hst]; rfl)
  case start hst =>
    have hrest : s.afterGreeting.rest = [] := by
      unfold Stream.afterGreeting
      split <;> rfl
    exact .of_nil (h.unread (by rw [hst]; rfl)) hrest
  case read c todo missed hst =>
    have hnone := h.unread (by rw [hst]; rfl)
    cases todo with
    | nil =>
      refine ⟨fun _ => hnone, ?_⟩
      -- the last read: what is replayed is the merge of all that was read
      intro hall
      show (s.replayed ++ arrange s.category _).Pairwise Event.InOrder
      rw [hnone, List.nil_append, show s.category = "all" from hall]
      exact (merged_arrange _).inOrder
    | cons c' todo => exact .of_nil hnone rfl
  case replay e rest hst =>
    refine ⟨nofun, ?_⟩
    intro hall
    have hinOrder := h.inOrder hall
    rw [hst] at hinOrder
    rw [Stream.replayed_write, List.append_assoc]
    exact hinOrder
  case enter hst => exact h.of_live rfl rfl (by rw [hst]; rfl) rfl
  case get conn f rest second hst _ _ =>
    have hkind : FrameKind.live second conn.eventsSentCount ≠ .replayed := nofun
    exact h.of_live rfl (Stream.replayed_write_of_ne s hkind _) (by rw [hst]; rfl) rfl
  case timeout now hst =>
    have hkind : FrameKind.heartbeat ≠ .replayed := nofun
    exact h.of_live rfl (Stream.replayed_write_of_ne s hkind _) (by rw [hst]; rfl) rfl
  case exit => exact ⟨h.unread, h.inOrder⟩

/-- In every run the "all" stream replays in the order of publication: what it has replayed and what is
left of the replay are in order, and it has replayed nothing before it has read the histories. -/
theorem World.Reachable.replaysInOrder {w : World} (h : w.Reachable) {cid : String} {s : Stream}
    (hs : w.streams cid = some s) : s.ReplaysInOrder := by
  obtain ⟨db, h⟩ := h
  refine h.invariant (I := fun w => ∀ cid s, w.streams cid = some s → s.ReplaysInOrder) ?_ ?_ cid s hs
  · intro w l w' hw hstep cid s' hs'
    rcases hstep.stream hs' with ⟨_, hnil, hst⟩ | hs | ⟨s, hs, _, hadv⟩
    · apply Stream.ReplaysInOrder.of_nil
      · unfold Stream.replayed
        rw [hnil]
        rfl
      · rw [hst]
        rfl
    · exact hw cid s' hs
    · exact (hw cid s hs).advance hadv
  · intro cid s hs
    cases hs

namespace AllStream

open Sample

/-- Two processes use one id in two histories, and the later finance event is the earlier of the two
after it. -/
def stored : List Label :=
  [.push (itemUpdate (.other 0) "tech" 0 1), .store 0 true,
    .push (itemUpdate (.other 1) "finance" 0 1), .store 1 true,
    .push (itemUpdate (.other 0) "tech" 5 2), .store 2 true,
    .push (itemUpdate (.other 1) "finance" 4 2), .store 3 true]

/-- The client comes back, and the first of the two events has been replayed. -/
def resumed : List Label :=
  [.connect clientId "all" none tenant (some "1787652000-1"), .commit clientId,
    .greet clientId (clock 6), .enter clientId, .read clientId, .read clientId, .read clientId,
    .read clientId, .replay clientId]

def world : World := start.after (stored ++ resumed) (by decide)

def stream : Stream := (world.streams clientId).get (by decide)

/-- The sample is reachable. -/
lemma world_reachable : world.Reachable :=
  ⟨_, stored ++ resumed, World.steps_after _ _ _⟩

example : stream.replayed.map (·.seq) = [3] ∧ stream.stage.rest.map (·.seq) = [2] := by decide

end AllStream

/-- The finance event is replayed first, though it was stored last. -/
theorem replaysInOrder_allStream : AllStream.stream.ReplaysInOrder :=
  AllStream.world_reachable.replaysInOrder (Option.some_get _).symm

end InstantBoard.Sse
