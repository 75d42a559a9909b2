import InstantBoard.Lib.Anchor
import InstantBoard.Sse.Message
import Mathlib.Data.List.Dedup
import Mathlib.Data.List.Sort
import Mathlib.Data.String.Basic

/-!
# The replay history

The capped per-channel lists in Redis, newest entry first, and what reads them:
`get_missed_events` for one channel and `collect_replay_events` for a selection of channels. On a
history in publication order a replay is a filter of the history (`getMissedEvents_eq_filter`), and
the merge of several channels is a rearrangement of their replays (`collectReplayEvents_perm`).
-/

namespace InstantBoard.Sse

/-- A string stored in a Redis list: the text of a publication, or something `json.loads`
rejects. -/
inductive Raw where
  | doc (e : Event)
  | corrupt (text : String)

/-- `json.loads`, with `none` for the `JSONDecodeError` that skips the entry. -/
def loads : Raw → Option Event
  | .doc e => some e
  | .corrupt _ => none

/-- The Redis lists by key; an absent key is an empty list. -/
structure Redis where
  lists : String → List Raw

/-- `redis_push_history`: LPUSH and LTRIM. -/
def Redis.pushHistory (r : Redis) (key : String) (e : Event) (maxLen : Nat) : Redis :=
  { r with lists := Function.update r.lists key ((Raw.doc e :: r.lists key).take maxLen) }

/-- The key's TTL runs out. -/
def Redis.expire (r : Redis) (key : String) : Redis :=
  { r with lists := Function.update r.lists key [] }

/-- `redis_lrange(key, 0, -1)`. -/
def Redis.lrange (r : Redis) (key : String) : List Raw := r.lists key

/-- The history of a channel in publication order, undecodable entries left out. -/
def Redis.chronological (r : Redis) (category : String) : List Event :=
  (r.lrange (RedisKeys.streamHistoryKey category)).reverse.filterMap loads

/-- `event.get("event_id") == last_event_id`. -/
def Event.hasId (lastEventId : String) (e : Event) : Bool :=
  (e.message.getD "event_id" .null).isStr lastEventId

/-- The events the tenant filter of `get_missed_events` skips. -/
def Event.foreign (tenantId : String) (e : Event) : Bool :=
  let eventTenant := e.message.getD "tenant_id" .null
  tenantId != "" && eventTenant.truthy && !eventTenant.isStr tenantId

/-- `get_missed_events`. Without entries or without the anchor it returns the empty list, and so
does `redis_lrange` when Redis fails. -/
def getMissedEvents (r : Redis) (category lastEventId tenantId : String) : List Event :=
  (Anchor.after (·.hasId lastEventId) (r.chronological category)).filter (!·.foreign tenantId)

/-- `event.get("published_at") or ""`, the sort key of the merge. -/
def Event.publishedKey (e : Event) : String :=
  match e.message.get? "published_at" with
  | some (.str s) => s
  | _ => ""

/-- `missed.sort(key=...)`: a stable sort by the ISO text. -/
def sortByPublishedAt (l : List Event) : List Event :=
  l.insertionSort fun a b => a.publishedKey ≤ b.publishedKey

/-- The channels of the literal "all" stream. -/
def ALL_CHANNELS : List String := ["finance", "tech", "dashboard", "admin"]

/-- The channel names `channels=` accepts. -/
def VALID_CHANNELS : List String := ["finance", "tech", "dashboard", "admin"]

/-- `channels or ALL_CHANNELS`. -/
def selectedOrAll : Option (List String) → List String
  | some (c :: cs) => c :: cs
  | _ => ALL_CHANNELS

/-- The histories `collect_replay_events` reads, one `await` each. -/
def replayChannels (category : String) (channels : Option (List String)) : List String :=
  if category = "all" then selectedOrAll channels else [category]

/-- What it makes of the events it read. -/
def arrange (category : String) (missed : List Event) : List Event :=
  if category = "all" then sortByPublishedAt missed else missed

/-- `collect_replay_events`, with no write to Redis between its reads. -/
def collectReplayEvents (r : Redis) (category lastEventId tenantId : String)
    (channels : Option (List String)) : List Event :=
  arrange category ((replayChannels category channels).flatMap fun c =>
    getMissedEvents r c lastEventId tenantId)

/-- A stored event is the last of its channel's history; what precedes it is the end of what was
there. -/
lemma Redis.chronological_pushHistory (r : Redis) (e : Event) (category : String) :
    ∃ kept, kept <:+ r.chronological category ∧
      (r.pushHistory (RedisKeys.streamHistoryKey category) e
        RedisKeys.STREAM_HISTORY_LIMIT).chronological category = kept ++ [e] := by
  let key := RedisKeys.streamHistoryKey category
  refine ⟨((r.lists key).take 499).reverse.filterMap loads, ?_, ?_⟩
  · refine List.IsSuffix.filterMap _ ?_
    exact List.reverse_suffix.2 (List.take_prefix _ _)
  · have h : (r.pushHistory key e RedisKeys.STREAM_HISTORY_LIMIT).lrange key
        = Raw.doc e :: (r.lists key).take 499 := by
      simp [Redis.pushHistory, Redis.lrange, RedisKeys.STREAM_HISTORY_LIMIT]
    unfold Redis.chronological
    rw [h, List.reverse_cons, List.filterMap_append]
    rfl

/-- The histories of the other channels are left alone. -/
lemma Redis.chronological_pushHistory_of_ne (r : Redis) (e : Event) {category category' : String}
    (h : category' ≠ category) :
    (r.pushHistory (RedisKeys.streamHistoryKey category) e
      RedisKeys.STREAM_HISTORY_LIMIT).chronological category' = r.chronological category' := by
  have hk : RedisKeys.streamHistoryKey category' ≠ RedisKeys.streamHistoryKey category :=
    fun he => h (RedisKeys.streamHistoryKey_inj.1 he)
  simp [Redis.chronological, Redis.pushHistory, Redis.lrange, hk]

/-- An expired history is empty, the others are left alone. -/
lemma Redis.chronological_expire (r : Redis) (category category' : String) :
    (r.expire (RedisKeys.streamHistoryKey category)).chronological category' =
      if category' = category then [] else r.chronological category' := by
  by_cases h : category' = category
  · simp [Redis.chronological, Redis.expire, Redis.lrange, h]
  · have hk : RedisKeys.streamHistoryKey category' ≠ RedisKeys.streamHistoryKey category :=
      fun he => h (RedisKeys.streamHistoryKey_inj.1 he)
    simp [Redis.chronological, Redis.expire, Redis.lrange, h, hk]

/-- On a history in publication order, the replay of one channel is the part of it that is not
foreign and that an event with the anchor's id precedes. -/
lemma getMissedEvents_eq_filter {r : Redis} {category : String}
    (sorted : (r.chronological category).Pairwise (·.seq < ·.seq)) (lastEventId tenantId : String) :
    getMissedEvents r category lastEventId tenantId =
      (r.chronological category).filter fun e => !e.foreign tenantId &&
        (r.chronological category).any fun a => a.hasId lastEventId && decide (a.seq < e.seq) := by
  unfold getMissedEvents
  rw [Anchor.after_eq_filter sorted, List.filter_filter]

/-- The events missed are the tenant's after the anchor. -/
lemma mem_getMissedEvents {r : Redis} {category : String}
    (sorted : (r.chronological category).Pairwise (·.seq < ·.seq)) {lastEventId tenantId : String}
    {e : Event} :
    e ∈ getMissedEvents r category lastEventId tenantId ↔
      e ∈ r.chronological category ∧ e.foreign tenantId = false ∧
        ∃ a ∈ r.chronological category, a.hasId lastEventId ∧ a.seq < e.seq := by
  rw [getMissedEvents_eq_filter sorted, List.mem_filter]
  simp

/-- The replay of a single channel. -/
lemma collectReplayEvents_single {category : String} (h : category ≠ "all") (r : Redis)
    (lastEventId tenantId : String) (channels : Option (List String)) :
    collectReplayEvents r category lastEventId tenantId channels =
      getMissedEvents r category lastEventId tenantId := by
  simp [collectReplayEvents, arrange, replayChannels, h]

/-- The merge of a selection is a rearrangement of the replays of its channels. -/
lemma collectReplayEvents_perm (r : Redis) (lastEventId tenantId : String)
    (channels : Option (List String)) :
    (collectReplayEvents r "all" lastEventId tenantId channels).Perm
      ((selectedOrAll channels).flatMap fun c => getMissedEvents r c lastEventId tenantId) := by
  unfold collectReplayEvents arrange replayChannels
  rw [if_pos rfl, if_pos rfl]
  exact List.perm_insertionSort _ _

/-- `_parse_channels`. -/
def parseChannels (raw : String) : Except AppError (List String) :=
  let requested := ((Text.split raw ',').map Text.strip).filter (· ≠ "")
  if requested = [] then
    .error (.validationError "channels parameter must not be empty"
      [("channels", "must list at least one channel")])
  else
    let unknown := (requested.filter (· ∉ VALID_CHANNELS)).dedup.insertionSort (· ≤ ·)
    if unknown ≠ [] then
      .error (.validationError "Unknown channels requested"
        (unknown.map fun name => ("channels", "unknown channel: " ++ name)))
    else .ok (requested.dedup.insertionSort (· ≤ ·))

/-- The `selected_channels` of `sse_stream`: only the literal "all" stream honours `channels=`. -/
def selectedChannels (category : String) (channels : Option String) :
    Except AppError (Option (List String)) :=
  match channels with
  | some raw => if category = "all" then (parseChannels raw).map some else .ok none
  | none => .ok none

/-- A selection the endpoint accepts is not empty and names no channel twice. -/
lemma parseChannels_ok {raw : String} {channels : List String}
    (h : parseChannels raw = .ok channels) :
    channels ≠ [] ∧ channels.Nodup ∧ ∀ c ∈ channels, c ∈ VALID_CHANNELS := by
  unfold parseChannels at h
  simp only at h
  split at h
  · cases h
  · rename_i hne
    split at h
    · cases h
    · rename_i hun
      simp only [Except.ok.injEq] at h
      subst h
      simp only [ne_eq, not_not] at hun
      set requested := ((Text.split raw ',').map Text.strip).filter (· ≠ "") with hreq
      refine ⟨?_, ?_, ?_⟩
      · intro he
        have hlen := congrArg List.length he
        simp only [List.length_insertionSort, List.length_nil, List.length_eq_zero_iff,
          List.dedup_eq_nil] at hlen
        exact hne hlen
      · exact (List.perm_insertionSort _ _).nodup_iff.2 (List.nodup_dedup _)
      · intro c hc
        rw [List.mem_insertionSort, List.mem_dedup] at hc
        by_contra hv
        have : c ∈ ((requested.filter (· ∉ VALID_CHANNELS)).dedup.insertionSort (· ≤ ·)) := by
          rw [List.mem_insertionSort, List.mem_dedup, List.mem_filter]
          exact ⟨hc, by simpa using hv⟩
        rw [hun] at this
        cases this

/-- No channel is listed twice. -/
lemma ALL_CHANNELS_nodup : ALL_CHANNELS.Nodup := by decide

example : parseChannels " tech , finance,,tech" = .ok ["finance", "tech"] := by decide

end InstantBoard.Sse
