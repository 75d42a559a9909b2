import InstantBoard.Lib.Calendar
import InstantBoard.Python.Text
import InstantBoard.Services.Source

/-!
# Messages on the Redis channels

The payload `push_event` builds, the channel names, and publications. A publication (`Event`)
is a message together with its place `seq` in the order in which publications reach Redis; the
place is not part of the message and no modelled function reads it. It is what "the same event"
and "published after" mean in the statements.
-/

namespace InstantBoard.Sse

inductive SSEEventType where
  | ITEM_UPDATE
  | QUOTE_UPDATE
  | MARKET_INDEX_UPDATE
  | NAV_ESTIMATE_UPDATE
  | COMMODITY_UPDATE
  | SYSTEM_METRIC_UPDATE
  | SOURCE_HEALTH_UPDATE
  | HEARTBEAT
  deriving DecidableEq

/-- `event_type.value`. -/
def SSEEventType.value : SSEEventType → String
  | .ITEM_UPDATE => "item_update"
  | .QUOTE_UPDATE => "quote_update"
  | .MARKET_INDEX_UPDATE => "market_index_update"
  | .NAV_ESTIMATE_UPDATE => "nav_estimate_update"
  | .COMMODITY_UPDATE => "commodity_update"
  | .SYSTEM_METRIC_UPDATE => "system_metric_update"
  | .SOURCE_HEALTH_UPDATE => "source_health_update"
  | .HEARTBEAT => "heartbeat"

/-- A tenant id as the publishers and the tokens carry it: the text of a UUID, never empty. -/
structure TenantId where
  val : String
  ne_empty : val ≠ "" := by decide
  deriving DecidableEq

/-- The process a publication comes from: the API process whose router is modelled, or another
one (the worker, another API process) with a router of its own. -/
inductive Process where
  | api
  | other (n : Nat)
  deriving DecidableEq

namespace RedisKeys

/-- `RedisKeys.channel_key`. -/
def channelKey (category : String) : String := "channel:" ++ category

/-- `RedisKeys.stream_history_key`. -/
def streamHistoryKey (category : String) : String := "stream:history:" ++ category

def STREAM_HISTORY_LIMIT : Nat := 500

/-- A channel's key tells the channel. -/
lemma channelKey_inj {c c' : String} : channelKey c = channelKey c' ↔ c = c' := by
  simp [channelKey, ← String.toList_inj]

/-- A history's key tells the channel. -/
lemma streamHistoryKey_inj {c c' : String} : streamHistoryKey c = streamHistoryKey c' ↔ c = c' := by
  simp [streamHistoryKey, ← String.toList_inj]

end RedisKeys

/-- `channel.replace("channel:", "")`, the first line of `_on_redis_message`. -/
def channelCategory (channel : String) : String :=
  Text.replace channel "channel:" ""

/-- The category of a channel key is the one it was made from, unless that contains the prefix
itself. -/
lemma channelCategory_channelKey {c : String} (h : ¬ "channel:".toList <:+: c.toList) :
    channelCategory (RedisKeys.channelKey c) = c :=
  Text.replace_append (by decide) h

/-- `_generate_event_id`: the second and the router's counter. -/
def eventId (second counter : Nat) : String :=
  Decimal.dashed second counter

/-- A call of `push_event`: the process, its arguments, and what it reads while it builds the
message (the clock twice, the incremented counter). -/
structure PushEvent where
  process : Process
  category : String
  eventType : SSEEventType
  data : Json
  tenantId : TenantId
  second : Nat
  counter : Nat
  publishedAt : Calendar.Datetime

/-- The `message` of `push_event`. -/
def PushEvent.message (p : PushEvent) : Dict :=
  [("event_type", .str p.eventType.value),
   ("channel", .str p.category),
   ("data", p.data),
   ("tenant_id", .str p.tenantId.val),
   ("event_id", .str (eventId p.second p.counter)),
   ("published_at", .str p.publishedAt.isoformat)]

/-- What the second and the counter of a call say about it; `event_id` is their text. -/
def PushEvent.stamp (p : PushEvent) : Nat × Nat := (p.second, p.counter)

/-- The event's type in the message. -/
@[simp] lemma PushEvent.message_event_type (p : PushEvent) :
    p.message.get? "event_type" = some (.str p.eventType.value) := rfl

/-- The data in the message. -/
@[simp] lemma PushEvent.message_data (p : PushEvent) :
    p.message.get? "data" = some p.data := rfl

/-- The tenant in the message. -/
@[simp] lemma PushEvent.message_tenant_id (p : PushEvent) :
    p.message.get? "tenant_id" = some (.str p.tenantId.val) := rfl

/-- The event's id in the message. -/
@[simp] lemma PushEvent.message_event_id (p : PushEvent) :
    p.message.get? "event_id" = some (.str (eventId p.second p.counter)) := rfl

/-- The time in the message. -/
@[simp] lemma PushEvent.message_published_at (p : PushEvent) :
    p.message.get? "published_at" = some (.str p.publishedAt.isoformat) := rfl

/-- The content of a publication: a pushed event or a lifecycle notice. -/
inductive Body where
  | pushed (p : PushEvent)
  | notice (n : LifecycleNotice)

/-- The message on the wire. -/
def Body.message : Body → Dict
  | .pushed p => p.message
  | .notice n => n.payload

/-- The call a publication stems from, if `push_event` made it. -/
def Body.pushed? : Body → Option PushEvent
  | .pushed p => some p
  | .notice _ => none

/-- The Redis channel a publication is published on. -/
def Body.channel : Body → String
  | .pushed p => RedisKeys.channelKey p.category
  | .notice _ => RedisKeys.channelKey "dashboard"

/-- A publication and its place in the order of publications. -/
structure Event where
  seq : Nat
  body : Body

def Event.message (e : Event) : Dict := e.body.message

/-- `e` was pushed on the channel for the tenant. -/
def Event.isOn (e : Event) (channel : String) (t : TenantId) : Bool :=
  e.body.pushed?.any fun p => p.category == channel && p.tenantId == t

/-- An event is on a channel if it was pushed there for the tenant. -/
lemma Event.isOn_iff {e : Event} {channel : String} {t : TenantId} :
    e.isOn channel t = true ↔ ∃ p, e.body = .pushed p ∧ p.category = channel ∧ p.tenantId = t := by
  unfold Event.isOn
  cases h : e.body with
  | pushed p => simp [Body.pushed?]
  | notice n => simp [Body.pushed?]

/-- `e` was pushed for the tenant `t`. -/
def Event.OwnedBy (e : Event) (t : TenantId) : Prop :=
  ∃ p, e.body = .pushed p ∧ p.tenantId = t

end InstantBoard.Sse
