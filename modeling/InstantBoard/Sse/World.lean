import InstantBoard.Lib.Transition
import InstantBoard.Sse.History
import InstantBoard.Sse.Router

/-!
# The system around the router

The API process with its router, Redis listener and SSE streams, the other processes that push
events (the worker, further API processes), the source service, and Redis. Each step is what one
task does between two of its suspension points.

* A `push_event` call: the message is built, the history written, the message published, and then
  dispatched directly (`storing`, `publishing`, `directing`). A call in another process dispatches
  into that process's own router, which has none of the connections here.
* The listener takes the publications on the channels it subscribed to, in order per channel, one
  at a time, and dispatches each.
* A stream follows `sse_stream`: register and commit, greet, replay, live loop. Its end can come at
  any suspension point.

Redis calls may fail (`up = false`). `redis_push_history` swallows the failure, `push_event`
catches that of the publish.
-/

namespace InstantBoard.Sse

open Transition

/-! ## Streams -/

/-- What a frame on the wire is: the handshake, a replayed event, an entry of the live queue
written at the given second under the given `events_sent_count`, or the timeout heartbeat. -/
inductive FrameKind where
  | connected
  | replayed
  | live (second count : Nat)
  | heartbeat
  deriving DecidableEq

/-- A frame as it is yielded. A heartbeat on timeout has no `id:` line. -/
structure WireFrame where
  kind : FrameKind
  event : Json
  data : Json
  id : Option String
  origin : Option Event

/-- Where `sse_stream` stands. -/
inductive Stage where
  | connecting
  | created
  | greeted
  | reading (todo : List String) (missed : List Event)
  | replaying (rest : List Event)
  | live

def Stage.isLive : Stage → Bool
  | .live => true
  | _ => false

/-- One request: its parameters, where it stands, whether it is over, and the frames written. -/
structure Stream where
  category : String
  channels : Option (List String)
  tenantId : TenantId
  lastEventId : Option String
  stage : Stage
  ended : Bool
  written : List WireFrame

/-- The categories `sse_stream` registers. -/
def categoriesOf (category : String) (channels : Option (List String)) : List String :=
  channels.getD [category]

/-- The header when it is truthy. -/
def Stream.anchor (s : Stream) : Option String :=
  s.lastEventId.filter (· ≠ "")

/-- The frame of a replayed event. -/
def replayFrame (e : Event) : WireFrame :=
  { kind := .replayed
    event := e.message.getD "event_type" .null
    data := e.message.getD "data" (.obj [])
    id := match e.message.get? "event_id" with
      | some (.str id) => some id
      | _ => some ""
    origin := some e }

/-- The frame of a queue entry: the id is made of the clock and the connection's own counter. -/
def liveFrame (f : Frame) (second count : Nat) : WireFrame :=
  { kind := .live second count, event := f.eventType, data := f.data,
    id := some (eventId second count), origin := f.origin }

/-- The handshake. -/
def connectedFrame (clientId category : String) (now : Calendar.Datetime) : WireFrame :=
  { kind := .connected, event := .str "connected",
    data := .obj [("client_id", .str clientId), ("category", .str category),
      ("timestamp", .str now.isoformat)],
    id := some "init", origin := none }

/-- The heartbeat on timeout. -/
def timeoutFrame (now : Calendar.Datetime) : WireFrame :=
  { kind := .heartbeat, event := .str "heartbeat",
    data := .obj [("timestamp", .str now.isoformat)], id := none, origin := none }

/-- The entry the heartbeat task puts in a queue. -/
def heartbeatEntry (now : Calendar.Datetime) : Frame :=
  ⟨.str SSEEventType.HEARTBEAT.value, .obj [("timestamp", .str now.isoformat)], none⟩

namespace Stream

def write (s : Stream) (f : WireFrame) (stage : Stage) : Stream :=
  { s with written := s.written ++ [f], stage }

/-- After the handshake: the replay when there is an anchor, the live loop otherwise. -/
def afterGreeting (s : Stream) : Stage :=
  match s.anchor with
  | some _ => .reading (replayChannels s.category s.channels) []
  | none => .live

/-- One history read; after the last one the replay is arranged. -/
def read (s : Stream) (r : Redis) (channel : String) (todo : List String) (missed : List Event) :
    Stream :=
  let missed := missed ++ getMissedEvents r channel (s.anchor.getD "") s.tenantId.val
  match todo with
  | [] => { s with stage := .replaying (arrange s.category missed) }
  | c :: cs => { s with stage := .reading (c :: cs) missed }

end Stream

/-! ## Pushes -/

/-- A publisher's task: a `push_event` call before its history write, before its publish, before
its direct dispatch, or a lifecycle notice before its publish. -/
inductive PushTask where
  | storing (p : PushEvent)
  | publishing (e : Event)
  | directing (e : Event)
  | announcing (n : LifecycleNotice)

/-- The channels `start_redis_listener` subscribes to. -/
def LISTENED : List String :=
  ["finance", "tech", "dashboard", "admin", "all"].map RedisKeys.channelKey

def Event.channel (e : Event) : String := e.body.channel

/-- The publication comes from a `push_event` call of the API process. -/
def Event.isLocal (e : Event) : Bool :=
  e.body.pushed?.any (·.process = .api)

/-! ## The world -/

/-- The state of the whole system. `counters` has the `_event_counter` of each process. `log` lists
all publications in their order; no modelled function reads it. -/
structure World where
  redis : Redis
  inbox : List Event
  router : SSEEventRouter
  counters : Process → Nat
  pushes : List PushTask
  dispatches : List Dispatch
  streams : String → Option Stream
  db : Tables
  log : List Event

namespace World

/-- Everything has just started, over the given tables. -/
def init (db : Tables) : World :=
  { redis := ⟨fun _ => []⟩, inbox := [], router := .init, counters := fun _ => 0, pushes := [],
    dispatches := [], streams := fun _ => none, db, log := [] }

/-- The client id has never been used. -/
def Fresh (w : World) (clientId : String) : Prop :=
  w.router.connections clientId = none ∧ w.streams clientId = none

/-- The message of `push_event` is built, with `self._event_counter += 1`. -/
def push (w : World) (p : PushEvent) : World :=
  { w with
    counters := Function.update w.counters p.process p.counter
    pushes := w.pushes ++ [.storing p] }

/-- `redis_push_history`. -/
def store (w : World) (i : Nat) (p : PushEvent) (up : Bool) : World :=
  let e : Event := ⟨w.log.length, .pushed p⟩
  { w with
    redis :=
      if up then
        w.redis.pushHistory (RedisKeys.streamHistoryKey p.category) e RedisKeys.STREAM_HISTORY_LIMIT
      else w.redis
    log := w.log ++ [e]
    pushes := w.pushes.set i (.publishing e) }

/-- PUBLISH reaches the listener of the API process. -/
def deliver (w : World) (e : Event) (up : Bool) : World :=
  { w with inbox := if up && e.channel ∈ LISTENED then w.inbox ++ [e] else w.inbox }

/-- `redis_publish` in `push_event`. -/
def publish (w : World) (i : Nat) (e : Event) (up : Bool) : World :=
  let w := w.deliver e up
  { w with pushes := if e.isLocal then w.pushes.set i (.directing e) else w.pushes.eraseIdx i }

/-- `redis_publish` of a lifecycle notice; when it fails nothing is published. -/
def announce (w : World) (i : Nat) (n : LifecycleNotice) (up : Bool) : World :=
  let e : Event := ⟨w.log.length, .notice n⟩
  { w.deliver e up with
    log := if up then w.log ++ [e] else w.log
    pushes := w.pushes.eraseIdx i }

/-- `_on_redis_message` is called. -/
def dispatch (w : World) (route : Route) (e : Event) : World :=
  { w with dispatches := w.dispatches ++ [.start w.router route e.channel e] }

/-- The direct call at the end of `push_event`. -/
def direct (w : World) (i : Nat) (e : Event) : World :=
  { w.dispatch .direct e with pushes := w.pushes.eraseIdx i }

/-- The listener takes a publication. -/
def take (w : World) (k : Nat) (e : Event) : World :=
  { w.dispatch .listener e with inbox := w.inbox.eraseIdx k }

/-- A dispatch went on. -/
def setDispatch (w : World) (i : Nat) (d : Dispatch) (r : SSEEventRouter) : World :=
  { w with dispatches := w.dispatches.set i d, router := r }

/-- A dispatch is done. -/
def dropDispatch (w : World) (i : Nat) : World :=
  { w with dispatches := w.dispatches.eraseIdx i }

/-- A connection object changed. -/
def setConnection (w : World) (clientId : String) (conn : SSEConnection) : World :=
  { w with router := w.router.setConnection clientId (some conn) }

/-- A request of the source service went through: its rows are written, its notice is about to be
published. -/
def administer (w : World) (db : Tables) (notice : Option LifecycleNotice) : World :=
  { w with db, pushes := w.pushes ++ (notice.map PushTask.announcing).toList }

/-- The TTL of a channel's history runs out. -/
def expire (w : World) (category : String) : World :=
  { w with redis := w.redis.expire (RedisKeys.streamHistoryKey category) }

/-- `event_router.register`. -/
def register (w : World) (clientId : String) (categories : List String) (tenantId : TenantId) :
    World :=
  { w with router := w.router.register clientId categories tenantId }

/-- A stream went on. -/
def setStream (w : World) (clientId : String) (s : Stream) : World :=
  { w with streams := Function.update w.streams clientId (some s) }

/-- `sse_stream` up to the commit in `SSEService.connect`. -/
def connect (w : World) (clientId category : String) (channels : Option (List String))
    (tenantId : TenantId) (lastEventId : Option String) : World :=
  (w.register clientId (categoriesOf category channels) tenantId).setStream clientId
    { category, channels, tenantId, lastEventId, stage := .connecting, ended := false,
      written := [] }

/-- A queue entry is written to the wire. -/
def get (w : World) (clientId : String) (s : Stream) (conn : SSEConnection) (f : Frame)
    (rest : List Frame) (second : Nat) : World :=
  (w.setConnection clientId { conn with queue := rest }).setStream clientId
    (s.write (liveFrame f second conn.eventsSentCount) .live)

/-- The request ends. Only inside the live loop does the `finally` run that disconnects. -/
def exit (w : World) (clientId : String) (s : Stream) : World :=
  { w.setStream clientId { s with ended := true } with
    router := if s.stage.isLive then w.router.unregister clientId else w.router }

end World

/-! ## Steps -/

inductive Label where
  | push (p : PushEvent)
  | store (i : Nat) (up : Bool)
  | publish (i : Nat) (up : Bool)
  | announce (i : Nat) (up : Bool)
  | direct (i : Nat)
  | take (k : Nat)
  | visit (i : Nat) (clientId : String)
  | resume (i : Nat)
  | secondLoop (i : Nat)
  | finish (i : Nat)
  | heartbeat (clientId : String) (now : Calendar.Datetime)
  | admin (request : SourceService.Request)
  | expire (category : String)
  | register (clientId : String) (categories : List String) (tenantId : TenantId)
  | connect (clientId category : String) (channels : Option String) (tenantId : TenantId)
      (lastEventId : Option String)
  | commit (clientId : String)
  | greet (clientId : String) (now : Calendar.Datetime)
  | enter (clientId : String)
  | read (clientId : String)
  | replay (clientId : String)
  | get (clientId : String) (second : Nat)
  | timeout (clientId : String) (now : Calendar.Datetime)
  | exit (clientId : String)

/-- The steps of the system. -/
inductive Step (w : World) : Label → World → Prop where
  | push {p} : p.counter = w.counters p.process + 1 → Step w (.push p) (w.push p)
  | store {i p up} : w.pushes[i]? = some (.storing p) → Step w (.store i up) (w.store i p up)
  | publish {i e up} : w.pushes[i]? = some (.publishing e) →
      Step w (.publish i up) (w.publish i e up)
  | announce {i n up} : w.pushes[i]? = some (.announcing n) →
      Step w (.announce i up) (w.announce i n up)
  | direct {i e} : w.pushes[i]? = some (.directing e) → Step w (.direct i) (w.direct i e)
  /-- The listener is between two messages; the one it takes is the first of its channel. -/
  | take {k e} : w.inbox[k]? = some e → (∀ e' ∈ w.inbox.take k, e'.channel ≠ e.channel) →
      (∀ d ∈ w.dispatches, d.route ≠ .listener) → Step w (.take k) (w.take k e)
  | visit {i d cid} : w.dispatches[i]? = some d → d.waiting = none → cid ∈ d.pending →
      Step w (.visit i cid) (w.setDispatch i (d.visit w.router cid).1 (d.visit w.router cid).2)
  | resume {i d d' r} : w.dispatches[i]? = some d → d.resume w.router = some (d', r) →
      Step w (.resume i) (w.setDispatch i d' r)
  | secondLoop {i d} : w.dispatches[i]? = some d → d.waiting = none → d.pending = ∅ →
      d.loop = .subscribers → Step w (.secondLoop i) (w.setDispatch i (d.secondLoop w.router) w.router)
  | finish {i d} : w.dispatches[i]? = some d → d.waiting = none → d.pending = ∅ →
      d.loop = .allSubscribers → Step w (.finish i) (w.dropDispatch i)
  | heartbeat {cid conn conn' now} : w.router.connections cid = some conn → conn.isActive = true →
      conn.sendEvent (heartbeatEntry now) = some conn' →
      Step w (.heartbeat cid now) (w.setConnection cid conn')
  | admin {req db notice} : SourceService.handle w.db req = .ok (db, notice) →
      Step w (.admin req) (w.administer db notice)
  | expire {category} : Step w (.expire category) (w.expire category)
  | register {cid categories tenantId} : w.Fresh cid →
      Step w (.register cid categories tenantId) (w.register cid categories tenantId)
  | connect {cid category raw channels tenantId lastEventId} : w.Fresh cid →
      selectedChannels category raw = .ok channels →
      Step w (.connect cid category raw tenantId lastEventId)
        (w.connect cid category channels tenantId lastEventId)
  | commit {cid s} : w.streams cid = some s → s.ended = false → s.stage = .connecting →
      Step w (.commit cid) (w.setStream cid { s with stage := .created })
  | greet {cid s now} : w.streams cid = some s → s.ended = false → s.stage = .created →
      Step w (.greet cid now)
        (w.setStream cid (s.write (connectedFrame cid s.category now) .greeted))
  | start {cid s} : w.streams cid = some s → s.ended = false → s.stage = .greeted →
      Step w (.enter cid) (w.setStream cid { s with stage := s.afterGreeting })
  | read {cid s c todo missed} : w.streams cid = some s → s.ended = false →
      s.stage = .reading (c :: todo) missed →
      Step w (.read cid) (w.setStream cid (s.read w.redis c todo missed))
  | replay {cid s e rest} : w.streams cid = some s → s.ended = false →
      s.stage = .replaying (e :: rest) →
      Step w (.replay cid) (w.setStream cid (s.write (replayFrame e) (.replaying rest)))
  | enter {cid s} : w.streams cid = some s → s.ended = false → s.stage = .replaying [] →
      Step w (.enter cid) (w.setStream cid { s with stage := .live })
  | get {cid s conn f rest second} : w.streams cid = some s → s.ended = false → s.stage = .live →
      w.router.connections cid = some conn → conn.queue = f :: rest →
      Step w (.get cid second) (w.get cid s conn f rest second)
  | timeout {cid s now} : w.streams cid = some s → s.ended = false → s.stage = .live →
      Step w (.timeout cid now) (w.setStream cid (s.write (timeoutFrame now) .live))
  | exit {cid s} : w.streams cid = some s → s.ended = false → Step w (.exit cid) (w.exit cid s)

/-- A state some run of the system reaches. -/
def World.Reachable (w : World) : Prop :=
  ∃ db, Transition.Reachable Step (World.init db) w

/-- No publisher, listener or dispatch has anything left to do. -/
structure World.Idle (w : World) : Prop where
  pushes : w.pushes = []
  inbox : w.inbox = []
  dispatches : w.dispatches = []

end InstantBoard.Sse
