import InstantBoard.Collectors.Base
import InstantBoard.Collectors.RateLimit
import InstantBoard.Lib.Unwinding

/-!
# Fail-over fetches of several tenants

`_try_collector` and `_try_collector_batch` call `collect` with a source of their own making, whose id
is "mock" whatever the tenant and the collector. So all of these fetches share one rate counter and one
health record. Runs are interleavings of the Redis commands of any number of fetches. What becomes of a
tenant's fetches through a collector is the same in two runs that differ in other fetches only, as long
as those SET nothing (`fail_over_isolated`); with their SETs a tenant uses up the limit of another
(`fail_over_shared`).
-/

namespace InstantBoard.Finance

open BaseCollector Unwinding

/-! ## Fetches -/

/-- What a collector reads of a source besides its configuration. -/
structure CollectorSource where
  id : String
  tenantId : String
  name : String

/-- `_MockSource` -/
def mockSource (tenantId name : String) : CollectorSource where
  id := "mock"
  tenantId
  name

/-- The rate limits of the collectors in the fail-over chains. -/
def COLLECTOR_REGISTRY : List (String × Int) :=
  [("yfinance", 0), ("alpha_vantage", 5), ("eastmoney", 10), ("finnhub", 60)]

/-- `_try_collector` or `_try_collector_batch` for a tenant, with what the collector does once it has
passed the check. -/
structure FailOverFetch where
  tenantId : String
  collector : String
  run : BaseCollector.Run

def FailOverFetch.source (c : FailOverFetch) : CollectorSource :=
  mockSource c.tenantId c.collector

/-- `RedisKeys.source_health_key` -/
def sourceHealthKey (sourceId : String) : String :=
  "source_health:" ++ sourceId

def FailOverFetch.rateKey (c : FailOverFetch) : String :=
  BaseCollector.rateKey c.source.id

def FailOverFetch.healthKey (c : FailOverFetch) : String :=
  sourceHealthKey c.source.id

/-- What an accepted fetch comes to. -/
def FailOverFetch.outcome (c : FailOverFetch) : CollectOutcome :=
  collect { c.run with rateOk := true }

/-- How far a fetch has come, between its commands. -/
inductive Phase where
  | idle
  | noCollector
  | rateLimited
  /-- the counter is to be SET -/
  | counting (count : Nat)
  | accepted
  /-- the health record is to be SET over the one found -/
  | recording (existing : Option HealthData)
  | recorded (health : HealthData)

/-- The next command of a fetch, in milliseconds and as the clock shows it. -/
structure Turn where
  id : Nat
  now : Nat
  clock : Calendar.Datetime

/-- The rate counters and the health records. -/
structure CollectorKeys where
  rates : Keyspace.Space String Nat
  healths : Keyspace.Space String HealthData

/-- What a fetch does first: the GET of the check, unless the collector has no limit. -/
def check (limit : Int) (current : Option Nat) : Phase :=
  if limit ≤ 0 then .accepted
  else (afterGet limit current).elim .rateLimited .counting

/-- One command of a fetch. -/
def command (c : FailOverFetch) (turn : Turn) (redis : CollectorKeys) :
    Phase → CollectorKeys × Phase
  | .idle =>
    match COLLECTOR_REGISTRY.lookup c.collector with
    | none => (redis, .noCollector)
    | some limit =>
      (redis, check limit ((Keyspace.find redis.rates turn.now c.rateKey).map (·.value)))
  | .counting count =>
    ({ redis with rates := Keyspace.set redis.rates turn.now c.rateKey count 60 }, .accepted)
  | .accepted =>
    (redis, .recording ((Keyspace.find redis.healths turn.now c.healthKey).map (·.value)))
  | .recording existing =>
    let health := recordHealth turn.clock existing c.outcome.isSuccess c.outcome.elapsedMs
      c.outcome.error
    ({ redis with healths := Keyspace.set redis.healths turn.now c.healthKey health 300 },
      .recorded health)
  -- the fetch has ended
  | .noCollector => (redis, .noCollector)
  | .rateLimited => (redis, .rateLimited)
  | .recorded health => (redis, .recorded health)

/-- Redis and the fetches. -/
structure FailOverState where
  redis : CollectorKeys
  phase : Nat → Phase

def FailOverState.init : FailOverState :=
  ⟨⟨fun _ => none, fun _ => none⟩, fun _ => .idle⟩

def advance (fetches : Nat → FailOverFetch) (s : FailOverState) (turn : Turn) : FailOverState :=
  let (redis, phase) := command (fetches turn.id) turn s.redis (s.phase turn.id)
  ⟨redis, Function.update s.phase turn.id phase⟩

/-! ## Non-interference -/

section

variable (fetches : Nat → FailOverFetch) (tenantId collector : String)

/-- The fetches of a tenant through a collector. -/
def IsOwn (id : Nat) : Prop :=
  (fetches id).tenantId = tenantId ∧ (fetches id).collector = collector

instance (id : Nat) : Decidable (IsOwn fetches tenantId collector id) :=
  inferInstanceAs (Decidable (_ ∧ _))

def isOwnTurn (turn : Turn) : Bool :=
  decide (IsOwn fetches tenantId collector turn.id)

/-- What the fetches of a tenant through a collector can be affected by, and how far they have come. -/
def ownView (s : FailOverState) : CollectorKeys × (Nat → Option Phase) :=
  (s.redis, fun id => if IsOwn fetches tenantId collector id then some (s.phase id) else none)

/-- The next command of a fetch is no SET. -/
def Phase.SetsNothing : Phase → Prop
  | .counting _ | .recording _ => False
  | .idle | .noCollector | .rateLimited | .accepted | .recorded _ => True

/-- The next command of the fetch is no SET. -/
def SetsNothing (s : FailOverState) (turn : Turn) : Prop :=
  (s.phase turn.id).SetsNothing

end

section

variable {fetches : Nat → FailOverFetch} {tenantId collector : String} {s t : FailOverState}

/-- Two states look alike to a collector when its keys and its own phases agree. -/
lemma ownView_eq_iff :
    ownView fetches tenantId collector s = ownView fetches tenantId collector t ↔
      s.redis = t.redis ∧ ∀ id, IsOwn fetches tenantId collector id → s.phase id = t.phase id := by
  unfold ownView
  rw [Prod.mk.injEq, funext_iff]
  apply and_congr_right
  intro _
  apply forall_congr'
  intro id
  split
  · next hid =>
    rw [Option.some.injEq]
    exact ⟨fun h _ => h, fun h => h hid⟩
  · next hid => exact ⟨fun _ h => absurd h hid, fun _ => rfl⟩

/-- A phase that sets nothing leaves the keys. -/
lemma command_of_setsNothing {c : FailOverFetch} {turn : Turn} {redis : CollectorKeys} {p : Phase}
    (h : p.SetsNothing) : (command c turn redis p).1 = redis := by
  cases p with
  | idle =>
    dsimp only [command]
    cases COLLECTOR_REGISTRY.lookup c.collector with
    | none => rfl
    | some limit => rfl
  | counting count => cases h
  | recording existing => cases h
  | noCollector => rfl
  | rateLimited => rfl
  | accepted => rfl
  | recorded health => rfl

/-- The conditions of unwinding hold of a collector's own view. -/
lemma unwinds : Unwinds (advance fetches) (ownView fetches tenantId collector)
    (isOwnTurn fetches tenantId collector) SetsNothing where
  consistent := by
    intro s t turn hown hview
    have hid : IsOwn fetches tenantId collector turn.id := of_decide_eq_true hown
    obtain ⟨hredis, hphase⟩ := ownView_eq_iff.1 hview
    apply ownView_eq_iff.2
    unfold advance
    rw [hredis, hphase turn.id hid]
    refine ⟨rfl, ?_⟩
    intro id hid'
    by_cases h : id = turn.id
    · subst h
      dsimp only
      rw [Function.update_self, Function.update_self]
    · dsimp only
      rw [Function.update_of_ne h, Function.update_of_ne h]
      exact hphase id hid'
  silent := by
    intro s turn hother hquiet
    have hid : ¬ IsOwn fetches tenantId collector turn.id := of_decide_eq_false hother
    apply ownView_eq_iff.2
    refine ⟨command_of_setsNothing hquiet, ?_⟩
    intro id hid'
    have hne : id ≠ turn.id := by
      rintro rfl
      exact hid hid'
    exact Function.update_of_ne hne _ _

end

/-- Two runs with the same commands of a tenant's fetches through a collector, in which no other fetch
SETs anything, come to the same for these fetches. -/
theorem fail_over_isolated (fetches : Nat → FailOverFetch) (tenantId collector : String)
    {s : FailOverState} {run run' : List Turn}
    (same : run.filter (isOwnTurn fetches tenantId collector) =
      run'.filter (isOwnTurn fetches tenantId collector))
    (quiet : Quiet (advance fetches) (isOwnTurn fetches tenantId collector) SetsNothing s run)
    (quiet' : Quiet (advance fetches) (isOwnTurn fetches tenantId collector) SetsNothing s run')
    {id : Nat} (own : IsOwn fetches tenantId collector id) :
    (run.foldl (advance fetches) s).phase id = (run'.foldl (advance fetches) s).phase id :=
  (ownView_eq_iff.1 (unwinds.same_view quiet quiet' same)).2 id own

namespace TwoTenants

/-- A collector whose provider does not answer. -/
def noAnswer : BaseCollector.Run where
  rateOk := true
  maxRetries := 3
  fetches := []
  parseData := fun _ => .ok []
  validateData := .ok
  elapsedMs := 30000

/-- Fetch 0 is the first tenant's through Alpha Vantage, the others are another tenant's. -/
def byTenant (id : Nat) : FailOverFetch :=
  ⟨if id = 0 then "a" else "b", "alpha_vantage", noAnswer⟩

/-- All fetches are one tenant's, and only fetch 0 goes through Alpha Vantage. -/
def byCollector (id : Nat) : FailOverFetch :=
  ⟨"a", if id = 0 then "alpha_vantage" else "yfinance", noAnswer⟩

def clock : Calendar.Datetime where
  year := 2027
  month := 3
  day := 14
  hour := 15
  minute := 9
  second := 26
  microsecond := 535897

def turn (id : Nat) : Turn := ⟨id, 0, clock⟩

/-- Five fetches have been accepted. -/
def full : FailOverState where
  redis := ⟨Keyspace.set (fun _ => none) 0 (BaseCollector.rateKey "mock") 5 60, fun _ => none⟩
  phase := fun _ => .idle

/-- The fetch is refused. -/
def refused : Phase → Bool
  | .rateLimited => true
  | .idle | .noCollector | .counting _ | .accepted | .recording _ | .recorded _ => false

/-- How many fetches the health record of a fetch has. -/
def totalFetches : Phase → Nat
  | .recorded health => health.totalFetches24h
  | .idle | .noCollector | .rateLimited | .counting _ | .accepted | .recording _ => 0

end TwoTenants

open TwoTenants in
/-- A fetch of another tenant that finds the counter full makes no difference. -/
theorem refused_fetch_isolated :
    ([turn 1, turn 0].foldl (advance byTenant) full).phase 0 =
      ([turn 0].foldl (advance byTenant) full).phase 0 := by
  apply fail_over_isolated byTenant "a" "alpha_vantage"
  · rfl
  · exact ⟨fun _ => trivial, fun _ => trivial, trivial⟩
  · exact ⟨fun _ => trivial, trivial⟩
  · exact ⟨rfl, rfl⟩

open TwoTenants in
/-- Five fetches of another tenant use up the limit, and a fetch through another collector is in the
health record. -/
theorem fail_over_shared :
    (¬ ∀ run run' : List Turn, run.filter (isOwnTurn byTenant "a" "alpha_vantage") =
        run'.filter (isOwnTurn byTenant "a" "alpha_vantage") →
      ∀ id, IsOwn byTenant "a" "alpha_vantage" id →
        (run.foldl (advance byTenant) .init).phase id =
          (run'.foldl (advance byTenant) .init).phase id) ∧
    ¬ ∀ run run' : List Turn, run.filter (isOwnTurn byCollector "a" "alpha_vantage") =
        run'.filter (isOwnTurn byCollector "a" "alpha_vantage") →
      ∀ id, IsOwn byCollector "a" "alpha_vantage" id →
        (run.foldl (advance byCollector) .init).phase id =
          (run'.foldl (advance byCollector) .init).phase id := by
  constructor
  · intro h
    have hsame := h ([1, 1, 2, 2, 3, 3, 4, 4, 5, 5, 0].map turn) [turn 0] rfl 0 ⟨rfl, rfl⟩
    exact absurd (congrArg refused hsame) (by decide +kernel)
  · intro h
    have hsame := h ([1, 1, 1, 0, 0, 0, 0].map turn) ([0, 0, 0, 0].map turn) rfl 0 ⟨rfl, rfl⟩
    exact absurd (congrArg totalFetches hsame) (by decide +kernel)

end InstantBoard.Finance
