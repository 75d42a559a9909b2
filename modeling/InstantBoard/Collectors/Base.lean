import InstantBoard.Lib.Calendar
import InstantBoard.Python.Value
import Mathlib.Tactic.Lemma

/-!
# Collectors

`BaseCollector.collect` with what it reports to the caller and to `record_health`, and the health
record `record_health` keeps in Redis. A concrete collector is what its fetches, its parser and
its validation do on the run.
-/

namespace InstantBoard

inductive HealthStatus where
  | healthy
  | degraded
  | down
deriving DecidableEq

structure CollectionResult where
  items : List Dict
  success : Bool
  responseTimeMs : Nat
  error : Option String
  sourceId : String

/-- How a `collect` call ends. -/
inductive CollectOutcome where
  | rateLimited
  | fetchFailed (elapsedMs : Nat)
  | parseFailed (elapsedMs : Nat) (error : String)
  | validationFailed (elapsedMs : Nat) (error : String)
  | validated (elapsedMs : Nat) (items : List Dict)

namespace BaseCollector

/-- What a run of a collector does: each fetch raises or hands back its data, which may be absent. -/
structure Run where
  rateOk : Bool
  maxRetries : Nat
  fetches : List (Except String (Option Json))
  parseData : Json → Except String (List Dict)
  validateData : List Dict → Except String (List Dict)
  elapsedMs : Nat

/-- `_collect_with_retry`: the first fetch that does not raise. -/
def collectWithRetry : List (Except String (Option Json)) → Option Json
  | [] => none
  | .ok rawData :: _ => rawData
  | .error _ :: rest => collectWithRetry rest

/-- The control flow of `collect`. -/
def collect (run : Run) : CollectOutcome :=
  if run.rateOk = false then .rateLimited
  else
    match collectWithRetry (run.fetches.take run.maxRetries) with
    | none => .fetchFailed run.elapsedMs
    | some rawData =>
      match run.parseData rawData with
      | .error e => .parseFailed run.elapsedMs e
      | .ok parsed =>
        match run.validateData parsed with
        | .error e => .validationFailed run.elapsedMs e
        | .ok validated => .validated run.elapsedMs validated

end BaseCollector

namespace CollectOutcome

def isSuccess : CollectOutcome → Bool
  | .validated _ _ => true
  | _ => false

def isRateLimited : CollectOutcome → Bool
  | .rateLimited => true
  | _ => false

def elapsedMs : CollectOutcome → Nat
  | .rateLimited => 0
  | .fetchFailed ms => ms
  | .parseFailed ms _ => ms
  | .validationFailed ms _ => ms
  | .validated ms _ => ms

def error : CollectOutcome → Option String
  | .rateLimited => some "Rate limit exceeded"
  | .fetchFailed _ => some "All retry attempts failed"
  | .parseFailed _ e => some e
  | .validationFailed _ e => some e
  | .validated _ _ => none

def items : CollectOutcome → List Dict
  | .validated _ list => list
  | _ => []

/-- What `collect` returns. -/
def result (sourceId : String) (o : CollectOutcome) : CollectionResult :=
  { items := o.items, success := o.isSuccess, responseTimeMs := o.elapsedMs, error := o.error,
    sourceId }

end CollectOutcome

/-! ## The record in Redis -/

/-- `int((prev_avg * (total - 1) + response_time_ms) / total)`. -/
def runningAverage (prevAvg total responseTimeMs : Nat) : Nat :=
  (prevAvg * (total - 1) + responseTimeMs) / total

/-- The dictionary under `source_health:{source_id}`. -/
structure HealthData where
  status : HealthStatus
  consecutiveFailures : Nat
  totalFetches24h : Nat
  successCount24h : Nat
  avgResponseTimeMs : Nat
  lastSuccessAt : Option String
  lastFailureAt : Option String
  lastErrorMessage : Option String

def HealthData.new : HealthData :=
  { status := .healthy, consecutiveFailures := 0, totalFetches24h := 0, successCount24h := 0,
    avgResponseTimeMs := 0, lastSuccessAt := none, lastFailureAt := none, lastErrorMessage := none }

/-- The status after a failure that makes `n` in a row. -/
def HealthStatus.worsened (s : HealthStatus) (n : Nat) : HealthStatus :=
  if n ≥ 10 then .down else if n ≥ 3 then .degraded else s

/-- `record_health` on the entry Redis holds. -/
def recordHealth (now : Calendar.Datetime) (existing : Option HealthData) (success : Bool)
    (responseTimeMs : Nat) (error : Option String) : HealthData :=
  let d := existing.getD .new
  let total := d.totalFetches24h + 1
  let avg := runningAverage d.avgResponseTimeMs total responseTimeMs
  if success then
    { d with status := .healthy, consecutiveFailures := 0, totalFetches24h := total,
             successCount24h := d.successCount24h + 1, avgResponseTimeMs := avg,
             lastSuccessAt := some now.isoformat }
  else
    { d with status := d.status.worsened (d.consecutiveFailures + 1),
             consecutiveFailures := d.consecutiveFailures + 1, totalFetches24h := total,
             avgResponseTimeMs := avg, lastFailureAt := some now.isoformat,
             lastErrorMessage := error }

/-- The entry after a `collect` call: a refused call records nothing. -/
def CollectOutcome.record (now : Calendar.Datetime) (existing : Option HealthData)
    (o : CollectOutcome) : Option HealthData :=
  if o.isRateLimited then existing
  else some (recordHealth now existing o.isSuccess o.elapsedMs o.error)

end InstantBoard
