import InstantBoard.Models
import InstantBoard.Python.Text
import Mathlib.Algebra.Order.Field.Basic
import Mathlib.Data.Rat.Floor
import Mathlib.Logic.Function.Basic
import Mathlib.Tactic.Linarith

/-!
# The jobs of the scheduler

The part of `AsyncSchedulerManager` that adds, removes, reschedules and pauses jobs, with its
three dictionaries beside the jobs of the APScheduler. What the manager relies on of the
APScheduler itself is `Apscheduler`.
-/

namespace InstantBoard

/-- `IntervalTrigger(seconds=n)`: the interval of the trigger, or the error raised for an interval
past the range of dates. Zero is taken for one second. -/
structure Apscheduler where
  intervalTrigger : Int → Option Int
  intervalTrigger_eq : ∀ {n k}, intervalTrigger n = some k → k = if n = 0 then 1 else n
  /-- Any 32-bit number of seconds is in range. -/
  intervalTrigger_isSome : ∀ {n}, 0 < n → n < 2 ^ 31 → (intervalTrigger n).isSome = true

/-- Triggers of up to some thousand years. -/
def Apscheduler.sample : Apscheduler where
  intervalTrigger n := if n.natAbs < 2 ^ 35 then some (if n = 0 then 1 else n) else none
  intervalTrigger_eq := by
    intro n k h
    split at h
    · exact (Option.some.inj h).symm
    · cases h
  intervalTrigger_isSome := by
    intro n hpos hlt
    rw [if_pos (by omega)]
    rfl

/-- An active RSS source of the system tenant. -/
def Source.sample : Source :=
  { id := "7", tenantId := SYSTEM_TENANT_ID, categoryId := "2", name := "feed", sourceType := "rss",
    url := "https://example.org/feed", config := [], refreshIntervalSeconds := some 300,
    isActive := true, priority := 5 }

/-- A job: the interval of its trigger, and whether it is paused (has no next run time). -/
structure Job where
  interval : Int
  paused : Bool

/-- The manager's state and the cache `_source_category_cache`. -/
structure AsyncSchedulerManager where
  jobs : String → Option Job
  running : Bool
  originalIntervals : String → Option Int
  adaptiveMultipliers : String → Option ℚ
  sourceCategoryCache : String → Option String
  adaptivePauseEnabled : Bool

namespace AsyncSchedulerManager

def init : AsyncSchedulerManager :=
  { jobs := fun _ => none, running := false, originalIntervals := fun _ => none,
    adaptiveMultipliers := fun _ => none, sourceCategoryCache := fun _ => none,
    adaptivePauseEnabled := true }

def SOURCE_TYPE_DEFAULT_INTERVALS : List (String × Int) :=
  [("finance_quote", 30), ("finance_cn_stock", 30), ("finance_market_indices", 30),
   ("finance_commodities", 60), ("finance_nav", 120), ("rss", 300), ("hackernews", 120),
   ("arxiv", 1800), ("web_scrape", 1800), ("api", 60), ("social", 600)]

def defaultInterval (sourceType : String) : Int :=
  (SOURCE_TYPE_DEFAULT_INTERVALS.lookup sourceType).getD 300

def REFRESH_OVERRIDE_MIN_SECONDS : Int := 10

def REFRESH_OVERRIDE_MAX_SECONDS : Int := 86400

/-- The override of a category in the tenant's settings, if it is an integer in range. -/
def refreshOverride (categorySlug : String) (tenantSettings : Option Dict) : Option Int :=
  match tenantSettings.bind (·.get? "refresh_overrides") with
  | some (.obj overrides) =>
    match Dict.get? overrides categorySlug with
    | some (.int i) =>
      if REFRESH_OVERRIDE_MIN_SECONDS ≤ i ∧ i ≤ REFRESH_OVERRIDE_MAX_SECONDS then some i else none
    | _ => none
  | _ => none

/-- `resolve_effective_interval`. -/
def resolveEffectiveInterval (sourceInterval : Option Int) (sourceType categorySlug : String)
    (tenantSettings : Option Dict) : Int :=
  match if categorySlug = "" then none else refreshOverride categorySlug tenantSettings with
  | some i => i
  | none =>
    match sourceInterval with
    | some i => if i ≠ 0 ∧ REFRESH_OVERRIDE_MIN_SECONDS ≤ i then i else defaultInterval sourceType
    | none => defaultInterval sourceType

/-! ## Adding and removing -/

/-- `job.reschedule`: the new trigger also gives the job a next run time. -/
def rescheduleJob (lib : Apscheduler) (m : AsyncSchedulerManager) (jobId : String)
    (intervalSeconds : Int) : AsyncSchedulerManager :=
  match m.jobs jobId, lib.intervalTrigger intervalSeconds with
  | some _, some interval => { m with jobs := Function.update m.jobs jobId (some ⟨interval, false⟩) }
  | _, _ => m

/-- `add_job`; a job that exists is only rescheduled. -/
def addJob (lib : Apscheduler) (m : AsyncSchedulerManager) (jobId : String) (intervalSeconds : Int) :
    AsyncSchedulerManager :=
  match m.jobs jobId with
  | some _ => m.rescheduleJob lib jobId intervalSeconds
  | none =>
    { m with
      originalIntervals := Function.update m.originalIntervals jobId (some intervalSeconds)
      adaptiveMultipliers := Function.update m.adaptiveMultipliers jobId (some 1)
      -- a trigger that cannot be made raises after the two dictionaries are written
      jobs := match lib.intervalTrigger intervalSeconds with
        | some interval => Function.update m.jobs jobId (some ⟨interval, false⟩)
        | none => m.jobs }

def collectJobId (sourceId : String) : String :=
  "collect_" ++ sourceId

/-- The interval `add_collection_job` hands on. -/
def collectionInterval (intervalSeconds : Int) (sourceType : String) : Int :=
  if intervalSeconds = 0 ∨ intervalSeconds < 10 then defaultInterval sourceType else intervalSeconds

def addCollectionJob (lib : Apscheduler) (m : AsyncSchedulerManager) (sourceId : String)
    (intervalSeconds : Int) (sourceType : String) : AsyncSchedulerManager :=
  m.addJob lib (collectJobId sourceId) (collectionInterval intervalSeconds sourceType)

/-- `str(v or "")` of a field that holds a text. -/
def textField (d : Dict) (key : String) : String :=
  match d.get? key with
  | some (.str s) => s
  | _ => ""

/-- `source.get("refresh_interval_seconds")`. -/
def intervalField (d : Dict) : Option Int :=
  match d.get? "refresh_interval_seconds" with
  | some (.int i) => some i
  | _ => none

/-- The category slug of a source the manager hears of is cached. -/
def cacheCategory (m : AsyncSchedulerManager) (sourceId categorySlug : String) :
    AsyncSchedulerManager :=
  if categorySlug = "" then m
  else { m with sourceCategoryCache := Function.update m.sourceCategoryCache sourceId (some categorySlug) }

/-- The interval `add_source_job` asks for. -/
def sourceInterval (source : Dict) (tenantSettings : Option Dict) : Int :=
  resolveEffectiveInterval (intervalField source) (textField source "source_type")
    (textField source "category_slug") tenantSettings

def addSourceJob (lib : Apscheduler) (m : AsyncSchedulerManager) (source : Dict)
    (tenantSettings : Option Dict) : AsyncSchedulerManager :=
  let sourceId := textField source "id"
  if sourceId = "" then m
  else
    (m.cacheCategory sourceId (textField source "category_slug")).addCollectionJob lib sourceId
      (sourceInterval source tenantSettings) (textField source "source_type")

/-- `schedule_all_active_sources`, over the rows with the slugs of their categories. An interval that
no trigger takes is an error, and the sources after it are not scheduled. -/
def scheduleAllActiveSources (lib : Apscheduler) (tenantSettingsMap : String → Option Dict)
    (m : AsyncSchedulerManager) : List (Source × String) → AsyncSchedulerManager
  | [] => m
  | (source, categorySlug) :: sources =>
    if source.isActive then
      let interval := resolveEffectiveInterval source.refreshIntervalSeconds source.sourceType
        categorySlug (tenantSettingsMap source.tenantId)
      let m := (m.cacheCategory source.id categorySlug).addJob lib (collectJobId source.id) interval
      if (lib.intervalTrigger interval).isSome then
        scheduleAllActiveSources lib tenantSettingsMap m sources
      else m
    else scheduleAllActiveSources lib tenantSettingsMap m sources

def removeJob (m : AsyncSchedulerManager) (jobId : String) : AsyncSchedulerManager :=
  match m.jobs jobId with
  | some _ =>
    { m with
      jobs := Function.update m.jobs jobId none
      originalIntervals := Function.update m.originalIntervals jobId none
      adaptiveMultipliers := Function.update m.adaptiveMultipliers jobId none
      sourceCategoryCache :=
        Function.update m.sourceCategoryCache (Text.replace jobId "collect_" "") none }
  | none => m

def removeSourceJob (m : AsyncSchedulerManager) (sourceId : String) : AsyncSchedulerManager :=
  if sourceId = "" then m else m.removeJob (collectJobId sourceId)

/-! ## Adapting to health and subscribers -/

def pauseJob (m : AsyncSchedulerManager) (jobId : String) : AsyncSchedulerManager :=
  match m.jobs jobId with
  | some job => { m with jobs := Function.update m.jobs jobId (some { job with paused := true }) }
  | none => m

/-- `int(original * multiplier)`. -/
def scaled (original : Int) (multiplier : ℚ) : Int :=
  (original * multiplier.num).tdiv multiplier.den

/-- The multiplier after a health status: an increase at once, a decrease by half at most. -/
def targetMultiplier (current : ℚ) (healthStatus : String) : ℚ :=
  let target :=
    if healthStatus = "healthy" then 1
    else if healthStatus = "degraded" then 2
    else if healthStatus = "down" then 10
    else current
  if current > target then max target (current / 2) else target

/-- `adaptive_reschedule`, with the two numbers of subscribers it asks the router for. A job that
is pending still is not paused. -/
def adaptiveReschedule (lib : Apscheduler) (m : AsyncSchedulerManager) (sourceId healthStatus : String)
    (activeConnections sourceConnections : Nat) : AsyncSchedulerManager :=
  let jobId := collectJobId sourceId
  match m.originalIntervals jobId with
  | none => m
  | some original =>
    if m.adaptivePauseEnabled = true ∧ (activeConnections = 0 ∨ sourceConnections = 0) then
      -- `job.pending` holds until the scheduler is started
      if m.running then m.pauseJob jobId else m
    else
      let multiplier := targetMultiplier ((m.adaptiveMultipliers jobId).getD 1) healthStatus
      { m with adaptiveMultipliers := Function.update m.adaptiveMultipliers jobId (some multiplier) }
        |>.rescheduleJob lib jobId (scaled original multiplier)

/-- `_get_category_for_source` inside the event loop: the cached slug or "finance". -/
def categoryForSource (m : AsyncSchedulerManager) (sourceId : String) : String :=
  ((m.sourceCategoryCache sourceId).filter (· ≠ "")).getD "finance"

/-! ## Which jobs there are -/

/-- A job's id tells its source. -/
lemma collectJobId_inj {sourceId sourceId' : String} :
    collectJobId sourceId = collectJobId sourceId' ↔ sourceId = sourceId' := by
  simp [collectJobId, ← String.toList_inj]

/-- The default intervals are in bounds. -/
lemma defaultInterval_bounds (sourceType : String) :
    10 ≤ defaultInterval sourceType ∧ defaultInterval sourceType < 2 ^ 31 := by
  have hall : ∀ entry ∈ SOURCE_TYPE_DEFAULT_INTERVALS, 10 ≤ entry.2 ∧ entry.2 < 2 ^ 31 := by decide
  unfold defaultInterval
  cases h : SOURCE_TYPE_DEFAULT_INTERVALS.lookup sourceType with
  | none => decide
  | some interval =>
    obtain ⟨before, after, heq, _⟩ := List.lookup_eq_some_iff.1 h
    exact hall (sourceType, interval) (by rw [heq]; simp)

/-- The interval resolved is in bounds. -/
lemma resolveEffectiveInterval_bounds {sourceInterval : Option Int}
    (h : ∀ i, sourceInterval = some i → i < 2 ^ 31) (sourceType categorySlug : String)
    (tenantSettings : Option Dict) :
    10 ≤ resolveEffectiveInterval sourceInterval sourceType categorySlug tenantSettings ∧
      resolveEffectiveInterval sourceInterval sourceType categorySlug tenantSettings < 2 ^ 31 := by
  unfold resolveEffectiveInterval
  split
  next i hoverride =>
    split at hoverride
    · cases hoverride
    · unfold refreshOverride at hoverride
      split at hoverride
      · split at hoverride
        · split at hoverride
          next hrange =>
            cases hoverride
            simp only [REFRESH_OVERRIDE_MIN_SECONDS, REFRESH_OVERRIDE_MAX_SECONDS] at hrange
            omega
          next => cases hoverride
        · cases hoverride
      · cases hoverride
  next =>
    split
    next i =>
      split
      next hi => exact ⟨hi.2, h i rfl⟩
      next => exact defaultInterval_bounds sourceType
    next => exact defaultInterval_bounds sourceType

/-- An interval from 10 on is taken. -/
lemma collectionInterval_of_le {intervalSeconds : Int} (h : 10 ≤ intervalSeconds)
    (sourceType : String) : collectionInterval intervalSeconds sourceType = intervalSeconds := by
  unfold collectionInterval
  rw [if_neg (by omega)]

/-- A job whose interval a trigger takes is there after `add_job`, and the others are as before. -/
lemma isSome_addJob {lib : Apscheduler} {m : AsyncSchedulerManager} {jobId : String}
    {intervalSeconds : Int} (htrigger : (lib.intervalTrigger intervalSeconds).isSome = true)
    (jobId' : String) :
    ((m.addJob lib jobId intervalSeconds).jobs jobId').isSome = true ↔
      jobId' = jobId ∨ (m.jobs jobId').isSome = true := by
  obtain ⟨interval, htrigger⟩ := Option.isSome_iff_exists.1 htrigger
  unfold addJob rescheduleJob
  cases hold : m.jobs jobId with
  | none =>
    simp only [htrigger, Function.update_apply]
    split <;> simp [*]
  | some old =>
    simp only [htrigger, Function.update_apply]
    split <;> simp [*]

/-- Caching a category leaves the jobs. -/
@[simp] lemma jobs_cacheCategory (m : AsyncSchedulerManager) (sourceId categorySlug : String) :
    (m.cacheCategory sourceId categorySlug).jobs = m.jobs := by
  unfold cacheCategory
  split <;> rfl

/-- A payload with an id and a 32-bit interval. -/
lemma isSome_addSourceJob {lib : Apscheduler} {m : AsyncSchedulerManager} {source : Dict}
    (hid : textField source "id" ≠ "") (hlt : ∀ i, intervalField source = some i → i < 2 ^ 31)
    (tenantSettings : Option Dict) (jobId : String) :
    ((m.addSourceJob lib source tenantSettings).jobs jobId).isSome = true ↔
      jobId = collectJobId (textField source "id") ∨ (m.jobs jobId).isSome = true := by
  obtain ⟨hle, hlt⟩ := resolveEffectiveInterval_bounds hlt (textField source "source_type")
    (textField source "category_slug") tenantSettings
  unfold addSourceJob addCollectionJob sourceInterval
  simp only
  rw [if_neg hid, collectionInterval_of_le hle]
  have h := @isSome_addJob lib
    (m.cacheCategory (textField source "id") (textField source "category_slug"))
    (collectJobId (textField source "id")) _ (lib.intervalTrigger_isSome (by omega) hlt) jobId
  simpa using h

/-- The jobs after a source's is removed. -/
lemma isSome_removeSourceJob {m : AsyncSchedulerManager} {sourceId : String} (hid : sourceId ≠ "")
    (jobId : String) :
    ((m.removeSourceJob sourceId).jobs jobId).isSome = true ↔
      jobId ≠ collectJobId sourceId ∧ (m.jobs jobId).isSome = true := by
  unfold removeSourceJob removeJob
  rw [if_neg hid]
  split
  next =>
    simp only [Function.update_apply]
    split <;> simp [*]
  next hnone =>
    constructor
    · intro h
      refine ⟨?_, h⟩
      rintro rfl
      rw [hnone] at h
      cases h
    · exact And.right

end AsyncSchedulerManager

end InstantBoard
