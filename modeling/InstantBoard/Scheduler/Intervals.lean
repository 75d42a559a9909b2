import InstantBoard.Lib.Transition
import InstantBoard.Scheduler.Jobs

/-!
# The intervals of the jobs

Whatever calls the manager gets, the trigger of a scheduled job should run on the interval last
asked for, scaled by the job's multiplier. `add_job` on a job that exists breaks this: it sets the
trigger and leaves the two dictionaries as they are. In every run whose add calls ask a scheduled
job for its own interval again, it holds (`intervalsHold_of_steady`).
-/

namespace InstantBoard.AsyncSchedulerManager

open Transition

/-- A call of the manager. The subscriber counts of `adaptive_reschedule` are what the router
answers at that moment. -/
inductive Call where
  | addJob (jobId : String) (intervalSeconds : Int)
  | addCollectionJob (sourceId : String) (intervalSeconds : Int) (sourceType : String)
  | addSourceJob (source : Dict) (tenantSettings : Option Dict)
  | removeSourceJob (sourceId : String)
  | adaptiveReschedule (sourceId healthStatus : String) (activeConnections sourceConnections : Nat)

def Call.run (lib : Apscheduler) (m : AsyncSchedulerManager) : Call → AsyncSchedulerManager
  | .addJob jobId intervalSeconds => m.addJob lib jobId intervalSeconds
  | .addCollectionJob sourceId intervalSeconds sourceType =>
    m.addCollectionJob lib sourceId intervalSeconds sourceType
  | .addSourceJob source tenantSettings => m.addSourceJob lib source tenantSettings
  | .removeSourceJob sourceId => m.removeSourceJob sourceId
  | .adaptiveReschedule sourceId healthStatus activeConnections sourceConnections =>
    m.adaptiveReschedule lib sourceId healthStatus activeConnections sourceConnections

/-- The job an add call is about and the interval it asks for. -/
def Call.asks : Call → Option (String × Int)
  | .addJob jobId intervalSeconds => some (jobId, intervalSeconds)
  | .addCollectionJob sourceId intervalSeconds sourceType =>
    some (collectJobId sourceId, collectionInterval intervalSeconds sourceType)
  | .addSourceJob source tenantSettings =>
    if textField source "id" = "" then none
    else some (collectJobId (textField source "id"),
      collectionInterval (sourceInterval source tenantSettings) (textField source "source_type"))
  | .removeSourceJob _ => none
  | .adaptiveReschedule _ _ _ _ => none

/-- The manager and, for each job, the interval last asked for. -/
structure Tracked where
  manager : AsyncSchedulerManager
  requested : String → Option Int

def Tracked.call (lib : Apscheduler) (t : Tracked) (c : Call) : Tracked :=
  { manager := c.run lib t.manager
    requested := match c.asks with
      | some (jobId, intervalSeconds) => Function.update t.requested jobId (some intervalSeconds)
      | none => t.requested }

/-- A new manager, started or not, with the adaptive pause on or off. -/
def Tracked.start (running adaptivePauseEnabled : Bool) : Tracked :=
  { manager := { init with running, adaptivePauseEnabled }, requested := fun _ => none }

/-- One call. -/
def Called (lib : Apscheduler) (t : Tracked) (c : Call) (t' : Tracked) : Prop :=
  t.call lib c = t'

/-- The trigger of a scheduled job runs on its original interval, which is the one last asked for,
scaled by its multiplier. -/
def IntervalsHold (t : Tracked) : Prop :=
  ∀ jobId job, t.manager.jobs jobId = some job →
    ∃ original multiplier, t.manager.originalIntervals jobId = some original ∧
      t.requested jobId = some original ∧
      t.manager.adaptiveMultipliers jobId = some multiplier ∧
      job.interval = scaled original multiplier

/-- The job `adaptive_reschedule` gives a new interval to, and that interval. -/
def Call.scales (m : AsyncSchedulerManager) : Call → Option (String × Int)
  | .adaptiveReschedule sourceId healthStatus activeConnections sourceConnections =>
    let jobId := collectJobId sourceId
    if m.adaptivePauseEnabled = true ∧ (activeConnections = 0 ∨ sourceConnections = 0) then none
    else
      (m.originalIntervals jobId).map fun original => (jobId,
        scaled original (targetMultiplier ((m.adaptiveMultipliers jobId).getD 1) healthStatus))
  | _ => none

/-- The condition on a call. A scheduled job is asked for its original interval, and that one only
if its multiplier leaves it as it is; a new job is not given the interval zero; and a job is scaled
to an interval that a trigger takes. -/
structure Steady (lib : Apscheduler) (t : Tracked) (c : Call) : Prop where
  again : ∀ jobId intervalSeconds, c.asks = some (jobId, intervalSeconds) →
    (t.manager.jobs jobId).isSome = true →
      t.manager.originalIntervals jobId = some intervalSeconds ∧
        ∀ multiplier, t.manager.adaptiveMultipliers jobId = some multiplier →
          scaled intervalSeconds multiplier = intervalSeconds
  new : ∀ jobId intervalSeconds, c.asks = some (jobId, intervalSeconds) →
    t.manager.jobs jobId = none → (lib.intervalTrigger intervalSeconds).isSome = true →
      intervalSeconds ≠ 0
  scale : ∀ jobId intervalSeconds, c.scales t.manager = some (jobId, intervalSeconds) →
    (t.manager.jobs jobId).isSome = true → (lib.intervalTrigger intervalSeconds).isSome = true

/-! ## Multipliers -/

/-- A multiplier of 1 leaves the interval. -/
@[simp] lemma scaled_one (original : Int) : scaled original 1 = original := by
  simp [scaled]

/-- The size of a scaled interval. -/
lemma natAbs_scaled (original : Int) (multiplier : ℚ) :
    (scaled original multiplier).natAbs =
      original.natAbs * multiplier.num.natAbs / multiplier.den := by
  rw [scaled, Int.natAbs_tdiv, Int.natAbs_mul, Int.natAbs_natCast]
  rfl

/-- A multiplier from one on does not scale an interval to zero. -/
lemma scaled_ne_zero {original : Int} {multiplier : ℚ} (hone : 1 ≤ multiplier)
    (hne : original ≠ 0) : scaled original multiplier ≠ 0 := by
  have hlow : multiplier.den ≤ multiplier.num.natAbs := by
    have h := (Rat.le_iff 1 multiplier).1 hone
    simp only [Rat.num_ofNat, Rat.den_ofNat] at h
    omega
  rw [← Int.natAbs_pos, natAbs_scaled]
  apply Nat.div_pos _ multiplier.den_pos
  calc multiplier.den ≤ 1 * multiplier.num.natAbs := by omega
    _ ≤ original.natAbs * multiplier.num.natAbs := Nat.mul_le_mul_right _ (by omega)

/-- The multiplier never falls below 1. -/
lemma one_le_targetMultiplier {current : ℚ} (hone : 1 ≤ current) (healthStatus : String) :
    1 ≤ targetMultiplier current healthStatus := by
  have half : ∀ target : ℚ, 1 ≤ target →
      1 ≤ (if current > target then max target (current / 2) else target) := by
    intro target htarget
    split
    · exact le_max_of_le_left htarget
    · exact htarget
  apply half
  split_ifs
  · exact le_refl 1
  · norm_num
  · norm_num
  · exact hone

/-! ## One call -/

/-- What holds of a scheduled job, with what keeps its interval one a trigger takes. -/
def JobHolds (lib : Apscheduler) (t : Tracked) (jobId : String) : Prop :=
  ∀ job, t.manager.jobs jobId = some job →
    ∃ original multiplier, t.manager.originalIntervals jobId = some original ∧
      t.requested jobId = some original ∧
      t.manager.adaptiveMultipliers jobId = some multiplier ∧
      job.interval = scaled original multiplier ∧
      original ≠ 0 ∧ 1 ≤ multiplier ∧ (lib.intervalTrigger job.interval).isSome = true

/-- The intervals hold when each job's does. -/
lemma intervalsHold_of_jobHolds {lib : Apscheduler} {t : Tracked}
    (h : ∀ jobId, JobHolds lib t jobId) : IntervalsHold t := by
  intro jobId job hjob
  obtain ⟨original, multiplier, ho, hr, hm, hi, _⟩ := h jobId job hjob
  exact ⟨original, multiplier, ho, hr, hm, hi⟩

/-- The four entries of a job are the same. -/
structure SameJob (t t' : Tracked) (jobId : String) : Prop where
  jobs : t'.manager.jobs jobId = t.manager.jobs jobId
  originals : t'.manager.originalIntervals jobId = t.manager.originalIntervals jobId
  requested : t'.requested jobId = t.requested jobId
  multipliers : t'.manager.adaptiveMultipliers jobId = t.manager.adaptiveMultipliers jobId

/-- A job that is not touched holds its interval. -/
lemma JobHolds.congr {lib : Apscheduler} {t t' : Tracked} {jobId : String} (h : JobHolds lib t jobId)
    (same : SameJob t t' jobId) : JobHolds lib t' jobId := by
  intro job hjob
  rw [same.jobs] at hjob
  rw [same.originals, same.requested, same.multipliers]
  exact h job hjob

/-- A trigger of seconds other than 0 has them. -/
lemma intervalTrigger_of_ne {lib : Apscheduler} {n : Int} (hne : n ≠ 0)
    (h : (lib.intervalTrigger n).isSome = true) : lib.intervalTrigger n = some n := by
  obtain ⟨k, hk⟩ := Option.isSome_iff_exists.1 h
  rw [hk, lib.intervalTrigger_eq hk, if_neg hne]

/-- Adding a job leaves the others. -/
lemma sameJob_addJob (lib : Apscheduler) (t : Tracked) {jobId jobId' : String}
    (hid : jobId' ≠ jobId) (intervalSeconds : Int) :
    SameJob t ⟨t.manager.addJob lib jobId intervalSeconds,
      Function.update t.requested jobId (some intervalSeconds)⟩ jobId' := by
  constructor
  · show (t.manager.addJob lib jobId intervalSeconds).jobs jobId' = _
    unfold addJob rescheduleJob
    split <;> split <;> simp [hid]
  · show (t.manager.addJob lib jobId intervalSeconds).originalIntervals jobId' = _
    unfold addJob rescheduleJob
    split
    · split <;> rfl
    · simp [hid]
  · simp [hid]
  · show (t.manager.addJob lib jobId intervalSeconds).adaptiveMultipliers jobId' = _
    unfold addJob rescheduleJob
    split
    · split <;> rfl
    · simp [hid]

/-- An add call for a job that is not scheduled. -/
lemma JobHolds.add_new {lib : Apscheduler} {t : Tracked} {jobId : String} {intervalSeconds : Int}
    (hold : t.manager.jobs jobId = none)
    (hne : (lib.intervalTrigger intervalSeconds).isSome = true → intervalSeconds ≠ 0) :
    JobHolds lib ⟨t.manager.addJob lib jobId intervalSeconds,
      Function.update t.requested jobId (some intervalSeconds)⟩ jobId := by
  intro job hjob
  cases htrigger : lib.intervalTrigger intervalSeconds with
  | none => simp [addJob, hold, htrigger] at hjob
  | some interval =>
    have hne := hne (by rw [htrigger]; rfl)
    -- zero is excluded: the trigger would run on one second, the dictionary hold zero
    have hself := intervalTrigger_of_ne hne (by rw [htrigger]; rfl)
    rw [hself] at htrigger
    cases htrigger
    simp only [addJob, hold, hself, Function.update_self, Option.some.injEq] at hjob
    subst hjob
    refine ⟨intervalSeconds, 1, ?_, ?_, ?_, ?_, hne, le_refl 1, ?_⟩
    · simp [addJob, hold]
    · simp
    · simp [addJob, hold]
    · simp
    · rw [hself]
      rfl

/-- An add call that asks a scheduled job for its interval again. -/
lemma JobHolds.add_again {lib : Apscheduler} {t : Tracked} {jobId : String} {intervalSeconds : Int}
    {old : Job} (h : JobHolds lib t jobId) (hold : t.manager.jobs jobId = some old)
    (horiginal : t.manager.originalIntervals jobId = some intervalSeconds)
    (hscaled : ∀ multiplier, t.manager.adaptiveMultipliers jobId = some multiplier →
      scaled intervalSeconds multiplier = intervalSeconds) :
    JobHolds lib ⟨t.manager.addJob lib jobId intervalSeconds,
      Function.update t.requested jobId (some intervalSeconds)⟩ jobId := by
  obtain ⟨original, multiplier, ho, _, hm, hi, hne, hone, hrange⟩ := h old hold
  rw [horiginal] at ho
  cases ho
  rw [hscaled multiplier hm] at hi
  rw [hi] at hrange
  have hself := intervalTrigger_of_ne hne hrange
  intro job hjob
  simp only [addJob, rescheduleJob, hold, hself, Function.update_self,
    Option.some.injEq] at hjob
  subst hjob
  refine ⟨intervalSeconds, multiplier, ?_, ?_, ?_, ?_, hne, hone, hrange⟩
  · simpa [addJob, rescheduleJob, hold, hself] using horiginal
  · simp
  · simpa [addJob, rescheduleJob, hold, hself] using hm
  · exact (hscaled multiplier hm).symm

/-- Each of the three add calls comes down to one `add_job`. -/
lemma JobHolds.add {lib : Apscheduler} {t : Tracked} {jobId : String} {intervalSeconds : Int}
    (h : ∀ jobId, JobHolds lib t jobId)
    (hagain : (t.manager.jobs jobId).isSome = true →
      t.manager.originalIntervals jobId = some intervalSeconds ∧
        ∀ multiplier, t.manager.adaptiveMultipliers jobId = some multiplier →
          scaled intervalSeconds multiplier = intervalSeconds)
    (hnew : t.manager.jobs jobId = none → (lib.intervalTrigger intervalSeconds).isSome = true →
      intervalSeconds ≠ 0) (jobId' : String) :
    JobHolds lib ⟨t.manager.addJob lib jobId intervalSeconds,
      Function.update t.requested jobId (some intervalSeconds)⟩ jobId' := by
  by_cases hid : jobId' = jobId
  · subst hid
    cases hold : t.manager.jobs jobId' with
    | none => exact JobHolds.add_new hold (hnew hold)
    | some old =>
      obtain ⟨horiginal, hscaled⟩ := hagain (by rw [hold]; rfl)
      exact (h jobId').add_again hold horiginal hscaled
  · exact (h jobId').congr (sameJob_addJob lib t hid intervalSeconds)

/-- Removing a source's job leaves the intervals right. -/
lemma JobHolds.removeSourceJob {lib : Apscheduler} {t : Tracked} (h : ∀ jobId, JobHolds lib t jobId)
    (sourceId jobId : String) :
    JobHolds lib ⟨t.manager.removeSourceJob sourceId, t.requested⟩ jobId := by
  unfold AsyncSchedulerManager.removeSourceJob removeJob
  split
  · exact h jobId
  split
  · intro job hjob
    by_cases hid : jobId = collectJobId sourceId
    · simp [hid] at hjob
    · simp only [ne_eq, hid, not_false_eq_true, Function.update_of_ne] at hjob
      simpa [hid] using h jobId job hjob
  · exact h jobId

/-- A paused job keeps its interval. -/
lemma JobHolds.pauseJob {lib : Apscheduler} {t : Tracked} (h : ∀ jobId, JobHolds lib t jobId)
    (jobId jobId' : String) : JobHolds lib ⟨t.manager.pauseJob jobId, t.requested⟩ jobId' := by
  unfold AsyncSchedulerManager.pauseJob
  split
  next old hold =>
    intro job hjob
    by_cases hid : jobId' = jobId
    · subst hid
      simp only [Function.update_self, Option.some.injEq] at hjob
      subst hjob
      exact h jobId' old hold
    · simp only [ne_eq, hid, not_false_eq_true, Function.update_of_ne] at hjob
      exact h jobId' job hjob
  next => exact h jobId'

/-- A scaled job: the new multiplier and the new interval belong together. -/
lemma JobHolds.scale {lib : Apscheduler} {t : Tracked} {jobId : String} {original : Int}
    {multiplier : ℚ} (h : ∀ jobId, JobHolds lib t jobId)
    (horiginal : t.manager.originalIntervals jobId = some original)
    (hone : ∀ current, t.manager.adaptiveMultipliers jobId = some current → 1 ≤ current →
      1 ≤ multiplier)
    (hrange : (t.manager.jobs jobId).isSome = true →
      (lib.intervalTrigger (scaled original multiplier)).isSome = true) (jobId' : String) :
    JobHolds lib ⟨rescheduleJob lib { t.manager with
        adaptiveMultipliers := Function.update t.manager.adaptiveMultipliers jobId (some multiplier) }
      jobId (scaled original multiplier), t.requested⟩ jobId' := by
  unfold rescheduleJob
  by_cases hid : jobId' = jobId
  · subst hid
    cases hold : t.manager.jobs jobId' with
    | none =>
      intro job hjob
      simp [hold] at hjob
    | some old =>
      obtain ⟨o, current, ho, hr, hm, _, hne, hcurrent, _⟩ := h jobId' old hold
      rw [horiginal] at ho
      cases ho
      have hrange := hrange (by rw [hold]; rfl)
      have hone := hone current hm hcurrent
      -- a multiplier is never below one, so scaling does not come down to zero
      have hself := intervalTrigger_of_ne (scaled_ne_zero hone hne) hrange
      intro job hjob
      simp only [hself, Function.update_self, Option.some.injEq] at hjob
      subst hjob
      refine ⟨original, multiplier, ?_, hr, ?_, rfl, hne, hone, hrange⟩
      · simpa [hself] using horiginal
      · simp [hself]
  · apply (h jobId').congr
    split <;> constructor <;> simp [hid]

/-- Rescheduling by the health leaves the intervals right. -/
lemma JobHolds.adaptiveReschedule {lib : Apscheduler} {t : Tracked}
    (h : ∀ jobId, JobHolds lib t jobId) {sourceId healthStatus : String} {active source : Nat}
    (hscale : ∀ jobId intervalSeconds,
      (Call.adaptiveReschedule sourceId healthStatus active source).scales t.manager =
        some (jobId, intervalSeconds) →
      (t.manager.jobs jobId).isSome = true → (lib.intervalTrigger intervalSeconds).isSome = true)
    (jobId' : String) :
    JobHolds lib
      ⟨t.manager.adaptiveReschedule lib sourceId healthStatus active source, t.requested⟩ jobId' := by
  unfold AsyncSchedulerManager.adaptiveReschedule
  simp only
  split
  next => exact h jobId'
  next original horiginal =>
    split
    next hpause =>
      split
      · exact JobHolds.pauseJob h _ jobId'
      · exact h jobId'
    next hpause =>
      apply JobHolds.scale h horiginal
      · intro current hcurrent hone
        rw [hcurrent]
        exact one_le_targetMultiplier hone healthStatus
      · intro hsome
        apply hscale (collectJobId sourceId) _ _ hsome
        simp only [Call.scales, if_neg hpause, horiginal, Option.map_some]

/-- A call that meets the condition keeps what holds of the scheduled jobs. -/
lemma JobHolds.called {lib : Apscheduler} {t t' : Tracked} {c : Call} (steady : Steady lib t c)
    (h : ∀ jobId, JobHolds lib t jobId) (called : Called lib t c t') (jobId : String) :
    JobHolds lib t' jobId := by
  subst called
  cases c with
  | addJob jobId' intervalSeconds =>
    exact JobHolds.add h (steady.again _ _ rfl) (steady.new _ _ rfl) jobId
  | addCollectionJob sourceId intervalSeconds sourceType =>
    exact JobHolds.add h (steady.again _ _ rfl) (steady.new _ _ rfl) jobId
  | addSourceJob source tenantSettings =>
    by_cases hid : textField source "id" = ""
    · have same : SameJob t (t.call lib (.addSourceJob source tenantSettings)) jobId := by
        constructor <;>
          simp [Tracked.call, Call.run, Call.asks, AsyncSchedulerManager.addSourceJob, hid]
      exact (h jobId).congr same
    · have hasks : (Call.addSourceJob source tenantSettings).asks = some
          (collectJobId (textField source "id"),
            collectionInterval (sourceInterval source tenantSettings)
              (textField source "source_type")) := by
        simp [Call.asks, hid]
      -- the category cache is none of the entries of a job
      let cached : Tracked :=
        ⟨t.manager.cacheCategory (textField source "id") (textField source "category_slug"),
          t.requested⟩
      have same : ∀ jobId, SameJob t cached jobId := by
        intro jobId
        constructor <;> simp only [cached, cacheCategory] <;> split <;> rfl
      have hagain := steady.again _ _ hasks
      have hnew := steady.new _ _ hasks
      rw [← (same _).jobs, ← (same _).originals, ← (same _).multipliers] at hagain
      rw [← (same _).jobs] at hnew
      have hadd := JobHolds.add (fun jobId => (h jobId).congr (same jobId)) hagain hnew jobId
      simpa [Tracked.call, Call.run, AsyncSchedulerManager.addSourceJob, hasks, hid,
        addCollectionJob] using hadd
  | removeSourceJob sourceId => exact JobHolds.removeSourceJob h sourceId jobId
  | adaptiveReschedule sourceId healthStatus active source =>
    exact JobHolds.adaptiveReschedule h steady.scale jobId

/-! ## Runs -/

/-- In every state a run reaches whose calls all meet the condition, the trigger of every scheduled
job runs on the interval last asked for, scaled. -/
theorem intervalsHold_of_steady {lib : Apscheduler} {running adaptivePauseEnabled : Bool}
    {calls : List Call} {t : Tracked}
    (run : Guarded (Called lib) (Steady lib) (Tracked.start running adaptivePauseEnabled) calls t) :
    IntervalsHold t := by
  have start : ∀ jobId, JobHolds lib (Tracked.start running adaptivePauseEnabled) jobId := by
    intro jobId job hjob
    simp [Tracked.start, init] at hjob
  apply @intervalsHold_of_jobHolds lib
  apply run.invariant (I := fun t => ∀ jobId, JobHolds lib t jobId) _ start
  intro t c t' steady h called jobId
  exact JobHolds.called steady h called jobId

/-- An announced source with its interval. -/
def announced (intervalSeconds : Int) : Dict :=
  [("id", .str "7"), ("source_type", .str "rss"), ("category_slug", .str "tech"),
    ("refresh_interval_seconds", .int intervalSeconds)]

/-- The sample notice asks for its interval. -/
lemma asks_announced (intervalSeconds : Int) (h : 10 ≤ intervalSeconds) :
    (Call.addSourceJob (announced intervalSeconds) none).asks =
      some ("collect_7", intervalSeconds) := by
  have hint : sourceInterval (announced intervalSeconds) none = intervalSeconds := by
    show resolveEffectiveInterval (some intervalSeconds) "rss" "tech" none = intervalSeconds
    have hne : intervalSeconds ≠ 0 := by omega
    simp [resolveEffectiveInterval, refreshOverride, hne, h, REFRESH_OVERRIDE_MIN_SECONDS]
  have hcol : collectionInterval intervalSeconds "rss" = intervalSeconds := by
    unfold collectionInterval
    rw [if_neg (by omega)]
  show some (collectJobId "7", collectionInterval (sourceInterval (announced intervalSeconds) none) "rss") = _
  rw [hint, hcol]
  rfl

/-- A source is announced and degrades: its interval doubles. -/
theorem announced_degraded_holds :
    ∃ t, Guarded (Called .sample) (Steady .sample) (Tracked.start true true)
        [.addSourceJob (announced 300) none, .adaptiveReschedule "7" "degraded" 1 1] t ∧
      t.manager.jobs "collect_7" = some ⟨600, false⟩ ∧ IntervalsHold t := by
  have first : Steady .sample (Tracked.start true true) (.addSourceJob (announced 300) none) := by
    refine ⟨?_, ?_, ?_⟩
    · intro jobId n _ hsome
      cases hsome
    · intro jobId n hasks _ _
      rw [asks_announced 300 (by omega)] at hasks
      cases hasks
      omega
    · intro jobId n hscales
      cases hscales
  have second : Steady .sample
      ((Tracked.start true true).call .sample (.addSourceJob (announced 300) none))
      (.adaptiveReschedule "7" "degraded" 1 1) := by
    refine ⟨?_, ?_, ?_⟩
    · intro jobId n hasks
      cases hasks
    · intro jobId n hasks
      cases hasks
    · intro jobId n hscales _
      have hn : some ("collect_7", (600 : Int)) = some (jobId, n) := hscales
      cases hn
      rfl
  have run : Guarded (Called .sample) (Steady .sample) _ _ _ :=
    .cons first rfl (.cons second rfl .nil)
  exact ⟨_, run, rfl, intervalsHold_of_steady run⟩

/-- A source runs every 300 seconds and is announced again with 60: the trigger changes and the
original interval stays, so that the next health transition scales the old interval. -/
theorem reannounced_not_hold :
    ¬ ∀ (lib : Apscheduler) (running adaptivePauseEnabled : Bool) (calls : List Call) (t : Tracked),
      Steps (Called lib) (Tracked.start running adaptivePauseEnabled) calls t → IntervalsHold t := by
  intro h
  have hold := h .sample true true
    [.addSourceJob (announced 300) none, .addSourceJob (announced 60) none,
      .adaptiveReschedule "7" "degraded" 1 1] _ (.cons rfl (.cons rfl (.cons rfl .nil)))
  obtain ⟨original, _, horiginal, hrequested, _⟩ := hold "collect_7" ⟨600, false⟩ rfl
  have h300 : some 300 = some original := horiginal
  have h60 : some 60 = some original := hrequested
  rw [← h60] at h300
  cases h300

end InstantBoard.AsyncSchedulerManager
