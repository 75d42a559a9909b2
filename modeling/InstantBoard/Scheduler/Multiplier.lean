import InstantBoard.Lib.Halving
import InstantBoard.Scheduler.Jobs

/-!
# The adaptive multiplier

`adaptive_reschedule` over any list of health statuses while there are subscribers. The multiplier is
taken to what the status asks for, at once upwards and by half downwards, so it stays between 1 and 10
and comes to rest when a status is repeated.
-/

namespace InstantBoard.AsyncSchedulerManager

open Halving

/-- A health status the manager is told, and the subscribers it counts then. -/
structure HealthReport where
  healthStatus : String
  activeConnections : Nat
  sourceConnections : Nat

def adapt (lib : Apscheduler) (sourceId : String) (m : AsyncSchedulerManager) (r : HealthReport) :
    AsyncSchedulerManager :=
  m.adaptiveReschedule lib sourceId r.healthStatus r.activeConnections r.sourceConnections

def adaptAll (lib : Apscheduler) (sourceId : String) (m : AsyncSchedulerManager)
    (reports : List HealthReport) : AsyncSchedulerManager :=
  reports.foldl (adapt lib sourceId) m

/-- There are subscribers, also of the source's category, or nothing is paused for lack of them. -/
def Served (m : AsyncSchedulerManager) (r : HealthReport) : Prop :=
  m.adaptivePauseEnabled = true → r.activeConnections ≠ 0 ∧ r.sourceConnections ≠ 0

def multiplier (m : AsyncSchedulerManager) (sourceId : String) : ℚ :=
  (m.adaptiveMultipliers (collectJobId sourceId)).getD 1

/-- The multiplier a health status asks for. -/
def askedMultiplier (current : ℚ) (healthStatus : String) : ℚ :=
  if healthStatus = "healthy" then 1
  else if healthStatus = "degraded" then 2
  else if healthStatus = "down" then 10
  else current

/-- The next multiplier approaches the one asked for. -/
lemma targetMultiplier_eq (current : ℚ) (healthStatus : String) :
    targetMultiplier current healthStatus =
      approach (askedMultiplier current healthStatus) current :=
  rfl

/-! ## One status -/

section

variable {current current' : ℚ}

/-- At least 1 is asked for. -/
lemma one_le_asked (h : 1 ≤ current) (healthStatus : String) :
    1 ≤ askedMultiplier current healthStatus := by
  unfold askedMultiplier
  split_ifs
  · exact le_refl 1
  · norm_num
  · norm_num
  · exact h

/-- At most 10 is asked for. -/
lemma asked_le_ten (h : current ≤ 10) (healthStatus : String) :
    askedMultiplier current healthStatus ≤ 10 := by
  unfold askedMultiplier
  split_ifs
  · norm_num
  · norm_num
  · exact le_refl 10
  · exact h

/-- What a status makes of a multiplier. -/
structure Adapted (current next : ℚ) (healthStatus : String) : Prop where
  one_le : 1 ≤ next
  le_ten : next ≤ 10
  degraded : healthStatus = "degraded" → 2 ≤ next ∧ (current < 2 → next = 2)
  down : healthStatus = "down" → next = 10
  /-- A status that asks for no more than there is. -/
  healthier : askedMultiplier current healthStatus ≤ current → current / 2 ≤ next ∧ next ≤ current

/-- The next multiplier follows the rules. -/
lemma adapted_targetMultiplier (hone : 1 ≤ current) (hten : current ≤ 10) (healthStatus : String) :
    Adapted current (targetMultiplier current healthStatus) healthStatus := by
  have hzero : 0 ≤ current := zero_le_one.trans hone
  rw [targetMultiplier_eq]
  refine ⟨?_, ?_, ?_, ?_, ?_⟩
  · exact (one_le_asked hone healthStatus).trans (le_approach _ _)
  · rw [approach_eq_max hzero]
    exact max_le (asked_le_ten hten healthStatus) ((half_le_self hzero).trans hten)
  · rintro rfl
    refine ⟨le_approach 2 current, ?_⟩
    intro h
    exact approach_of_le h.le
  · rintro rfl
    exact approach_of_le hten
  · intro h
    exact ⟨half_le_approach hzero, approach_le hzero h⟩

/-- A greater multiplier stays greater. -/
lemma targetMultiplier_mono (hzero : 0 ≤ current) (h : current ≤ current') (healthStatus : String) :
    targetMultiplier current healthStatus ≤ targetMultiplier current' healthStatus := by
  have hasked : askedMultiplier current healthStatus ≤ askedMultiplier current' healthStatus := by
    unfold askedMultiplier
    split_ifs
    · exact le_refl _
    · exact le_refl _
    · exact le_refl _
    · exact h
  rw [targetMultiplier_eq, targetMultiplier_eq, approach_eq_max hzero,
    approach_eq_max (hzero.trans h)]
  apply max_le_max hasked
  exact div_le_div_of_nonneg_right h zero_le_two

/-- A multiplier from one on does not shorten an interval. -/
lemma le_scaled {original : Int} (hpos : 0 ≤ original) (hone : 1 ≤ current) :
    original ≤ scaled original current := by
  have hden : (current.den : Int) ≤ current.num := by
    have h := (Rat.le_iff 1 current).1 hone
    simpa using h
  have hle : original * current.den ≤ original * current.num := Int.mul_le_mul_of_nonneg_left hden hpos
  have hnonneg : 0 ≤ original * current.num :=
    (Int.mul_nonneg hpos (Int.natCast_nonneg _)).trans hle
  rw [scaled, Int.tdiv_eq_ediv_of_nonneg hnonneg]
  apply (Int.le_ediv_iff_mul_le _).2 hle
  exact_mod_cast current.den_pos

end

/-! ## One call -/

variable {lib : Apscheduler} {m : AsyncSchedulerManager} {sourceId : String} {original : Int}
variable {r : HealthReport}

/-- Rescheduling a job changes the jobs alone. -/
lemma rescheduleJob_eq (lib : Apscheduler) (m : AsyncSchedulerManager) (jobId : String)
    (intervalSeconds : Int) :
    m.rescheduleJob lib jobId intervalSeconds =
      { m with jobs := (m.rescheduleJob lib jobId intervalSeconds).jobs } := by
  unfold rescheduleJob
  split <;> rfl

/-- What a served report changes. -/
lemma adapt_of_served (ho : m.originalIntervals (collectJobId sourceId) = some original)
    (h : Served m r) :
    m.adapt lib sourceId r =
      { m with
        adaptiveMultipliers := Function.update m.adaptiveMultipliers (collectJobId sourceId)
          (some (targetMultiplier (m.multiplier sourceId) r.healthStatus)) }.rescheduleJob lib
        (collectJobId sourceId)
        (scaled original (targetMultiplier (m.multiplier sourceId) r.healthStatus)) := by
  have hserved : ¬ (m.adaptivePauseEnabled = true ∧
      (r.activeConnections = 0 ∨ r.sourceConnections = 0)) := by
    intro ⟨henabled, hnone⟩
    obtain ⟨hactive, hsource⟩ := h henabled
    exact hnone.elim hactive hsource
  unfold adapt adaptiveReschedule
  simp only [ho]
  rw [if_neg hserved]
  rfl

/-- A job with its original interval and a multiplier in range. -/
structure Adaptive (m : AsyncSchedulerManager) (sourceId : String) (original : Int) : Prop where
  original_eq : m.originalIntervals (collectJobId sourceId) = some original
  one_le : 1 ≤ m.multiplier sourceId
  le_ten : m.multiplier sourceId ≤ 10

/-- The multiplier after a served report. -/
lemma multiplier_adapt (ho : m.originalIntervals (collectJobId sourceId) = some original)
    (h : Served m r) :
    (m.adapt lib sourceId r).multiplier sourceId =
      targetMultiplier (m.multiplier sourceId) r.healthStatus := by
  rw [adapt_of_served ho h, rescheduleJob_eq]
  unfold multiplier
  dsimp only
  rw [Function.update_self]
  rfl

/-- A report is served after another if it was before. -/
lemma Served.of_adapt (ho : m.originalIntervals (collectJobId sourceId) = some original)
    (h : Served m r) {r' : HealthReport} :
    Served (m.adapt lib sourceId r) r' ↔ Served m r' := by
  rw [adapt_of_served ho h, rescheduleJob_eq]
  rfl

/-- A served report keeps the source adaptive. -/
lemma Adaptive.adapt (h : Adaptive m sourceId original) (hserved : Served m r) :
    Adaptive (m.adapt lib sourceId r) sourceId original := by
  have hadapted := adapted_targetMultiplier h.one_le h.le_ten r.healthStatus
  rw [← multiplier_adapt h.original_eq hserved] at hadapted
  refine ⟨?_, hadapted.one_le, hadapted.le_ten⟩
  rw [adapt_of_served h.original_eq hserved, rescheduleJob_eq]
  exact h.original_eq

/-- The job is given the scaled interval, unless no trigger takes that. -/
lemma jobs_adapt (h : Adaptive m sourceId original) (hserved : Served m r) (hpos : 0 ≤ original)
    {job' : Job} (hjob : (m.adapt lib sourceId r).jobs (collectJobId sourceId) = some job') :
    original ≤ job'.interval ∨ (m.jobs (collectJobId sourceId) = some job' ∧
      lib.intervalTrigger (scaled original
        (targetMultiplier (m.multiplier sourceId) r.healthStatus)) = none) := by
  have hnext := (adapted_targetMultiplier h.one_le h.le_ten r.healthStatus).one_le
  have hscaled := le_scaled hpos hnext
  rw [adapt_of_served h.original_eq hserved] at hjob
  unfold rescheduleJob at hjob
  split at hjob
  next old interval hold htrigger =>
    simp only [Function.update_self, Option.some.injEq] at hjob
    left
    rw [← hjob, lib.intervalTrigger_eq htrigger]
    dsimp only
    split
    · omega
    · exact hscaled
  next hnone =>
    refine .inr ⟨hjob, ?_⟩
    apply Option.eq_none_iff_forall_ne_some.2
    intro k hk
    exact hnone job' k hjob hk

/-! ## Runs -/

/-- Reports are taken one after the other. -/
lemma adaptAll_append (lib : Apscheduler) (sourceId : String) (m : AsyncSchedulerManager)
    (l l' : List HealthReport) :
    m.adaptAll lib sourceId (l ++ l') = (m.adaptAll lib sourceId l).adaptAll lib sourceId l' :=
  List.foldl_append

/-- Any number of statuses keeps the multiplier in range and the job at its original interval or
above. -/
lemma Adaptive.adaptAll (h : Adaptive m sourceId original) (hpos : 0 ≤ original)
    {reports : List HealthReport} (hserved : ∀ r ∈ reports, Served m r) :
    Adaptive (m.adaptAll lib sourceId reports) sourceId original ∧
      (∀ r, Served (m.adaptAll lib sourceId reports) r ↔ Served m r) ∧
      ∀ job', (m.adaptAll lib sourceId reports).jobs (collectJobId sourceId) = some job' →
        original ≤ job'.interval ∨ m.jobs (collectJobId sourceId) = some job' := by
  induction reports generalizing m with
  | nil => exact ⟨h, fun _ => Iff.rfl, fun _ hjob => .inr hjob⟩
  | cons r reports ih =>
    have hr := hserved r List.mem_cons_self
    have hkeep : ∀ r', Served (m.adapt lib sourceId r) r' ↔ Served m r' := fun _ =>
      Served.of_adapt h.original_eq hr
    obtain ⟨hrest, hserve, hjobs⟩ := ih (h.adapt hr) fun r' hr' =>
      (hkeep r').2 (hserved r' (List.mem_cons_of_mem r hr'))
    refine ⟨hrest, fun r' => (hserve r').trans (hkeep r'), ?_⟩
    intro job' hjob
    rcases hjobs job' hjob with hle | hold
    · exact .inl hle
    · exact (jobs_adapt h hr hpos hold).imp_right And.left

/-- A status that is repeated iterates the step to the multiplier it asks for. -/
lemma multiplier_repeated (h : Adaptive m sourceId original) {healthStatus : String} {target : ℚ}
    (htarget : ∀ current, askedMultiplier current healthStatus = target)
    {reports : List HealthReport}
    (hrepeated : ∀ r ∈ reports, Served m r ∧ r.healthStatus = healthStatus) :
    (m.adaptAll lib sourceId reports).multiplier sourceId =
      (approach target)^[reports.length] (m.multiplier sourceId) := by
  induction reports generalizing m with
  | nil => rfl
  | cons r reports ih =>
    obtain ⟨hr, hstatus⟩ := hrepeated r List.mem_cons_self
    have hnext : Adaptive (m.adapt lib sourceId r) sourceId original := h.adapt hr
    have hrest := ih hnext fun r' hr' =>
      ⟨(Served.of_adapt h.original_eq hr).2 (hrepeated r' (List.mem_cons_of_mem r hr')).1,
        (hrepeated r' (List.mem_cons_of_mem r hr')).2⟩
    rw [multiplier_adapt h.original_eq hr, targetMultiplier_eq, hstatus, htarget] at hrest
    rw [List.length_cons, Function.iterate_succ_apply]
    exact hrest

/-- Four healthy reports or more bring the multiplier to 1. -/
lemma multiplier_of_healthy (h : Adaptive m sourceId original) {reports : List HealthReport}
    (hrepeated : ∀ r ∈ reports, Served m r ∧ r.healthStatus = "healthy")
    (hlen : 4 ≤ reports.length) : (m.adaptAll lib sourceId reports).multiplier sourceId = 1 := by
  obtain ⟨n, hn⟩ := Nat.exists_eq_add_of_le' (show 1 ≤ reports.length by omega)
  rw [multiplier_repeated h (fun _ => rfl) hrepeated, hn]
  apply iterate_approach_of_le zero_le_one (zero_le_one.trans h.one_le)
  rw [div_le_one (by positivity)]
  calc m.multiplier sourceId ≤ 2 ^ 4 := h.le_ten.trans (by norm_num)
    _ ≤ 2 ^ (n + 1) := pow_le_pow_right₀ one_le_two (by omega)

/-- Three degraded reports or more bring the multiplier to 2. -/
lemma multiplier_of_degraded (h : Adaptive m sourceId original) {reports : List HealthReport}
    (hrepeated : ∀ r ∈ reports, Served m r ∧ r.healthStatus = "degraded")
    (hlen : 3 ≤ reports.length) : (m.adaptAll lib sourceId reports).multiplier sourceId = 2 := by
  obtain ⟨n, hn⟩ := Nat.exists_eq_add_of_le' (show 1 ≤ reports.length by omega)
  rw [multiplier_repeated h (fun _ => rfl) hrepeated, hn]
  apply iterate_approach_of_le zero_le_two (zero_le_one.trans h.one_le)
  rw [div_le_iff₀ (by positivity), ← pow_succ']
  calc m.multiplier sourceId ≤ 2 ^ 4 := h.le_ten.trans (by norm_num)
    _ ≤ 2 ^ (n + 1 + 1) := pow_le_pow_right₀ one_le_two (by omega)

/-- The same statuses keep a greater multiplier greater. -/
lemma multiplier_mono {m' : AsyncSchedulerManager} {original' : Int}
    (h : Adaptive m sourceId original) (h' : Adaptive m' sourceId original')
    (hle : m.multiplier sourceId ≤ m'.multiplier sourceId) {reports : List HealthReport}
    (hserved : ∀ r ∈ reports, Served m r ∧ Served m' r) :
    (m.adaptAll lib sourceId reports).multiplier sourceId ≤
      (m'.adaptAll lib sourceId reports).multiplier sourceId := by
  induction reports generalizing m m' with
  | nil => exact hle
  | cons r reports ih =>
    obtain ⟨hr, hr'⟩ := hserved r List.mem_cons_self
    apply ih (h.adapt hr) (h'.adapt hr')
    · rw [multiplier_adapt h.original_eq hr, multiplier_adapt h'.original_eq hr']
      exact targetMultiplier_mono (zero_le_one.trans h.one_le) hle _
    · intro q hq
      obtain ⟨hm, hm'⟩ := hserved q (List.mem_cons_of_mem r hq)
      exact ⟨(Served.of_adapt h.original_eq hr).2 hm, (Served.of_adapt h'.original_eq hr').2 hm'⟩

/-- After any statuses with subscribers present: what holds of the multiplier and the interval, what
the next status does to them, and where a status that is repeated takes the multiplier. -/
theorem adaptive_law (hpos : 0 ≤ original) (h : Adaptive m sourceId original)
    {reports : List HealthReport} (hserved : ∀ r ∈ reports, Served m r) :
    Adaptive (m.adaptAll lib sourceId reports) sourceId original ∧
    ((∀ job, m.jobs (collectJobId sourceId) = some job → original ≤ job.interval) →
      ∀ job, (m.adaptAll lib sourceId reports).jobs (collectJobId sourceId) = some job →
        original ≤ job.interval) ∧
    (∀ r, Served m r →
      let current := (m.adaptAll lib sourceId reports).multiplier sourceId
      let next := (m.adaptAll lib sourceId (reports ++ [r])).multiplier sourceId
      Adapted current next r.healthStatus ∧
        ((lib.intervalTrigger (scaled original next)).isSome = true →
          ∀ job, (m.adaptAll lib sourceId (reports ++ [r])).jobs (collectJobId sourceId) = some job →
            original ≤ job.interval)) ∧
    (∀ recovery, (∀ r ∈ recovery, Served m r ∧ r.healthStatus = "healthy") →
      4 ≤ recovery.length →
        (m.adaptAll lib sourceId (reports ++ recovery)).multiplier sourceId = 1) ∧
    (∀ decline, (∀ r ∈ decline, Served m r ∧ r.healthStatus = "degraded") →
      3 ≤ decline.length →
        (m.adaptAll lib sourceId (reports ++ decline)).multiplier sourceId = 2) ∧
    ∀ (m' : AsyncSchedulerManager) (original' : Int), Adaptive m' sourceId original' →
      m.multiplier sourceId ≤ m'.multiplier sourceId → (∀ r ∈ reports, Served m' r) →
        (m.adaptAll lib sourceId reports).multiplier sourceId ≤
          (m'.adaptAll lib sourceId reports).multiplier sourceId := by
  obtain ⟨hall, hserve, hjobs⟩ := h.adaptAll hpos hserved
  refine ⟨hall, ?_, ?_, ?_, ?_, ?_⟩
  · intro hstart job hjob
    rcases hjobs job hjob with hle | hold
    · exact hle
    · exact hstart job hold
  · intro r hr
    have hr' := (hserve r).2 hr
    have hnext : (m.adaptAll lib sourceId (reports ++ [r])).multiplier sourceId =
        targetMultiplier ((m.adaptAll lib sourceId reports).multiplier sourceId) r.healthStatus := by
      rw [adaptAll_append]
      exact multiplier_adapt hall.original_eq hr'
    dsimp only
    rw [hnext, adaptAll_append]
    refine ⟨adapted_targetMultiplier hall.one_le hall.le_ten r.healthStatus, ?_⟩
    intro htrigger job hjob
    rcases jobs_adapt hall hr' hpos hjob with hle | ⟨_, hnone⟩
    · exact hle
    · rw [hnone] at htrigger
      cases htrigger
  · intro recovery hrecovery hlen
    rw [adaptAll_append]
    exact multiplier_of_healthy hall
      (fun r hr => ⟨(hserve r).2 (hrecovery r hr).1, (hrecovery r hr).2⟩) hlen
  · intro decline hdecline hlen
    rw [adaptAll_append]
    exact multiplier_of_degraded hall
      (fun r hr => ⟨(hserve r).2 (hdecline r hr).1, (hdecline r hr).2⟩) hlen
  · intro m' original' h' hle hserved'
    exact multiplier_mono h h' hle fun r hr => ⟨hserved r hr, hserved' r hr⟩

/-- A new job of a source starts in range, at its original interval. -/
lemma adaptive_addJob {intervalSeconds : Int} (hnew : m.jobs (collectJobId sourceId) = none) :
    Adaptive (m.addJob lib (collectJobId sourceId) intervalSeconds) sourceId intervalSeconds := by
  unfold addJob
  simp only [hnew]
  refine ⟨Function.update_self .., ?_, ?_⟩
  · unfold multiplier
    simp
  · unfold multiplier
    simp

def degraded : HealthReport := ⟨"degraded", 2, 1⟩

/-- A new job with an interval of a minute, and three statuses in a row. -/
theorem minute_degraded_thrice :
    ((init.addJob Apscheduler.sample (collectJobId "7") 60).adaptAll Apscheduler.sample "7"
      [degraded, degraded, degraded]).multiplier "7" = 2 := by
  have hserved : ∀ r ∈ [degraded, degraded, degraded],
      Served (init.addJob Apscheduler.sample (collectJobId "7") 60) r := by
    intro r hr _
    simp only [List.mem_cons, List.not_mem_nil, or_false, or_self] at hr
    rw [hr]
    decide
  have hnone : ∀ r ∈ ([] : List HealthReport),
      Served (init.addJob Apscheduler.sample (collectJobId "7") 60) r := by
    intro r hr
    cases hr
  have hlaw := @adaptive_law Apscheduler.sample _ "7" 60 (by decide)
    (adaptive_addJob rfl) _ hnone
  apply hlaw.2.2.2.2.1 [degraded, degraded, degraded]
  · intro r hr
    refine ⟨hserved r hr, ?_⟩
    simp only [List.mem_cons, List.not_mem_nil, or_false, or_self] at hr
    rw [hr]
    rfl
  · exact le_refl 3

end InstantBoard.AsyncSchedulerManager
