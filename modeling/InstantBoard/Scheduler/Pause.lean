import InstantBoard.Lib.Transition
import InstantBoard.Scheduler.Jobs
import InstantBoard.Sse.Router
import Mathlib.Data.Finset.Card

/-!
# Paused jobs and subscribers

The scheduler inside the API process pauses a job at the end of a run that finds no subscribers.
Nothing resumes it: `register` does not look at the jobs, and a paused job never comes to the end of
another run. And the subscribers it counts are those of the job's own category, not those of "all".
A run in which no registration finds a paused job of its categories, and no run of a job ends with
"all" as its only audience, leaves no job paused while somebody listens (`listened_of_awake`).
-/

namespace InstantBoard.Sse.SSEEventRouter

/-- `get_connections_by_category`: the clients of the active connections. -/
def getConnectionsByCategory (r : SSEEventRouter) (category : String) : Finset String :=
  (r.subscriptions.members category).filter fun clientId =>
    (r.connections clientId).any (·.isActive) = true

/-- `get_connections_count`: the number of active connections. -/
def IsConnectionsCount (r : SSEEventRouter) (n : Nat) : Prop :=
  ∃ active : Finset String, active.card = n ∧
    ∀ clientId, clientId ∈ active ↔ (r.connections clientId).any (·.isActive) = true

/-- Somebody in a category is somebody. -/
lemma IsConnectionsCount.ne_zero {r : SSEEventRouter} {n : Nat} (count : r.IsConnectionsCount n)
    {category : String} (h : (r.getConnectionsByCategory category).Nonempty) : n ≠ 0 := by
  obtain ⟨active, rfl, hactive⟩ := count
  obtain ⟨clientId, hmem⟩ := h
  apply Finset.card_ne_zero_of_mem (a := clientId)
  rw [hactive]
  exact (Finset.mem_filter.1 hmem).2

/-- In a consistent registry the active subscribers are the subscribers. -/
lemma Consistent.mem_getConnectionsByCategory {r : SSEEventRouter} (hr : r.Consistent)
    {category clientId : String} :
    clientId ∈ r.getConnectionsByCategory category ↔
      ∃ conn, r.connections clientId = some conn ∧ category ∈ conn.categories := by
  rw [getConnectionsByCategory, Finset.mem_filter, hr.mem_members]
  constructor
  · exact And.left
  · rintro ⟨conn, hconn, hc⟩
    exact ⟨⟨conn, hconn, hc⟩, by simp [hconn, hr.active hconn]⟩

end InstantBoard.Sse.SSEEventRouter

namespace InstantBoard.AsyncSchedulerManager

open Sse Transition

/-- The API process: its scheduler and its registry. -/
structure Embedded where
  manager : AsyncSchedulerManager
  router : SSEEventRouter

namespace Embedded

inductive Act where
  | register (clientId : String) (categories : List String) (tenantId : TenantId)
  | unregister (clientId : String)
  /-- A collection of the source ends, and its job adapts. -/
  | complete (sourceId healthStatus : String)

/-- One step. The ids of new clients are fresh. -/
inductive Step (lib : Apscheduler) : Embedded → Act → Embedded → Prop where
  | register {s clientId categories tenantId} (fresh : s.router.connections clientId = none) :
    Step lib s (.register clientId categories tenantId)
      { s with router := s.router.register clientId categories tenantId }
  | unregister {s clientId} :
    Step lib s (.unregister clientId) { s with router := s.router.unregister clientId }
  | complete {s sourceId healthStatus n} (count : s.router.IsConnectionsCount n) :
    Step lib s (.complete sourceId healthStatus)
      { s with
        manager := s.manager.adaptiveReschedule lib sourceId healthStatus n
          (s.router.getConnectionsByCategory (s.manager.categoryForSource sourceId)).card }

/-- The end of the startup: the scheduler runs, the active sources are scheduled, and nobody is
connected yet. -/
def start (lib : Apscheduler) (tenantSettingsMap : String → Option Dict)
    (sources : List (Source × String)) : Embedded :=
  { manager := scheduleAllActiveSources lib tenantSettingsMap { init with running := true } sources
    router := .init }

/-- Somebody receives the source's category, by its own stream or through "all". -/
def Listened (s : Embedded) (sourceId : String) : Prop :=
  (s.router.getConnectionsByCategory (s.manager.categoryForSource sourceId)).Nonempty ∨
    (s.router.getConnectionsByCategory "all").Nonempty

/-- No job is paused while somebody listens. -/
def RunsWhileListened (s : Embedded) : Prop :=
  ∀ sourceId job, s.manager.jobs (collectJobId sourceId) = some job → s.Listened sourceId →
    job.paused = false

/-- The condition on a step: a registration finds no paused job of its categories, nor any paused
job at all if it asks for "all"; and where a run ends while "all" has subscribers, the job's own
category has some too. -/
def Awake (s : Embedded) : Act → Prop
  | .register _ categories _ => ∀ sourceId job,
    s.manager.jobs (collectJobId sourceId) = some job → job.paused = true →
      s.manager.categoryForSource sourceId ∉ categories ∧ "all" ∉ categories
  | .unregister _ => True
  | .complete sourceId _ => (s.manager.jobs (collectJobId sourceId)).isSome = true →
    (s.router.getConnectionsByCategory "all").Nonempty →
      (s.router.getConnectionsByCategory (s.manager.categoryForSource sourceId)).Nonempty

end Embedded

/-! ## What adapting can do to the jobs -/

/-- `reschedule_job` changes one job at most, and wakes it if it does. -/
lemma rescheduleJob_cases (lib : Apscheduler) (m : AsyncSchedulerManager) (jobId : String)
    (intervalSeconds : Int) :
    m.rescheduleJob lib jobId intervalSeconds = m ∨
      ∃ interval, m.rescheduleJob lib jobId intervalSeconds =
        { m with jobs := Function.update m.jobs jobId (some ⟨interval, false⟩) } := by
  unfold rescheduleJob
  split
  · right
    exact ⟨_, rfl⟩
  · left
    rfl

/-- `adaptive_reschedule` leaves the job's pause as it is, ends it, or pauses the job; the last only
where one of the two numbers is zero. -/
lemma adaptiveReschedule_cases (lib : Apscheduler) (m : AsyncSchedulerManager)
    (sourceId healthStatus : String) (active source : Nat) :
    (m.adaptiveReschedule lib sourceId healthStatus active source).jobs = m.jobs ∨
    (∃ interval, (m.adaptiveReschedule lib sourceId healthStatus active source).jobs =
      Function.update m.jobs (collectJobId sourceId) (some ⟨interval, false⟩)) ∨
    ((active = 0 ∨ source = 0) ∧ ∃ job, m.jobs (collectJobId sourceId) = some job ∧
      (m.adaptiveReschedule lib sourceId healthStatus active source).jobs =
        Function.update m.jobs (collectJobId sourceId) (some { job with paused := true })) := by
  unfold adaptiveReschedule
  simp only
  split
  next => exact .inl rfl
  next original _ =>
    split
    next hpause =>
      split
      next =>
        unfold pauseJob
        split
        next job hjob => exact .inr (.inr ⟨hpause.2, job, hjob, rfl⟩)
        next => exact .inl rfl
      next => exact .inl rfl
    next =>
      obtain h | ⟨interval, h⟩ := rescheduleJob_cases lib { m with
        adaptiveMultipliers := Function.update m.adaptiveMultipliers (collectJobId sourceId)
          (some (targetMultiplier ((m.adaptiveMultipliers (collectJobId sourceId)).getD 1)
            healthStatus)) } (collectJobId sourceId)
        (scaled original (targetMultiplier
          ((m.adaptiveMultipliers (collectJobId sourceId)).getD 1) healthStatus))
      · left
        rw [h]
      · right
        left
        exact ⟨interval, by rw [h]⟩

/-- Rescheduling leaves the cached categories. -/
@[simp] lemma sourceCategoryCache_adaptiveReschedule (lib : Apscheduler) (m : AsyncSchedulerManager)
    (sourceId healthStatus : String) (active source : Nat) :
    (m.adaptiveReschedule lib sourceId healthStatus active source).sourceCategoryCache =
      m.sourceCategoryCache := by
  unfold adaptiveReschedule pauseJob rescheduleJob
  simp only
  split
  · rfl
  split
  · split
    · split <;> rfl
    · rfl
  · split <;> rfl

/-- Rescheduling leaves a source's category. -/
@[simp] lemma categoryForSource_adaptiveReschedule (lib : Apscheduler) (m : AsyncSchedulerManager)
    (sourceId healthStatus : String) (active source : Nat) (other : String) :
    (m.adaptiveReschedule lib sourceId healthStatus active source).categoryForSource other =
      m.categoryForSource other := by
  simp [categoryForSource]

namespace Embedded

/-! ## Runs -/

/-- The invariant of a run. -/
structure Sound (s : Embedded) : Prop where
  consistent : s.router.Consistent
  awake : s.RunsWhileListened

/-- A source listened to after a client came was so before, or the client brought its category. -/
lemma Listened.of_register {s : Embedded} (hr : s.router.Consistent) {clientId : String}
    {categories : List String} {tenantId : TenantId} {sourceId : String}
    (fresh : s.router.connections clientId = none)
    (h : Listened { s with router := s.router.register clientId categories tenantId } sourceId) :
    s.Listened sourceId ∨ s.manager.categoryForSource sourceId ∈ categories ∨
      "all" ∈ categories := by
  have hr' := hr.register fresh categories tenantId
  have old : ∀ category,
      ((s.router.register clientId categories tenantId).getConnectionsByCategory category).Nonempty →
        (s.router.getConnectionsByCategory category).Nonempty ∨ category ∈ categories := by
    rintro category ⟨other, hmem⟩
    obtain ⟨conn, hconn, hc⟩ := hr'.mem_getConnectionsByCategory.1 hmem
    obtain ⟨-, rfl⟩ | ⟨-, hold⟩ := SSEEventRouter.register_eq_some hconn
    · exact .inr hc
    · exact .inl ⟨other, hr.mem_getConnectionsByCategory.2 ⟨conn, hold, hc⟩⟩
  obtain h | h := h
  · obtain h | h := old _ h
    · exact .inl (.inl h)
    · exact .inr (.inl h)
  · obtain h | h := old _ h
    · exact .inl (.inr h)
    · exact .inr (.inr h)

/-- A source listened to after a client left was so before. -/
lemma Listened.of_unregister {s : Embedded} (hr : s.router.Consistent) {clientId sourceId : String}
    (h : Listened { s with router := s.router.unregister clientId } sourceId) :
    s.Listened sourceId := by
  have hr' := hr.unregister clientId
  have old : ∀ category,
      ((s.router.unregister clientId).getConnectionsByCategory category).Nonempty →
        (s.router.getConnectionsByCategory category).Nonempty := by
    rintro category ⟨other, hmem⟩
    obtain ⟨conn, hconn, hc⟩ := hr'.mem_getConnectionsByCategory.1 hmem
    refine ⟨other, hr.mem_getConnectionsByCategory.2 ⟨conn, ?_, hc⟩⟩
    unfold SSEEventRouter.unregister at hconn
    split at hconn
    · simp only [Function.update_apply] at hconn
      split at hconn
      · cases hconn
      · exact hconn
    · exact hconn
  exact h.imp (old _) (old _)

/-- An awake step keeps the scheduler sound. -/
lemma Sound.step {lib : Apscheduler} {s s' : Embedded} {a : Act} (awake : s.Awake a)
    (h : s.Sound) (hst : Step lib s a s') : s'.Sound := by
  cases hst with
  | @register clientId categories tenantId fresh =>
    refine ⟨h.consistent.register fresh categories tenantId, ?_⟩
    intro sourceId job hjob hl
    -- registering wakes no job, so a job paused now was paused before
    cases hpaused : job.paused with
    | false => rfl
    | true =>
      obtain ⟨hc, hall⟩ := awake sourceId job hjob hpaused
      obtain hl | hl | hl := Listened.of_register h.consistent fresh hl
      · rw [← hpaused]
        exact h.awake sourceId job hjob hl
      · exact absurd hl hc
      · exact absurd hl hall
  | @unregister clientId =>
    refine ⟨h.consistent.unregister clientId, ?_⟩
    intro sourceId job hjob hl
    exact h.awake sourceId job hjob (Listened.of_unregister h.consistent hl)
  | @complete sourceId healthStatus n count =>
    refine ⟨h.consistent, ?_⟩
    intro other job hjob hafter
    have hl : s.Listened other := by simpa [Listened] using hafter
    clear hafter
    -- kept, woken or paused; only a pause can break the invariant
    obtain hsame | ⟨interval, hwoken⟩ | ⟨hzero, old, hold, hpaused⟩ :=
      adaptiveReschedule_cases lib s.manager sourceId healthStatus n
        (s.router.getConnectionsByCategory (s.manager.categoryForSource sourceId)).card
    · rw [hsame] at hjob
      exact h.awake other job hjob hl
    · rw [hwoken] at hjob
      by_cases hid : other = sourceId
      · subst hid
        rw [Function.update_self] at hjob
        cases hjob
        rfl
      · rw [Function.update_of_ne (by rwa [ne_eq, collectJobId_inj])] at hjob
        exact h.awake other job hjob hl
    · rw [hpaused] at hjob
      by_cases hid : other = sourceId
      · -- a listened source has a subscriber of its own, so neither number was zero
        subst hid
        have hdirect := hl.elim id (awake (by rw [hold]; rfl))
        obtain hzero | hzero := hzero
        · exact absurd hzero (count.ne_zero hdirect)
        · rw [Finset.card_eq_zero] at hzero
          exact absurd hzero hdirect.ne_empty
      · rw [Function.update_of_ne (by rwa [ne_eq, collectJobId_inj])] at hjob
        exact h.awake other job hjob hl

/-- The scheduler starts sound. -/
lemma Sound.start (lib : Apscheduler) (tenantSettingsMap : String → Option Dict)
    (sources : List (Source × String)) : (start lib tenantSettingsMap sources).Sound := by
  refine ⟨SSEEventRouter.Consistent.init, ?_⟩
  intro sourceId job _ hl
  have nobody : ∀ category, ¬ (SSEEventRouter.init.getConnectionsByCategory category).Nonempty := by
    rintro category ⟨clientId, hmem⟩
    obtain ⟨conn, hconn, _⟩ :=
      SSEEventRouter.Consistent.init.mem_getConnectionsByCategory.1 hmem
    cases hconn
  exact (hl.elim (nobody _) (nobody _)).elim

/-- In every state a run reaches whose steps all meet the condition, no job is paused while somebody
listens. -/
theorem listened_of_awake {lib : Apscheduler} {tenantSettingsMap : String → Option Dict}
    {sources : List (Source × String)} {acts : List Act} {s : Embedded}
    (run : Guarded (Step lib) Awake (start lib tenantSettingsMap sources) acts s) :
    s.RunsWhileListened := by
  have sound : s.Sound := run.invariant (fun awake h hst => h.step awake hst) (Sound.start _ _ _)
  exact sound.awake

/-- A job that is added runs. -/
lemma paused_addJob {lib : Apscheduler} {m : AsyncSchedulerManager}
    (h : ∀ {jobId job}, m.jobs jobId = some job → job.paused = false) (jobId : String)
    (intervalSeconds : Int) {jobId' : String} {job : Job}
    (hjob : (m.addJob lib jobId intervalSeconds).jobs jobId' = some job) : job.paused = false := by
  have updated : ∀ interval, Function.update m.jobs jobId (some ⟨interval, false⟩) jobId' = some job →
      job.paused = false := by
    intro interval hjob
    rw [Function.update_apply] at hjob
    split at hjob
    · cases hjob
      rfl
    · exact h hjob
  unfold addJob at hjob
  split at hjob
  · obtain hsame | ⟨interval, hwoken⟩ := rescheduleJob_cases lib m jobId intervalSeconds
    · rw [hsame] at hjob
      exact h hjob
    · rw [hwoken] at hjob
      exact updated interval hjob
  · cases htrigger : lib.intervalTrigger intervalSeconds with
    | none =>
      rw [htrigger] at hjob
      exact h hjob
    | some interval =>
      rw [htrigger] at hjob
      exact updated interval hjob

/-- No job is paused when the startup is over. -/
lemma paused_start (lib : Apscheduler) (tenantSettingsMap : String → Option Dict)
    (sources : List (Source × String)) {jobId : String} {job : Job}
    (hjob : (start lib tenantSettingsMap sources).manager.jobs jobId = some job) :
    job.paused = false := by
  have keeps : ∀ (sources : List (Source × String)) (m : AsyncSchedulerManager),
      (∀ {jobId job}, m.jobs jobId = some job → job.paused = false) →
        ∀ {jobId job}, (scheduleAllActiveSources lib tenantSettingsMap m sources).jobs jobId =
          some job → job.paused = false := by
    intro sources
    induction sources with
    | nil => exact fun m h => h
    | cons row sources ih =>
      obtain ⟨source, categorySlug⟩ := row
      intro m h jobId job hjob
      have cached : ∀ {jobId job}, (m.cacheCategory source.id categorySlug).jobs jobId = some job →
          job.paused = false := by
        intro jobId job hjob
        apply @h jobId
        unfold cacheCategory at hjob
        split at hjob <;> exact hjob
      unfold scheduleAllActiveSources at hjob
      split at hjob
      · simp only at hjob
        split at hjob
        · exact ih _ (paused_addJob cached _ _) hjob
        · exact paused_addJob cached _ _ hjob
      · exact ih m h hjob
  exact keeps sources _ (fun hnone => by cases hnone) hjob

/-! ## Sample runs -/

def sampleStart : Embedded :=
  start .sample (fun _ => none) [(Source.sample, "tech")]

def viewer : TenantId := ⟨"7d20b5c4-11fe-4c0b-8f36-2c9a4e5d7b80", by decide⟩

/-- Somebody follows "tech" while the source is collected and found degraded. -/
theorem followed_runsWhileListened :
    ∃ s, Guarded (Step .sample) Awake sampleStart
        [.register "c" ["tech"] viewer, .complete "7" "degraded", .unregister "c"] s ∧
      s.manager.jobs "collect_7" = some ⟨600, false⟩ ∧ s.RunsWhileListened := by
  let s₁ : Embedded := { sampleStart with
    router := SSEEventRouter.init.register "c" ["tech"] viewer }
  have count : s₁.router.IsConnectionsCount 1 := by
    refine ⟨{"c"}, rfl, ?_⟩
    intro clientId
    by_cases h : clientId = "c" <;>
      simp [s₁, SSEEventRouter.register, SSEEventRouter.init, SSEConnection.new, h]
  have first : sampleStart.Awake (.register "c" ["tech"] viewer) := by
    intro sourceId job hjob hpaused
    rw [paused_start _ _ _ hjob] at hpaused
    cases hpaused
  have second : s₁.Awake (.complete "7" "degraded") := by
    intro _ _
    exact ⟨"c", by decide⟩
  have run : Guarded (Step .sample) Awake sampleStart
      [.register "c" ["tech"] viewer, .complete "7" "degraded", .unregister "c"] _ :=
    .cons first (.register rfl) (.cons second (.complete count) (.cons trivial .unregister .nil))
  exact ⟨_, run, rfl, listened_of_awake run⟩

/-- The source is collected while nobody is connected, and its job is paused; then somebody comes to
follow "tech", and it stays paused. -/
theorem latecomer_not_runsWhileListened :
    ¬ ∀ (lib : Apscheduler) (tenantSettingsMap : String → Option Dict)
      (sources : List (Source × String)) (acts : List Act) (s : Embedded),
      Steps (Step lib) (start lib tenantSettingsMap sources) acts s → s.RunsWhileListened := by
  intro h
  have count : sampleStart.router.IsConnectionsCount 0 := by
    refine ⟨∅, rfl, ?_⟩
    intro clientId
    simp [sampleStart, start, SSEEventRouter.init]
  have hold := h .sample (fun _ => none) [(Source.sample, "tech")]
    [.complete "7" "healthy", .register "c" ["tech"] viewer] _
    (.cons (.complete count) (.cons (.register rfl) .nil))
  have hpaused := hold "7" ⟨300, true⟩ rfl (.inl ⟨"c", by decide⟩)
  cases hpaused

end Embedded

end InstantBoard.AsyncSchedulerManager
