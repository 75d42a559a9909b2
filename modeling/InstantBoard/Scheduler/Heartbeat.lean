import InstantBoard.Lib.Keyspace
import InstantBoard.Lib.Transition

/-!
# The worker's heartbeat

Where the scheduler runs in the worker container, the API process knows of it by one key: the worker
writes a snapshot of itself every 15 seconds, with a time to live of 45 seconds, and deletes the key
when it shuts down; the dashboard calls the worker healthy while the snapshot it reads is younger than
45 seconds. Workers may crash, be stopped or start at any moment, a write may fail whether or not it has
reached Redis, and a command of a worker that is gone may still be executed.

`schedulerEntry_healthy_iff`: the verdict is exactly whether the last command on the key has set a
snapshot younger than 45 seconds, so the key's expiry never decides it. `down_after_last_beat`: 45
seconds after the last worker has stopped the verdict is down, whatever is still under way.
`healthy_while_beating`: a worker that misses no more than a bounded number of writes in a row is never
reported down.
-/

namespace InstantBoard.Heartbeat

open Keyspace Transition

/-! ## The worker -/

/-- A second, in the microseconds of `datetime`. -/
def second : Nat := 1000000

def HEARTBEAT_INTERVAL_SECONDS : Nat := 15

def WORKER_HEARTBEAT_TTL : Nat := 45

def workerHeartbeatKey : String := "scheduler:worker:heartbeat"

/-- What `get_jobs_status` tells of a job that the heartbeat counts. -/
structure JobStatus where
  jobId : String
  pending : Bool

/-- What a heartbeat reports of its process: the jobs, the scheduler, and the listener's state once
there is one. -/
structure Observed where
  jobs : List JobStatus
  schedulerRunning : Bool
  subscribed : Option Bool

structure Payload where
  timestamp : Nat
  pid : Nat
  schedulerRunning : Bool
  jobsTotal : Nat
  jobsRunning : Nat
  jobsPaused : Nat
  eventListenerSubscribed : Bool

def buildHeartbeatPayload (now pid : Nat) (o : Observed) : Payload where
  timestamp := now
  pid
  schedulerRunning := o.schedulerRunning
  jobsTotal := o.jobs.length
  jobsRunning := (o.jobs.filter (!·.pending)).length
  jobsPaused := (o.jobs.filter (·.pending)).length
  eventListenerSubscribed := o.subscribed.getD false

/-- Where the process stands between two writes. -/
inductive Phase where
  /-- `asyncio.sleep(HEARTBEAT_INTERVAL_SECONDS)` -/
  | sleeping (since : Nat)
  /-- In `write_heartbeat`, with the payload built. -/
  | writing (payload : Payload)
  /-- In `clear_heartbeat`, the loop being cancelled. -/
  | clearing
  | exited

/-- A worker process, with the number of writes that failed since the last that did not. -/
structure Process where
  observed : Observed
  phase : Phase
  missed : Nat

/-! ## Both processes and Redis -/

structure World where
  clock : Nat
  redis : Space String Payload
  workers : Nat → Option Process
  /-- SET commands of workers that do not wait for them any longer. -/
  inFlight : List Payload
  /-- The snapshot that the last command on the key has set, if it was not a DEL. -/
  lastSet : Option Payload
  /-- The snapshots taken so far. -/
  built : List Payload

namespace World

/-- Redis without the key, and no worker yet. -/
def start (clock : Nat) : World where
  clock
  redis := fun _ => none
  workers := fun _ => none
  inFlight := []
  lastSet := none
  built := []

/-- `SET key payload EX 45`; Redis counts milliseconds. -/
def set (w : World) (p : Payload) : World :=
  { w with
    redis := Keyspace.set w.redis (w.clock / 1000) workerHeartbeatKey p WORKER_HEARTBEAT_TTL
    lastSet := some p }

/-- `DEL key` -/
def delete (w : World) : World :=
  { w with
    redis := Keyspace.delete w.redis workerHeartbeatKey
    lastSet := none }

def setWorker (w : World) (pid : Nat) (process : Process) : World :=
  { w with workers := fun q => if q = pid then some process else w.workers q }

/-- The loop takes a snapshot and goes on to write it. -/
def beat (w : World) (pid : Nat) (process : Process) : World :=
  let p := buildHeartbeatPayload w.clock pid process.observed
  { w.setWorker pid { process with phase := .writing p } with built := p :: w.built }

/-- The SET of a write that is abandoned. -/
def abandon (w : World) : Phase → World
  | .writing p => { w with inFlight := p :: w.inFlight }
  | _ => w

end World

inductive Label where
  | tick (d : Nat)
  | start (pid : Nat) (o : Observed)
  | observe (pid : Nat) (o : Observed)
  | wake (pid : Nat)
  | write (pid : Nat)
  | writeFails (pid : Nat) (applied : Bool)
  | stop (pid : Nat)
  | clear (pid : Nat)
  | clearFails (pid : Nat)
  | crash (pid : Nat)
  | late (p : Payload)

inductive Step : World → Label → World → Prop where
  | tick {w d} : Step w (.tick d) { w with clock := w.clock + d }
  /-- `heartbeat_loop` begins with a write. -/
  | start {w pid o} : w.workers pid = none →
      Step w (.start pid o) (w.beat pid ⟨o, .sleeping w.clock, 0⟩)
  | observe {w pid process o} : w.workers pid = some process →
      Step w (.observe pid o) (w.setWorker pid { process with observed := o })
  | wake {w pid process since} : w.workers pid = some process → process.phase = .sleeping since →
      since + HEARTBEAT_INTERVAL_SECONDS * second ≤ w.clock →
      Step w (.wake pid) (w.beat pid process)
  | write {w pid process p} : w.workers pid = some process → process.phase = .writing p →
      Step w (.write pid)
        ((w.set p).setWorker pid { process with phase := .sleeping w.clock, missed := 0 })
  /-- The exception is logged and the loop goes on. -/
  | writeFails {w pid process p applied} : w.workers pid = some process →
      process.phase = .writing p →
      Step w (.writeFails pid applied)
        ((if applied = true then w.set p else w).setWorker pid
          { process with phase := .sleeping w.clock, missed := process.missed + 1 })
  /-- The shutdown signal cancels the loop, in its sleep or in a write. -/
  | stop {w pid process} : w.workers pid = some process →
      (∃ since, process.phase = .sleeping since) ∨ (∃ p, process.phase = .writing p) →
      Step w (.stop pid) ((w.abandon process.phase).setWorker pid { process with phase := .clearing })
  | clear {w pid process} : w.workers pid = some process → process.phase = .clearing →
      Step w (.clear pid) (w.delete.setWorker pid { process with phase := .exited })
  | clearFails {w pid process} : w.workers pid = some process → process.phase = .clearing →
      Step w (.clearFails pid) (w.setWorker pid { process with phase := .exited })
  | crash {w pid process} : w.workers pid = some process →
      Step w (.crash pid) ((w.abandon process.phase).setWorker pid { process with phase := .exited })
  | late {w p l₁ l₂} : w.inFlight = l₁ ++ p :: l₂ →
      Step w (.late p) ({ w with inFlight := l₁ ++ l₂ }.set p)

/-! ## The dashboard -/

inductive ServiceStatus where
  | healthy
  | degraded
  | down
deriving DecidableEq

/-- `details["error"]` -/
inductive HeartbeatError where
  | unreadable (message : String)
  | stale (age : Int)
  | missing

structure HeartbeatDetails where
  lastHeartbeat : Option Nat
  lastHeartbeatAge : Option Int
  isRunning : Bool
  eventListenerSubscribed : Option Bool
  workerPid : Option Nat
  totalJobs : Option Nat
  runningJobs : Option Nat
  pausedJobs : Option Nat
  error : Option HeartbeatError

structure SchedulerEntry where
  status : ServiceStatus
  details : HeartbeatDetails

/-- `_read_worker_heartbeat`: what the key holds, or why it cannot be read. -/
def readWorkerHeartbeat (redis : Except String (Space String Payload)) (now : Nat) :
    Option Payload × Option String :=
  match redis with
  | .error message => (none, some message)
  | .ok s => ((find s (now / 1000) workerHeartbeatKey).map (·.value), none)

/-- `worker_heartbeat_age_seconds`, in microseconds. -/
def workerHeartbeatAge (now : Nat) (payload : Option Payload) : Option Int :=
  payload.map fun p => (now : Int) - p.timestamp

/-- `worker_heartbeat_is_fresh` -/
def workerHeartbeatIsFresh (now : Nat) (payload : Option Payload) : Bool :=
  (workerHeartbeatAge now payload).any fun age =>
    decide (age < ((WORKER_HEARTBEAT_TTL * second : Nat) : Int))

/-- The details of a fresh heartbeat. -/
def freshDetails (now : Nat) (p : Payload) : HeartbeatDetails where
  lastHeartbeat := some p.timestamp
  lastHeartbeatAge := workerHeartbeatAge now (some p)
  isRunning := p.schedulerRunning
  eventListenerSubscribed := some p.eventListenerSubscribed
  workerPid := some p.pid
  totalJobs := some p.jobsTotal
  runningJobs := some p.jobsRunning
  pausedJobs := some p.jobsPaused
  error := none

/-- The entry of a worker that is not heard of. -/
def downEntry (lastHeartbeat : Option Nat) (error : HeartbeatError) : SchedulerEntry where
  status := .down
  details :=
    { lastHeartbeat, lastHeartbeatAge := none, isRunning := false, eventListenerSubscribed := none,
      workerPid := none, totalJobs := none, runningJobs := none, pausedJobs := none,
      error := some error }

/-- The entry of the scheduler in `get_services_health`, where the scheduler is not embedded. -/
def schedulerEntry (redis : Except String (Space String Payload)) (now : Nat) : SchedulerEntry :=
  match readWorkerHeartbeat redis now with
  | (some p, readError) =>
    if workerHeartbeatIsFresh now (some p) = true then
      { status := .healthy, details := freshDetails now p }
    else match readError with
      | some message => downEntry none (.unreadable message)
      | none =>
        downEntry (some p.timestamp) (.stale ((workerHeartbeatAge now (some p)).getD 0))
  -- Redis itself cannot be read; the worker is not to blame
  | (none, some message) => downEntry none (.unreadable message)
  | (none, none) => downEntry none .missing

/-- The counts of `get_scheduler_status`, where the scheduler is not embedded. -/
def schedulerCounts (redis : Except String (Space String Payload)) (now : Nat) :
    Nat × Nat × Nat × Option Nat :=
  let payload := (readWorkerHeartbeat redis now).1
  match payload with
  | some p =>
    if workerHeartbeatIsFresh now payload = true then
      (p.jobsTotal, p.jobsRunning, p.jobsPaused, some p.timestamp)
    else (0, 0, 0, some p.timestamp)
  | none => (0, 0, 0, none)

/-! ## What the key holds -/

/-- The key against the commands, and every snapshot under way against those that were taken. -/
structure Sound (w : World) : Prop where
  absent : w.lastSet = none → w.redis workerHeartbeatKey = none
  present : ∀ p, w.lastSet = some p → p ∈ w.built ∧ ∃ t, p.timestamp ≤ t ∧ t ≤ w.clock ∧
    w.redis workerHeartbeatKey = some ⟨p, some (t / 1000 + 1000 * WORKER_HEARTBEAT_TTL)⟩
  built : ∀ p ∈ w.built, p.timestamp ≤ w.clock ∧ p.jobsTotal = p.jobsRunning + p.jobsPaused
  writing : ∀ pid process p, w.workers pid = some process → process.phase = .writing p →
    p ∈ w.built
  inFlight : ∀ p ∈ w.inFlight, p ∈ w.built

/-- The jobs are the running and the paused ones. -/
lemma buildHeartbeatPayload_jobs (now pid : Nat) (o : Observed) :
    (buildHeartbeatPayload now pid o).jobsTotal =
      (buildHeartbeatPayload now pid o).jobsRunning + (buildHeartbeatPayload now pid o).jobsPaused := by
  show o.jobs.length = (o.jobs.filter (!·.pending)).length + (o.jobs.filter (·.pending)).length
  rw [Nat.add_comm, ← List.countP_eq_length_filter, ← List.countP_eq_length_filter,
    List.length_eq_countP_add_countP fun j : JobStatus => j.pending]
  simp

namespace Sound

variable {w : World}

/-- A process that writes what was built keeps the world sound. -/
lemma setWorker (h : Sound w) {pid : Nat} {process : Process}
    (hp : ∀ p, process.phase = .writing p → p ∈ w.built) : Sound (w.setWorker pid process) where
  absent := h.absent
  present := h.present
  built := h.built
  writing := by
    intro q r p hq hphase
    change (if q = pid then some process else w.workers q) = some r at hq
    split at hq
    · cases hq
      exact hp p hphase
    · exact h.writing q r p hq hphase
  inFlight := h.inFlight

/-- Writing what was built keeps the world sound. -/
lemma set (h : Sound w) {p : Payload} (hp : p ∈ w.built) : Sound (w.set p) where
  absent := by
    intro hnone
    cases hnone
  present := by
    intro q hq
    cases hq
    refine ⟨hp, w.clock, (h.built p hp).1, Nat.le_refl _, ?_⟩
    show Keyspace.set w.redis (w.clock / 1000) workerHeartbeatKey p WORKER_HEARTBEAT_TTL
      workerHeartbeatKey = _
    exact set_same
  built := h.built
  writing := h.writing
  inFlight := h.inFlight

/-- Deleting keeps the world sound. -/
lemma delete (h : Sound w) : Sound w.delete where
  absent := by
    intro _
    show Keyspace.delete w.redis workerHeartbeatKey workerHeartbeatKey = none
    exact delete_same
  present := by
    intro p hp
    cases hp
  built := h.built
  writing := h.writing
  inFlight := h.inFlight

/-- Giving up a write keeps the world sound. -/
lemma abandon (h : Sound w) {pid : Nat} {process : Process} (hw : w.workers pid = some process) :
    Sound (w.abandon process.phase) := by
  cases hphase : process.phase with
  | writing p =>
    refine ⟨h.absent, h.present, h.built, h.writing, ?_⟩
    intro q hq
    rcases List.mem_cons.1 hq with rfl | hq
    · exact h.writing pid process q hw hphase
    · exact h.inFlight q hq
  | sleeping since => exact h
  | clearing => exact h
  | exited => exact h

/-- A beat keeps the world sound. -/
lemma beat (h : Sound w) (pid : Nat) (process : Process) : Sound (w.beat pid process) := by
  have hbuilt : Sound { w with built := buildHeartbeatPayload w.clock pid process.observed :: w.built } := by
    refine ⟨h.absent, ?_, ?_, ?_, ?_⟩
    · intro p hp
      exact ⟨List.mem_cons_of_mem _ (h.present p hp).1, (h.present p hp).2⟩
    · intro p hp
      rcases List.mem_cons.1 hp with rfl | hp
      · exact ⟨Nat.le_refl _, buildHeartbeatPayload_jobs _ _ _⟩
      · exact h.built p hp
    · exact fun q r p hq hphase => List.mem_cons_of_mem _ (h.writing q r p hq hphase)
    · exact fun p hp => List.mem_cons_of_mem _ (h.inFlight p hp)
  exact hbuilt.setWorker (fun p hp => by cases hp; exact List.mem_cons_self)

/-- A step keeps the world sound. -/
lemma step {a : Label} {w' : World} (h : Sound w) (hst : Step w a w') : Sound w' := by
  cases hst with
  | tick =>
    refine ⟨h.absent, ?_, ?_, h.writing, h.inFlight⟩
    · intro p hp
      obtain ⟨hmem, t, hpt, ht, hkey⟩ := h.present p hp
      exact ⟨hmem, t, hpt, Nat.le_add_right_of_le ht, hkey⟩
    · intro p hp
      exact ⟨Nat.le_add_right_of_le (h.built p hp).1, (h.built p hp).2⟩
  | start _ => exact h.beat _ _
  | observe hw => exact h.setWorker (fun p hp => h.writing _ _ p hw hp)
  | wake _ _ _ => exact h.beat _ _
  | write hw hphase => exact (h.set (h.writing _ _ _ hw hphase)).setWorker (fun p hp => by cases hp)
  | @writeFails _ _ p applied hw hphase =>
    cases applied with
    | true => exact (h.set (h.writing _ _ _ hw hphase)).setWorker (fun p hp => by cases hp)
    | false => exact h.setWorker (fun p hp => by cases hp)
  | stop hw _ => exact (h.abandon hw).setWorker (fun p hp => by cases hp)
  | clear _ _ => exact h.delete.setWorker (fun p hp => by cases hp)
  | clearFails _ _ => exact h.setWorker (fun p hp => by cases hp)
  | crash hw => exact (h.abandon hw).setWorker (fun p hp => by cases hp)
  | @late p l₁ l₂ hflight =>
    have hp : p ∈ w.inFlight := by
      rw [hflight]
      exact List.mem_append_right _ List.mem_cons_self
    have hrest : Sound { w with inFlight := l₁ ++ l₂ } := by
      refine ⟨h.absent, h.present, h.built, h.writing, ?_⟩
      intro q hq
      apply h.inFlight
      rw [hflight]
      rcases List.mem_append.1 hq with hq | hq
      · exact List.mem_append_left _ hq
      · exact List.mem_append_right _ (List.mem_cons_of_mem _ hq)
    exact hrest.set (h.inFlight p hp)

/-- The world starts sound. -/
lemma start (clock : Nat) : Sound (World.start clock) where
  absent _ := rfl
  present := by
    intro p hp
    cases hp
  built := fun p hp => absurd hp List.not_mem_nil
  writing := by
    intro pid process p hw
    cases hw
  inFlight := fun p hp => absurd hp List.not_mem_nil

/-- Every reachable world is sound. -/
lemma of_reachable {clock : Nat} (h : Reachable Step (World.start clock) w) : Sound w :=
  h.invariant (fun hs hst => hs.step hst) (start clock)

end Sound

/-! ## A sample worker -/

namespace Sample

def observed : Observed where
  jobs := [⟨"collect_1", false⟩, ⟨"collect_2", true⟩]
  schedulerRunning := true
  subscribed := some true

/-- The snapshot of the process 7 at a moment. -/
def snapshot (now : Nat) : Payload :=
  buildHeartbeatPayload now 7 observed

/-- The process in its first write. -/
def begun : World :=
  (World.start 0).beat 7 ⟨observed, .sleeping 0, 0⟩

/-- It has written its first snapshot. -/
def written : World :=
  (begun.set (snapshot 0)).setWorker 7 ⟨observed, .sleeping 0, 0⟩

/-- The sample begins reachably. -/
lemma begun_reachable : Reachable Step (World.start 0) begun :=
  Reachable.refl.step (.start rfl)

/-- The sample writes its beat. -/
lemma written_of_begun : Step begun (.write 7) written :=
  @Step.write begun 7 ⟨observed, .writing (snapshot 0), 0⟩ (snapshot 0) rfl rfl

/-- The sample with its beat is reachable. -/
lemma written_reachable : Reachable Step (World.start 0) written :=
  begun_reachable.step written_of_begun

end Sample

/-! ## The verdict -/

/-- A heartbeat is fresh within its time. -/
lemma isFresh_iff {now : Nat} {p : Payload} :
    workerHeartbeatIsFresh now (some p) = true ↔
      now < p.timestamp + WORKER_HEARTBEAT_TTL * second := by
  simp only [workerHeartbeatIsFresh, workerHeartbeatAge, Option.map_some, Option.any_some,
    decide_eq_true_eq]
  omega

/-- The key is served as long as its snapshot is fresh. -/
lemma Sound.read_of_fresh {w : World} (h : Sound w) {p : Payload} (hp : w.lastSet = some p)
    (hfresh : w.clock < p.timestamp + WORKER_HEARTBEAT_TTL * second) :
    readWorkerHeartbeat (.ok w.redis) w.clock = (some p, none) := by
  obtain ⟨-, t, hpt, -, hkey⟩ := h.present p hp
  have hlive : (Entry.mk p (some (t / 1000 + 1000 * WORKER_HEARTBEAT_TTL))).live (w.clock / 1000) =
      true := by
    apply live_some.2
    unfold WORKER_HEARTBEAT_TTL second at *
    omega
  show ((find w.redis (w.clock / 1000) workerHeartbeatKey).map (·.value), none) = (some p, none)
  rw [find_eq_some.2 ⟨hkey, hlive⟩]
  rfl

/-- What is read is what the last command has set. -/
lemma Sound.lastSet_of_read {w : World} (h : Sound w) {p : Payload} {e : Option String}
    (hread : readWorkerHeartbeat (.ok w.redis) w.clock = (some p, e)) : w.lastSet = some p := by
  obtain ⟨hp, -⟩ := Prod.mk.inj hread
  obtain ⟨entry, hentry, rfl⟩ := Option.map_eq_some_iff.1 hp
  have hkey := (find_eq_some.1 hentry).1
  cases hlast : w.lastSet with
  | none =>
    rw [h.absent hlast] at hkey
    cases hkey
  | some q =>
    obtain ⟨-, t, -, -, hkey'⟩ := h.present q hlast
    rw [hkey'] at hkey
    cases hkey
    rfl

/-- The dashboard calls the worker healthy exactly while the last command on the key has set a
snapshot that was taken less than 45 seconds ago, and then reports that snapshot. -/
theorem schedulerEntry_healthy_iff {clock : Nat} {w : World}
    (h : Reachable Step (World.start clock) w) :
    (schedulerEntry (.ok w.redis) w.clock).status = .healthy ↔
      ∃ p ∈ w.built, w.lastSet = some p ∧
        w.clock < p.timestamp + WORKER_HEARTBEAT_TTL * second ∧
        (schedulerEntry (.ok w.redis) w.clock).details = freshDetails w.clock p ∧
        p.jobsTotal = p.jobsRunning + p.jobsPaused := by
  have hs := Sound.of_reachable h
  constructor
  · intro hstatus
    unfold schedulerEntry at hstatus ⊢
    rcases hread : readWorkerHeartbeat (.ok w.redis) w.clock with ⟨_ | p, e⟩
    · rw [hread] at hstatus
      cases e <;> cases hstatus
    · rw [hread] at hstatus
      by_cases hfresh : workerHeartbeatIsFresh w.clock (some p) = true
      · have hlast := hs.lastSet_of_read hread
        obtain ⟨hp, -⟩ := hs.present p hlast
        refine ⟨p, hp, hlast, isFresh_iff.1 hfresh, ?_, (hs.built p hp).2⟩
        simp [hfresh]
      · cases e <;> simp [hfresh, downEntry] at hstatus
  · rintro ⟨p, -, hlast, hfresh, -, -⟩
    unfold schedulerEntry
    rw [hs.read_of_fresh hlast hfresh]
    simp [isFresh_iff.2 hfresh]

/-- The sample with its beat is healthy. -/
theorem schedulerEntry_healthy_once_written :
    (schedulerEntry (.ok Sample.written.redis) Sample.written.clock).status = .healthy :=
  (schedulerEntry_healthy_iff Sample.written_reachable).2
    ⟨Sample.snapshot 0, List.mem_cons_self, rfl, by decide, rfl, rfl⟩

/-! ## After the last beat -/

/-- No loop is running. -/
def Quiet (w : World) : Prop :=
  ∀ pid process, w.workers pid = some process →
    process.phase = .clearing ∨ process.phase = .exited

def Label.isStart : Label → Bool
  | .start _ _ => true
  | _ => false

/-- A process that is on its way out leaves the world quiet. -/
lemma Quiet.setWorker {w : World} (h : Quiet w) {pid : Nat} {process : Process}
    (hp : process.phase = .clearing ∨ process.phase = .exited) : Quiet (w.setWorker pid process) := by
  intro q r hq
  change (if q = pid then some process else w.workers q) = some r at hq
  split at hq
  · cases hq
    exact hp
  · exact h q r hq

/-- In a quiet world no process beats. -/
lemma Quiet.not_looping {w : World} (h : Quiet w) {pid : Nat} {process : Process}
    (hw : w.workers pid = some process) :
    (∀ since, process.phase ≠ .sleeping since) ∧ ∀ p, process.phase ≠ .writing p := by
  rcases h pid process hw with hp | hp
  · rw [hp]
    exact ⟨nofun, nofun⟩
  · rw [hp]
    exact ⟨nofun, nofun⟩

/-- Where no loop runs, none begins but that of a new worker, and no snapshot is taken. -/
lemma Quiet.step {w w' : World} {a : Label} (h : Quiet w) (ha : a.isStart = false)
    (hst : Step w a w') : Quiet w' ∧ w'.built = w.built := by
  cases hst with
  | tick => exact ⟨h, rfl⟩
  | start _ => cases ha
  | observe hw =>
    have hp := h _ _ hw
    exact ⟨h.setWorker hp, rfl⟩
  | wake hw hphase _ => exact absurd hphase ((h.not_looping hw).1 _)
  | write hw hphase => exact absurd hphase ((h.not_looping hw).2 _)
  | writeFails hw hphase => exact absurd hphase ((h.not_looping hw).2 _)
  | @stop _ process hw _ =>
    have hquiet : Quiet (w.abandon process.phase) ∧ (w.abandon process.phase).built = w.built := by
      cases hphase : process.phase <;> exact ⟨h, rfl⟩
    exact ⟨hquiet.1.setWorker (.inl rfl), hquiet.2⟩
  | clear _ _ => exact ⟨Quiet.setWorker (w := w.delete) h (.inr rfl), rfl⟩
  | clearFails _ _ => exact ⟨h.setWorker (.inr rfl), rfl⟩
  | @crash _ process hw =>
    have hquiet : Quiet (w.abandon process.phase) ∧ (w.abandon process.phase).built = w.built := by
      cases hphase : process.phase <;> exact ⟨h, rfl⟩
    exact ⟨hquiet.1.setWorker (.inr rfl), hquiet.2⟩
  | late _ => exact ⟨h, rfl⟩

/-- Where no loop runs, no snapshot is taken before the next worker starts. -/
lemma Quiet.steps {w w' : World} {ls : List Label} (h : Quiet w)
    (hls : ∀ a ∈ ls, a.isStart = false) (run : Steps Step w ls w') : w'.built = w.built := by
  have hend : Quiet w' ∧ w'.built = w.built := by
    refine run.invariant_of (I := fun s => Quiet s ∧ s.built = w.built) ?_ hls ⟨h, rfl⟩
    intro s a t ha hs hst
    obtain ⟨hquiet, hbuilt⟩ := hs.1.step ha hst
    exact ⟨hquiet, hbuilt.trans hs.2⟩
  exact hend.2

/-- 45 seconds after the last loop has ended the worker is reported down, without jobs, whatever
commands are still under way, until a new worker starts. -/
theorem down_after_last_beat {clock : Nat} {w w' : World} {ls : List Label}
    (h : Reachable Step (World.start clock) w) (hquiet : Quiet w) (run : Steps Step w ls w')
    (hls : ∀ a ∈ ls, a.isStart = false)
    (hlate : w.clock + WORKER_HEARTBEAT_TTL * second ≤ w'.clock) :
    (schedulerEntry (.ok w'.redis) w'.clock).status = .down ∧
      ∃ lastHeartbeat, schedulerCounts (.ok w'.redis) w'.clock = (0, 0, 0, lastHeartbeat) := by
  have hs := Sound.of_reachable (h.steps run)
  have hstale : ∀ p, w'.lastSet = some p → workerHeartbeatIsFresh w'.clock (some p) ≠ true := by
    intro p hp hfresh
    have hmem := (hs.present p hp).1
    rw [hquiet.steps hls run] at hmem
    have := ((Sound.of_reachable h).built p hmem).1
    have := isFresh_iff.1 hfresh
    omega
  unfold schedulerEntry schedulerCounts
  rcases hread : readWorkerHeartbeat (.ok w'.redis) w'.clock with ⟨_ | p, e⟩
  · cases e with
    | none => exact ⟨rfl, _, rfl⟩
    | some message => exact ⟨rfl, _, rfl⟩
  · have hp := hstale p (hs.lastSet_of_read hread)
    refine ⟨?_, some p.timestamp, ?_⟩
    · cases e <;> simp [hp, downEntry]
    · simp [hp]

/-- A worker that crashes right after its first write. -/
theorem down_after_crash :
    (schedulerEntry (.ok Sample.written.redis) 45000000).status = .down := by
  have hcrash : Step Sample.written (.crash 7)
      (Sample.written.setWorker 7 ⟨Sample.observed, .exited, 0⟩) :=
    @Step.crash Sample.written 7 ⟨Sample.observed, .sleeping 0, 0⟩ rfl
  have run : Steps Step (Sample.written.setWorker 7 ⟨Sample.observed, .exited, 0⟩) [.tick 45000000]
      { Sample.written.setWorker 7 ⟨Sample.observed, .exited, 0⟩ with clock := 45000000 } :=
    .cons .tick .nil
  refine (down_after_last_beat (Sample.written_reachable.step hcrash) ?_ run (by decide) (by decide)).1
  intro pid process hw
  change (if pid = 7 then _ else _) = some process at hw
  split at hw
  · cases hw
    exact .inr rfl
  · rename_i hne
    simp [Sample.written, Sample.begun, World.setWorker, World.set, World.beat, World.start, hne] at hw

/-! ## While the worker beats -/

/-- The longest time between two snapshots, each step of the loop being late by less than `δ`. -/
def period (δ : Nat) : Nat :=
  HEARTBEAT_INTERVAL_SECONDS * second + 2 * δ

/-- The steps of a worker that is left alone: its sleeps and its writes end within `δ` of their time,
and no more than `k` writes in a row fail. -/
def Prompt (k δ : Nat) (w : World) : Label → Prop
  | .tick d => ∀ pid process, w.workers pid = some process →
      (∀ since, process.phase = .sleeping since →
        w.clock + d ≤ since + HEARTBEAT_INTERVAL_SECONDS * second + δ) ∧
      ∀ p, process.phase = .writing p → w.clock + d ≤ p.timestamp + δ
  | .writeFails pid _ => ∀ process, w.workers pid = some process → process.missed < k
  | .observe _ _ => True
  | .wake _ => True
  | .write _ => True
  | _ => False

/-- How far the loop has come since it took the snapshot `p`, that the key holds. -/
def OnTime (δ clock : Nat) (p : Payload) (process : Process) : Prop :=
  match process.phase with
  | .sleeping since =>
    since ≤ clock ∧ clock ≤ since + HEARTBEAT_INTERVAL_SECONDS * second + δ ∧
      since ≤ p.timestamp + process.missed * period δ + δ
  | .writing b =>
    b.timestamp ≤ clock ∧ clock ≤ b.timestamp + δ ∧
      b.timestamp ≤ p.timestamp + (process.missed + 1) * period δ
  | _ => False

/-- The worker is the only one, and on time. -/
structure Beating (k δ pid : Nat) (w : World) (process : Process) (p : Payload) : Prop where
  worker : w.workers pid = some process
  alone : ∀ q, q ≠ pid → w.workers q = none
  inFlight : w.inFlight = []
  lastSet : w.lastSet = some p
  missed : process.missed ≤ k
  onTime : OnTime δ w.clock p process

/-- A beat on time is not older than the periods missed. -/
lemma OnTime.age {k δ clock : Nat} {p : Payload} {process : Process} (h : OnTime δ clock p process)
    (hk : process.missed ≤ k) : clock ≤ p.timestamp + (k + 1) * period δ + δ := by
  have hle : (process.missed + 1) * period δ ≤ (k + 1) * period δ :=
    Nat.mul_le_mul_right _ (Nat.succ_le_succ hk)
  have hsucc : (process.missed + 1) * period δ = process.missed * period δ + period δ :=
    Nat.succ_mul _ _
  unfold OnTime at h
  split at h
  · unfold period at *
    omega
  · omega
  · exact absurd h id

/-- The processes after one of them is set. -/
lemma workers_setWorker {w : World} {pid q : Nat} {process : Process} :
    (w.setWorker pid process).workers q = if q = pid then some process else w.workers q :=
  rfl

/-- The beating process is the only one. -/
lemma Beating.eq_of_worker {k δ pid q : Nat} {w : World} {process r : Process} {p : Payload}
    (h : Beating k δ pid w process p) (hw : w.workers q = some r) : q = pid ∧ r = process := by
  by_cases hq : q = pid
  · subst hq
    rw [h.worker] at hw
    exact ⟨rfl, (Option.some.inj hw).symm⟩
  · rw [h.alone q hq] at hw
    cases hw

/-- The state after a step of the loop. -/
lemma Beating.setWorker {k δ pid : Nat} {w w' : World} {process r : Process} {p q : Payload}
    (h : Beating k δ pid w process p) (hworkers : w'.workers = w.workers)
    (hflight : w'.inFlight = w.inFlight) (hlast : w'.lastSet = some q) (hk : r.missed ≤ k)
    (htime : OnTime δ w'.clock q r) : Beating k δ pid (w'.setWorker pid r) r q where
  worker := by
    rw [workers_setWorker, if_pos rfl]
  alone := by
    intro i hi
    rw [workers_setWorker, if_neg hi, hworkers]
    exact h.alone i hi
  inFlight := hflight.trans h.inFlight
  lastSet := hlast
  missed := hk
  onTime := htime

/-- A beat on time goes on. -/
lemma Beating.beat {k δ pid : Nat} {w : World} {process : Process} {p : Payload}
    (h : Beating k δ pid w process p)
    (htime : OnTime δ w.clock p
      { process with phase := .writing (buildHeartbeatPayload w.clock pid process.observed) }) :
    Beating k δ pid (w.beat pid process)
      { process with phase := .writing (buildHeartbeatPayload w.clock pid process.observed) } p :=
  @Beating.setWorker k δ pid w
    { w with built := buildHeartbeatPayload w.clock pid process.observed :: w.built } process _ p p h
    rfl rfl h.lastSet h.missed htime

/-- A prompt step keeps the process beating. -/
lemma Beating.step {k δ pid : Nat} {w w' : World} {process : Process} {p : Payload} {a : Label}
    (h : Beating k δ pid w process p) (ha : Prompt k δ w a) (hst : Step w a w') :
    ∃ process p, Beating k δ pid w' process p := by
  have htime := h.onTime
  unfold OnTime at htime
  cases hst with
  | @tick d =>
    obtain ⟨hsleep, hwrite⟩ := ha pid process h.worker
    refine ⟨process, p, h.worker, h.alone, h.inFlight, h.lastSet, h.missed, ?_⟩
    show OnTime δ (w.clock + d) p process
    unfold OnTime
    split at htime
    · rename_i since hphase
      exact ⟨Nat.le_add_right_of_le htime.1, hsleep since hphase, htime.2.2⟩
    · rename_i b hphase
      exact ⟨Nat.le_add_right_of_le htime.1, hwrite b hphase, htime.2.2⟩
    · exact absurd htime id
  | start _ => exact absurd ha id
  | observe hw =>
    obtain ⟨rfl, rfl⟩ := h.eq_of_worker hw
    exact ⟨_, p, h.setWorker rfl rfl h.lastSet h.missed h.onTime⟩
  | @wake _ r since hw hphase _ =>
    obtain ⟨rfl, rfl⟩ := h.eq_of_worker hw
    rw [hphase] at htime
    refine ⟨_, p, h.beat ⟨Nat.le_refl _, Nat.le_add_right _ _, ?_⟩⟩
    have hsucc : (r.missed + 1) * period δ = r.missed * period δ + period δ := Nat.succ_mul _ _
    have hperiod : period δ = HEARTBEAT_INTERVAL_SECONDS * second + 2 * δ := rfl
    show w.clock ≤ p.timestamp + (r.missed + 1) * period δ
    omega
  | write hw hphase =>
    obtain ⟨rfl, rfl⟩ := h.eq_of_worker hw
    rw [hphase] at htime
    refine ⟨_, _, Beating.setWorker h rfl rfl rfl (Nat.zero_le k) ?_⟩
    refine ⟨Nat.le_refl _, Nat.le_add_right_of_le (Nat.le_add_right _ _), ?_⟩
    rw [Nat.zero_mul]
    exact htime.2.1
  | @writeFails _ _ b applied hw hphase =>
    obtain ⟨rfl, rfl⟩ := h.eq_of_worker hw
    rw [hphase] at htime
    have hk := ha _ hw
    cases applied with
    | true =>
      refine ⟨_, _, Beating.setWorker h rfl rfl rfl hk ?_⟩
      refine ⟨Nat.le_refl _, Nat.le_add_right_of_le (Nat.le_add_right _ _), ?_⟩
      exact Nat.le_trans htime.2.1 (Nat.add_le_add_right (Nat.le_add_right _ _) _)
    | false =>
      refine ⟨_, p, Beating.setWorker h rfl rfl h.lastSet hk ?_⟩
      refine ⟨Nat.le_refl _, Nat.le_add_right_of_le (Nat.le_add_right _ _), ?_⟩
      exact Nat.le_trans htime.2.1 (Nat.add_le_add_right htime.2.2 _)
  | stop _ _ => exact absurd ha id
  | clear _ _ => exact absurd ha id
  | clearFails _ _ => exact absurd ha id
  | crash _ => exact absurd ha id
  | late _ => exact absurd ha id

/-- A worker that is on time, with no more than `k` writes in a row missed, is reported healthy from its
first write on. -/
theorem healthy_while_beating {k δ clock pid : Nat} {w₀ w w' : World} {process : Process} {p : Payload}
    {ls : List Label} (hδ : (k + 1) * period δ + δ < WORKER_HEARTBEAT_TTL * second)
    (h : Reachable Step (World.start clock) w₀) (hworker : w₀.workers pid = some process)
    (halone : ∀ q, q ≠ pid → w₀.workers q = none) (hflight : w₀.inFlight = [])
    (hphase : process.phase = .writing p) (hprompt : w₀.clock ≤ p.timestamp + δ)
    (hwrite : Step w₀ (.write pid) w) (run : Guarded Step (Prompt k δ) w ls w') :
    (schedulerEntry (.ok w'.redis) w'.clock).status = .healthy := by
  have hfirst : ∃ process p, Beating k δ pid w process p := by
    cases hwrite with
    | write hw hp =>
      rw [hworker] at hw
      cases hw
      rw [hphase] at hp
      cases hp
      refine ⟨{ process with phase := .sleeping w₀.clock, missed := 0 }, p, ?_, ?_, hflight, rfl,
        Nat.zero_le k, ?_⟩
      · rw [workers_setWorker, if_pos rfl]
      · intro q hq
        rw [workers_setWorker, if_neg hq]
        exact halone q hq
      · refine ⟨Nat.le_refl _, Nat.le_add_right_of_le (Nat.le_add_right _ _), ?_⟩
        rw [Nat.zero_mul]
        exact hprompt
  have hlast : ∃ process p, Beating k δ pid w' process p := by
    refine run.invariant (I := fun w => ∃ process p, Beating k δ pid w process p) ?_ hfirst
    intro s a t ha hs hst
    obtain ⟨process, p, hs⟩ := hs
    exact hs.step ha hst
  obtain ⟨r, q, hbeat⟩ := hlast
  have hs := Sound.of_reachable ((h.step hwrite).steps run.steps)
  have hage := hbeat.onTime.age hbeat.missed
  have hfresh : w'.clock < q.timestamp + WORKER_HEARTBEAT_TTL * second := by
    omega
  unfold schedulerEntry
  rw [hs.read_of_fresh hbeat.lastSet hfresh]
  simp [isFresh_iff.2 hfresh]

/-- Time passes for one worker. -/
lemma prompt_tick {k δ d pid : Nat} {w : World} {process : Process}
    (hw : w.workers pid = some process) (halone : ∀ q, q ≠ pid → w.workers q = none)
    (hsleep : ∀ since, process.phase = .sleeping since →
      w.clock + d ≤ since + HEARTBEAT_INTERVAL_SECONDS * second + δ)
    (hwrite : ∀ p, process.phase = .writing p → w.clock + d ≤ p.timestamp + δ) :
    Prompt k δ w (.tick d) := by
  intro q r hq
  by_cases hne : q = pid
  · subst hne
    rw [hw] at hq
    cases hq
    exact ⟨hsleep, hwrite⟩
  · rw [halone q hne] at hq
    cases hq

namespace Sample

/-- The second write, 15 seconds after the first. -/
def second : World :=
  World.beat { written with clock := 15000000 } 7 ⟨observed, .sleeping 0, 0⟩

/-- It has failed. -/
def missed : World :=
  second.setWorker 7 ⟨observed, .sleeping 15000000, 1⟩

/-- There is no other process in the sample. -/
lemma written_alone : ∀ q, q ≠ 7 → written.workers q = none := by
  intro q hq
  simp [written, begun, World.setWorker, World.set, World.beat, World.start, hq]

/-- Nor is there one after the write that failed. -/
lemma missed_alone : ∀ q, q ≠ 7 → missed.workers q = none := by
  intro q hq
  simp [missed, second, World.setWorker, World.beat, hq, written_alone q hq]

end Sample

/-- A worker whose second write fails, half a minute after its first. -/
theorem healthy_after_missed_write :
    (schedulerEntry (.ok Sample.missed.redis) 30000000).status = .healthy := by
  have run : Guarded Step (Prompt 1 2000000) Sample.written
      [.tick 15000000, .wake 7, .writeFails 7 false, .tick 15000000]
      { Sample.missed with clock := 30000000 } := by
    have hfirst : Prompt 1 2000000 Sample.written (.tick 15000000) :=
      prompt_tick rfl Sample.written_alone (by intro since h; cases h; decide) (by intro p h; cases h)
    have hfails : Prompt 1 2000000 Sample.second (.writeFails 7 false) := by
      intro process h
      cases h
      decide
    have hlast : Prompt 1 2000000 Sample.missed (.tick 15000000) :=
      prompt_tick rfl Sample.missed_alone (by intro since h; cases h; decide) (by intro p h; cases h)
    exact .cons hfirst .tick (.cons trivial
      (@Step.wake _ 7 ⟨Sample.observed, .sleeping 0, 0⟩ 0 rfl rfl (by decide)) (.cons hfails
      (@Step.writeFails _ 7 ⟨Sample.observed, .writing (Sample.snapshot 15000000), 0⟩
        (Sample.snapshot 15000000) false rfl rfl) (.cons hlast .tick .nil)))
  exact healthy_while_beating (by decide) Sample.begun_reachable rfl (fun q hq => if_neg hq) rfl rfl
    (by decide) Sample.written_of_begun run

end InstantBoard.Heartbeat
