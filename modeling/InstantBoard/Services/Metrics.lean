import InstantBoard.Lib.Binary64
import InstantBoard.Lib.Deadband

/-!
# The metrics push

`collect_and_push_metrics` of one process, and a subscriber that merges what is pushed. A call
compares its sample with the sample of the call before it, whether that one was pushed or not, and
remembers its own. So the network rates a subscriber holds are always the current ones, but a
percentage is held from the latest sample that jumped (`held_after`): many small changes in one
direction are never pushed, and what is held drifts away (`small_changes_drift`).

Percentages and rates are doubles, and what jumps is decided by the rounded difference: 8.2 after 3.2
does not, 5.1 after 0.1 does.
-/

namespace InstantBoard.Dashboard

open Binary64 Deadband

/-- `METRIC_THRESHOLDS["cpu_change_percent"]` -/
def CPU_CHANGE_PERCENT : Double := .ofRat 5

/-- `METRIC_THRESHOLDS["memory_change_percent"]` -/
def MEMORY_CHANGE_PERCENT : Double := .ofRat 5

/-- `psutil.net_io_counters()` -/
structure NetIoCounters where
  bytesRecv : Nat
  bytesSent : Nat

/-- `_last_net_sample` -/
structure NetSample extends NetIoCounters where
  timestamp : Double

/-- What `sample_network_rates` returns. -/
structure NetData where
  networkInKbps : Double
  networkOutKbps : Double
  networkBytesRecv : Nat
  networkBytesSent : Nat

/-- A rate in KB/s; a counter that was reset counts as unchanged. -/
def rate (current last : Nat) (elapsed : Double) : Double :=
  (Double.ofRat (max ((current : ℚ) - last) 0) / elapsed / Double.ofRat 1024).roundTo 2

/-- `sample_network_rates`, with the new `_last_net_sample`. -/
def sampleNetworkRates (net : Option NetIoCounters) (now : Double) (last : Option NetSample) :
    NetData × Option NetSample :=
  match net with
  | none => (⟨0, 0, 0, 0⟩, last)
  | some net =>
    let sample : NetSample := { net with timestamp := now }
    match last with
    | none => (⟨0, 0, net.bytesRecv, net.bytesSent⟩, some sample)
    | some last =>
      let elapsed := now - last.timestamp
      if 0 < elapsed then
        (⟨rate net.bytesRecv last.bytesRecv elapsed,
          rate net.bytesSent last.bytesSent elapsed, net.bytesRecv, net.bytesSent⟩,
          some sample)
      else (⟨0, 0, net.bytesRecv, net.bytesSent⟩, some sample)

/-- What a call reads from the system. -/
structure Reading where
  cpuPercent : Double
  memoryPercent : Double
  diskPercent : Double
  net : Option NetIoCounters
  monotonic : Double
  now : String

/-- `current_metrics` -/
structure Metrics where
  cpuUsagePercent : Double
  memoryUsagePercent : Double
  diskUsagePercent : Double
  networkInKbps : Double
  networkOutKbps : Double
  networkBytesSent : Nat
  networkBytesRecv : Nat
  timestamp : String

/-- Some of the metrics: the data of a push, or what a subscriber holds. -/
structure Payload where
  cpuUsagePercent : Option Double
  memoryUsagePercent : Option Double
  diskUsagePercent : Option Double
  networkInKbps : Option Double
  networkOutKbps : Option Double
  networkBytesSent : Option Nat
  networkBytesRecv : Option Nat
  timestamp : Option String

def Payload.empty : Payload := ⟨none, none, none, none, none, none, none, none⟩

/-- `incremental_data = current_metrics` -/
def Metrics.full (m : Metrics) : Payload :=
  { cpuUsagePercent := some m.cpuUsagePercent
    memoryUsagePercent := some m.memoryUsagePercent
    diskUsagePercent := some m.diskUsagePercent
    networkInKbps := some m.networkInKbps
    networkOutKbps := some m.networkOutKbps
    networkBytesSent := some m.networkBytesSent
    networkBytesRecv := some m.networkBytesRecv
    timestamp := some m.timestamp }

/-- The fields that have changed against the sample before. -/
def Metrics.changes (current last : Metrics) : Payload :=
  { Payload.empty with
    cpuUsagePercent :=
      if CPU_CHANGE_PERCENT ≤ (current.cpuUsagePercent - last.cpuUsagePercent).abs then
        some current.cpuUsagePercent
      else none
    memoryUsagePercent :=
      if MEMORY_CHANGE_PERCENT ≤ (current.memoryUsagePercent - last.memoryUsagePercent).abs then
        some current.memoryUsagePercent
      else none
    networkInKbps :=
      if current.networkInKbps ≠ last.networkInKbps then some current.networkInKbps else none
    networkOutKbps :=
      if current.networkOutKbps ≠ last.networkOutKbps then some current.networkOutKbps else none }

/-- `Object.assign` of a push into what is held. -/
def Payload.merge (held push : Payload) : Payload :=
  { cpuUsagePercent := push.cpuUsagePercent.or held.cpuUsagePercent
    memoryUsagePercent := push.memoryUsagePercent.or held.memoryUsagePercent
    diskUsagePercent := push.diskUsagePercent.or held.diskUsagePercent
    networkInKbps := push.networkInKbps.or held.networkInKbps
    networkOutKbps := push.networkOutKbps.or held.networkOutKbps
    networkBytesSent := push.networkBytesSent.or held.networkBytesSent
    networkBytesRecv := push.networkBytesRecv.or held.networkBytesRecv
    timestamp := push.timestamp.or held.timestamp }

/-- The module's variables; `lastMetrics` is `none` while the dictionary is empty. -/
structure MetricsState where
  lastMetrics : Option Metrics
  lastNetSample : Option NetSample

/-- `current_metrics` of a call, and the new `_last_net_sample`. -/
def currentMetrics (s : MetricsState) (r : Reading) :
    Metrics × Option NetSample :=
  let (netData, lastNetSample) := sampleNetworkRates r.net r.monotonic s.lastNetSample
  ({ cpuUsagePercent := r.cpuPercent
     memoryUsagePercent := r.memoryPercent
     diskUsagePercent := r.diskPercent
     networkInKbps := netData.networkInKbps
     networkOutKbps := netData.networkOutKbps
     networkBytesSent := netData.networkBytesSent
     networkBytesRecv := netData.networkBytesRecv
     timestamp := r.now }, lastNetSample)

/-- `incremental_data` of a call: everything the first time, later what has changed. -/
def incrementalData (s : MetricsState) (current : Metrics) : Payload :=
  match s.lastMetrics with
  | none => current.full
  | some last => current.changes last

/-- `collect_and_push_metrics`: its sample, the data it pushes (nothing is pushed when that is
empty) and the state it leaves. -/
def collectAndPushMetrics (s : MetricsState) (r : Reading) :
    Metrics × Payload × MetricsState :=
  let (current, lastNetSample) := currentMetrics s r
  (current, incrementalData s current, { lastMetrics := some current, lastNetSample })

/-! ## Runs -/

/-- The process, what a subscriber holds, and the samples taken so far. -/
structure MetricsWorld where
  state : MetricsState
  held : Payload
  taken : List Metrics

def MetricsWorld.init : MetricsWorld :=
  { state := ⟨none, none⟩, held := .empty, taken := [] }

inductive MetricsAction where
  | collect (r : Reading)
  | systemInfo (net : Option NetIoCounters) (now : Double)

/-- A call whose push succeeds, or a `get_system_info`, which samples the network as well. -/
def MetricsWorld.step (w : MetricsWorld) : MetricsAction → MetricsWorld
  | .collect r =>
    let (current, push, state) := collectAndPushMetrics w.state r
    { state, held := w.held.merge push, taken := w.taken ++ [current] }
  | .systemInfo net now =>
    { w with state := { w.state with
        lastNetSample := (sampleNetworkRates net now w.state.lastNetSample).2 } }

def MetricsWorld.run (actions : List MetricsAction) : MetricsWorld :=
  actions.foldl MetricsWorld.step .init

/-- The percentage differs from the one before it, as doubles are subtracted, by at least `t`. -/
def Jumps (t current last : Double) : Prop := t ≤ (current - last).abs

instance (t : Double) : DecidableRel (Jumps t) := fun current last =>
  inferInstanceAs (Decidable (t ≤ (current - last).abs))

/-- What does not jump has moved by less than `t`. -/
lemma abs_sub_lt_of_not_jumps {t current last : Double} (h : ¬ Jumps t current last) :
    |current.value - last.value| < t.value :=
  Double.abs_sub_lt (Double.lt_of_not_le h)

/-- The subscriber holds this value of the percentages sampled so far. -/
def Holds (t : Double) (values : List Double) (held : Option Double) : Prop :=
  ∃ value before since, held = some value ∧ HeldFrom (Jumps t) values value before since

/-- A sample against the one before it, and what is held after it. -/
lemma Holds.next {t : Double} {values : List Double} {held : Option Double} {last x : Double}
    (h : Holds t values held) (hlast : values.getLast? = some last) :
    Holds t (values ++ [x]) ((if t ≤ (x - last).abs then some x else none).or held) := by
  obtain ⟨value, before, since, rfl, hw⟩ := h
  split
  · rename_i hjump
    exact ⟨x, values, [], rfl, .jump hlast hjump⟩
  · rename_i hquiet
    exact ⟨value, before, since ++ [x], rfl, hw.keep hlast hquiet⟩

/-- What is held after a call, and what the process remembers. -/
structure UpToDate (w : MetricsWorld) (current : Metrics) : Prop where
  remembered : w.state.lastMetrics = some current
  networkIn : w.held.networkInKbps = some current.networkInKbps
  networkOut : w.held.networkOutKbps = some current.networkOutKbps
  cpu : Holds CPU_CHANGE_PERCENT (w.taken.map (·.cpuUsagePercent)) w.held.cpuUsagePercent
  memory : Holds MEMORY_CHANGE_PERCENT (w.taken.map (·.memoryUsagePercent))
    w.held.memoryUsagePercent

/-- Nothing has been sampled, or what is held is up to date with the latest sample. -/
def Tracking (w : MetricsWorld) : Prop :=
  (w.taken = [] ∧ w.state.lastMetrics = none) ∨
    ∃ current, w.taken.getLast? = some current ∧ UpToDate w current

/-- A changed value replaces the held one, an unchanged one is held already. -/
lemma changed_or {x last : Double} {held : Option Double} (h : held = some last) :
    (if x ≠ last then some x else none).or held = some x := by
  split
  · rfl
  · rename_i heq
    rw [h, not_not.1 heq]
    rfl

/-- The first sample is pushed whole. -/
lemma UpToDate.first {w : MetricsWorld} (hnil : w.taken = [])
    (hnone : w.state.lastMetrics = none) (r : Reading) :
    UpToDate (w.step (.collect r)) (currentMetrics w.state r).1 := by
  have hpush : (w.step (.collect r)).held =
      w.held.merge (currentMetrics w.state r).1.full := by
    simp only [MetricsWorld.step, collectAndPushMetrics, incrementalData, hnone]
  have htaken : (w.step (.collect r)).taken = [(currentMetrics w.state r).1] := by
    simp only [MetricsWorld.step, collectAndPushMetrics, hnil, List.nil_append]
  refine ⟨rfl, ?_, ?_, ?_, ?_⟩
  · rw [hpush]
    rfl
  · rw [hpush]
    rfl
  · rw [hpush, htaken]
    exact ⟨_, [], [], rfl, .first _ _⟩
  · rw [hpush, htaken]
    exact ⟨_, [], [], rfl, .first _ _⟩

/-- A later sample is pushed as far as it has changed against the one before it. -/
lemma UpToDate.next {w : MetricsWorld} {last : Metrics} (h : UpToDate w last)
    (hlast : w.taken.getLast? = some last) (r : Reading) :
    UpToDate (w.step (.collect r)) (currentMetrics w.state r).1 := by
  have hpush : (w.step (.collect r)).held =
      w.held.merge ((currentMetrics w.state r).1.changes last) := by
    simp only [MetricsWorld.step, collectAndPushMetrics, incrementalData, h.remembered]
  have htaken : (w.step (.collect r)).taken =
      w.taken ++ [(currentMetrics w.state r).1] := rfl
  refine ⟨rfl, ?_, ?_, ?_, ?_⟩
  · rw [hpush]
    exact changed_or h.networkIn
  · rw [hpush]
    exact changed_or h.networkOut
  · rw [hpush, htaken, List.map_append]
    exact h.cpu.next (by rw [List.getLast?_map, hlast]; rfl)
  · rw [hpush, htaken, List.map_append]
    exact h.memory.next (by rw [List.getLast?_map, hlast]; rfl)

/-- One action keeps the subscriber up to date. -/
lemma Tracking.step {w : MetricsWorld} (hw : Tracking w) (a : MetricsAction) :
    Tracking (w.step a) := by
  cases a with
  | collect r =>
    right
    refine ⟨(currentMetrics w.state r).1, List.getLast?_concat, ?_⟩
    obtain ⟨hnil, hnone⟩ | ⟨last, hlast, h⟩ := hw
    · exact .first hnil hnone r
    · exact h.next hlast r
  | systemInfo net now =>
    obtain h | ⟨current, hlast, h⟩ := hw
    · exact .inl h
    · exact .inr ⟨current, hlast, h.remembered, h.networkIn, h.networkOut, h.cpu, h.memory⟩

/-- A run keeps the subscriber up to date. -/
lemma Tracking.run (actions : List MetricsAction) :
    Tracking (MetricsWorld.run actions) := by
  induction actions using List.reverseRecOn with
  | nil => exact .inl ⟨rfl, rfl⟩
  | append_singleton actions a ih =>
    unfold MetricsWorld.run
    rw [List.foldl_append]
    exact ih.step a

/-- What a subscriber holds of a percentage: the value of the latest sample that jumped (or of the first
sample), which is less than one threshold away from the current value for each sample since then. -/
def HeldSinceJump (t : Double) (values : List Double) (current : Double) (held : Option Double) :
    Prop :=
  ∃ value before since, held = some value ∧ HeldFrom (Jumps t) values value before since ∧
    ((since = [] ∧ current = value) ∨ |current.value - value.value| < since.length • t.value)

/-- What is held is the value of the last jump, and near what was measured last. -/
lemma Holds.sinceJump {t : Double} {taken : List Metrics} {f : Metrics → Double}
    {held : Option Double} (h : Holds t (taken.map f) held) {current : Metrics}
    (hlast : taken.getLast? = some current) : HeldSinceJump t (taken.map f) (f current) held := by
  obtain ⟨value, before, since, heq, hw⟩ := h
  exact ⟨value, before, since, heq, hw,
    hw.distance_lt (fun _ _ h => abs_sub_lt_of_not_jumps h) (by rw [List.getLast?_map, hlast]; rfl)⟩

/-- After any run in which a sample was taken, a subscriber holds the current network rates, and
each percentage from its latest jump. -/
theorem held_after (actions : List MetricsAction) {current : Metrics}
    (h : (MetricsWorld.run actions).taken.getLast? = some current) :
    let w := MetricsWorld.run actions
    w.held.networkInKbps = some current.networkInKbps ∧
    w.held.networkOutKbps = some current.networkOutKbps ∧
    HeldSinceJump CPU_CHANGE_PERCENT (w.taken.map (·.cpuUsagePercent)) current.cpuUsagePercent
      w.held.cpuUsagePercent ∧
    HeldSinceJump MEMORY_CHANGE_PERCENT (w.taken.map (·.memoryUsagePercent))
      current.memoryUsagePercent w.held.memoryUsagePercent := by
  obtain ⟨hnil, _⟩ | ⟨latest, hlatest, up⟩ := Tracking.run actions
  · rw [hnil] at h
    cases h
  · rw [hlatest] at h
    cases h
    exact ⟨up.networkIn, up.networkOut, up.cpu.sinceJump hlatest, up.memory.sinceJump hlatest⟩

/-- A call that reads this processor load. -/
def load (percent : ℚ) : MetricsAction :=
  .collect { cpuPercent := .ofRat percent, memoryPercent := .ofRat 40, diskPercent := .ofRat 70,
             net := none, monotonic := 0, now := "2026-08-25T10:00:00+00:00" }

example : Jumps CPU_CHANGE_PERCENT (.ofRat 5.1) (.ofRat 0.1) := by decide +kernel

example : ¬ Jumps CPU_CHANGE_PERCENT (.ofRat 8.2) (.ofRat 3.2) := by decide +kernel

/-- A load that jumps is held; the small change after it is not. -/
theorem jump_held :
    HeldSinceJump CPU_CHANGE_PERCENT [.ofRat 0.1, .ofRat 5.1, .ofRat 8.1] (.ofRat 8.1)
      (MetricsWorld.run [load 0.1, load 5.1, load 8.1]).held.cpuUsagePercent :=
  (@held_after [load 0.1, load 5.1, load 8.1] ⟨.ofRat 8.1, .ofRat 40, .ofRat 70, 0, 0, 0, 0,
    "2026-08-25T10:00:00+00:00"⟩ rfl).2.2.1

/-- Two small changes in one direction are never pushed, and together they reach the threshold. -/
theorem small_changes_drift :
    ¬ ∀ (actions : List MetricsAction) (current : Metrics),
      (MetricsWorld.run actions).taken.getLast? = some current →
        ∃ value, (MetricsWorld.run actions).held.cpuUsagePercent = some value ∧
          (current.cpuUsagePercent - value).abs < CPU_CHANGE_PERCENT := by
  intro h
  obtain ⟨value, heq, hlt⟩ := h [load 10, load 14, load 18] _ rfl
  have hvalue : value = .ofRat 10 := by
    have hheld : (MetricsWorld.run [load 10, load 14, load 18]).held.cpuUsagePercent =
        some (.ofRat 10) := by decide +kernel
    rw [hheld] at heq
    exact (Option.some.inj heq).symm
  subst hvalue
  exact absurd hlt (by decide +kernel)

end InstantBoard.Dashboard
