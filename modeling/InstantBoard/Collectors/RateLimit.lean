import InstantBoard.Lib.Keyspace
import InstantBoard.Lib.Rounds
import InstantBoard.Lib.Transition

/-!
# The rate limit of a collector

`rate_limit_check` counts the calls of a source in Redis with a GET and a SET, and every SET gives the
counter another minute. So a counter of a source that is polled steadily never ends, and calls of one
moment read the same count. The limit is exact in every run in which a SET finds the counter that its
GET has read and a GET that finds the counter full comes within a minute of the call that opened it
(`rate_limit_exact`). A source that is polled steadily below the limit is refused in the end, and two
calls of one moment both open a counter (`limit_not_exact`).
-/

namespace InstantBoard

namespace BaseCollector

open Transition Rounds

/-- `rate_key` -/
def rateKey (sourceId : String) : String :=
  "rate_limit:collector:" ++ sourceId

/-- What follows the GET: the count to SET, or nothing when the call is refused. -/
def afterGet (limit : Int) : Option Nat → Option Nat
  | none => some 1
  | some n => if limit ≤ n then none else some (n + 1)

/-- How a call of `collect` has passed the check, with its time in milliseconds. A call that has found
no counter opens one. -/
inductive RateEvent where
  | accepted (now : Nat) (opens : Bool)
  | refused (now : Nat)
deriving DecidableEq

def RateEvent.time : RateEvent → Nat
  | .accepted now _ => now
  | .refused now => now

def RateEvent.isAccepted : RateEvent → Bool
  | .accepted _ _ => true
  | .refused _ => false

def RateEvent.isOpening : RateEvent → Bool
  | .accepted _ opens => opens
  | .refused _ => false

/-- Redis, the time, the counter that each check under way has read, and how the calls have ended so
far. `openedAt` is the time of the last call that opened a counter. -/
structure RateState where
  redis : Keyspace.Space String Nat
  clock : Nat
  read : Nat → Option (Option Nat)
  log : List RateEvent
  openedAt : Nat

def RateState.init : RateState :=
  ⟨fun _ => none, 0, fun _ => none, [], 0⟩

/-- The counter of a source. -/
def RateState.counter (s : RateState) (now : Nat) (key : String) : Option Nat :=
  (Keyspace.find s.redis now key).map (·.value)

/-- The commands of the calls. A collector without a limit has none. -/
inductive RateLabel where
  | pass (now : Nat)
  | get (id now : Nat)
  | set (id now : Nat)
deriving DecidableEq

/-- A step of `rate_limit_check`, by the call it is a part of. -/
inductive RateStep (limit : Int) (key : String) : RateState → RateLabel → RateState → Prop where
  | pass {s now} : limit ≤ 0 → s.clock ≤ now →
      RateStep limit key s (.pass now)
        { s with clock := now, log := s.log ++ [.accepted now false] }
  | refuse {s id now} : 0 < limit → s.clock ≤ now → s.read id = none →
      afterGet limit (s.counter now key) = none →
      RateStep limit key s (.get id now) { s with clock := now, log := s.log ++ [.refused now] }
  | get {s id now count} : 0 < limit → s.clock ≤ now → s.read id = none →
      afterGet limit (s.counter now key) = some count →
      RateStep limit key s (.get id now)
        { s with clock := now, read := Function.update s.read id (some (s.counter now key)) }
  | set {s id now current count} : 0 < limit → s.clock ≤ now → s.read id = some current →
      afterGet limit current = some count →
      RateStep limit key s (.set id now)
        { redis := Keyspace.set s.redis now key count 60
          clock := now
          read := Function.update s.read id none
          log := s.log ++ [.accepted now current.isNone]
          openedAt := if current.isNone then now else s.openedAt }

/-- A minute. -/
def window : Nat := 60000

/-- What a log says of the limit. -/
def reading : Reading RateEvent := ⟨RateEvent.time, RateEvent.isAccepted, RateEvent.isOpening⟩

/-- The limit is exact: a call is refused only after as many calls in a minute, and in the minute that
an accepted call opens a counter for there are no more. -/
structure Exact (limit : Int) (log : List RateEvent) : Prop where
  refused : ∀ before now after, log = before ++ .refused now :: after →
    limit ≤ before.countP (reading.countsIn (now - window) now)
  opened : ∀ before now after, log = before ++ .accepted now true :: after →
    (1 + after.countP (reading.countsIn now (now + window)) : Int) ≤ limit

/-- A SET finds the counter that its GET has read, and a GET that finds the counter full comes within a
minute of the call that opened it. -/
def Timely (limit : Int) (key : String) (s : RateState) : RateLabel → Prop
  | .pass _ => True
  | .get _ now => afterGet limit (s.counter now key) = none → now ≤ s.openedAt + window
  | .set id now => s.read id = some (s.counter now key)

/-! ## The counter counts its round -/

/-- The entry of the counter is that of the last round of the log. -/
structure CountsRound (limit : Int) (s : RateState) (e : Keyspace.Entry Nat)
    (before : List RateEvent) (x : RateEvent) (after : List RateEvent) : Prop where
  round : Round reading window s.log before x after
  openedAt : x.time = s.openedAt
  value : e.value = 1 + after.countP RateEvent.isAccepted
  le : (e.value : Int) ≤ limit
  lasts : ∃ d, e.deadline = some d ∧ s.openedAt + window ≤ d

structure Counted (limit : Int) (key : String) (s : RateState) : Prop where
  refused : ∀ before now after, s.log = before ++ .refused now :: after →
    limit ≤ before.countP (reading.countsIn (now - window) now)
  limited : Limited reading window limit.toNat s.log
  past : ∀ e ∈ s.log, e.time ≤ s.clock
  unopened : s.redis key = none → ∀ e ∈ s.log, e.isOpening = false
  entry : ∀ e, s.redis key = some e → ∃ before x after, CountsRound limit s e before x after

variable {limit : Int} {key : String} {s t : RateState} {e : RateEvent} {now id : Nat}

/-- The call that opens a window is accepted. -/
lemma RateEvent.isAccepted_of_isOpening (h : e.isOpening = true) : e.isAccepted = true := by
  cases e with
  | accepted now opens => rfl
  | refused now => cases h

/-- A call is refused exactly if the counter is at the limit. -/
lemma afterGet_eq_none {current : Option Nat} :
    afterGet limit current = none ↔ ∃ n : Nat, current = some n ∧ limit ≤ n := by
  cases current with
  | none => simp [afterGet]
  | some n => simp [afterGet]

/-- A call is let through at the start of a window or below the limit. -/
lemma afterGet_eq_some {current : Option Nat} {count : Nat} :
    afterGet limit current = some count ↔
      (current = none ∧ count = 1) ∨ ∃ n : Nat, current = some n ∧ n < limit ∧ count = n + 1 := by
  cases current with
  | none => simp [afterGet, eq_comm]
  | some n => simp [afterGet, eq_comm]

/-- The counter is the live entry's value. -/
lemma counter_eq_some {n : Nat} : s.counter now key = some n ↔
    ∃ e, Keyspace.find s.redis now key = some e ∧ e.value = n :=
  Option.map_eq_some_iff

/-- A refusal at the end of a log has its own justification. -/
lemma refused_snoc {log : List RateEvent}
    (h : ∀ before now after, log = before ++ .refused now :: after →
      limit ≤ before.countP (reading.countsIn (now - window) now))
    (hlast : ∀ now, e = .refused now → limit ≤ log.countP (reading.countsIn (now - window) now)) :
    ∀ before now after, log ++ [e] = before ++ .refused now :: after →
      limit ≤ before.countP (reading.countsIn (now - window) now) := by
  intro before now after hsplit
  rcases split_snoc hsplit with ⟨rfl, rfl, -⟩ | ⟨after', -, hlog⟩
  · exact hlast now rfl
  · exact h before now after' hlog

/-- The log stays in the past when a call of now is added. -/
lemma past_snoc (h : ∀ e ∈ s.log, e.time ≤ s.clock) (hle : s.clock ≤ now) (he : e.time = now) :
    ∀ e' ∈ s.log ++ [e], e'.time ≤ now := by
  intro e' he'
  rcases List.mem_append.1 he' with hmem | hmem
  · exact Nat.le_trans (h e' hmem) hle
  · obtain rfl := List.mem_singleton.1 hmem
    exact Nat.le_of_eq he

/-- A window was opened in the past. -/
lemma CountsRound.openedAt_le {entry : Keyspace.Entry Nat} {before after : List RateEvent}
    {x : RateEvent} (h : CountsRound limit s entry before x after)
    (past : ∀ e ∈ s.log, e.time ≤ s.clock) : s.openedAt ≤ s.clock := by
  rw [← h.openedAt]
  apply past
  rw [h.round.split]
  exact List.mem_append_right _ List.mem_cons_self

/-- Without a counter, the openers of the log are more than a minute back. -/
lemma Counted.former (h : Counted limit key s) (hnone : s.counter now key = none) :
    ∀ e ∈ s.log, e.isOpening = true → e.time + window < now := by
  cases hentry : s.redis key with
  | none =>
    intro e he hopens
    rw [h.unopened hentry e he] at hopens
    cases hopens
  | some entry =>
    obtain ⟨before, x, after, hround⟩ := h.entry entry hentry
    obtain ⟨d, hd, hle⟩ := hround.lasts
    have hdead : d < now := by
      by_contra hlive
      have hfind : Keyspace.find s.redis now key = some entry := by
        apply Keyspace.find_eq_some.2
        refine ⟨hentry, ?_⟩
        unfold Keyspace.Entry.live
        rw [hd]
        exact decide_eq_true (Nat.le_of_not_lt hlive)
      have hsome : s.counter now key = some entry.value := counter_eq_some.2 ⟨entry, hfind, rfl⟩
      rw [hnone] at hsome
      cases hsome
    apply hround.round.former_all
    show x.time + window < now
    rw [hround.openedAt]
    omega

/-! ## What a step preserves -/

/-- Without a limit a call passes and the counts stay right. -/
lemma Counted.pass (h : Counted limit key s) (hlimit : limit ≤ 0) (hle : s.clock ≤ now) :
    Counted limit key { s with clock := now, log := s.log ++ [.accepted now false] } := by
  have hnone : s.redis key = none := by
    cases hentry : s.redis key with
    | none => rfl
    | some entry =>
      obtain ⟨before, x, after, hround⟩ := h.entry entry hentry
      have hvalue := hround.value
      have hvalue' := hround.le
      omega
  have hopening := h.unopened hnone
  constructor
  · exact refused_snoc h.refused fun _ h => nomatch h
  · apply h.limited.next
    · intro hopens
      cases hopens
    · intro y hy hopens
      rw [show reading.opens y = y.isOpening from rfl, hopening y hy] at hopens
      cases hopens
  · exact past_snoc h.past hle rfl
  · intro _ e he
    rcases List.mem_append.1 he with hmem | hmem
    · exact hopening e hmem
    · rw [List.mem_singleton.1 hmem]
      rfl
  · intro entry hentry
    dsimp only at hentry
    rw [hnone] at hentry
    cases hentry

/-- A refused call leaves the counts right. -/
lemma Counted.refuse (h : Counted limit key s) (hle : s.clock ≤ now)
    (hfull : afterGet limit (s.counter now key) = none)
    (htimely : now ≤ s.openedAt + window) :
    Counted limit key { s with clock := now, log := s.log ++ [.refused now] } := by
  obtain ⟨n, hcounter, hn⟩ := afterGet_eq_none.1 hfull
  obtain ⟨entry, hfind, rfl⟩ := counter_eq_some.1 hcounter
  have hentry := (Keyspace.find_eq_some.1 hfind).1
  obtain ⟨before, x, after, hround⟩ := h.entry entry hentry
  have hopened := hround.openedAt_le h.past
  have hx := hround.openedAt
  constructor
  · apply refused_snoc h.refused
    rintro now' heq
    obtain rfl : now = now' := RateEvent.refused.inj heq
    have hrecent := hround.round.recent (RateEvent.isAccepted_of_isOpening hround.round.opens)
      (t := now - window) (u := now) (by
        show now - window ≤ x.time
        omega) fun e he => Nat.le_trans (h.past e he) hle
    have hvalue : entry.value = 1 + after.countP reading.counts := hround.value
    omega
  · apply h.limited.next
    · intro hopens
      cases hopens
    · intro y _ _
      exact .inl rfl
  · exact past_snoc h.past hle rfl
  · intro hnone
    dsimp only at hnone
    rw [hentry] at hnone
    cases hnone
  · intro entry' hentry'
    dsimp only at hentry'
    rw [hentry] at hentry'
    cases hentry'
    refine ⟨before, x, after ++ [.refused now], ?_, hx, ?_, hround.le, hround.lasts⟩
    · apply hround.round.grow rfl
      show x.time ≤ now
      omega
    · rw [List.countP_append, hround.value]
      rfl

/-- A read leaves the counts right. -/
lemma Counted.get (h : Counted limit key s) (hle : s.clock ≤ now)
    {read : Nat → Option (Option Nat)} : Counted limit key { s with clock := now, read } where
  refused := h.refused
  limited := h.limited
  past := fun e he => Nat.le_trans (h.past e he) hle
  unopened := h.unopened
  entry := by
    intro entry hentry
    obtain ⟨before, x, after, hround⟩ := h.entry entry hentry
    exact ⟨before, x, after, hround.round, hround.openedAt, hround.value, hround.le, hround.lasts⟩

/-- A call that finds no counter opens one. -/
lemma Counted.open (h : Counted limit key s) (hlimit : 0 < limit) (hle : s.clock ≤ now)
    (hnone : s.counter now key = none) {read : Nat → Option (Option Nat)} :
    Counted limit key
      { redis := Keyspace.set s.redis now key 1 60, clock := now, read,
        log := s.log ++ [.accepted now true], openedAt := now } := by
  have hformer := h.former hnone
  constructor
  · exact refused_snoc h.refused fun _ h => nomatch h
  · apply h.limited.next
    · intro _
      omega
    · intro y hy hopens
      exact .inr (hformer y hy hopens)
  · exact past_snoc h.past hle rfl
  · intro hset
    dsimp only at hset
    rw [Keyspace.set_same] at hset
    cases hset
  · intro entry hentry
    dsimp only at hentry
    rw [Keyspace.set_same] at hentry
    cases hentry
    refine ⟨s.log, .accepted now true, [], .start rfl hformer, rfl, rfl, ?_, now + 1000 * 60, rfl,
      Nat.le_refl _⟩
    exact hlimit

/-- A call that finds its counter counts on. -/
lemma Counted.count (h : Counted limit key s) (hle : s.clock ≤ now) {n : Nat}
    (hcounter : s.counter now key = some n) (hroom : n < limit)
    {read : Nat → Option (Option Nat)} :
    Counted limit key
      { redis := Keyspace.set s.redis now key (n + 1) 60, clock := now, read,
        log := s.log ++ [.accepted now false], openedAt := s.openedAt } := by
  obtain ⟨entry, hfind, rfl⟩ := counter_eq_some.1 hcounter
  obtain ⟨before, x, after, hround⟩ := h.entry entry (Keyspace.find_eq_some.1 hfind).1
  have hopened := hround.openedAt_le h.past
  have hx := hround.openedAt
  have hvalue : entry.value = 1 + after.countP reading.counts := hround.value
  have hlater : reading.time x ≤ reading.time (.accepted now false) := by
    show x.time ≤ now
    omega
  constructor
  · exact refused_snoc h.refused fun _ h => nomatch h
  · apply h.limited.grow hround.round rfl hlater
    omega
  · exact past_snoc h.past hle rfl
  · intro hset
    dsimp only at hset
    rw [Keyspace.set_same] at hset
    cases hset
  · intro entry' hentry
    dsimp only at hentry
    rw [Keyspace.set_same] at hentry
    cases hentry
    refine ⟨before, x, after ++ [.accepted now false], hround.round.grow rfl hlater, hx, ?_, ?_,
      now + 1000 * 60, rfl, ?_⟩
    · rw [List.countP_append, hround.value]
      rfl
    · dsimp only
      omega
    · show s.openedAt + window ≤ now + 1000 * 60
      unfold window
      omega

/-- A timely step keeps the counts right. -/
lemma Counted.step {l : RateLabel} (h : Counted limit key s) (htimely : Timely limit key s l)
    (hstep : RateStep limit key s l t) : Counted limit key t := by
  cases hstep with
  | pass hlimit hle => exact h.pass hlimit hle
  | refuse _ hle _ hfull => exact h.refuse hle hfull (htimely hfull)
  | get _ hle _ _ => exact h.get hle
  | @set id now current count hlimit hle hread hset =>
    obtain rfl : current = s.counter now key := Option.some.inj (hread.symm.trans htimely)
    rcases afterGet_eq_some.1 hset with ⟨hnone, rfl⟩ | ⟨n, hcounter, hroom, rfl⟩
    · rw [hnone]
      exact h.open hlimit hle hnone
    · rw [hcounter]
      exact h.count hle hcounter hroom

/-- The counts are right at the start. -/
lemma Counted.init : Counted limit key .init where
  refused := by
    intro before now after h
    exact absurd (congrArg List.length h) (by simp [RateState.init])
  limited := by
    intro before x after h
    exact absurd (congrArg List.length h) (by simp [RateState.init])
  past := fun _ h => nomatch h
  unopened := fun _ _ h => nomatch h
  entry := fun _ h => nomatch h

/-- Where the counts are right both laws hold of the log. -/
lemma Counted.exact (h : Counted limit key s) : Exact limit s.log where
  refused := h.refused
  opened := by
    intro before now after hlog
    have hle := h.limited before (.accepted now true) after hlog rfl
    dsimp only [reading, RateEvent.time] at hle ⊢
    omega

/-- In every run of timely steps the limit is exact. -/
theorem rate_limit_exact (limit : Int) (sourceId : String) {s : RateState} {labels : List RateLabel}
    (run : Guarded (RateStep limit (rateKey sourceId)) (Timely limit (rateKey sourceId)) .init labels
      s) : Exact limit s.log := by
  have hcounted : Counted limit (rateKey sourceId) s :=
    run.invariant (fun htimely h hstep => h.step htimely hstep) Counted.init
  exact hcounted.exact

/-! ## Runs of one source -/

/-- A call whose GET and SET follow each other. -/
def polled (id now : Nat) : List RateLabel :=
  [.get id now, .set id now]

/-- Two calls within the limit, and one too many right after them. -/
theorem third_call_refused : Exact 2
    [.accepted 0 true, .accepted 1000 false, .refused 2000] := by
  have run : ∃ s, Guarded (RateStep 2 (rateKey "s")) (Timely 2 (rateKey "s")) .init
      (polled 0 0 ++ polled 1 1000 ++ [.get 2 2000]) s ∧
      s.log = [.accepted 0 true, .accepted 1000 false, .refused 2000] := by
    apply Guarded.exists_cons _ (.get (by decide) (by decide) rfl rfl)
    · apply Guarded.exists_cons _ (.set (by decide) (by decide) rfl rfl)
      · apply Guarded.exists_cons _ (.get (by decide) (by decide) rfl rfl)
        · apply Guarded.exists_cons _ (.set (by decide) (by decide) rfl rfl)
          · apply Guarded.exists_cons _ (.refuse (by decide) (by decide) rfl rfl)
            · exact ⟨_, .nil, rfl⟩
            · intro _
              decide
          · rfl
        · intro h
          cases h
      · rfl
    · intro h
      cases h
  obtain ⟨s, run, hlog⟩ := run
  rw [← hlog]
  exact rate_limit_exact 2 "s" run

/-- A source polled every forty seconds is refused at a limit of two; and at a limit of one, two calls
of one moment are both accepted. -/
theorem limit_not_exact :
    (¬ ∀ labels s, Steps (RateStep 2 (rateKey "s")) .init labels s →
      ∀ before now after, s.log = before ++ .refused now :: after →
        2 ≤ before.countP (reading.countsIn (now - window) now)) ∧
    ¬ ∀ labels s, Steps (RateStep 1 (rateKey "s")) .init labels s →
      ∀ before now after, s.log = before ++ .accepted now true :: after →
        1 + after.countP (reading.countsIn now (now + window)) ≤ 1 := by
  constructor
  · intro h
    have run : ∃ s, Steps (RateStep 2 (rateKey "s")) .init
        (polled 0 0 ++ polled 1 40000 ++ [.get 2 80000]) s ∧
        s.log = [.accepted 0 true, .accepted 40000 false, .refused 80000] := by
      apply Steps.exists_cons (.get (by decide) (by decide) rfl rfl)
      apply Steps.exists_cons (.set (by decide) (by decide) rfl rfl)
      apply Steps.exists_cons (.get (by decide) (by decide) rfl rfl)
      apply Steps.exists_cons (.set (by decide) (by decide) rfl rfl)
      apply Steps.exists_cons (.refuse (by decide) (by decide) rfl rfl)
      exact ⟨_, .nil, rfl⟩
    obtain ⟨s, run, hlog⟩ := run
    have hmany := h _ s run [.accepted 0 true, .accepted 40000 false] 80000 [] hlog
    exact absurd hmany (by decide)
  · intro h
    have run : ∃ s, Steps (RateStep 1 (rateKey "s")) .init
        [.get 0 0, .get 1 0, .set 0 0, .set 1 0] s ∧
        s.log = [.accepted 0 true, .accepted 0 true] := by
      apply Steps.exists_cons (.get (by decide) (by decide) rfl rfl)
      apply Steps.exists_cons (.get (by decide) (by decide) rfl rfl)
      apply Steps.exists_cons (.set (by decide) (by decide) rfl rfl)
      apply Steps.exists_cons (.set (by decide) (by decide) rfl rfl)
      exact ⟨_, .nil, rfl⟩
    obtain ⟨s, run, hlog⟩ := run
    have hfew := h _ s run [] 0 [.accepted 0 true] hlog
    exact absurd hfew (by decide)

end BaseCollector

end InstantBoard
