import InstantBoard.Collectors.Base
import InstantBoard.Models
import InstantBoard.Services.Tech

/-!
# Collectors and the services they ask

A collector class is its three hooks. `fetch_data` sends requests, and each ends in a response or in an
exception; what an attempt of it comes to is a function of how its requests end, which are numbered in
the order of the items they are for. `collect` makes up to `max_retries` attempts.
-/

namespace InstantBoard

/-- How a request of the HTTP client ends. -/
inductive HttpOutcome where
  /-- `httpx.TimeoutException` -/
  | timeout
  /-- Any other `httpx.HTTPError`. -/
  | httpError
  /-- Any other exception. -/
  | raised (message : String)
  /-- `json` is `response.json()`, which may raise. -/
  | response (status : Nat) (text : String) (json : Except String Json)

/-- How the requests of one attempt end. -/
abbrev Upstream := Nat → HttpOutcome

namespace HttpOutcome

/-- The request is answered with this status. -/
def HasStatus (o : HttpOutcome) (status : Nat) : Prop :=
  match o with
  | .response s _ _ => s = status
  | .timeout | .httpError | .raised _ => False

instance (o : HttpOutcome) (status : Nat) : Decidable (o.HasStatus status) := by
  unfold HasStatus
  split <;> infer_instance

/-- The client raises something that is not its own error. -/
def Raised : HttpOutcome → Prop
  | .raised _ => True
  | .timeout | .httpError | .response _ _ _ => False

instance : DecidablePred Raised := fun o => by
  unfold Raised
  split <;> infer_instance

end HttpOutcome

/-- No request is answered with 200. -/
def Upstream.Out (up : Upstream) : Prop :=
  ∀ k, ¬ (up k).HasStatus 200

/-- A collector class. -/
structure Collector where
  maxRetries : Nat
  rateLimitPerMinute : Nat
  fetchData : Source → Upstream → Except String (Option Json)
  parseData : Source → Json → Except String (List Dict)
  validateData : List Dict → Except String (List Dict)

/-- What a `collect` call meets: the answer of the rate limit, where there is one, and how the requests
of each attempt end. -/
structure Conditions where
  rateOk : Bool
  attempts : Nat → Upstream
  elapsedMs : Nat

namespace Collector

variable (c : Collector) (source : Source)

/-- The attempts, as far as they are made. -/
def fetches (m : Conditions) : List (Except String (Option Json)) :=
  (List.range c.maxRetries).map fun i => c.fetchData source (m.attempts i)

def run (m : Conditions) : BaseCollector.Run where
  rateOk := c.rateLimitPerMinute == 0 || m.rateOk
  maxRetries := c.maxRetries
  fetches := c.fetches source m
  parseData := c.parseData source
  validateData := c.validateData
  elapsedMs := m.elapsedMs

/-- `collect` -/
def collect (m : Conditions) : CollectOutcome :=
  BaseCollector.collect (c.run source m)

/-- The rate limit refuses the call. -/
def Refuses (m : Conditions) : Prop :=
  c.rateLimitPerMinute ≠ 0 ∧ m.rateOk = false

/-- `validate_data` of the base class. -/
def requireTitleAndUrl (items : List Dict) : Except String (List Dict) :=
  .ok (items.filter fun item =>
    (item.getD "title" .null).truthy && (item.getD "url" .null).truthy)

end Collector

/-- The retry loop ends with the first attempt that does not raise. -/
lemma BaseCollector.collectWithRetry_map {α : Type} {f : α → Except String (Option Json)} :
    {l : List α} → collectWithRetry (l.map f) =
      match l.find? fun a => (f a).toOption.isSome with
      | none => none
      | some a => ((f a).toOption).join
  | [] => rfl
  | a :: l => by
    rw [List.map_cons, List.find?_cons]
    cases h : f a with
    | ok rawData =>
      show rawData = Option.join (Except.toOption (f a))
      rw [h]
      rfl
    | error e => exact collectWithRetry_map

namespace Collector

/-! ## One call -/

section

variable {c : Collector} {source : Source} {m : Conditions}

/-- `collect`, from how its attempts end. -/
lemma collect_eq (hrate : ¬ c.Refuses m) :
    c.collect source m =
      match (List.range c.maxRetries).find? fun i =>
          (c.fetchData source (m.attempts i)).toOption.isSome with
      | none => .fetchFailed m.elapsedMs
      | some i =>
        match (c.fetchData source (m.attempts i)).toOption.join with
        | none => .fetchFailed m.elapsedMs
        | some rawData =>
          match c.parseData source rawData with
          | .error e => .parseFailed m.elapsedMs e
          | .ok parsed =>
            match c.validateData parsed with
            | .error e => .validationFailed m.elapsedMs e
            | .ok validated => .validated m.elapsedMs validated := by
  have hok : (c.run source m).rateOk = true := by
    show (c.rateLimitPerMinute == 0 || m.rateOk) = true
    by_cases hzero : c.rateLimitPerMinute = 0
    · simp [hzero]
    · have hrate : m.rateOk = true := by
        by_contra hno
        exact hrate ⟨hzero, Bool.eq_false_of_not_eq_true hno⟩
      simp [hrate]
  have htake : (c.run source m).fetches.take (c.run source m).maxRetries = c.fetches source m := by
    apply List.take_of_length_le
    show (c.fetches source m).length ≤ c.maxRetries
    simp [Collector.fetches]
  unfold Collector.collect BaseCollector.collect
  rw [hok, htake]
  show (match BaseCollector.collectWithRetry (c.fetches source m) with
    | none => CollectOutcome.fetchFailed m.elapsedMs
    | some rawData => _) = _
  unfold Collector.fetches
  rw [BaseCollector.collectWithRetry_map]
  cases (List.range c.maxRetries).find? fun i =>
    (c.fetchData source (m.attempts i)).toOption.isSome with
  | none => rfl
  | some i => rfl

/-- The first attempt that does not raise. -/
lemma find?_first {i : Nat} (hi : i < c.maxRetries)
    (hbefore : ∀ j < i, ∃ e, c.fetchData source (m.attempts j) = .error e) {raw : Option Json}
    (hfetch : c.fetchData source (m.attempts i) = .ok raw) :
    ((List.range c.maxRetries).find? fun i =>
      (c.fetchData source (m.attempts i)).toOption.isSome) = some i := by
  rw [List.find?_range_eq_some]
  refine ⟨?_, List.mem_range.2 hi, ?_⟩
  · rw [hfetch]
    rfl
  · intro j hj
    obtain ⟨e, he⟩ := hbefore j hj
    rw [he]
    rfl

/-- The attempts before raise, and what one hands back is parsed and validated. -/
lemma collect_validated (hrate : ¬ c.Refuses m) {i : Nat} (hi : i < c.maxRetries)
    (hbefore : ∀ j < i, ∃ e, c.fetchData source (m.attempts j) = .error e) {rawData : Json}
    (hfetch : c.fetchData source (m.attempts i) = .ok (some rawData)) {parsed validated : List Dict}
    (hparse : c.parseData source rawData = .ok parsed)
    (hvalidate : c.validateData parsed = .ok validated) :
    c.collect source m = .validated m.elapsedMs validated := by
  rw [collect_eq hrate, find?_first hi hbefore hfetch]
  show (match (c.fetchData source (m.attempts i)).toOption.join with
    | none => CollectOutcome.fetchFailed m.elapsedMs
    | some rawData => _) = _
  rw [hfetch]
  show (match c.parseData source rawData with
    | .error e => CollectOutcome.parseFailed m.elapsedMs e
    | .ok parsed => _) = _
  rw [hparse]
  show (match c.validateData parsed with
    | .error e => CollectOutcome.validationFailed m.elapsedMs e
    | .ok validated => _) = _
  rw [hvalidate]

/-- An attempt that answers without items, where those that do not raise. -/
lemma collect_empty_of_exists (hrate : ¬ c.Refuses m)
    (hparse : c.parseData source (.arr []) = .ok []) (hvalidate : c.validateData [] = .ok [])
    {P : Nat → Prop} (hP : ∀ i, P i → c.fetchData source (m.attempts i) = .ok (some (.arr [])))
    (hnot : ∀ i, ¬ P i → ∃ e, c.fetchData source (m.attempts i) = .error e)
    (h : ∃ i < c.maxRetries, P i) : c.collect source m = .validated m.elapsedMs [] := by
  classical
  obtain ⟨hi, hfirst⟩ := Nat.find_spec h
  refine collect_validated hrate hi ?_ (hP _ hfirst) hparse hvalidate
  intro j hj
  apply hnot
  intro hPj
  exact Nat.find_min h hj ⟨hj.trans hi, hPj⟩

/-- Attempts that raise or, at the latest after another that did, hand back nothing. -/
lemma collect_failed (hrate : ¬ c.Refuses m)
    (h : ∀ i < c.maxRetries, (∃ e, c.fetchData source (m.attempts i) = .error e) ∨
      ∃ j ≤ i, c.fetchData source (m.attempts j) = .ok none) :
    c.collect source m = .fetchFailed m.elapsedMs := by
  rw [collect_eq hrate]
  cases hfind : (List.range c.maxRetries).find? fun i =>
    (c.fetchData source (m.attempts i)).toOption.isSome with
  | none => rfl
  | some i =>
    rw [List.find?_range_eq_some] at hfind
    obtain ⟨hok, hi, hbefore⟩ := hfind
    rcases h i (List.mem_range.1 hi) with ⟨e, he⟩ | ⟨j, hj, hnone⟩
    · rw [he] at hok
      cases hok
    · rcases Nat.lt_or_eq_of_le hj with hj | rfl
      · have hraises := hbefore j hj
        rw [hnone] at hraises
        cases hraises
      · show (match (c.fetchData source (m.attempts j)).toOption.join with
          | none => CollectOutcome.fetchFailed m.elapsedMs
          | some rawData => _) = _
        rw [hnone]
        rfl

end

end Collector

end InstantBoard
