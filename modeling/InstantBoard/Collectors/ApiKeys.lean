import InstantBoard.Lib.Cyclic
import InstantBoard.Lib.Transition
import InstantBoard.Python.Stdlib

/-!
# The API key manager

`APIKeyManager.get_key`: the rotation counter names the place in the pool where one lap starts, and
the first key of the lap without a marker is served. Where a command fails the exception leads to
the round robin of the process.

A lap visits a rotation of the pool, so what a scan answers is read off the pool (`scan_healthy`,
`getKey_healthy`). Calls of any number of processes are then interleaved, each `INCR` and each turn
of a scan being a step of its own: whatever the order, a call's answer is that of its counter value
(`Sound.value`), and a block of counter values is served evenly.
-/

namespace InstantBoard

open Transition

/-- `AllKeysRateLimited` and `AllKeysUnavailable`. -/
inductive APIKeyPoolError where
  | allKeysRateLimited (service : String)
  | allKeysUnavailable (service : String)
  deriving DecidableEq

def APIKeyPoolError.message : APIKeyPoolError → String
  | .allKeysRateLimited service => "All API keys for service '" ++ service ++ "' are rate limited"
  | .allKeysUnavailable service => "No usable API keys for service '" ++ service ++ "'"

/-- What `get_key` ends with: a key or an exception. -/
abbrev KeyAnswer := String ⊕ APIKeyPoolError

/-- What the server answers during a call: to `INCR` of the rotation key, and to `EXISTS` of a
key. A command that raises has no answer. -/
structure KeyServer where
  incr : Option Int
  existsKey : String → Option Bool

/-- A server that answers every command, `counter` being the answer to `INCR`. -/
def KeyServer.healthy (counter : Int) (markers : String → Bool) : KeyServer where
  incr := some counter
  existsKey := fun key => some (markers key)

/-- A server that fails on every command. -/
def KeyServer.broken : KeyServer where
  incr := none
  existsKey := fun _ => none

/-- `key_hash` -/
def keyHash (py : Stdlib) (key : String) : String :=
  String.ofList ((py.md5 key).toList.take 12)

structure APIKeyManager where
  service : String
  keys : List String
  fallbackIndex : Nat

namespace APIKeyManager

variable (py : Stdlib) (m : APIKeyManager)

def limitedKey (key : String) : String :=
  "apikey:limited:" ++ m.service ++ ":" ++ keyHash py key

def invalidKey (key : String) : String :=
  "apikey:invalid:" ++ m.service ++ ":" ++ keyHash py key

/-- `start = (counter - 1) % len(self.keys)` -/
def start (counter : Int) : Nat :=
  Cyclic.place m.keys.length (counter - 1)

/-- One turn of the loop: the new `invalid_count`, or the candidate, which is served. -/
def turn (redis : KeyServer) (start offset invalidCount : Nat) : Option (Nat ⊕ String) := do
  let candidate ← m.keys[(start + offset) % m.keys.length]?
  let invalid ← redis.existsKey (m.invalidKey py candidate)
  if invalid then return .inl (invalidCount + 1)
  let limited ← redis.existsKey (m.limitedKey py candidate)
  if limited then return .inl invalidCount
  return .inr candidate

/-- What is raised when the lap is over. -/
def exhausted (invalidCount : Nat) : APIKeyPoolError :=
  if invalidCount = m.keys.length then .allKeysUnavailable m.service
  else .allKeysRateLimited m.service

/-- The loop over the offsets that are left. -/
def scan (redis : KeyServer) (start : Nat) : List Nat → Nat → Option KeyAnswer
  | [], invalidCount => some (.inr (m.exhausted invalidCount))
  | offset :: offsets, invalidCount =>
    (m.turn py redis start offset invalidCount).bind fun
      | .inl invalidCount => scan redis start offsets invalidCount
      | .inr candidate => some (.inl candidate)

/-- The `try` block of `get_key`; `none` is an exception of Redis. -/
def tryKey (redis : KeyServer) : Option KeyAnswer :=
  redis.incr.bind fun counter =>
    m.scan py redis (m.start counter) (List.range m.keys.length) 0

/-- The key that a cursor of the round robin names. -/
def fallbackKey (h : m.keys ≠ []) (index : Nat) : String :=
  m.keys.get ⟨index % m.keys.length, Nat.mod_lt _ (List.length_pos_of_ne_nil h)⟩

/-- `_next_fallback_key` -/
def nextFallbackKey (h : m.keys ≠ []) : KeyAnswer × APIKeyManager :=
  (.inl (m.fallbackKey h m.fallbackIndex), { m with fallbackIndex := m.fallbackIndex + 1 })

/-- `get_key`, with the manager after it. -/
def getKey (redis : KeyServer) : KeyAnswer × APIKeyManager :=
  if h : m.keys = [] then (.inr (.allKeysUnavailable m.service), m)
  else
    match m.tryKey py redis with
    | some answer => (answer, m)
    | none => m.nextFallbackKey h

/-- The answers to successive calls of one manager. -/
def getKeys (redis : KeyServer) : Nat → APIKeyManager → List KeyAnswer
  | 0, _ => []
  | n + 1, m => (m.getKey py redis).1 :: getKeys redis n (m.getKey py redis).2

/-! ## One call on a healthy server -/

variable (markers : String → Bool)

def Invalid (key : String) : Prop := markers (m.invalidKey py key) = true

def Limited (key : String) : Prop := markers (m.limitedKey py key) = true

/-- Neither marker is set. -/
def Usable (key : String) : Prop := ¬ m.Invalid py markers key ∧ ¬ m.Limited py markers key

instance : DecidablePred (m.Invalid py markers) := fun _ => inferInstanceAs (Decidable (_ = true))

instance : DecidablePred (m.Limited py markers) := fun _ => inferInstanceAs (Decidable (_ = true))

instance : DecidablePred (m.Usable py markers) := fun _ => inferInstanceAs (Decidable (_ ∧ _))

/-- What a lap over these candidates answers. -/
def answerOf (candidates : List String) (invalidCount : Nat) : KeyAnswer :=
  match candidates.find? fun key => m.Usable py markers key with
  | some key => .inl key
  | none => .inr (m.exhausted (invalidCount + candidates.countP fun key => m.Invalid py markers key))

variable {py m markers}

/-- A turn at a key counts it as invalid, passes over it or serves it. -/
lemma turn_healthy {counter : Int} {start offset : Nat} {key : String}
    (hkey : m.keys[(start + offset) % m.keys.length]? = some key) (invalidCount : Nat) :
    m.turn py (.healthy counter markers) start offset invalidCount =
      if m.Invalid py markers key then some (.inl (invalidCount + 1))
      else if m.Limited py markers key then some (.inl invalidCount) else some (.inr key) := by
  unfold turn
  rw [hkey]
  simp only [Option.bind_eq_bind, Option.bind_some, KeyServer.healthy, Option.pure_def]
  rfl

/-- What a scan answers is read off the keys it visits. -/
lemma scan_healthy {counter : Int} {start : Nat} {offsets : List Nat} {candidates : List String}
    (hlap : offsets.map (fun offset => m.keys[(start + offset) % m.keys.length]?) =
      candidates.map some) (invalidCount : Nat) :
    m.scan py (.healthy counter markers) start offsets invalidCount =
      some (m.answerOf py markers candidates invalidCount) := by
  induction offsets generalizing candidates invalidCount with
  | nil =>
    cases candidates with
    | nil => rfl
    | cons key candidates => cases hlap
  | cons offset offsets ih =>
    cases candidates with
    | nil => cases hlap
    | cons key candidates =>
      rw [List.map_cons, List.map_cons, List.cons.injEq] at hlap
      obtain ⟨hkey, hlap⟩ := hlap
      unfold scan
      rw [turn_healthy hkey]
      by_cases hinvalid : m.Invalid py markers key
      · have hnot : ¬ m.Usable py markers key := fun h => h.1 hinvalid
        rw [if_pos hinvalid, Option.bind_some]
        refine (ih hlap (invalidCount + 1)).trans ?_
        simp only [answerOf, List.find?_cons, hnot, decide_false, List.countP_cons, hinvalid,
          decide_true, if_true]
        rw [Nat.add_assoc, Nat.add_comm 1]
      · rw [if_neg hinvalid]
        by_cases hlimited : m.Limited py markers key
        · have hnot : ¬ m.Usable py markers key := fun h => h.2 hlimited
          rw [if_pos hlimited, Option.bind_some]
          refine (ih hlap invalidCount).trans ?_
          simp [answerOf, hnot, hinvalid]
        · have husable : m.Usable py markers key := ⟨hinvalid, hlimited⟩
          rw [if_neg hlimited, Option.bind_some]
          simp [answerOf, husable]

/-- A call visits the rotated pool. -/
lemma tryKey_healthy (counter : Int) :
    m.tryKey py (.healthy counter markers) =
      some (m.answerOf py markers (m.keys.rotate (m.start counter)) 0) :=
  scan_healthy (Cyclic.lap_eq_rotate m.keys (m.start counter)) 0

/-- The three outcomes of a call on a healthy server. -/
structure Rotated (py : Stdlib) (m : APIKeyManager) (markers : String → Bool) (answer : KeyAnswer) :
    Prop where
  serves : (∃ key ∈ m.keys, m.Usable py markers key) →
    ∃ key ∈ m.keys, m.Usable py markers key ∧ answer = .inl key
  unavailable : answer = .inr (.allKeysUnavailable m.service) ↔
    m.keys = [] ∨ ∀ key ∈ m.keys, m.Invalid py markers key
  rateLimited : answer = .inr (.allKeysRateLimited m.service) ↔
    (∀ key ∈ m.keys, ¬ m.Usable py markers key) ∧ ∃ key ∈ m.keys, ¬ m.Invalid py markers key

/-- A lap that visits the whole pool has the outcome the markers call for. -/
lemma Rotated.of_perm {candidates : List String} (h : candidates.Perm m.keys) :
    Rotated py m markers (m.answerOf py markers candidates 0) := by
  unfold answerOf
  cases hfind : candidates.find? fun key => m.Usable py markers key with
  | some key =>
    have hin : key ∈ m.keys := h.mem_iff.1 (List.mem_of_find?_eq_some hfind)
    have husable : m.Usable py markers key := by
      simpa using List.find?_some hfind
    refine ⟨fun _ => ⟨key, hin, husable, rfl⟩, ?_, ?_⟩
    · constructor
      · intro heq
        cases heq
      · rintro (hnil | hall)
        · rw [hnil] at hin
          cases hin
        · exact absurd (hall key hin) husable.1
    · constructor
      · intro heq
        cases heq
      · rintro ⟨hnone, _⟩
        exact absurd husable (hnone key hin)
  | none =>
    have hnone : ∀ key ∈ m.keys, ¬ m.Usable py markers key := by
      intro key hin
      simpa using List.find?_eq_none.1 hfind key (h.mem_iff.2 hin)
    have hcount : candidates.countP (fun key => m.Invalid py markers key) = m.keys.length ↔
        ∀ key ∈ m.keys, m.Invalid py markers key := by
      rw [h.countP_eq, List.countP_eq_length]
      simp only [decide_eq_true_eq]
    refine ⟨?_, ?_, ?_⟩
    · rintro ⟨key, hin, husable⟩
      exact absurd husable (hnone key hin)
    · simp only [exhausted, Nat.zero_add, hcount]
      split
      · rename_i hall
        exact ⟨fun _ => .inr hall, fun _ => rfl⟩
      · rename_i hall
        constructor
        · intro heq
          cases heq
        · rintro (hnil | hall')
          · rw [hnil] at hall
            exact absurd (fun key hin => by cases hin) hall
          · exact absurd hall' hall
    · simp only [exhausted, Nat.zero_add, hcount]
      split
      · rename_i hall
        constructor
        · intro heq
          cases heq
        · rintro ⟨_, key, hin, hvalid⟩
          exact absurd (hall key hin) hvalid
      · rename_i hall
        exact ⟨fun _ => ⟨hnone, by simpa using hall⟩, fun _ => rfl⟩

/-- `get_key` on a healthy server: the outcome the markers call for, and no change of the cursor. -/
lemma getKey_healthy (m : APIKeyManager) (counter : Int) :
    Rotated py m markers (m.getKey py (.healthy counter markers)).1 ∧
      (m.getKey py (.healthy counter markers)).2 = m := by
  unfold getKey
  split
  · rename_i hnil
    refine ⟨⟨?_, ?_, ?_⟩, rfl⟩
    · rintro ⟨key, hin, _⟩
      rw [hnil] at hin
      cases hin
    · exact ⟨fun _ => .inl hnil, fun _ => rfl⟩
    · constructor
      · intro heq
        cases heq
      · rintro ⟨_, key, hin, _⟩
        rw [hnil] at hin
        cases hin
  · rw [tryKey_healthy]
    exact ⟨.of_perm (m.keys.rotate_perm _), rfl⟩

/-! ## Calls of any number of processes -/

/-- A call after its `INCR`: the counter it got, the offsets it has not tried, and
`invalid_count`. -/
structure Scan where
  counter : Int
  offsets : List Nat
  invalidCount : Nat

/-- The next step of a call: the rest of it, or its answer. -/
def Scan.next (py : Stdlib) (m : APIKeyManager) (markers : String → Bool) (s : Scan) :
    Option (Scan ⊕ KeyAnswer) :=
  match s.offsets with
  | [] => some (.inr (.inr (m.exhausted s.invalidCount)))
  | offset :: offsets =>
    (m.turn py (.healthy s.counter markers) (m.start s.counter) offset s.invalidCount).map fun
      | .inl invalidCount => .inl { s with offsets, invalidCount }
      | .inr candidate => .inr (.inl candidate)

/-- The rotation counter, the calls under way by an id of their own, and the answers given so far,
each with the counter value it was given for. -/
structure KeyCalls where
  counter : Int
  calls : Nat → Option Scan
  answered : List (Int × KeyAnswer)

def KeyCalls.init (counter : Int) : KeyCalls :=
  { counter, calls := fun _ => none, answered := [] }

/-- One step of the call `id` of some process. -/
inductive Interleaved (py : Stdlib) (m : APIKeyManager) (markers : String → Bool) :
    KeyCalls → Nat → KeyCalls → Prop where
  | incr {w id} :
    m.keys ≠ [] →
    w.calls id = none →
    Interleaved py m markers w id
      { w with
        counter := w.counter + 1
        calls := Function.update w.calls id
          (some ⟨w.counter + 1, List.range m.keys.length, 0⟩) }
  | turn {w id s s'} :
    w.calls id = some s →
    s.next py m markers = some (.inl s') →
    Interleaved py m markers w id { w with calls := Function.update w.calls id (some s') }
  | answer {w id s a} :
    w.calls id = some s →
    s.next py m markers = some (.inr a) →
    Interleaved py m markers w id
      { w with
        calls := Function.update w.calls id none
        answered := w.answered ++ [(s.counter, a)] }

/-- What a call will answer if nothing but the markers decides. -/
def Scan.result (py : Stdlib) (m : APIKeyManager) (markers : String → Bool) (s : Scan) :
    Option KeyAnswer :=
  m.scan py (.healthy s.counter markers) (m.start s.counter) s.offsets s.invalidCount

/-- A step of a call changes neither its counter nor what it will answer. -/
lemma Scan.result_of_next {s s' : Scan} (h : s.next py m markers = some (.inl s')) :
    s'.counter = s.counter ∧ s'.result py m markers = s.result py m markers := by
  obtain ⟨counter, offsets, invalidCount⟩ := s
  cases offsets with
  | nil => cases h
  | cons offset offsets =>
    obtain ⟨out, hturn, hout⟩ := Option.map_eq_some_iff.1 h
    cases out with
    | inl n =>
      cases hout
      refine ⟨rfl, ?_⟩
      show _ = m.scan py _ _ (offset :: offsets) invalidCount
      unfold scan
      rw [hturn]
      rfl
    | inr candidate => cases hout

/-- A call answers what it would have answered all along. -/
lemma Scan.result_of_answer {s : Scan} {a : KeyAnswer} (h : s.next py m markers = some (.inr a)) :
    s.result py m markers = some a := by
  obtain ⟨counter, offsets, invalidCount⟩ := s
  cases offsets with
  | nil =>
    cases h
    rfl
  | cons offset offsets =>
    obtain ⟨out, hturn, hout⟩ := Option.map_eq_some_iff.1 h
    cases out with
    | inl n => cases hout
    | inr candidate =>
      cases hout
      show m.scan py _ _ (offset :: offsets) invalidCount = _
      unfold scan
      rw [hturn]
      rfl

/-- Each counter value belongs to one call, which is under way or has been answered, and the
answer is the one `get_key` gives at that value. -/
structure Sound (py : Stdlib) (m : APIKeyManager) (markers : String → Bool) (w : KeyCalls) :
    Prop where
  underWay : ∀ {id s}, w.calls id = some s → s.counter ≤ w.counter ∧
    s.result py m markers = m.tryKey py (.healthy s.counter markers)
  apart : ∀ {id id' s s'}, w.calls id = some s → w.calls id' = some s' →
    s.counter = s'.counter → id = id'
  unanswered : ∀ {id s}, w.calls id = some s → s.counter ∉ w.answered.map Prod.fst
  nodup : (w.answered.map Prod.fst).Nodup
  le : ∀ c ∈ w.answered.map Prod.fst, c ≤ w.counter
  value : ∀ e ∈ w.answered, m.tryKey py (.healthy e.1 markers) = some e.2

/-- The state before any call is sound. -/
lemma Sound.init (counter : Int) : Sound py m markers (.init counter) where
  underWay := fun h => by cases h
  apart := fun h => by cases h
  unanswered := fun h => by cases h
  nodup := List.nodup_nil
  le := fun _ h => by cases h
  value := fun _ h => by cases h

/-- A scan after an update is the new one or another call's. -/
lemma update_eq_some {calls : Nat → Option Scan} {id id' : Nat} {s : Option Scan} {s' : Scan}
    (h : Function.update calls id s id' = some s') :
    (id' = id ∧ s = some s') ∨ (id' ≠ id ∧ calls id' = some s') := by
  by_cases hid : id' = id
  · subst hid
    rw [Function.update_self] at h
    exact .inl ⟨rfl, h⟩
  · rw [Function.update_of_ne hid] at h
    exact .inr ⟨hid, h⟩

/-- A call may get to a scan whose counter value no other call has or had. -/
lemma Sound.put {w : KeyCalls} (hw : Sound py m markers w) {counter : Int} (hle : w.counter ≤ counter)
    {id : Nat} {t : Scan} (htle : t.counter ≤ counter)
    (hresult : t.result py m markers = m.tryKey py (.healthy t.counter markers))
    (apart : ∀ {id' s}, w.calls id' = some s → s.counter = t.counter → id' = id)
    (unanswered : t.counter ∉ w.answered.map Prod.fst) :
    Sound py m markers { w with counter, calls := Function.update w.calls id (some t) } where
  underWay := by
    intro id' s h
    obtain ⟨_, hs⟩ | ⟨_, hs⟩ := update_eq_some h
    · cases hs
      exact ⟨htle, hresult⟩
    · exact ⟨Int.le_trans (hw.underWay hs).1 hle, (hw.underWay hs).2⟩
  apart := by
    intro id₁ id₂ s₁ s₂ h₁ h₂ heq
    obtain ⟨hid₁, hs₁⟩ | ⟨_, hs₁⟩ := update_eq_some h₁ <;>
      obtain ⟨hid₂, hs₂⟩ | ⟨_, hs₂⟩ := update_eq_some h₂
    · rw [hid₁, hid₂]
    · cases hs₁
      rw [hid₁]
      exact (apart hs₂ heq.symm).symm
    · cases hs₂
      rw [hid₂]
      exact apart hs₁ heq
    · exact hw.apart hs₁ hs₂ heq
  unanswered := by
    intro id' s h
    obtain ⟨_, hs⟩ | ⟨_, hs⟩ := update_eq_some h
    · cases hs
      exact unanswered
    · exact hw.unanswered hs
  nodup := hw.nodup
  le := fun c hc => Int.le_trans (hw.le c hc) hle
  value := hw.value

/-- A call that is under way gives its answer. -/
lemma Sound.answer {w : KeyCalls} (hw : Sound py m markers w) {id : Nat} {s : Scan}
    (hs : w.calls id = some s) {a : KeyAnswer} (ha : s.result py m markers = some a) :
    Sound py m markers { w with
      calls := Function.update w.calls id none
      answered := w.answered ++ [(s.counter, a)] } := by
  have hold : ∀ {id' t}, Function.update w.calls id none id' = some t →
      id' ≠ id ∧ w.calls id' = some t := by
    intro id' t h
    obtain ⟨_, ht⟩ | ht := update_eq_some h
    · cases ht
    · exact ht
  refine ⟨fun h => hw.underWay (hold h).2, fun h h' => hw.apart (hold h).2 (hold h').2, ?_, ?_,
    ?_, ?_⟩
  · intro id' t h hin
    obtain ⟨hne, ht⟩ := hold h
    rw [List.map_append, List.mem_append] at hin
    rcases hin with hin | hin
    · exact hw.unanswered ht hin
    · have heq : t.counter = s.counter := by simpa using hin
      exact hne (hw.apart ht hs heq)
  · rw [List.map_append]
    exact hw.nodup.append (List.nodup_singleton _) (by simpa using hw.unanswered hs)
  · intro c hc
    rw [List.map_append, List.mem_append] at hc
    rcases hc with hc | hc
    · exact hw.le c hc
    · have heq : c = s.counter := by simpa using hc
      rw [heq]
      exact (hw.underWay hs).1
  · intro e he
    rcases List.mem_append.1 he with he | he
    · exact hw.value e he
    · cases List.mem_singleton.1 he
      rw [← (hw.underWay hs).2]
      exact ha

/-- One step keeps the calls sound. -/
lemma Sound.step {w w' : KeyCalls} {id : Nat} (hw : Sound py m markers w)
    (hst : Interleaved py m markers w id w') : Sound py m markers w' := by
  cases hst with
  | incr _ hfree =>
    -- the new counter value is above every other
    apply hw.put (Int.le_add_one (Int.le_refl _)) (Int.le_refl _) rfl
    · intro id' s hs heq
      have hle := (hw.underWay hs).1
      rw [heq] at hle
      exact absurd hle (by simp)
    · intro hin
      exact absurd (hw.le _ hin) (by simp)
  | @turn s s' hs hnext =>
    obtain ⟨hcounter, hresult⟩ := Scan.result_of_next hnext
    obtain ⟨hle, heq⟩ := hw.underWay hs
    apply hw.put (Int.le_refl _)
    · rw [hcounter]
      exact hle
    · rw [hcounter, hresult]
      exact heq
    · intro id' t ht hc
      exact hw.apart ht hs (hc.trans hcounter)
    · rw [hcounter]
      exact hw.unanswered hs
  | answer hs hnext => exact hw.answer hs (Scan.result_of_answer hnext)

/-- Without markers the key at the start of the lap is served. -/
lemma tryKey_unmarked (hne : m.keys ≠ []) (counter : Int) {key : String} :
    m.tryKey py (.healthy counter fun _ => false) = some (.inl key) ↔
      m.keys[m.start counter]? = some key := by
  have husable : ∀ key, m.Usable py (fun _ => false) key := by
    intro key
    simp [Usable, Invalid, Limited]
  have hlt : m.start counter < m.keys.length :=
    Cyclic.place_lt (List.length_pos_of_ne_nil hne) (counter - 1)
  rw [tryKey_healthy, Option.some.injEq, ← List.head?_rotate hlt]
  cases hlap : m.keys.rotate (m.start counter) with
  | nil =>
    rw [List.rotate_eq_nil_iff] at hlap
    exact absurd hlap hne
  | cons first rest =>
    have hanswer : m.answerOf py (fun _ => false) (first :: rest) 0 = .inl first := by
      simp [answerOf, husable]
    rw [hanswer, List.head?_cons, Sum.inl.injEq, Option.some.injEq]

/-- A block of counter values, as many as a number of laps, is served evenly. -/
lemma Sound.evenly {w : KeyCalls} (hw : Sound py m (fun _ => false) w) (nodup : m.keys.Nodup)
    {a : Int} {laps : Nat} (covers : ∀ c, a ≤ c → c < a + laps * m.keys.length →
      c ∈ w.answered.map Prod.fst) {key : String} (hkey : key ∈ m.keys) :
    (w.answered.filter fun e =>
      a ≤ e.1 ∧ e.1 < a + laps * m.keys.length ∧ e.2 = .inl key).length = laps := by
  have hne : m.keys ≠ [] := List.ne_nil_of_mem hkey
  let served (c : Int) : KeyAnswer :=
    (m.tryKey py (.healthy c fun _ => false)).getD (.inr (m.exhausted 0))
  have hvalue : ∀ e ∈ w.answered, e.2 = served e.1 := by
    intro e he
    simp only [served, hw.value e he, Option.getD_some]
  have hserved : ∀ c, served c = .inl key ↔
      m.keys[Cyclic.place m.keys.length (c + -1)]? = some key := by
    intro c
    show _ ↔ m.keys[m.start c]? = some key
    rw [← @tryKey_unmarked py m hne]
    simp only [served, tryKey_healthy, Option.getD_some, Option.some.injEq]
  rw [Cyclic.length_filter_log (f := served) hw.nodup hvalue covers,
    Finset.filter_congr fun c _ => hserved c]
  exact Cyclic.card_block nodup hkey a (-1) laps

/-! ## Redis failing on every command -/

/-- Successive calls of one manager go round the pool from its cursor on. -/
lemma getKeys_broken (h : m.keys ≠ []) (n : Nat) :
    m.getKeys py .broken n =
      (List.range n).map fun i => .inl (m.fallbackKey h (m.fallbackIndex + i)) := by
  induction n generalizing m with
  | zero => rfl
  | succ n ih =>
    have hcall : m.getKey py .broken = m.nextFallbackKey h := by
      unfold getKey
      rw [dif_neg h]
      rfl
    unfold getKeys
    rw [hcall, ih (m := (m.nextFallbackKey h).2) h, List.range_succ_eq_map, List.map_cons,
      List.map_map]
    congr 1
    apply List.map_congr_left
    intro i _
    show _ = Sum.inl (m.fallbackKey h (m.fallbackIndex + (i + 1)))
    rw [Nat.add_comm i 1, ← Nat.add_assoc]
    rfl

end APIKeyManager

end InstantBoard
