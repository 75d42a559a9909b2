import InstantBoard.Collectors.ApiKeys
import InstantBoard.Collectors.Http
import InstantBoard.Finance.Collectors

/-!
# The Finnhub collector

`_fetch_stock_quotes`: one symbol after the other, with the key in use carried along. A key whose quote
request is answered 401, 403 or 429 is marked and the next one asked of the key manager, which serves no
marked key; the fetch gives up only when all are marked.

A quote with a price is followed by a request for the company's name, sent with the same key. How that
one ends is swallowed: the key stays in use whatever the status was, so that it is used again for the
next symbol after a 401, 403 or 429 (`stock_quotes_rotate_keys`).
-/

namespace InstantBoard

/-- The request is answered with a status that takes the key out of use. -/
def HttpOutcome.Refuses (o : HttpOutcome) : Prop :=
  o.HasStatus 429 ∨ o.HasStatus 401 ∨ o.HasStatus 403

instance : DecidablePred HttpOutcome.Refuses := fun _ => inferInstanceAs (Decidable (_ ∨ _))

/-- How `_fetch_single_quote` ends. -/
inductive QuoteResponse where
  | quote (quote : Dict)
  /-- an answer without a price -/
  | empty
  /-- `httpx.HTTPStatusError` -/
  | httpError (status : Nat)
  /-- any other exception -/
  | failed

def QuoteResponse.quote? : QuoteResponse → Option Dict
  | .quote q => some q
  | .empty | .httpError _ | .failed => none

/-- What meets an attempt: how the quote request ends, how the request for the name ends if it is sent,
and what the server holds when the next key is asked for, the answer to `INCR` and the markers that
others have set meanwhile. -/
structure Exchange where
  quote : HttpOutcome
  profile : HttpOutcome
  counter : Int
  others : String → Bool

/-- A quote request, for the symbol at a position of the list, and the request for the company's name
where it is followed by one. -/
structure QuoteRequest where
  position : Nat
  symbol : String
  apiKey : String
  quote : HttpOutcome
  profile : Option HttpOutcome
  response : QuoteResponse

/-- The key has received 401, 403 or 429, for the quote or for the name. -/
def QuoteRequest.Refused (r : QuoteRequest) : Prop :=
  r.quote.Refuses ∨ ∃ o ∈ r.profile, o.Refuses

/-- `__init__` gives the manager the collector's keys. -/
structure FinnhubCollector where
  apiKeys : List String
  keyManager : APIKeyManager
  keys_eq : keyManager.keys = apiKeys

/-- A fetch on its way: the key in use, the markers on the server, the manager, and the requests so
far. -/
structure Fetch where
  apiKey : String
  markers : String → Bool
  keyManager : APIKeyManager
  log : List QuoteRequest

namespace FinnhubCollector

variable (py : Stdlib) (num : Finance.Numbers) (now : Json)

/-- The answer to a quote request, when it has a price. -/
def priced : HttpOutcome → Option Dict
  | .response status _ (.ok (.obj data)) =>
    if 200 ≤ status ∧ status < 300 ∧ data ≠ [] ∧
        Finance.Finnhub.isZero (Dict.getD data "c" (.int 0)) = false then some data
    else none
  | .response _ _ _ | .timeout | .httpError | .raised _ => none

/-- `_fetch_company_name` -/
def fetchCompanyName (symbol : String) : HttpOutcome → Json
  | .response 200 _ (.ok (.obj data)) => Dict.getD data "name" (.str symbol)
  | .response _ _ _ | .timeout | .httpError | .raised _ => .str symbol

/-- `_fetch_single_quote` -/
def fetchSingleQuote (symbol : String) (e : Exchange) : QuoteResponse :=
  match priced e.quote with
  | some data =>
    match Finance.Finnhub.normalizeQuote num symbol now (fetchCompanyName symbol e.profile) data with
    | some quote => .quote quote
    | none => .failed
  | none =>
    match e.quote with
    | .timeout | .httpError | .raised _ => .failed
    | .response status _ json =>
      -- `raise_for_status`
      if ¬ (200 ≤ status ∧ status < 300) then .httpError status
      else match json with
        | .error _ => .failed
        | .ok (.obj _) => .empty
        -- `data.get` of something else
        | .ok data => if data.truthy then .failed else .empty

/-- The request for the name, if it is sent. -/
def askedName (e : Exchange) : Option HttpOutcome :=
  (priced e.quote).map fun _ => e.profile

/-- `_next_key_or_none` -/
def nextKeyOrNone (m : APIKeyManager) (redis : KeyServer) : Option String × APIKeyManager :=
  match m.getKey py redis with
  | (.inl key, m) => (some key, m)
  | (.inr _, m) => (none, m)

/-- The marker of the key in use: `mark_rate_limited` or `mark_invalid`. -/
def marker (s : Fetch) (status : Nat) : String :=
  if status = 429 then s.keyManager.limitedKey py s.apiKey else s.keyManager.invalidKey py s.apiKey

/-- From the marker to the next key; an error is the fetch given up. -/
def rotateKey (s : Fetch) (status : Nat) (e : Exchange) : Except Fetch Fetch :=
  let markers := fun key => s.markers key || decide (key = marker py s status) || e.others key
  let (nextKey, keyManager) := nextKeyOrNone py s.keyManager (.healthy e.counter markers)
  match nextKey with
  | none => .error { s with markers, keyManager }
  | some nextKey =>
    if (status = 401 ∨ status = 403) ∧ nextKey = s.apiKey then .error { s with markers, keyManager }
    else .ok { s with apiKey := nextKey, markers, keyManager }

/-- The requests of an attempt, with the key in use. -/
def request (s : Fetch) (position : Nat) (symbol : String) (e : Exchange) : QuoteRequest where
  position
  symbol
  apiKey := s.apiKey
  quote := e.quote
  profile := askedName e
  response := fetchSingleQuote num now symbol e

def send (s : Fetch) (position : Nat) (symbol : String) (e : Exchange) : Fetch :=
  { s with log := s.log ++ [request num now s position symbol e] }

/-- The loop over the attempts for one symbol. -/
def trySymbol (env : Nat → Exchange) (position : Nat) (symbol : String) :
    Nat → Fetch → Except Fetch (Option Dict × Fetch)
  | 0, s => .ok (none, s)
  | n + 1, s =>
    let e := env s.log.length
    let s := send num now s position symbol e
    match fetchSingleQuote num now symbol e with
    | .quote quote => .ok (some quote, s)
    | .empty => .ok (none, s)
    | .failed => .ok (none, s)
    | .httpError status =>
      if status = 429 ∨ status = 401 ∨ status = 403 then
        match rotateKey py s status e with
        | .ok s => trySymbol env position symbol n s
        | .error s => .error s
      else .ok (none, s)

/-- The loop over the symbols. -/
def fetchFrom (env : Nat → Exchange) (maxAttempts : Nat) :
    List String → Nat → List Dict → Fetch → Except Fetch (List Dict × Fetch)
  | [], _, results, s => .ok (results, s)
  | symbol :: symbols, position, results, s =>
    match trySymbol py num now env position symbol maxAttempts s with
    | .ok (quote, s) => fetchFrom env maxAttempts symbols (position + 1) (results ++ quote.toList) s
    | .error s => .error s

/-- `max_attempts` -/
def maxAttempts (c : FinnhubCollector) : Nat :=
  max c.apiKeys.length 1 + 1

/-- `_fetch_stock_quotes`, with the state it ends in. -/
def fetchStockQuotes (c : FinnhubCollector) (env : Nat → Exchange) (symbols : List String)
    (apiKey : String) (markers : String → Bool) : Option (List Dict) × Fetch :=
  let s : Fetch := { apiKey, markers, keyManager := c.keyManager, log := [] }
  match fetchFrom py num now env c.maxAttempts symbols 0 [] s with
  | .ok (results, s) => (some results, s)
  | .error s => (none, s)

/-! ## The exchanges -/

/-- A quote request that is answered 401, 403 or 429 is the last with its key. -/
def AfterQuote (log : List QuoteRequest) : Prop :=
  log.Pairwise fun r r' => r.quote.Refuses → r'.apiKey ≠ r.apiKey

/-- No quote request is sent with a key that has received 401, 403 or 429, be it for a name. -/
def NeverReused (log : List QuoteRequest) : Prop :=
  log.Pairwise fun r r' => r.Refused → r'.apiKey ≠ r.apiKey

/-- The quote has a price and the request for the name is answered 401, 403 or 429. -/
def NameRefused (e : Exchange) : Prop :=
  ∃ o ∈ askedName e, o.Refuses

/-- The place in the list of the symbol that the `n`-th exchange is for: each symbol takes the exchanges
up to the first whose quote request is not answered 401, 403 or 429. -/
def place (env : Nat → Exchange) (n : Nat) : Nat :=
  (List.range n).countP fun i => ¬ (env i).quote.Refuses

/-- A quote moves on by one key unless its answer refuses the key. -/
lemma place_succ (env : Nat → Exchange) (n : Nat) :
    place env (n + 1) = place env n + if (env n).quote.Refuses then 0 else 1 := by
  unfold place
  rw [List.range_succ, List.countP_append, List.countP_singleton]
  by_cases h : (env n).quote.Refuses <;> simp [h]

/-- The place in the key list never moves back. -/
lemma place_mono (env : Nat → Exchange) {m n : Nat} (h : m ≤ n) : place env m ≤ place env n :=
  (List.range_sublist.2 h).countP_le

variable {py num now}

/-- A price comes with a status of success. -/
lemma not_refuses_of_priced {o : HttpOutcome} {data : Dict} (h : priced o = some data) :
    ¬ o.Refuses := by
  cases o with
  | timeout => cases h
  | httpError => cases h
  | raised message => cases h
  | response status text json =>
    have hsuccess : 200 ≤ status ∧ status < 300 := by
      unfold priced at h
      split at h
      · rename_i heq
        cases heq
        split at h
        · rename_i hpriced
          exact ⟨hpriced.1, hpriced.2.1⟩
        · cases h
      all_goals cases h
    rintro (h | h | h)
    · have : status = 429 := h
      omega
    · have : status = 401 := h
      omega
    · have : status = 403 := h
      omega

/-- The name is refused after an accepted quote request. -/
lemma NameRefused.accepted {e : Exchange} (h : NameRefused e) : ¬ e.quote.Refuses := by
  obtain ⟨o, hasked, _⟩ := h
  obtain ⟨data, hdata, _⟩ := Option.map_eq_some_iff.1 hasked
  exact not_refuses_of_priced hdata

/-- A refused quote request raises with its status. -/
lemma fetchSingleQuote_of_refuses {symbol : String} {e : Exchange} (h : e.quote.Refuses) :
    ∃ status, fetchSingleQuote num now symbol e = .httpError status ∧
      (status = 429 ∨ status = 401 ∨ status = 403) := by
  have hpriced : priced e.quote = none := by
    rw [Option.eq_none_iff_forall_ne_some]
    exact fun data hdata => not_refuses_of_priced hdata h
  unfold fetchSingleQuote
  rw [hpriced]
  dsimp only
  unfold HttpOutcome.Refuses at h
  cases hquote : e.quote with
  | timeout => simp [hquote, HttpOutcome.HasStatus] at h
  | httpError => simp [hquote, HttpOutcome.HasStatus] at h
  | raised message => simp [hquote, HttpOutcome.HasStatus] at h
  | response status text json =>
    rw [hquote] at h
    have hstatus : status = 429 ∨ status = 401 ∨ status = 403 := h
    exact ⟨status, if_pos (by omega), hstatus⟩

/-- Any other quote request does not raise with one of these. -/
lemma fetchSingleQuote_of_accepted {symbol : String} {e : Exchange} (h : ¬ e.quote.Refuses)
    {status : Nat} (hstatus : fetchSingleQuote num now symbol e = .httpError status) :
    ¬ (status = 429 ∨ status = 401 ∨ status = 403) := by
  have hanswered : ∃ text json, e.quote = .response status text json := by
    unfold fetchSingleQuote at hstatus
    split at hstatus
    · split at hstatus <;> cases hstatus
    · split at hstatus
      · cases hstatus
      · cases hstatus
      · cases hstatus
      · rename_i text json heq
        split at hstatus
        · cases hstatus
          exact ⟨text, json, heq⟩
        · split at hstatus
          · cases hstatus
          · cases hstatus
          · split at hstatus <;> cases hstatus
  obtain ⟨text, json, hquote⟩ := hanswered
  rw [hquote] at h
  exact h

/-! ## The next key -/

/-- What every state of a fetch has: a key whose quote request was refused is marked, and not used
again. -/
structure Logged (py : Stdlib) (s : Fetch) : Prop where
  apart : AfterQuote s.log
  marked : ∀ r ∈ s.log, r.quote.Refuses → ¬ s.keyManager.Usable py s.markers r.apiKey

/-- The key in use was not refused for a quote. -/
def Current (s : Fetch) : Prop :=
  ∀ r ∈ s.log, r.quote.Refuses → s.apiKey ≠ r.apiKey

/-- No key of the pool is usable. -/
def Exhausted (py : Stdlib) (s : Fetch) : Prop :=
  ∀ key ∈ s.keyManager.keys, ¬ s.keyManager.Usable py s.markers key

/-- The other keys that the pool could serve. -/
def others (py : Stdlib) (s : Fetch) : Finset String :=
  s.keyManager.keys.toFinset.filter fun key =>
    s.keyManager.Usable py s.markers key ∧ key ≠ s.apiKey

/-- A rotation leaves the log and the manager, and all markers with that of the key. -/
structure Rotation (py : Stdlib) (s s' : Fetch) : Prop where
  log : s'.log = s.log
  manager : s'.keyManager = s.keyManager
  markers : ∀ key, s.markers key = true → s'.markers key = true
  marked : ¬ s.keyManager.Usable py s'.markers s.apiKey

variable {s s' : Fetch} {status : Nat} {e : Exchange}

/-- A healthy server gives a usable key, or there is none. -/
lemma nextKeyOrNone_healthy (m : APIKeyManager) (counter : Int) (markers : String → Bool) :
    (nextKeyOrNone py m (.healthy counter markers)).2 = m ∧
      ((∃ key ∈ m.keys, m.Usable py markers key ∧
          (nextKeyOrNone py m (.healthy counter markers)).1 = some key) ∨
        (∀ key ∈ m.keys, ¬ m.Usable py markers key) ∧
          (nextKeyOrNone py m (.healthy counter markers)).1 = none) := by
  obtain ⟨hrotated, hm⟩ := @APIKeyManager.getKey_healthy py markers m counter
  unfold nextKeyOrNone
  generalize hcall : m.getKey py (.healthy counter markers) = call at hrotated hm ⊢
  obtain ⟨answer, m'⟩ := call
  have heq : m = m' := hm.symm
  subst heq
  by_cases husable : ∃ key ∈ m.keys, m.Usable py markers key
  · obtain ⟨key, hin, hkey, rfl⟩ := hrotated.serves husable
    exact ⟨rfl, .inl ⟨key, hin, hkey, rfl⟩⟩
  · have hnone : ∀ key ∈ m.keys, ¬ m.Usable py markers key := fun key hin hkey =>
      husable ⟨key, hin, hkey⟩
    have herror : ∃ error, answer = .inr error := by
      by_cases hinvalid : ∀ key ∈ m.keys, m.Invalid py markers key
      · exact ⟨_, hrotated.unavailable.2 (.inr hinvalid)⟩
      · push Not at hinvalid
        exact ⟨_, hrotated.rateLimited.2 ⟨hnone, hinvalid⟩⟩
    obtain ⟨error, rfl⟩ := herror
    exact ⟨rfl, .inr ⟨hnone, rfl⟩⟩

/-- After the marker the key in use is not usable. -/
lemma not_usable_of_marker {markers : String → Bool} (h : markers (marker py s status) = true) :
    ¬ s.keyManager.Usable py markers s.apiKey := by
  intro ⟨hinvalid, hlimited⟩
  unfold marker at h
  split at h
  · exact hlimited h
  · exact hinvalid h

/-- The key is marked, and the fetch goes on with a usable one exactly if there is one. -/
lemma rotateKey_cases (s : Fetch) (status : Nat) (e : Exchange) :
    (∃ s', rotateKey py s status e = .ok s' ∧ Rotation py s s' ∧
      s'.apiKey ∈ s'.keyManager.keys ∧ s'.keyManager.Usable py s'.markers s'.apiKey) ∨
    ∃ s', rotateKey py s status e = .error s' ∧ Rotation py s s' ∧ Exhausted py s' := by
  let markers := fun key => s.markers key || decide (key = marker py s status) || e.others key
  have hmono : ∀ key, s.markers key = true → markers key = true := by
    intro key hkey
    show (s.markers key || _ || _) = true
    rw [hkey]
    rfl
  have hmarked : ¬ s.keyManager.Usable py markers s.apiKey := by
    apply @not_usable_of_marker py s status
    show (_ || decide (marker py s status = marker py s status) || _) = true
    rw [decide_eq_true rfl, Bool.or_true, Bool.true_or]
  obtain ⟨hmanager, hcall⟩ := @nextKeyOrNone_healthy py s.keyManager e.counter markers
  have hrotate : rotateKey py s status e =
      match (nextKeyOrNone py s.keyManager (.healthy e.counter markers)).1 with
      | none => .error { s with
          markers, keyManager := (nextKeyOrNone py s.keyManager (.healthy e.counter markers)).2 }
      | some nextKey =>
        if (status = 401 ∨ status = 403) ∧ nextKey = s.apiKey then .error { s with
          markers, keyManager := (nextKeyOrNone py s.keyManager (.healthy e.counter markers)).2 }
        else .ok { s with apiKey := nextKey, markers, keyManager :=
          (nextKeyOrNone py s.keyManager (.healthy e.counter markers)).2 } := rfl
  rw [hmanager] at hrotate
  rcases hcall with ⟨key, hin, husable, hkey⟩ | ⟨hnone, hkey⟩
  · left
    rw [hkey] at hrotate
    have hne : key ≠ s.apiKey := by
      rintro rfl
      exact hmarked husable
    refine ⟨_, hrotate.trans (if_neg fun h => hne h.2), ?_, hin, husable⟩
    exact ⟨rfl, rfl, hmono, hmarked⟩
  · right
    rw [hkey] at hrotate
    exact ⟨_, hrotate, ⟨rfl, rfl, hmono, hmarked⟩, hnone⟩

/-- Markers are not taken away in a fetch. -/
lemma Rotation.not_usable (h : Rotation py s s') {key : String}
    (hkey : ¬ s.keyManager.Usable py s.markers key) :
    ¬ s'.keyManager.Usable py s'.markers key := by
  rw [h.manager]
  intro ⟨hinvalid, hlimited⟩
  exact hkey ⟨fun hmark => hinvalid (h.markers _ hmark), fun hmark => hlimited (h.markers _ hmark)⟩

/-- The next key was one of the others, and is none now. -/
lemma Rotation.others_lt (h : Rotation py s s') (hkey : s'.apiKey ∈ s'.keyManager.keys)
    (husable : s'.keyManager.Usable py s'.markers s'.apiKey) :
    (others py s').card < (others py s).card := by
  have hwas : ∀ key, s'.keyManager.Usable py s'.markers key →
      s.keyManager.Usable py s.markers key ∧ key ≠ s.apiKey := by
    intro key hnow
    constructor
    · exact Decidable.byContradiction fun hnot => h.not_usable hnot hnow
    · rintro rfl
      rw [h.manager] at hnow
      exact h.marked hnow
  apply Finset.card_lt_card
  rw [Finset.ssubset_iff_of_subset]
  · refine ⟨s'.apiKey, ?_, fun hin => (Finset.mem_filter.1 hin).2.2 rfl⟩
    rw [h.manager] at hkey
    exact Finset.mem_filter.2 ⟨List.mem_toFinset.2 hkey, hwas _ husable⟩
  · intro key hin
    obtain ⟨hkeys, hnow, _⟩ := Finset.mem_filter.1 hin
    rw [h.manager] at hkeys
    exact Finset.mem_filter.2 ⟨hkeys, hwas _ hnow⟩

/-! ## The log -/

/-- How the requests of the log lie in the exchanges: each has its exchange, and the key of an accepted
quote request is that of the next one. -/
structure Traced (env : Nat → Exchange) (s : Fetch) : Prop where
  exchanged : ∀ n r, s.log[n]? = some r →
    r.quote = (env n).quote ∧ r.profile = askedName (env n) ∧ r.position = place env n
  carried : ∀ n r, s.log[n]? = some r → ¬ r.quote.Refuses →
    (n + 1 = s.log.length ∧ s.apiKey = r.apiKey) ∨
      ∃ r', s.log[n + 1]? = some r' ∧ r'.apiKey = r.apiKey

variable {env : Nat → Exchange} {n position : Nat} {symbol : String} {requests : List QuoteRequest}

/-- What is asked with the key in use. -/
lemma getElem?_send {r : QuoteRequest} (h : (send num now s position symbol e).log[n]? = some r) :
    s.log[n]? = some r ∨ (n = s.log.length ∧ r = request num now s position symbol e) := by
  have hlog : (s.log ++ [request num now s position symbol e])[n]? = some r := h
  rcases Nat.lt_trichotomy n s.log.length with hlt | rfl | hgt
  · rw [List.getElem?_append_left hlt] at hlog
    exact .inl hlog
  · rw [List.getElem?_concat_length] at hlog
    exact .inr ⟨rfl, (Option.some.inj hlog).symm⟩
  · rw [List.getElem?_eq_none (by simp; omega)] at hlog
    cases hlog

/-- An attempt is traced to the next exchange. -/
lemma Traced.send (h : Traced env s) (hplace : place env s.log.length = position) :
    Traced env (send num now s position symbol (env s.log.length)) where
  exchanged := by
    intro n r hr
    rcases getElem?_send hr with hold | ⟨rfl, rfl⟩
    · exact h.exchanged n r hold
    · exact ⟨rfl, rfl, hplace.symm⟩
  carried := by
    intro n r hr haccepted
    have hlog : (FinnhubCollector.send num now s position symbol (env s.log.length)).log =
        s.log ++ [request num now s position symbol (env s.log.length)] := rfl
    rcases getElem?_send hr with hold | ⟨rfl, rfl⟩
    · right
      rcases h.carried n r hold haccepted with ⟨hlast, hkey⟩ | ⟨r', hnext, hkey⟩
      · refine ⟨request num now s position symbol (env s.log.length), ?_, hkey⟩
        rw [hlog, hlast]
        exact List.getElem?_concat_length
      · refine ⟨r', ?_, hkey⟩
        rw [hlog, List.getElem?_append_left (List.getElem?_eq_some_iff.1 hnext).1]
        exact hnext
    · left
      rw [hlog, List.length_append]
      exact ⟨rfl, rfl⟩

/-- The key is given up after a refused quote request only. -/
lemma Traced.rotation (h : Traced env (FinnhubCollector.send num now s position symbol e))
    (hrefused : e.quote.Refuses)
    (hs' : Rotation py (FinnhubCollector.send num now s position symbol e) s') : Traced env s' where
  exchanged := by
    rw [hs'.log]
    exact h.exchanged
  carried := by
    rw [hs'.log]
    intro n r hr haccepted
    rcases h.carried n r hr haccepted with ⟨hlast, _⟩ | hnext
    · rcases getElem?_send hr with hold | ⟨_, rfl⟩
      · have hlt : n < s.log.length := (List.getElem?_eq_some_iff.1 hold).1
        have hlength : n + 1 = s.log.length + 1 := hlast.trans List.length_append
        omega
      · exact absurd hrefused haccepted
    · exact .inr hnext

/-! ## One symbol -/

/-- What the attempts at the symbol of a position leave. -/
structure Tried (py : Stdlib) (env : Nat → Exchange) (n : Nat) (s s' : Fetch) (position : Nat)
    (symbol : String) (requests : List QuoteRequest) : Prop where
  log : s'.log = s.log ++ requests
  manager : s'.keyManager = s.keyManager
  placed : ∀ r ∈ requests, r.position = position ∧ r.symbol = symbol
  within : requests.length ≤ n
  single : s.keyManager.keys = [] → requests.length ≤ 1
  logged : Logged py s'
  traced : Traced env s'

/-- A key that was not refused may be used. -/
lemma Logged.pairwise_send (hs : Logged py s) (hcurrent : Current s) :
    AfterQuote (send num now s position symbol e).log := by
  apply List.pairwise_append.2
  refine ⟨hs.apart, List.pairwise_singleton _ _, ?_⟩
  intro r hr r' hr'
  cases List.mem_singleton.1 hr'
  exact hcurrent r hr

/-- A request that is not refused leaves the key. -/
lemma Logged.send (hs : Logged py s) (hcurrent : Current s) (h : ¬ e.quote.Refuses) :
    Logged py (send num now s position symbol e) ∧ Current (send num now s position symbol e) := by
  refine ⟨⟨hs.pairwise_send hcurrent, ?_⟩, ?_⟩
  · intro r hr hrefused
    rcases List.mem_append.1 hr with hr | hr
    · exact hs.marked r hr hrefused
    · cases List.mem_singleton.1 hr
      exact absurd hrefused h
  · intro r hr hrefused
    rcases List.mem_append.1 hr with hr | hr
    · exact hcurrent r hr hrefused
    · cases List.mem_singleton.1 hr
      exact absurd hrefused h

/-- A rotation marks the key that was refused. -/
lemma Logged.rotation (hs : Logged py s) (hcurrent : Current s)
    (h : Rotation py (FinnhubCollector.send num now s position symbol e) s') : Logged py s' where
  apart := by
    rw [h.log]
    exact hs.pairwise_send hcurrent
  marked := by
    rw [h.log]
    intro r hr hrefused
    rcases List.mem_append.1 hr with hr | hr
    · exact h.not_usable (hs.marked r hr hrefused)
    · cases List.mem_singleton.1 hr
      rw [h.manager]
      exact h.marked

/-- A usable key was not refused. -/
lemma Logged.current (hs : Logged py s) (h : s.keyManager.Usable py s.markers s.apiKey) :
    Current s := by
  intro r hr hrefused heq
  rw [heq] at h
  exact hs.marked r hr hrefused h

/-- The last request for a symbol. -/
lemma Tried.last (hlog : s'.log = (send num now s position symbol e).log)
    (hmanager : s'.keyManager = s.keyManager) (hs' : Logged py s') (htraced : Traced env s') :
    Tried py env (n + 1) s s' position symbol [request num now s position symbol e] where
  log := hlog
  manager := hmanager
  placed := by
    intro r hr
    cases List.mem_singleton.1 hr
    exact ⟨rfl, rfl⟩
  within := Nat.le_add_left 1 n
  single := fun _ => Nat.le_refl 1
  logged := hs'
  traced := htraced

/-- A request after which the pool has served another key. -/
lemma Tried.cons {s₁ : Fetch} (hlog : s₁.log = (send num now s position symbol e).log)
    (hmanager : s₁.keyManager = s.keyManager) (hkeys : s₁.keyManager.keys ≠ [])
    (h : Tried py env n s₁ s' position symbol requests) :
    Tried py env (n + 1) s s' position symbol
      (request num now s position symbol e :: requests) where
  log := by
    rw [h.log, hlog]
    exact List.append_assoc s.log _ requests
  manager := h.manager.trans hmanager
  placed := by
    intro r hr
    rcases List.mem_cons.1 hr with rfl | hr
    · exact ⟨rfl, rfl⟩
    · exact h.placed r hr
  within := Nat.succ_le_succ h.within
  single := by
    rw [← hmanager]
    exact fun hnil => absurd hnil hkeys
  logged := h.logged
  traced := h.traced

/-- A quote request that is not refused is the last one for the symbol. -/
lemma trySymbol_of_accepted (h : ¬ (env s.log.length).quote.Refuses) :
    trySymbol py num now env position symbol (n + 1) s =
      .ok ((fetchSingleQuote num now symbol (env s.log.length)).quote?,
        send num now s position symbol (env s.log.length)) := by
  unfold trySymbol
  dsimp only
  cases hresponse : fetchSingleQuote num now symbol (env s.log.length) with
  | quote quote => rfl
  | empty => rfl
  | failed => rfl
  | httpError status => exact if_neg (fetchSingleQuote_of_accepted h hresponse)

/-- After one that is refused the next key is tried. -/
lemma trySymbol_of_refused (h : (env s.log.length).quote.Refuses) :
    ∃ status, trySymbol py num now env position symbol (n + 1) s =
      match rotateKey py (send num now s position symbol (env s.log.length)) status
        (env s.log.length) with
      | .ok s => trySymbol py num now env position symbol n s
      | .error s => .error s := by
  obtain ⟨status, hresponse, hstatus⟩ := @fetchSingleQuote_of_refuses num now symbol _ h
  refine ⟨status, ?_⟩
  show (match fetchSingleQuote num now symbol (env s.log.length) with
    | .quote quote => _
    | .empty => _
    | .failed => _
    | .httpError status => _) = _
  rw [hresponse]
  exact if_pos hstatus

/-- An answer that refuses the key gives no quote. -/
lemma quote?_of_refuses (h : e.quote.Refuses) :
    (fetchSingleQuote num now symbol e).quote? = none := by
  obtain ⟨status, hresponse, _⟩ := @fetchSingleQuote_of_refuses num now symbol _ h
  rw [hresponse]
  rfl

/-- The attempts end with the exchange after which they have a quote or none, or with no usable key.
Each key that is refused is one less to serve, so that they are enough. -/
lemma trySymbol_cases (position : Nat) (symbol : String) (n : Nat) {s : Fetch} (hs : Logged py s)
    (hcurrent : Current s) (htraced : Traced env s) (hplace : place env s.log.length = position)
    (hn : (others py s).card < n) :
    (∃ s' requests, trySymbol py num now env position symbol n s =
        .ok (requests.findSome? (·.response.quote?), s') ∧
      Tried py env n s s' position symbol requests ∧ Current s' ∧
      place env s'.log.length = position + 1) ∨
    ∃ s' requests, trySymbol py num now env position symbol n s = .error s' ∧
      Tried py env n s s' position symbol requests ∧ Exhausted py s' ∧
      ∀ r, s'.log[s'.log.length - 1]? = some r → r.quote.Refuses := by
  induction n generalizing s with
  | zero => exact absurd hn (Nat.not_lt_zero _)
  | succ n ih =>
    have hlength : (send num now s position symbol (env s.log.length)).log.length =
        s.log.length + 1 := List.length_append
    have hsent : Traced env (send num now s position symbol (env s.log.length)) :=
      htraced.send hplace
    by_cases hrefused : (env s.log.length).quote.Refuses
    · obtain ⟨status, htry⟩ := @trySymbol_of_refused py num now s env n position symbol hrefused
      rw [htry]
      obtain ⟨s₁, hrotate, h₁, hkey, husable⟩ | ⟨s', hrotate, h', hnone⟩ :=
        @rotateKey_cases py (send num now s position symbol (env s.log.length)) status
          (env s.log.length)
      · -- the rest of the attempts is made with the next key
        have hs₁ : Logged py s₁ := hs.rotation hcurrent h₁
        have hplace₁ : place env s₁.log.length = position := by
          rw [h₁.log, hlength, place_succ, if_pos hrefused, Nat.add_zero]
          exact hplace
        have hothers : (others py s₁).card < n :=
          Nat.lt_of_lt_of_le (h₁.others_lt hkey husable) (Nat.le_of_lt_succ hn)
        have hne := List.ne_nil_of_mem hkey
        rw [hrotate]
        obtain ⟨s', requests, hok, htried, hend⟩ | ⟨s', requests, herror, htried, hnone⟩ :=
          ih hs₁ (hs₁.current husable) (hsent.rotation hrefused h₁) hplace₁ hothers
        · refine .inl ⟨s', _, hok.trans ?_, .cons h₁.log h₁.manager hne htried, hend⟩
          have hnone : (request num now s position symbol (env s.log.length)).response.quote? =
              none := quote?_of_refuses hrefused
          rw [List.findSome?_cons, hnone]
        · exact .inr ⟨s', _, herror, .cons h₁.log h₁.manager hne htried, hnone⟩
      · rw [hrotate]
        refine .inr ⟨s', _, rfl, .last h'.log h'.manager (hs.rotation hcurrent h')
          (hsent.rotation hrefused h'), hnone, ?_⟩
        intro r hr
        rw [h'.log, hlength] at hr
        rcases getElem?_send hr with hold | ⟨_, rfl⟩
        · exact absurd (List.getElem?_eq_some_iff.1 hold).1 (Nat.lt_irrefl _)
        · exact hrefused
    · obtain ⟨hlogged, hkey⟩ := @Logged.send py num now s (env s.log.length) position symbol hs
        hcurrent hrefused
      refine .inl ⟨_, _, (trySymbol_of_accepted hrefused).trans ?_, .last rfl rfl hlogged hsent,
        hkey, ?_⟩
      · rw [List.findSome?_singleton]
        rfl
      · rw [hlength, place_succ, if_neg hrefused, hplace]

/-! ## All symbols -/

/-- The quote that some request for the symbol of a position returned. -/
def quoteAt (log : List QuoteRequest) (position : Nat) : Option Dict :=
  (log.filter fun r => r.position = position).findSome? (·.response.quote?)

/-- What the requests for the first symbols have in common. -/
structure Progress (py : Stdlib) (env : Nat → Exchange) (c : FinnhubCollector)
    (symbols : List String) (k : Nat) (s : Fetch) : Prop where
  manager : s.keyManager = c.keyManager
  logged : Logged py s
  traced : Traced env s
  placed : ∀ r ∈ s.log, r.position < k ∧ symbols[r.position]? = some r.symbol
  bounded : ∀ position,
    s.log.countP (fun r => r.position = position) ≤ c.apiKeys.length + 1

variable {c : FinnhubCollector} {symbols : List String} {k : Nat}

/-- Nothing has been asked. -/
lemma Progress.init (env : Nat → Exchange) (c : FinnhubCollector) (symbols : List String)
    (apiKey : String) (markers : String → Bool) :
    Progress py env c symbols 0 { apiKey, markers, keyManager := c.keyManager, log := [] } where
  manager := rfl
  logged := ⟨.nil, fun r hr => absurd hr (List.not_mem_nil (a := r))⟩
  traced := ⟨fun _ _ hr => (nomatch hr), fun _ _ hr => (nomatch hr)⟩
  placed := fun r hr => absurd hr (List.not_mem_nil (a := r))
  bounded := fun _ => Nat.zero_le _

/-- There are fewer other keys than attempts. -/
lemma Progress.others_lt (h : Progress py env c symbols k s) :
    (others py s).card < c.maxAttempts := by
  have hle : (others py s).card ≤ c.apiKeys.length := by
    calc (others py s).card ≤ s.keyManager.keys.toFinset.card := Finset.card_filter_le _ _
      _ ≤ s.keyManager.keys.length := List.toFinset_card_le _
      _ = c.apiKeys.length := by rw [h.manager, c.keys_eq]
  unfold maxAttempts
  omega

/-- The requests for a symbol are not more than the keys and one. -/
lemma Tried.length_le (h : Tried py env c.maxAttempts s s' position symbol requests)
    (hmanager : s.keyManager = c.keyManager) : requests.length ≤ c.apiKeys.length + 1 := by
  have hwithin : requests.length ≤ max c.apiKeys.length 1 + 1 := h.within
  have hsingle := h.single
  rw [hmanager, c.keys_eq] at hsingle
  cases hkeys : c.apiKeys with
  | nil => exact hsingle hkeys
  | cons key keys =>
    rw [hkeys, List.length_cons] at hwithin
    rw [List.length_cons]
    omega

/-- The requests for one more symbol. -/
lemma Progress.step (h : Progress py env c symbols k s) (hk : symbols[k]? = some symbol)
    (htried : Tried py env c.maxAttempts s s' k symbol requests) :
    Progress py env c symbols (k + 1) s' where
  manager := htried.manager.trans h.manager
  logged := htried.logged
  traced := htried.traced
  placed := by
    rw [htried.log]
    intro r hr
    rcases List.mem_append.1 hr with hr | hr
    · obtain ⟨hlt, hsymbol⟩ := h.placed r hr
      exact ⟨Nat.lt_succ_of_lt hlt, hsymbol⟩
    · obtain ⟨rfl, rfl⟩ := htried.placed r hr
      exact ⟨Nat.lt_succ_self _, hk⟩
  bounded := by
    intro position
    rw [htried.log, List.countP_append]
    by_cases hposition : position = k
    · -- no earlier request is at this position
      subst hposition
      have hold : s.log.countP (fun r => r.position = position) = 0 := by
        apply List.countP_eq_zero.2
        intro r hr hat
        exact Nat.ne_of_lt (h.placed r hr).1 (of_decide_eq_true hat)
      rw [hold, Nat.zero_add]
      exact Nat.le_trans List.countP_le_length (htried.length_le h.manager)
    · have hnew : requests.countP (fun r => r.position = position) = 0 := by
        apply List.countP_eq_zero.2
        intro r hr hat
        exact hposition ((of_decide_eq_true hat).symm.trans (htried.placed r hr).1)
      rw [hnew, Nat.add_zero]
      exact h.bounded position

/-- The quotes so far are kept, and the symbol's own are those of its requests. -/
lemma Progress.quoteAt_step (h : Progress py env c symbols k s)
    (htried : Tried py env n s s' k symbol requests) :
    (∀ position < k, quoteAt s'.log position = quoteAt s.log position) ∧
      quoteAt s'.log k = requests.findSome? (·.response.quote?) := by
  unfold quoteAt
  rw [htried.log]
  constructor
  · intro position hlt
    have hnew : requests.filter (fun r => r.position = position) = [] := by
      apply List.filter_eq_nil_iff.2
      intro r hr hat
      rw [(htried.placed r hr).1] at hat
      exact Nat.ne_of_gt hlt (of_decide_eq_true hat)
    rw [List.filter_append, hnew, List.append_nil]
  · have hold : s.log.filter (fun r => r.position = k) = [] := by
      apply List.filter_eq_nil_iff.2
      intro r hr hat
      exact Nat.ne_of_lt (h.placed r hr).1 (of_decide_eq_true hat)
    have hown : requests.filter (fun r => r.position = k) = requests := by
      apply List.filter_eq_self.2
      intro r hr
      exact decide_eq_true (htried.placed r hr).1
    rw [List.filter_append, hold, List.nil_append, hown]

/-- The results are the quotes of the symbols in order, or no key is usable. -/
lemma fetchFrom_cases {rest : List String} (hrest : symbols.drop k = rest)
    (hk : k ≤ symbols.length) (hs : Progress py env c symbols k s) (hcurrent : Current s)
    (hplace : place env s.log.length = k) :
    (∃ s', fetchFrom py num now env c.maxAttempts rest k
          ((List.range k).filterMap (quoteAt s.log)) s =
        .ok ((List.range symbols.length).filterMap (quoteAt s'.log), s') ∧
      Progress py env c symbols symbols.length s' ∧
      place env s'.log.length = symbols.length) ∨
    ∃ s' k', fetchFrom py num now env c.maxAttempts rest k
          ((List.range k).filterMap (quoteAt s.log)) s = .error s' ∧
      Progress py env c symbols k' s' ∧ Exhausted py s' ∧
      ∀ r, s'.log[s'.log.length - 1]? = some r → r.quote.Refuses := by
  induction rest generalizing k s with
  | nil =>
    have hall : k = symbols.length := Nat.le_antisymm hk (List.drop_eq_nil_iff.1 hrest)
    subst hall
    exact .inl ⟨s, rfl, hs, hplace⟩
  | cons symbol rest ih =>
    have hlt : k < symbols.length := by
      apply Nat.lt_of_not_le
      intro hle
      rw [List.drop_of_length_le hle] at hrest
      cases hrest
    rw [List.drop_eq_getElem_cons hlt, List.cons.injEq] at hrest
    have hsymbol : symbols[k]? = some symbol := by
      rw [List.getElem?_eq_getElem hlt, hrest.1]
    unfold fetchFrom
    obtain ⟨s₁, requests, hok, htried, hcurrent₁, hplace₁⟩ | ⟨s', requests, herror, htried, hnone⟩ :=
      @trySymbol_cases py num now env k symbol c.maxAttempts s hs.logged hcurrent hs.traced hplace
        hs.others_lt
    · obtain ⟨hold, hown⟩ := hs.quoteAt_step htried
      -- what is appended is the quote at the symbol's position
      have hresults : (List.range k).filterMap (quoteAt s.log) ++
          (requests.findSome? (·.response.quote?)).toList =
            (List.range (k + 1)).filterMap (quoteAt s₁.log) := by
        rw [List.range_succ, List.filterMap_append, ← hown]
        congr 1
        apply List.filterMap_congr
        intro position hposition
        exact (hold position (List.mem_range.1 hposition)).symm
      rw [hok]
      dsimp only
      rw [hresults]
      exact ih hrest.2 hlt (hs.step hsymbol htried) hcurrent₁ hplace₁
    · rw [herror]
      exact .inr ⟨s', _, rfl, hs.step hsymbol htried, hnone⟩

/-- A key that is refused for a name is used again exactly if another symbol follows. -/
lemma Progress.neverReused_iff (hs : Progress py env c symbols k s)
    (hend : place env s.log.length = symbols.length ∨
      ∀ r, s.log[s.log.length - 1]? = some r → r.quote.Refuses) :
    NeverReused s.log ↔
      ∀ n < s.log.length, NameRefused (env n) → symbols.length ≤ place env n + 1 := by
  constructor
  · intro hnever n hn hname
    have hr : s.log[n]? = some s.log[n] := List.getElem?_eq_getElem hn
    obtain ⟨hquote, hprofile, _⟩ := hs.traced.exchanged n _ hr
    have haccepted : ¬ (s.log[n]).quote.Refuses := by
      rw [hquote]
      exact hname.accepted
    rcases hs.traced.carried n _ hr haccepted with ⟨hlast, _⟩ | ⟨r', hnext, hkey⟩
    · rcases hend with hplace | hrefused
      · rw [← hlast, place_succ, if_neg hname.accepted] at hplace
        exact Nat.le_of_eq hplace.symm
      · rw [← hlast, Nat.add_sub_cancel] at hrefused
        exact absurd (hrefused _ hr) haccepted
    · obtain ⟨hlt, hnext⟩ := List.getElem?_eq_some_iff.1 hnext
      refine absurd ?_ (List.pairwise_iff_getElem.1 hnever n (n + 1) hn hlt n.lt_succ_self ?_)
      · rw [hnext]
        exact hkey
      · right
        rw [hprofile]
        exact hname
  · intro hlast
    apply List.pairwise_iff_getElem.2
    intro i j hi hj hij hrefused
    rcases hrefused with hquote | hname
    · exact List.pairwise_iff_getElem.1 hs.logged.apart i j hi hj hij hquote
    · obtain ⟨_, hprofile, _⟩ := hs.traced.exchanged i _ (List.getElem?_eq_getElem hi)
      obtain ⟨_, _, hposition⟩ := hs.traced.exchanged j _ (List.getElem?_eq_getElem hj)
      rw [hprofile] at hname
      have hle := hlast i hi hname
      have hmono : place env (i + 1) ≤ place env j := place_mono env hij
      rw [place_succ, if_neg (NameRefused.accepted hname)] at hmono
      -- the later request is for a symbol of the list
      have hin := (hs.placed _ (List.getElem_mem hj)).2
      rw [hposition, List.getElem?_eq_none (by omega)] at hin
      cases hin

/-- `_fetch_stock_quotes`, for each pool, each list of symbols and any outcomes of the requests: it ends,
each symbol takes at most as many quote requests as there are keys and one more, the fetch gives up only
when no key of the pool is usable, and otherwise returns the quotes of the symbols for which a request
returned one, in the order of the symbols. No key is used after it was answered 401, 403 or 429 exactly if
the requests for a name are answered so at the last symbol only. -/
theorem stock_quotes_rotate_keys (py : Stdlib) (num : Finance.Numbers) (now : Json)
    (c : FinnhubCollector) (env : Nat → Exchange) (symbols : List String) (apiKey : String)
    (markers : String → Bool) :
    let s := (c.fetchStockQuotes py num now env symbols apiKey markers).2
    (∀ r ∈ s.log, symbols[r.position]? = some r.symbol) ∧
    (∀ position, s.log.countP (fun r => r.position = position) ≤ c.apiKeys.length + 1) ∧
    ((c.fetchStockQuotes py num now env symbols apiKey markers).1 = none →
      ∀ key ∈ c.apiKeys, ¬ c.keyManager.Usable py s.markers key) ∧
    (∀ results, (c.fetchStockQuotes py num now env symbols apiKey markers).1 = some results →
      results = (List.range symbols.length).filterMap (quoteAt s.log)) ∧
    (NeverReused s.log ↔
      ∀ n < s.log.length, NameRefused (env n) → symbols.length ≤ place env n + 1) := by
  have hcurrent : Current { apiKey, markers, keyManager := c.keyManager, log := [] } :=
    fun r hr => absurd hr (List.not_mem_nil (a := r))
  obtain ⟨s', hok, hs', hplace⟩ | ⟨s', k, herror, hs', hnone, hrefused⟩ :=
    @fetchFrom_cases py num now _ env c symbols 0 _ (List.drop_zero (l := symbols)) (Nat.zero_le _)
      (@Progress.init py env c symbols apiKey markers) hcurrent rfl
  · have hfetch : c.fetchStockQuotes py num now env symbols apiKey markers =
        (some ((List.range symbols.length).filterMap (quoteAt s'.log)), s') := by
      unfold fetchStockQuotes
      simp only [List.range_zero, List.filterMap_nil] at hok ⊢
      rw [hok]
    rw [hfetch]
    refine ⟨fun r hr => (hs'.placed r hr).2, hs'.bounded, ?_, ?_, hs'.neverReused_iff (.inl hplace)⟩
    · intro hresults
      cases hresults
    · intro results hresults
      cases hresults
      rfl
  · have hfetch : c.fetchStockQuotes py num now env symbols apiKey markers = (none, s') := by
      unfold fetchStockQuotes
      simp only [List.range_zero, List.filterMap_nil] at herror ⊢
      rw [herror]
    rw [hfetch]
    refine ⟨fun r hr => (hs'.placed r hr).2, hs'.bounded, ?_, ?_, hs'.neverReused_iff (.inr hrefused)⟩
    · intro _ key hkey
      rw [← hs'.manager]
      apply hnone
      rw [hs'.manager, c.keys_eq]
      exact hkey
    · intro results hresults
      cases hresults

namespace Sample

/-- A library that leaves texts as they are. -/
def plain : Stdlib where
  lower := id
  reprStr := id
  md5 := id
  urlparse _ := none
  parseQs _ := []
  urlencode _ := ""
  urlunparse _ := ""
  strptime _ _ := none
  fromisoformat _ := none

/-- Numbers that need no arithmetic. -/
def numbers : Finance.Numbers where
  sub _ _ := none
  div _ _ := none
  mul _ _ := none
  round v _ := some v
  float
    | .int i => some (.float i (toString i ++ ".0"))
    | v => some v
  int v := some v
  fromtimestamp _ := none

/-- A pool of two keys. -/
def pool : FinnhubCollector := ⟨["k1", "k2"], ⟨"finnhub", ["k1", "k2"], 0⟩, rfl⟩

/-- Each quote has a price, and the first request for a name is answered 429. -/
def exchanges (n : Nat) : Exchange where
  quote := .response 200 "" (.ok (.obj [("c", .int 190)]))
  profile := .response (if n = 0 then 429 else 200) "" (.ok (.obj [("name", .str "Microsoft")]))
  counter := 1
  others := fun _ => false

end Sample

open Sample in
/-- The key is used for the second symbol after its 429 for the name of the first. -/
theorem limited_key_reused :
    ¬ NeverReused (pool.fetchStockQuotes plain numbers (.str "2026-08-25T10:00:00Z") exchanges
      ["AAPL", "MSFT"] "k1" fun _ => false).2.log := by
  intro hnever
  have hlater := List.rel_of_pairwise_cons hnever (List.mem_singleton.2 rfl)
  exact hlater (.inr ⟨_, rfl, .inl rfl⟩) rfl

end FinnhubCollector

end InstantBoard
