import InstantBoard.Finance.Lookups
import InstantBoard.Lib.Keyspace
import InstantBoard.Processors.Default

/-!
# Cached answers

`get_fund_nav` and `search_symbols` in front of Redis. An answer is kept under a key for a while, and
the key of a fund does not have the estimate type, the key of a search only the digest of a text in
which a separator can be part of an argument. An entry is kept with the call that left it. A call that
is served from an entry gets what it would compute when the entry was left for the same question
(`cached_answers`); a fund asked for twice with different types does not (`other_question_served`).
-/

namespace InstantBoard.Finance

open Transition

/-! ## Calls -/

structure SearchArgs where
  q : String
  type : Option String
  market : Option String
  page : Nat
  pageSize : Nat
  page_pos : 0 < page

inductive Question where
  | fundNav (symbol estimateType : String)
  | search (args : SearchArgs)

/-- A call of a tenant at a time in milliseconds, with its timestamp and the identifiers it makes. -/
structure FinanceCall where
  tenantId : Uuid
  question : Question
  now : Nat
  timestamp : Json
  newId : Nat → String

/-- `RedisKeys.nav_key` -/
def navKey (tenantId symbol : String) : String :=
  "t:" ++ tenantId ++ ":nav:" ++ symbol

/-- `RedisKeys.search_key` -/
def searchKey (tenantId queryHash : String) : String :=
  "t:" ++ tenantId ++ ":search:" ++ queryHash

/-- An argument in an f-string. -/
def argText (arg : Option String) : String :=
  arg.getD "None"

/-- `hashlib.md5(f"{q}:{type}:{market}".encode()).hexdigest()` -/
def SearchArgs.queryHash (lib : FinanceLib) (args : SearchArgs) : String :=
  lib.md5 (args.q ++ ":" ++ argText args.type ++ ":" ++ argText args.market)

def FinanceCall.key (lib : FinanceLib) (c : FinanceCall) : String :=
  match c.question with
  | .fundNav symbol _ => navKey c.tenantId.text symbol
  | .search args => searchKey c.tenantId.text (args.queryHash lib)

/-! ## The cache -/

/-- What `json.loads` reads of an entry, and the call that left it. -/
structure Cached where
  call : FinanceCall
  value : Json

/-- The data, the cached answers, and the estimates pushed. -/
structure LookupState where
  data : FinanceData
  cache : Keyspace.Space String Cached
  pushed : List (String × Dict)

def REDIS_TTL_NAV : Nat := 120

def REDIS_TTL_SEARCH : Nat := 300

/-- The results that are paginated. -/
def Cached.list (e : Cached) : Option (List Json) :=
  match e.value with
  | .arr results => some results
  -- slicing raises, and the answer is computed
  | .null | .bool _ | .int _ | .float _ _ | .str _ | .obj _ => none

section

variable (lib : FinanceLib) (c : FinanceCall) (s : LookupState)

/-- `get_fund_nav` -/
def getFundNav (symbol estimateType : String) : Except LookupError Json × LookupState :=
  let key := navKey c.tenantId.text symbol
  match Keyspace.find s.cache c.now key with
  | some e => (.ok e.value.value, s)
  | none =>
    match fundNav lib s.data c.tenantId.text symbol estimateType c.timestamp with
    | .error e => (.error e, s)
    | .ok response => (.ok (.obj response),
        { s with
          cache := Keyspace.set s.cache c.now key ⟨c, .obj response⟩ REDIS_TTL_NAV
          pushed := s.pushed ++ [(c.tenantId.text, navUpdate response c.timestamp)] })

/-- `search_symbols` -/
def searchSymbols (args : SearchArgs) : Except LookupError Json × LookupState :=
  let key := searchKey c.tenantId.text (args.queryHash lib)
  match (Keyspace.find s.cache c.now key).bind (·.value.list) with
  | some results => (.ok (.obj (paginateResults results args.page args.pageSize)), s)
  | none =>
    let (results, tables) :=
      searchResults lib s.data c.tenantId.text args.q args.type args.market c.newId
    let data := { s.data with tables }
    let cache :=
      if results ≠ [] then Keyspace.set s.cache c.now key ⟨c, .arr results⟩ REDIS_TTL_SEARCH
      else s.cache
    (.ok (.obj (paginateResults results args.page args.pageSize)), { s with data, cache })

/-- A call, with its answer. -/
def call : Except LookupError Json × LookupState :=
  match c.question with
  | .fundNav symbol estimateType => getFundNav lib c s symbol estimateType
  | .search args => searchSymbols lib c s args

end

/-- A call and its answer. -/
abbrev AnsweredCall := FinanceCall × Except LookupError Json

def LookupStep (lib : FinanceLib) (s : LookupState) (l : AnsweredCall) (s' : LookupState) : Prop :=
  call lib l.1 s = (l.2, s')

/-- What a call answers when nothing is cached. -/
def computed (lib : FinanceLib) (data : FinanceData) (c : FinanceCall) : Except LookupError Json :=
  (call lib c ⟨data, fun _ => none, []⟩).1

/-! ## The same question -/

/-- Two calls under one key ask the same: for a tracked fund both in real time or neither, for a search
the same text and the same filters. -/
structure SameQuestion (lib : FinanceLib) (data : FinanceData) (c c' : FinanceCall) : Prop where
  fundNav : ∀ symbol estimateType estimateType', c.question = .fundNav symbol estimateType →
    c'.question = .fundNav symbol estimateType' →
    (estimateType = "realtime" ↔ estimateType' = "realtime") ∨
      ¬ Tracked lib data c'.tenantId.text symbol
  search : ∀ args args', c.question = .search args → c'.question = .search args' →
    args.q = args'.q ∧ filterOf args.type = filterOf args'.type ∧
      filterOf args.market = filterOf args'.market

/-- The entry a call is served from, if there is one, was left for the same question. -/
def AsksTheSame (lib : FinanceLib) (s : LookupState) (c : FinanceCall) : Prop :=
  ∀ e, Keyspace.find s.cache c.now (c.key lib) = some e → SameQuestion lib s.data e.value.call c

/-! ## Keys -/

/-- Keys with tenant texts of one length are equal only part by part. -/
lemma key_append_inj {a b s t : String} (hlen : a.length = b.length)
    (h : "t:" ++ a ++ s = "t:" ++ b ++ t) : a = b ∧ s = t := by
  have hlist := congrArg String.toList h
  rw [String.toList_append, String.toList_append, String.toList_append, String.toList_append,
    List.append_assoc, List.append_assoc, List.append_cancel_left_eq] at hlist
  obtain ⟨ha, hs⟩ := List.append_inj hlist hlen
  exact ⟨String.toList_inj.1 ha, String.toList_inj.1 hs⟩

section

variable {lib : FinanceLib} {data : FinanceData} {c c' : FinanceCall} {s s' : LookupState}
  {a : Except LookupError Json}

/-- A fund's key is never a search's. -/
lemma navKey_ne_searchKey {a b : Uuid} {symbol queryHash : String} :
    navKey a.text symbol ≠ searchKey b.text queryHash := by
  intro h
  unfold navKey searchKey at h
  rw [String.append_assoc, @String.append_assoc _ ":search:"] at h
  obtain ⟨-, hrest⟩ := key_append_inj (a.length_eq.trans b.length_eq.symm) h
  have hchar := congrArg (fun s => s.toList[1]?) hrest
  simp only [String.toList_append] at hchar
  rw [List.getElem?_append_left (by decide), List.getElem?_append_left (by decide)] at hchar
  exact absurd hchar (by decide)

/-- A fund's key tells the tenant and the symbol. -/
lemma navKey_inj {a b : Uuid} {symbol symbol' : String}
    (h : navKey a.text symbol = navKey b.text symbol') : a.text = b.text ∧ symbol = symbol' := by
  unfold navKey at h
  rw [String.append_assoc, @String.append_assoc _ ":nav:"] at h
  obtain ⟨htenant, hrest⟩ := key_append_inj (a.length_eq.trans b.length_eq.symm) h
  exact ⟨htenant, (String.append_right_inj _).1 hrest⟩

/-- A search's key tells the tenant. -/
lemma searchKey_inj {a b : Uuid} {queryHash queryHash' : String}
    (h : searchKey a.text queryHash = searchKey b.text queryHash') : a.text = b.text := by
  unfold searchKey at h
  rw [String.append_assoc, @String.append_assoc _ ":search:"] at h
  exact (key_append_inj (a.length_eq.trans b.length_eq.symm) h).1

variable (lib) in
/-- The key of a fund's value. -/
lemma FinanceCall.key_of_fundNav {symbol estimateType : String}
    (h : c.question = .fundNav symbol estimateType) : c.key lib = navKey c.tenantId.text symbol := by
  unfold FinanceCall.key
  rw [h]

variable (lib) in
/-- The key of a search. -/
lemma FinanceCall.key_of_search {args : SearchArgs} (h : c.question = .search args) :
    c.key lib = searchKey c.tenantId.text (args.queryHash lib) := by
  unfold FinanceCall.key
  rw [h]

/-- A kept value is the answer. -/
lemma getFundNav_of_find {symbol estimateType : String} {e : Keyspace.Entry Cached}
    (h : Keyspace.find s.cache c.now (navKey c.tenantId.text symbol) = some e) :
    getFundNav lib c s symbol estimateType = (.ok e.value.value, s) := by
  unfold getFundNav
  dsimp only
  rw [h]

/-- A kept list is the answer, page by page. -/
lemma searchSymbols_of_find {args : SearchArgs} {e : Keyspace.Entry Cached} {results : List Json}
    (h : Keyspace.find s.cache c.now (searchKey c.tenantId.text (args.queryHash lib)) = some e)
    (hlist : e.value.list = some results) : searchSymbols lib c s args =
      (.ok (.obj (paginateResults results args.page args.pageSize)), s) := by
  unfold searchSymbols
  dsimp only
  rw [h, Option.bind_some, hlist]

/-- Without a kept list the search is run. -/
lemma searchSymbols_of_find_none {args : SearchArgs} {results : List Json} {tables : FinanceTables}
    (h : Keyspace.find s.cache c.now (searchKey c.tenantId.text (args.queryHash lib)) = none)
    (hresults : searchResults lib s.data c.tenantId.text args.q args.type args.market c.newId =
      (results, tables)) : searchSymbols lib c s args =
    (.ok (.obj (paginateResults results args.page args.pageSize)),
      { s with
        data := { s.data with tables }
        cache :=
          if results ≠ [] then
            Keyspace.set s.cache c.now (searchKey c.tenantId.text (args.queryHash lib))
              ⟨c, .arr results⟩ REDIS_TTL_SEARCH
          else s.cache }) := by
  unfold searchSymbols
  dsimp only
  rw [h, hresults]
  rfl

/-! ## What an entry has -/

/-- The entry has what its call computed from the data. -/
inductive KeptFor (lib : FinanceLib) (data : FinanceData) : Cached → Prop where
  | nav {c symbol estimateType response} : c.question = .fundNav symbol estimateType →
      fundNav lib data c.tenantId.text symbol estimateType c.timestamp = .ok response →
      KeptFor lib data ⟨c, .obj response⟩
  | results {c args} : c.question = .search args →
      localResults lib data c.tenantId.text args.q args.type args.market ≠ [] →
      KeptFor lib data ⟨c, .arr (localResults lib data c.tenantId.text args.q args.type args.market)⟩

/-- Every entry is under the key of its call, and has what that computed. -/
def LookupState.Sound (lib : FinanceLib) (s : LookupState) : Prop :=
  ∀ k e, s.cache k = some e → e.value.call.key lib = k ∧ KeptFor lib s.data e.value

/-- A new entry is sound when it has what its call computed. -/
lemma LookupState.Sound.set (h : s.Sound lib) {value : Json} {ttl : Nat}
    {pushed : List (String × Dict)} (kept : KeptFor lib s.data ⟨c, value⟩) :
    LookupState.Sound lib ⟨s.data, Keyspace.set s.cache c.now (c.key lib) ⟨c, value⟩ ttl, pushed⟩ := by
  intro k e hentry
  dsimp only at hentry ⊢
  by_cases hk : k = c.key lib
  · subst hk
    rw [Keyspace.set_same] at hentry
    cases hentry
    exact ⟨rfl, kept⟩
  · rw [Keyspace.set_ne hk] at hentry
    exact h k e hentry

/-- A fund's value keeps the cache sound. -/
lemma getFundNav_sound {symbol estimateType : String}
    (hquestion : c.question = .fundNav symbol estimateType) (h : s.Sound lib)
    (hcall : getFundNav lib c s symbol estimateType = (a, s')) :
    s'.Sound lib := by
  unfold getFundNav at hcall
  rw [← FinanceCall.key_of_fundNav lib hquestion] at hcall
  dsimp only at hcall
  split at hcall
  · cases hcall
    exact h
  · split at hcall
    · cases hcall
      exact h
    · next hnav =>
      cases hcall
      exact h.set (.nav hquestion hnav)

/-- A search that inserts nothing keeps the cache sound. -/
lemma searchSymbols_sound {args : SearchArgs} (hquestion : c.question = .search args)
    (h : s.Sound lib) (hcall : searchSymbols lib c s args = (a, s'))
    (unchanged : s'.data = s.data) : s'.Sound lib := by
  unfold searchSymbols at hcall
  rw [← FinanceCall.key_of_search lib hquestion] at hcall
  dsimp only at hcall
  split at hcall
  · cases hcall
    exact h
  · cases hcall
    have hresults := searchResults_eq (congrArg FinanceData.tables unchanged)
    dsimp only at unchanged hresults ⊢
    rw [unchanged, hresults]
    split
    · next hne => exact h.set (.results hquestion hne)
    · exact h

/-- A call that leaves the data keeps the cache sound. -/
lemma LookupState.Sound.step (h : s.Sound lib) (hcall : call lib c s = (a, s'))
    (unchanged : s'.data = s.data) : s'.Sound lib := by
  unfold call at hcall
  split at hcall
  · next hquestion => exact getFundNav_sound hquestion h hcall
  · next hquestion => exact searchSymbols_sound hquestion h hcall unchanged

/-! ## What a call answers -/

/-- What is computed for a fund. -/
lemma computed_fundNav {symbol estimateType : String}
    (hquestion : c.question = .fundNav symbol estimateType) : computed lib data c =
      (fundNav lib data c.tenantId.text symbol estimateType c.timestamp).map .obj := by
  unfold computed call
  rw [hquestion]
  dsimp only
  unfold getFundNav
  dsimp only [Keyspace.find, Option.filter]
  cases fundNav lib data c.tenantId.text symbol estimateType c.timestamp with
  | error e => rfl
  | ok response => rfl

/-- What is computed for a search. -/
lemma computed_search {args : SearchArgs} (hquestion : c.question = .search args) :
    computed lib data c = .ok (.obj (paginateResults (searchResults lib data c.tenantId.text args.q
      args.type args.market c.newId).1 args.page args.pageSize)) := by
  unfold computed call
  rw [hquestion]
  rfl

/-- An entry for the same fund and a type that asks the same is the answer. -/
lemma KeptFor.serves_fundNav {e : Cached} {symbol estimateType : String}
    (h : KeptFor lib data e) (hkey : e.call.key lib = c.key lib)
    (hquestion : c.question = .fundNav symbol estimateType)
    (hsame : SameQuestion lib data e.call c) :
    SameAnswer (.ok e.value)
      ((fundNav lib data c.tenantId.text symbol estimateType c.timestamp).map .obj) := by
  rw [FinanceCall.key_of_fundNav lib hquestion] at hkey
  cases h with
  | @nav c' symbol' estimateType' response hquestion' hnav =>
    rw [FinanceCall.key_of_fundNav lib hquestion'] at hkey
    obtain ⟨htenant, rfl⟩ := navKey_inj hkey
    have hcongr := fundNav_congr c'.timestamp c.timestamp
      (hsame.fundNav _ _ _ hquestion' hquestion)
    rw [← htenant] at hcongr ⊢
    rw [hnav] at hcongr
    exact hcongr
  | results hquestion' hne =>
    rw [FinanceCall.key_of_search lib hquestion'] at hkey
    exact absurd hkey.symm navKey_ne_searchKey

/-- An entry for the same search has its results. -/
lemma KeptFor.serves_search {e : Cached} {args : SearchArgs} (h : KeptFor lib data e)
    (hkey : e.call.key lib = c.key lib) (hquestion : c.question = .search args)
    (hsame : SameQuestion lib data e.call c) :
    localResults lib data c.tenantId.text args.q args.type args.market ≠ [] ∧
      e.list = some (localResults lib data c.tenantId.text args.q args.type args.market) := by
  rw [FinanceCall.key_of_search lib hquestion] at hkey
  cases h with
  | nav hquestion' hnav =>
    rw [FinanceCall.key_of_fundNav lib hquestion'] at hkey
    exact absurd hkey navKey_ne_searchKey
  | @results c' args' hquestion' hne =>
    rw [FinanceCall.key_of_search lib hquestion'] at hkey
    obtain ⟨hq, htype, hmarket⟩ := hsame.search _ _ hquestion' hquestion
    have hresults : localResults lib data c'.tenantId.text args'.q args'.type args'.market =
        localResults lib data c.tenantId.text args.q args.type args.market := by
      rw [searchKey_inj hkey, hq]
      exact localResults_congr htype hmarket
    rw [hresults] at hne ⊢
    exact ⟨hne, rfl⟩

/-- A call that is served from an entry for the same question gets what it would compute. -/
lemma LookupState.Sound.answers (h : s.Sound lib) (hasks : AsksTheSame lib s c)
    (hcall : call lib c s = (a, s')) : SameAnswer a (computed lib s.data c) := by
  have hentry : ∀ e, Keyspace.find s.cache c.now (c.key lib) = some e →
      e.value.call.key lib = c.key lib ∧ KeptFor lib s.data e.value :=
    fun e hfind => h _ _ (Keyspace.find_eq_some.1 hfind).1
  unfold call at hcall
  split at hcall
  · next symbol estimateType hquestion =>
    rw [computed_fundNav hquestion]
    unfold getFundNav at hcall
    rw [← FinanceCall.key_of_fundNav lib hquestion] at hcall
    dsimp only at hcall
    split at hcall
    · next e hfind =>
      cases hcall
      obtain ⟨hkey, hkept⟩ := hentry e hfind
      exact hkept.serves_fundNav hkey hquestion (hasks e hfind)
    · split at hcall
      · next hnav =>
        cases hcall
        rw [hnav]
        exact SameAnswer.refl _
      · next hnav =>
        cases hcall
        rw [hnav]
        exact SameAnswer.refl _
  · next args hquestion =>
    rw [computed_search hquestion]
    unfold searchSymbols at hcall
    rw [← FinanceCall.key_of_search lib hquestion] at hcall
    dsimp only at hcall
    split at hcall
    · next results hfind =>
      cases hcall
      obtain ⟨e, hfind, hlist⟩ := Option.bind_eq_some_iff.1 hfind
      obtain ⟨hkey, hkept⟩ := hentry e hfind
      obtain ⟨hne, hresults⟩ := hkept.serves_search hkey hquestion (hasks e hfind)
      rw [hlist] at hresults
      cases hresults
      rw [searchResults_local hne]
      exact SameAnswer.refl _
    · cases hcall
      exact SameAnswer.refl _

/-! ## Runs -/

/-- The data is the same at every call, and each call asks the same as the one that left the entry it
is served from. -/
def Undisturbed (lib : FinanceLib) (data : FinanceData) (s : LookupState) (l : AnsweredCall) : Prop :=
  s.data = data ∧ AsksTheSame lib s l.1

/-- In a run of calls, from an empty cache and with no change of the data in between, every call is
answered with what it would compute if each asks the same as the one that left its entry. -/
theorem cached_answers (lib : FinanceLib) (data : FinanceData) {s s' : LookupState}
    {calls : List AnsweredCall} (empty : ∀ k, s.cache k = none)
    (run : Guarded (LookupStep lib) (Undisturbed lib data) s calls s') :
    ∀ l ∈ calls, SameAnswer l.2 (computed lib data l.1) := by
  have hsound : s.data = data → s.Sound lib := by
    intro _ k e hentry
    rw [empty k] at hentry
    cases hentry
  clear empty
  induction run with
  | nil =>
    intro l hl
    cases hl
  | cons hguard hstep _ ih =>
    obtain ⟨hdata, hasks⟩ := hguard
    have hs := hsound hdata
    intro l hl
    rcases List.mem_cons.1 hl with rfl | hl
    · rw [← hdata]
      exact hs.answers hasks hstep
    · apply ih _ l hl
      intro hunchanged
      exact hs.step hstep (hunchanged.trans hdata.symm)

end

/-! ## A fund that follows an index -/

namespace IndexFund

/-- The value of a number. -/
def number : Json → Option ℚ
  | .int i => some i
  | .float v _ => some v
  | .null | .bool _ | .str _ | .arr _ | .obj _ => none

/-- A float with its text. -/
def float (v : ℚ) : Json :=
  .float v (([(1 / 8, "0.125"), (1 / 2, "0.5"), (1, "1.0"), (9 / 8, "1.125"), (4, "4.0"),
    (9 / 2, "4.5"), (25 / 2, "12.5")].lookup v).getD "")

/-- An operation on two numbers. -/
def both (op : ℚ → ℚ → ℚ) (v w : Json) : Option Json := do
  return float (op (← number v) (← number w))

/-- Exact arithmetic, which is Python's on the numbers below, and texts in capitals. -/
def exact : FinanceLib where
  num :=
    { sub := both (· - ·)
      div := both (· / ·)
      mul := both (· * ·)
      round := fun v _ => (number v).map float
      float := fun v => (number v).map float
      int := fun _ => none
      fromtimestamp := fun _ => none }
  add := both (· + ·)
  decimal := float
  upper s := s
  md5 s := s
  ilike text pattern := Text.contains text (Text.replace pattern "%" "")
  collates s t := decide (s ≤ t)

def tenant : Uuid := ⟨"0b9f6c1e-8a53-4b58-9d3e-2f1a7c5e4d30", by decide⟩

def fund : SymbolRow where
  id := "c2a1f0de-1111-4222-8333-444455556666"
  tenantId := tenant.text
  symbol := "510300"
  name := .str "CSI 300 ETF"
  type := .str "fund"
  market := .str "CN"
  exchange := .str "SSE"
  currency := .str "CNY"
  isActive := true

/-- Its official NAV, an estimate made by hand, and an index that rose by an eighth. -/
def record : NavRow where
  tenantId := tenant.text
  symbolId := fund.id
  navOfficial := some 4
  navOfficialDate := some "2025-06-30"
  navEstimate := some 4
  navEstimateDeviationPercent := none
  estimateMethod := some "manual"
  estimateTimestamp := 0
  underlyingIndexSymbol := some "000300.SS"
  underlyingIndexValue := some 4
  underlyingIndexChangePercent := some (25 / 2)

def data : FinanceData where
  tables := ⟨[fund], []⟩
  navs := [record]
  quotes := fun _ => none
  yahoo := fun _ => none

def init : LookupState := ⟨data, fun _ => none, []⟩

def timestamp : Json := .str "2025-07-01T02:00:00+00:00"

def asked (now : Nat) (question : Question) : FinanceCall :=
  ⟨tenant, question, now, timestamp, fun _ => ""⟩

def nav (now : Nat) (estimateType : String) : FinanceCall :=
  asked now (.fundNav "510300" estimateType)

def search (now : Nat) (market : Option String) : FinanceCall :=
  asked now (.search ⟨"510300", none, market, 1, 20, by decide⟩)

/-- The newest record of the sample fund. -/
lemma newestNav : data.newestNav tenant.text fund.id = some record := by
  unfold FinanceData.newestNav
  rw [show (data.navs.filter fun r => r.tenantId = tenant.text ∧ r.symbolId = fund.id) = [record]
    from rfl, List.mergeSort_singleton]
  rfl

/-- The values of the record. -/
def stored : NavValues := storedValues exact data tenant.text (some record)

/-- The sample fund's answer from its values. -/
lemma fundNav_eq {estimateType : String} {values : NavValues}
    (h : estimated exact estimateType fund stored = .ok values) :
    fundNav exact data tenant.text "510300" estimateType timestamp =
      .ok (navResponse "510300" fund values timestamp) := by
  unfold fundNav fundValues
  rw [show data.findFund tenant.text "510300" = .ok (some fund) from rfl]
  show Except.map _ (do
    let values ← estimated exact estimateType fund
      (storedValues exact data tenant.text (data.newestNav tenant.text fund.id))
    return (fund, values)) = _
  rw [newestNav, show estimated exact estimateType fund (storedValues exact data tenant.text
    (some record)) = .ok values from h]
  rfl

/-- The estimate that follows the index. -/
def followed : NavValues :=
  { stored with
    navEstimate := .float (9 / 2) "4.5"
    navEstimateDeviationPercent := .float (25 / 2) "12.5"
    estimateMethod := .str "index_tracking" }

/-- The sample fund's realtime answer. -/
lemma fundNav_realtime : fundNav exact data tenant.text "510300" "realtime" timestamp =
    .ok (navResponse "510300" fund followed timestamp) :=
  fundNav_eq (by decide +kernel)

/-- The sample fund's official answer. -/
lemma fundNav_official : fundNav exact data tenant.text "510300" "latest_official" timestamp =
    .ok (navResponse "510300" fund stored timestamp) :=
  fundNav_eq (by decide +kernel)

/-- The fund is asked for in real time, which leaves an entry. -/
def keptNav : LookupState where
  data
  cache := Keyspace.set init.cache 0 (navKey tenant.text "510300")
    ⟨nav 0 "realtime", .obj (navResponse "510300" fund followed timestamp)⟩ REDIS_TTL_NAV
  pushed :=
    [(tenant.text, navUpdate (navResponse "510300" fund followed timestamp) timestamp)]

/-- The first answer is the realtime one and is kept. -/
lemma first_nav : call exact (nav 0 "realtime") init =
    (.ok (.obj (navResponse "510300" fund followed timestamp)), keptNav) := by
  show getFundNav exact (nav 0 "realtime") init "510300" "realtime" = _
  unfold getFundNav
  show (match fundNav exact data tenant.text "510300" "realtime" timestamp with
    | .error e => _
    | .ok response => _) = _
  rw [fundNav_realtime]
  rfl

/-- Within its time the kept answer is found for either type. -/
lemma find_keptNav (estimateType : String) : Keyspace.find keptNav.cache
    (nav 1000 estimateType).now (navKey (nav 1000 estimateType).tenantId.text "510300") =
      some ⟨⟨nav 0 "realtime", .obj (navResponse "510300" fund followed timestamp)⟩,
        some (0 + 1000 * REDIS_TTL_NAV)⟩ := by
  apply Keyspace.find_eq_some.2
  constructor
  · dsimp only [keptNav, nav, asked]
    rw [Keyspace.set_same]
  · rfl

/-- Within the time the entry lasts, the fund is served from it. -/
lemma second_nav (estimateType : String) : call exact (nav 1000 estimateType) keptNav =
    (.ok (.obj (navResponse "510300" fund followed timestamp)), keptNav) := by
  show getFundNav exact (nav 1000 estimateType) keptNav "510300" estimateType = _
  exact getFundNav_of_find (find_keptNav estimateType)

/-! ### The fund in a search -/

/-- The text of both searches is `510300:None:None`. -/
def hit : Json := searchResult data tenant.text fund

/-- The search finds the fund. -/
lemma localResults_find : localResults exact data tenant.text "510300" none none = [hit] := by
  have hselected : selectedRows data tenant.text none none = [fund] := rfl
  have hlevel : ∀ level ∈ matchLevels exact "510300",
      ((selectedRows data tenant.text none none).filter level).mergeSort
        (fun a b => exact.collates a.symbol b.symbol) = [fund] := by
    intro level hmem
    have hfund : level fund = true := by
      revert level
      decide +kernel
    rw [hselected, List.filter_cons_of_pos hfund, List.filter_nil, List.mergeSort_singleton]
  unfold localResults
  rw [List.flatMap_congr hlevel]
  rfl

/-- A filter on `None` finds nothing. -/
lemma localResults_none : localResults exact data tenant.text "510300" none (some "None") = [] := by
  have hselected : selectedRows data tenant.text none (some "None") = [] := rfl
  have hlevel : ∀ level ∈ matchLevels exact "510300",
      ((selectedRows data tenant.text none (some "None")).filter level).mergeSort
        (fun a b => exact.collates a.symbol b.symbol) = [] := by
    intro level _
    rw [hselected, List.filter_nil, List.mergeSort_nil]
  unfold localResults
  rw [List.flatMap_congr hlevel]
  rfl

/-- The fund is searched for without a market, which leaves an entry. -/
def keptSearch : LookupState where
  data
  cache := Keyspace.set init.cache 0 (searchKey tenant.text "510300:None:None")
    ⟨search 0 none, .arr [hit]⟩ REDIS_TTL_SEARCH
  pushed := []

/-- The first search finds the fund and keeps it. -/
lemma first_search : call exact (search 0 none) init =
    (.ok (.obj (paginateResults [hit] 1 20)), keptSearch) := by
  show searchSymbols exact (search 0 none) init ⟨"510300", none, none, 1, 20, by decide⟩ = _
  have hresults : searchResults exact data tenant.text "510300" none none (fun _ => "") =
      ([hit], data.tables) := by
    rw [searchResults_local, localResults_find]
    rw [localResults_find]
    exact List.cons_ne_nil _ _
  exact searchSymbols_of_find_none rfl hresults

/-- The filtered search is answered with what was kept. -/
lemma second_search : call exact (search 1000 (some "None")) keptSearch =
    (.ok (.obj (paginateResults [hit] 1 20)), keptSearch) := by
  show searchSymbols exact (search 1000 (some "None")) keptSearch
    ⟨"510300", none, some "None", 1, 20, by decide⟩ = _
  refine @searchSymbols_of_find _ _ _ _
    ⟨⟨search 0 none, .arr [hit]⟩, some (0 + 1000 * REDIS_TTL_SEARCH)⟩ _ ?_ rfl
  apply Keyspace.find_eq_some.2
  constructor
  · show keptSearch.cache (searchKey tenant.text "510300:None:None") = _
    dsimp only [keptSearch]
    rw [Keyspace.set_same]
  · rfl

/-- The filtered search, computed, is empty. -/
lemma computed_none : computed exact data (search 1000 (some "None")) =
    .ok (.obj (paginateResults [] 1 20)) := by
  rw [computed_search rfl]
  have hresults : searchResults exact data tenant.text "510300" none (some "None") (fun _ => "") =
      ([], data.tables) := by
    unfold searchResults
    rw [localResults_none]
    rfl
  show Except.ok (Json.obj (paginateResults (searchResults exact data tenant.text "510300" none
    (some "None") (fun _ => "")).1 1 20)) = _
  rw [hresults]

end IndexFund

open IndexFund in
/-- A fund asked for twice in real time is answered as it would be the first time. -/
theorem fund_served_again : SameAnswer (.ok (.obj (navResponse "510300" fund followed timestamp)))
    (computed exact data (nav 1000 "realtime")) := by
  have run : Guarded (LookupStep exact) (Undisturbed exact data) init
      [(nav 0 "realtime", .ok (.obj (navResponse "510300" fund followed timestamp))),
       (nav 1000 "realtime", .ok (.obj (navResponse "510300" fund followed timestamp)))] keptNav := by
    apply Guarded.cons _ first_nav
    · apply Guarded.cons _ (second_nav "realtime") .nil
      refine ⟨rfl, ?_⟩
      intro e he
      obtain rfl := Option.some.inj (he.symm.trans (find_keptNav "realtime"))
      constructor
      · rintro symbol estimateType estimateType' hkept hasked
        cases hkept
        cases hasked
        exact .inl Iff.rfl
      · rintro args args' hkept _
        cases hkept
    · exact ⟨rfl, fun e he => nomatch he⟩
  exact cached_answers exact data (fun _ => rfl) run _ (List.mem_cons_of_mem _ List.mem_cons_self)

open IndexFund in
/-- The official NAV is answered with the estimate that is cached, and a search in the market "None"
with the results of a search in all markets. -/
theorem other_question_served :
    (¬ ∀ calls s', (∀ l ∈ calls, ∃ now estimateType, l.1 = nav now estimateType) →
      Guarded (LookupStep exact) (fun s _ => s.data = data) init calls s' →
      ∀ l ∈ calls, SameAnswer l.2 (computed exact data l.1)) ∧
    ¬ ∀ calls s', (∀ l ∈ calls, ∃ now market, l.1 = search now market) →
      Guarded (LookupStep exact) (fun s _ => s.data = data) init calls s' →
      ∀ l ∈ calls, SameAnswer l.2 (computed exact data l.1) := by
  constructor
  · intro h
    have run : Guarded (LookupStep exact) (fun s _ => s.data = data) init
        [(nav 0 "realtime", .ok (.obj (navResponse "510300" fund followed timestamp))),
         (nav 1000 "latest_official", .ok (.obj (navResponse "510300" fund followed timestamp)))]
        keptNav :=
      .cons rfl first_nav (.cons rfl (second_nav "latest_official") .nil)
    have hsame := h _ _
      (List.forall_mem_cons.2 ⟨⟨_, _, rfl⟩, List.forall_mem_singleton.2 ⟨_, _, rfl⟩⟩) run _
      (List.mem_cons_of_mem _ List.mem_cons_self)
    rw [computed_fundNav rfl] at hsame
    have hofficial : SameAnswer (.ok (.obj (navResponse "510300" fund followed timestamp)))
        ((fundNav exact data tenant.text "510300" "latest_official" timestamp).map .obj) := hsame
    rw [fundNav_official] at hofficial
    exact absurd (Except.ok.inj hofficial) (by decide +kernel)
  · intro h
    have run : Guarded (LookupStep exact) (fun s _ => s.data = data) init
        [(search 0 none, .ok (.obj (paginateResults [hit] 1 20))),
         (search 1000 (some "None"), .ok (.obj (paginateResults [hit] 1 20)))] keptSearch :=
      .cons rfl first_search (.cons rfl second_search .nil)
    have hsame := h _ _
      (List.forall_mem_cons.2 ⟨⟨_, _, rfl⟩, List.forall_mem_singleton.2 ⟨_, _, rfl⟩⟩) run _
      (List.mem_cons_of_mem _ List.mem_cons_self)
    rw [computed_none] at hsame
    exact absurd (Except.ok.inj hsame) (by decide +kernel)

end InstantBoard.Finance
