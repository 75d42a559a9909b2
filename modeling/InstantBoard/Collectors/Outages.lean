import InstantBoard.Collectors.Feeds
import InstantBoard.Collectors.Markets
import InstantBoard.Collectors.Reddit
import InstantBoard.Scheduler.Trackers
import InstantBoard.Services.Source
import Mathlib.Data.List.DropRight

/-!
# What an outage does to the health of a source

A service is out when it answers no request with 200. Some collectors report that as a failed
collection, some as a successful one without items, depending on how the requests end (`Hidden`).

`outage_health`: a source whose service is out is down exactly after ten collections that show it, and a
source whose collector hides it is healthy after two, whatever it was before.
-/

namespace InstantBoard

namespace Collectors

open Collector

/-- The collectors that need no key. -/
inductive Keyless where
  | rss
  | hackernews
  | arxiv
  | reddit
  | webScrape
  | yfinance
  | eastmoney

/-- The registry, as far as it is modelled. -/
def Keyless.ofName : String → Option Keyless
  | "rss" => some .rss
  | "hackernews" => some .hackernews
  | "arxiv" => some .arxiv
  | "reddit" => some .reddit
  | "web_scrape" => some .webScrape
  | "yfinance" => some .yfinance
  | "eastmoney" => some .eastmoney
  | _ => none

/-- The libraries the collectors parse with, and the clock. -/
structure Libraries where
  py : Stdlib
  timestamps : Timestamps
  feedparser : String → Option (List FeedEntry)
  fromstring : String → Option XmlElement
  scraper : Scraper
  numbers : Finance.Numbers
  now : String

variable (lib : Libraries)

def Keyless.collector : Keyless → Collector
  | .rss => rssCollector lib.py lib.now lib.feedparser
  | .hackernews => hackerNewsCollector lib.py lib.timestamps
  | .arxiv => arxivCollector lib.fromstring
  | .reddit => redditCollector lib.py lib.timestamps
  | .webScrape => webScrapeCollector lib.py lib.now lib.scraper
  | .yfinance => yfinanceCollector lib.numbers (.str lib.now)
  | .eastmoney => eastMoneyCollector lib.numbers (.str lib.now)

/-- The collector of a source. -/
def keyless (source : Source) : Option Keyless :=
  (SourceService.resolveCollector source.sourceType source.config).bind Keyless.ofName

variable (source : Source)

/-- What a `for` loop takes. -/
def Iterable : Json → Prop
  | .arr _ | .str _ | .obj _ => True
  | .null | .bool _ | .int _ | .float _ _ => False

/-- The outage does not show: some attempt takes it for an answer without items, and all before it
raise. -/
def Hidden (m : Conditions) : Keyless → Prop
  | .rss | .arxiv => False
  | .hackernews => ¬ (m.attempts 0 0).Raised
  | .reddit => RedditCollector.subreddits lib.py source ≠ [] ∧
      ∃ i < 3, (m.attempts i 0).HasStatus 429
  | .webScrape => source.url ≠ "" ∧ ∃ i < 3, WebScrapeCollector.Blocked (m.attempts i 0)
  | .yfinance =>
    let symbols := source.config.getD "symbols" (.arr [])
    symbols.truthy = true → Iterable symbols
  | .eastmoney =>
    if EastMoneyCollector.ofStocks source = true then
      Iterable (source.config.getD "symbols" (.arr []))
    else ∃ i < 3, ¬ (m.attempts i 0).Raised

/-! ## The attempts of an outage -/

section

variable {source} {up : Upstream} {m : Conditions}

/-- No answer is 200 while the upstream is out. -/
lemma status_of_out {k status : Nat} {text : String} {json : Except String Json} (hout : up.Out)
    (h : up k = .response status text json) : status ≠ 200 := by
  have hk := hout k
  rw [h] at hk
  exact hk

/-- RSS raises on an outage. -/
lemma rss_raises (hout : up.Out) (hurl : source.url ≠ "") :
    ∃ e, RSSCollector.fetchData source up = .error e := by
  unfold RSSCollector.fetchData
  rw [if_neg hurl]
  cases hup : up 0 with
  | timeout => exact ⟨_, rfl⟩
  | httpError => exact ⟨_, rfl⟩
  | raised message => exact ⟨_, rfl⟩
  | response status text json =>
    dsimp only
    rw [if_pos (status_of_out hout hup)]
    exact ⟨_, rfl⟩

/-- ArXiv raises or returns nothing on an outage. -/
lemma arxiv_fetch (hout : up.Out) : (∃ e, ArxivCollector.fetchData source up = .error e) ∨
    ArxivCollector.fetchData source up = .ok none := by
  unfold ArxivCollector.fetchData
  cases TechService.iterate (ArxivCollector.categories source) with
  | error e => exact .inl ⟨_, rfl⟩
  | ok categories =>
    cases hup : up 0 with
    | timeout => exact .inr rfl
    | httpError => exact .inr rfl
    | raised message => exact .inl ⟨_, rfl⟩
    | response status text json =>
      dsimp only
      rw [if_pos (status_of_out hout hup)]
      exact .inr rfl

/-- HackerNews returns nothing on a raised request, else an empty list. -/
lemma hackernews_fetch (hout : up.Out) : HackerNewsCollector.fetchData up =
    if (up 0).Raised then .ok none else .ok (some (.arr [])) := by
  unfold HackerNewsCollector.fetchData HackerNewsCollector.fetchStoryIds
  cases hup : up 0 with
  | timeout => rfl
  | httpError => rfl
  | raised message => rfl
  | response status text json =>
    dsimp only
    rw [if_pos (status_of_out hout hup)]
    rfl

/-- A listing is rate limited on 429 and raises on any other failure. -/
lemma listing_of_out {o : HttpOutcome} (hout : ¬ o.HasStatus 200) :
    (o.HasStatus 429 → RedditCollector.listing o = .rateLimited) ∧
      (¬ o.HasStatus 429 → ∃ message, RedditCollector.listing o = .raises message) := by
  cases o with
  | timeout => exact ⟨fun h => absurd h id, fun _ => ⟨_, rfl⟩⟩
  | httpError => exact ⟨fun h => absurd h id, fun _ => ⟨_, rfl⟩⟩
  | raised message => exact ⟨fun h => absurd h id, fun _ => ⟨_, rfl⟩⟩
  | response status text json =>
    refine ⟨fun hlimited => if_pos hlimited, fun hnot => ⟨_, (if_neg hnot).trans (if_pos hout)⟩⟩

/-- Reddit returns an empty list when its first request gets 429, else it raises. -/
lemma reddit_fetch (hout : up.Out) (hsubreddits : RedditCollector.subreddits lib.py source ≠ []) :
    ((up 0).HasStatus 429 → RedditCollector.fetchData lib.py source up = .ok (some (.arr []))) ∧
      (¬ (up 0).HasStatus 429 → ∃ e, RedditCollector.fetchData lib.py source up = .error e) := by
  obtain ⟨n, hn⟩ : ∃ n, (RedditCollector.subreddits lib.py source).length = n + 1 :=
    Nat.exists_eq_succ_of_ne_zero fun h => hsubreddits (List.length_eq_zero_iff.1 h)
  obtain ⟨hlimited, hraises⟩ := listing_of_out (hout 0)
  unfold RedditCollector.fetchData
  dsimp only
  rw [if_neg hsubreddits, hn, List.range_succ_eq_map, List.map_cons]
  constructor
  · intro h
    rw [hlimited h]
    rfl
  · intro h
    obtain ⟨message, hmessage⟩ := hraises h
    rw [hmessage]
    exact ⟨_, rfl⟩

/-- A scrape returns an empty list when it is blocked, else it raises. -/
lemma webScrape_fetch (hout : up.Out) (hurl : source.url ≠ "") :
    (WebScrapeCollector.Blocked (up 0) →
        WebScrapeCollector.fetchData source up = .ok (some (.arr []))) ∧
      (¬ WebScrapeCollector.Blocked (up 0) →
        ∃ e, WebScrapeCollector.fetchData source up = .error e) := by
  unfold WebScrapeCollector.fetchData
  rw [if_neg hurl]
  cases hup : up 0 with
  | timeout => exact ⟨fun h => absurd h (or_self_iff.not.2 id), fun _ => ⟨_, rfl⟩⟩
  | httpError => exact ⟨fun h => absurd h (or_self_iff.not.2 id), fun _ => ⟨_, rfl⟩⟩
  | raised message => exact ⟨fun h => absurd h (or_self_iff.not.2 id), fun _ => ⟨_, rfl⟩⟩
  | response status text json =>
    have hstatus := status_of_out hout hup
    dsimp only
    constructor
    · intro hblocked
      exact if_pos hblocked
    · intro hnot
      have hother : ¬ (status = 403 ∨ status = 429) := hnot
      rw [if_neg hother, if_pos hstatus]
      exact ⟨_, rfl⟩

/-- No request is answered while the upstream is out. -/
lemma answer?_of_out (hout : up.Out) (k : Nat) : (up k).answer? = none := by
  cases hup : up k with
  | timeout => rfl
  | httpError => rfl
  | raised message => rfl
  | response status text json =>
    cases json with
    | error e => rfl
    | ok data => exact if_neg (status_of_out hout hup)

/-- The values that can be iterated are those `iterate` takes. -/
lemma iterate_iff {v : Json} : Iterable v ↔ ∃ items, TechService.iterate v = .ok items := by
  cases v with
  | arr items => exact iff_of_true trivial ⟨_, rfl⟩
  | str s => exact iff_of_true trivial ⟨_, rfl⟩
  | obj fields => exact iff_of_true trivial ⟨_, rfl⟩
  | null => exact iff_of_false id (fun ⟨_, h⟩ => nomatch h)
  | bool b => exact iff_of_false id (fun ⟨_, h⟩ => nomatch h)
  | int i => exact iff_of_false id (fun ⟨_, h⟩ => nomatch h)
  | float value text => exact iff_of_false id (fun ⟨_, h⟩ => nomatch h)

/-- No symbol is answered. -/
lemma eachSymbol_of_out (hout : up.Out) {symbols : Json} (hsymbols : Iterable symbols)
    (make : Json → Json → Option Dict) :
    (eachSymbol symbols fun k symbol => (up k).answer?.bind (make symbol)) =
      .ok (some (.arr [])) := by
  obtain ⟨items, hitems⟩ := iterate_iff.1 hsymbols
  unfold eachSymbol
  rw [hitems]
  have hnone : (items.zipIdx.filterMap fun s => (up s.2).answer?.bind (make s.1)) = [] := by
    rw [List.filterMap_eq_nil_iff]
    intro s hs
    rw [answer?_of_out hout]
    rfl
  show Except.ok (some (Json.arr (List.map Json.obj
    (items.zipIdx.filterMap fun s => (up s.2).answer?.bind (make s.1))))) = _
  rw [hnone]
  rfl

/-- The loop over something else raises. -/
lemma eachSymbol_raises {symbols : Json} (hsymbols : ¬ Iterable symbols)
    (make : Nat → Json → Option Dict) : ∃ e, eachSymbol symbols make = .error e := by
  unfold eachSymbol
  cases hitems : TechService.iterate symbols with
  | error e => exact ⟨_, rfl⟩
  | ok items => exact absurd (iterate_iff.2 ⟨items, hitems⟩) hsymbols

/-- YFinance returns an empty list where the outage is hidden, else it raises. -/
lemma yfinance_fetch (hout : up.Out) (num : Finance.Numbers) (now : Json) :
    (Hidden lib source m .yfinance →
        YFinanceCollector.fetchData num now source up = .ok (some (.arr []))) ∧
      (¬ Hidden lib source m .yfinance →
        ∃ e, YFinanceCollector.fetchData num now source up = .error e) := by
  unfold YFinanceCollector.fetchData
  dsimp only
  by_cases hempty : (source.config.getD "symbols" (.arr [])).truthy = false
  · rw [if_pos hempty]
    refine ⟨fun _ => rfl, fun hnot => absurd (fun htruthy => ?_) hnot⟩
    rw [hempty] at htruthy
    cases htruthy
  · rw [if_neg hempty]
    have htruthy := Bool.eq_true_of_not_eq_false hempty
    constructor
    · intro hhidden
      exact eachSymbol_of_out hout (hhidden htruthy) _
    · intro hnot
      exact eachSymbol_raises (fun hiter => hnot fun _ => hiter) _

/-- EastMoney raises when its request raised, else it returns an empty list. -/
lemma eastMoney_indices_fetch (hout : up.Out) (num : Finance.Numbers) (now : Json) :
    ((up 0).Raised → ∃ e, EastMoneyCollector.fetchMarketIndices num now up = .error e) ∧
      (¬ (up 0).Raised →
        EastMoneyCollector.fetchMarketIndices num now up = .ok (some (.arr []))) := by
  unfold EastMoneyCollector.fetchMarketIndices
  cases hup : up 0 with
  | timeout => exact ⟨fun h => absurd h id, fun _ => rfl⟩
  | httpError => exact ⟨fun h => absurd h id, fun _ => rfl⟩
  | raised message => exact ⟨fun _ => ⟨_, rfl⟩, fun h => absurd trivial h⟩
  | response status text json =>
    exact ⟨fun h => absurd h id, fun _ => if_pos (status_of_out hout hup)⟩

end

/-- Nothing is collected during an outage, and whether that is a success is what `Hidden` says. -/
lemma collect_of_out {k : Keyless} {m : Conditions} (hrate : ¬ (k.collector lib).Refuses m)
    (hout : ∀ i, (m.attempts i).Out) :
    (Hidden lib source m k → (k.collector lib).collect source m = .validated m.elapsedMs []) ∧
      (¬ Hidden lib source m k →
        (k.collector lib).collect source m = .fetchFailed m.elapsedMs) := by
  have hthree : 0 < 3 := Nat.zero_lt_succ 2
  cases k with
  | rss =>
    refine ⟨fun h => absurd h id, fun _ => collect_failed hrate fun i hi => ?_⟩
    by_cases hurl : source.url = ""
    · exact .inr ⟨i, Nat.le_refl i, if_pos hurl⟩
    · exact .inl (rss_raises (hout i) hurl)
  | arxiv =>
    refine ⟨fun h => absurd h id, fun _ => collect_failed hrate fun i hi => ?_⟩
    rcases arxiv_fetch (hout i) with hraises | hnone
    · exact .inl hraises
    · exact .inr ⟨i, Nat.le_refl i, hnone⟩
  | hackernews =>
    -- an attempt never raises, so there is only one
    have hfirst := hackernews_fetch (hout 0)
    constructor
    · intro hhidden
      exact collect_validated hrate hthree (fun j hj => absurd hj j.not_lt_zero)
        (hfirst.trans (if_neg hhidden)) rfl rfl
    · intro hnot
      refine collect_failed hrate fun i hi => .inr ⟨0, Nat.zero_le i, ?_⟩
      exact hfirst.trans (if_pos (Decidable.not_not.1 hnot))
  | reddit =>
    by_cases hsubreddits : RedditCollector.subreddits lib.py source = []
    · refine ⟨fun h => absurd hsubreddits h.1, fun _ => collect_failed hrate fun i hi => ?_⟩
      refine .inr ⟨i, Nat.le_refl i, ?_⟩
      show RedditCollector.fetchData lib.py source (m.attempts i) = .ok none
      unfold RedditCollector.fetchData
      exact if_pos hsubreddits
    · have hfetch := fun i => reddit_fetch lib (hout i) hsubreddits
      constructor
      · intro hhidden
        exact collect_empty_of_exists hrate rfl rfl (fun i => (hfetch i).1) (fun i => (hfetch i).2)
          hhidden.2
      · intro hnot
        refine collect_failed hrate fun i hi => .inl ((hfetch i).2 fun hlimited => hnot ?_)
        exact ⟨hsubreddits, i, hi, hlimited⟩
  | webScrape =>
    by_cases hurl : source.url = ""
    · refine ⟨fun h => absurd hurl h.1, fun _ => collect_failed hrate fun i hi => ?_⟩
      exact .inr ⟨i, Nat.le_refl i, if_pos hurl⟩
    · have hfetch := fun i => webScrape_fetch (hout i) hurl
      constructor
      · intro hhidden
        exact collect_empty_of_exists hrate rfl rfl (fun i => (hfetch i).1) (fun i => (hfetch i).2)
          hhidden.2
      · intro hnot
        refine collect_failed hrate fun i hi => .inl ((hfetch i).2 fun hblocked => hnot ?_)
        exact ⟨hurl, i, hi, hblocked⟩
  | yfinance =>
    have hfetch := fun i =>
      @yfinance_fetch lib source (m.attempts i) m (hout i) lib.numbers (.str lib.now)
    constructor
    · intro hhidden
      exact collect_validated hrate hthree (fun j hj => absurd hj j.not_lt_zero)
        ((hfetch 0).1 hhidden) rfl rfl
    · intro hnot
      exact collect_failed hrate fun i hi => .inl ((hfetch i).2 hnot)
  | eastmoney =>
    by_cases hstocks : EastMoneyCollector.ofStocks source = true
    · have hhidden : Hidden lib source m .eastmoney ↔
          Iterable (source.config.getD "symbols" (.arr [])) := iff_of_eq (if_pos hstocks)
      have hfetch : ∀ i, EastMoneyCollector.fetchData lib.numbers (.str lib.now) source (m.attempts i) =
          _ := fun i => if_pos hstocks
      rw [hhidden]
      constructor
      · intro hiter
        exact collect_validated hrate hthree (fun j hj => absurd hj j.not_lt_zero)
          ((hfetch 0).trans (eachSymbol_of_out (hout 0) hiter _)) rfl rfl
      · intro hnot
        refine collect_failed hrate fun i hi => .inl ?_
        obtain ⟨e, he⟩ := eachSymbol_raises hnot fun k symbol => ((m.attempts i) k).answer?.bind
          (EastMoneyCollector.stockQuote lib.numbers (.str lib.now) symbol)
        exact ⟨e, (hfetch i).trans he⟩
    · have hhidden : Hidden lib source m .eastmoney ↔ ∃ i < 3, ¬ (m.attempts i 0).Raised :=
        iff_of_eq (if_neg hstocks)
      have hfetch : ∀ i, EastMoneyCollector.fetchData lib.numbers (.str lib.now) source (m.attempts i) =
          EastMoneyCollector.fetchMarketIndices lib.numbers (.str lib.now) (m.attempts i) :=
        fun i => if_neg hstocks
      have hindices := fun i => eastMoney_indices_fetch (hout i) lib.numbers (.str lib.now)
      rw [hhidden]
      constructor
      · intro hex
        refine collect_empty_of_exists hrate rfl rfl (fun i hi => (hfetch i).trans ((hindices i).2 hi))
          (fun i hi => ?_) hex
        obtain ⟨e, he⟩ := (hindices i).1 (Decidable.not_not.1 hi)
        exact ⟨e, (hfetch i).trans he⟩
      · intro hnot
        refine collect_failed hrate fun i hi => .inl ?_
        have hraised : (m.attempts i 0).Raised := by
          by_contra hno
          exact hnot ⟨i, hi, hno⟩
        obtain ⟨e, he⟩ := (hindices i).1 hraised
        exact ⟨e, (hfetch i).trans he⟩

/-! ## The health of the source -/

/-- The collection counts as failed. -/
def Shows (k : Keyless) (m : Conditions) : Prop :=
  (k.collector lib).Refuses m ∨ ¬ Hidden lib source m k

/-- In an outage nothing is collected, and the collection fails exactly if it shows. -/
lemma outcome_of_out {k : Keyless} {m : Conditions} (hout : ∀ i, (m.attempts i).Out) :
    ((k.collector lib).collect source m).items = [] ∧
      (((k.collector lib).collect source m).isSuccess = false ↔ Shows lib source k m) := by
  by_cases hrefused : (k.collector lib).Refuses m
  · have hlimited : (k.collector lib).collect source m = .rateLimited := by
      unfold Collector.collect BaseCollector.collect
      have hno : ((k.collector lib).run source m).rateOk = false := by
        show (_ == 0 || m.rateOk) = false
        rw [hrefused.2, Bool.or_false]
        exact beq_false_of_ne hrefused.1
      exact if_pos hno
    rw [hlimited]
    exact ⟨rfl, iff_of_true rfl (.inl hrefused)⟩
  · obtain ⟨hempty, hfailed⟩ := collect_of_out lib source hrefused hout
    by_cases hhidden : Hidden lib source m k
    · rw [hempty hhidden]
      exact ⟨rfl, iff_of_false (fun h => nomatch h) (not_or.2 ⟨hrefused, not_not.2 hhidden⟩)⟩
    · rw [hfailed hhidden]
      exact ⟨rfl, iff_of_true rfl (.inr hhidden)⟩

/-- A collection: when its outcome is recorded, and what it meets. -/
structure Turn where
  recordedAt : Calendar.Datetime
  updatedAt : Calendar.Datetime
  conditions : Conditions

open AsyncSchedulerManager

/-- What the turn does, where the source has such a collector. -/
def Turn.collection (t : Turn) : Option Collection :=
  (keyless source).map fun k =>
    ⟨t.recordedAt, t.updatedAt, (k.collector lib).collect source t.conditions⟩

/-- `takeWhile` reaches `n` elements exactly if the first `n` pass. -/
lemma le_length_takeWhile_iff {α : Type} {p : α → Bool} {l : List α} {n : Nat} (h : n ≤ l.length) :
    n ≤ (l.takeWhile p).length ↔ ∀ a ∈ l.take n, p a = true := by
  induction l generalizing n with
  | nil =>
    obtain rfl : n = 0 := Nat.le_zero.1 h
    exact iff_of_true (Nat.zero_le _) (fun a ha => nomatch ha)
  | cons a l ih =>
    cases n with
    | zero => exact iff_of_true (Nat.zero_le _) (fun a ha => nomatch ha)
    | succ n =>
      rw [List.take_succ_cons, List.forall_mem_cons, List.takeWhile_cons]
      cases hp : p a with
      | false => simp
      | true =>
        simp only [if_true, List.length_cons, Nat.add_le_add_iff_right, true_and]
        exact ih (Nat.le_of_succ_le_succ h)

/-- The last ten collections have failed. -/
lemma down_iff_last_ten {absent : Bool} {history cs : List Collection} {row : SourceHealth}
    (hrow : (Trackers.after source absent (history ++ cs)).row = some row) (hlen : 10 ≤ cs.length) :
    row.status = .down ↔ ∀ c ∈ cs.rtake 10, c.outcome.isSuccess = false := by
  rw [down_iff_failing hrow]
  unfold failing
  rw [List.reverse_append, le_length_takeWhile_iff (by simp; omega), List.take_append_of_le_length
    (by simpa using hlen), List.rtake_eq_reverse_take_reverse]
  simp

/-- Two collections that succeed make the source healthy. -/
lemma healthy_after_two (t : Trackers) {c c' : Collection} (hc : c.outcome.isSuccess = true)
    (hc' : c'.outcome.isSuccess = true) :
    ∃ row, ((t.collect source c).collect source c').row = some row ∧ row.status = .healthy ∧
      row.consecutiveFailures = 0 := by
  have hrow : ∀ (before : Option SourceHealth) {c : Collection}, c.outcome.isSuccess = true →
      (healthAfter c.updatedAt (c.outcome.result source.id) before).status =
          (previousStatus before).recovered ∧
        (healthAfter c.updatedAt (c.outcome.result source.id) before).consecutiveFailures = 0 := by
    intro before c hc
    have hsuccess : (c.outcome.result source.id).success = true := hc
    cases before with
    | some row => simp [healthAfter, hsuccess, previousStatus]
    | none => simp [healthAfter, hsuccess, previousStatus, HealthStatus.recovered]
  obtain ⟨hstatus, hfailures⟩ := hrow (t.collect source c).row hc'
  refine ⟨_, rfl, ?_, hfailures⟩
  show (healthAfter _ _ _).status = _
  rw [hstatus]
  show HealthStatus.recovered (healthAfter _ _ _).status = _
  rw [(hrow t.row hc).1]
  cases previousStatus t.row <;> rfl

/-- After ten collections during an outage the source is down exactly if the last ten show it, and after
two that hide it in a row it is healthy. Nothing is collected. -/
theorem outage_health {source : Source} {k : Keyless} (hk : keyless source = some k)
    {turns : List Turn} (hout : ∀ t ∈ turns, ∀ i, (t.conditions.attempts i).Out)
    {cs : List Collection} (hcs : turns.map (·.collection lib source) = cs.map some) {absent : Bool}
    {history : List Collection} {row : SourceHealth}
    (hrow : (Trackers.after source absent (history ++ cs)).row = some row) :
    (∀ c ∈ cs, c.outcome.items = []) ∧
      (10 ≤ turns.length →
        (row.status = .down ↔ ∀ t ∈ turns.rtake 10, Shows lib source k t.conditions)) ∧
      (2 ≤ turns.length → (∀ t ∈ turns.rtake 2, ¬ Shows lib source k t.conditions) →
        row.status = .healthy ∧ row.consecutiveFailures = 0) := by
  have hmade : cs = turns.map fun t =>
      ⟨t.recordedAt, t.updatedAt, (k.collector lib).collect source t.conditions⟩ := by
    apply (List.map_injective_iff.2 (Option.some_injective Collection))
    rw [← hcs, List.map_map]
    unfold Turn.collection
    rw [hk]
    rfl
  have hlast : ∀ {n : Nat} {P : CollectOutcome → Prop}, (∀ c ∈ cs.rtake n, P c.outcome) ↔
      ∀ t ∈ turns.rtake n, P ((k.collector lib).collect source t.conditions) := by
    intro n P
    rw [hmade]
    unfold List.rtake
    rw [List.length_map, ← List.map_drop, List.forall_mem_map]
  have hmem : ∀ {n : Nat} {t : Turn}, t ∈ turns.rtake n → t ∈ turns := List.mem_of_mem_drop
  refine ⟨?_, ?_, ?_⟩
  · intro c hc
    rw [hmade] at hc
    obtain ⟨t, ht, rfl⟩ := List.mem_map.1 hc
    exact (outcome_of_out lib source (hout t ht)).1
  · intro hlen
    have hlen' : 10 ≤ cs.length := by
      rw [hmade, List.length_map]
      exact hlen
    rw [down_iff_last_ten source hrow hlen', @hlast 10 fun o => o.isSuccess = false]
    exact forall₂_congr fun t ht => (outcome_of_out lib source (hout t (hmem ht))).2
  · intro hlen hhidden
    have hsuccess : ∀ c ∈ cs.rtake 2, c.outcome.isSuccess = true := by
      rw [@hlast 2 fun o => o.isSuccess = true]
      intro t ht
      apply Bool.eq_true_of_not_eq_false
      intro hfailed
      exact hhidden t ht ((outcome_of_out lib source (hout t (hmem ht))).2.1 hfailed)
    have htwo : (cs.rtake 2).length = 2 := by
      unfold List.rtake
      rw [List.length_drop, hmade, List.length_map]
      omega
    obtain ⟨c, c', hpair⟩ := List.length_eq_two.1 htwo
    rw [hpair] at hsuccess
    have hc := hsuccess c List.mem_cons_self
    have hc' := hsuccess c' (List.mem_cons_of_mem c List.mem_cons_self)
    have hsplit : history ++ cs = (history ++ cs.take (cs.length - 2) ++ [c]) ++ [c'] := by
      conv_lhs => rw [← List.take_append_drop (cs.length - 2) cs]
      show history ++ (cs.take (cs.length - 2) ++ cs.rtake 2) = _
      rw [hpair]
      simp
    rw [hsplit, after_concat, after_concat] at hrow
    obtain ⟨row', hrow', hhealthy⟩ := healthy_after_two source _ hc hc'
    rw [hrow] at hrow'
    cases hrow'
    exact hhealthy

namespace Sample

/-- Libraries that make nothing of anything. -/
def libraries : Libraries where
  py := RedditCollector.Sample.plain
  timestamps := RedditCollector.Sample.undated
  feedparser _ := none
  fromstring _ := none
  scraper := {
    Node := Unit
    soup := fun _ => none
    select := fun _ _ => .ok []
    find := fun _ _ => none
    findLink := fun _ => none
    name := fun _ => ""
    get := fun _ _ => ""
    getText := fun _ => ""
    urljoin := fun _ href => href
    date := fun _ => none
    int := fun _ => none
    lower := id }
  numbers := {
    sub := fun _ _ => none
    div := fun _ _ => none
    mul := fun _ _ => none
    round := fun _ _ => none
    float := fun _ => none
    int := fun _ => none
    fromtimestamp := fun _ => none }
  now := "2033-02-23T19:03:07+00:00"

def stories : Source where
  id := "hn"
  tenantId := SYSTEM_TENANT_ID
  categoryId := "tech"
  name := "Stories"
  sourceType := "api"
  url := "https://hacker-news.firebaseio.com/v0"
  config := [("library", .str "hackernews")]
  refreshIntervalSeconds := none
  isActive := true
  priority := 5

def moment : Calendar.Datetime :=
  { year := 2033, month := 2, day := 23, hour := 19, minute := 3, second := 7, microsecond := 911 }

/-- Every request times out. -/
def timedOut : Turn := ⟨moment, moment, true, fun _ _ => .timeout, 30000⟩

def collected : Collection :=
  ⟨moment, moment,
    (hackerNewsCollector libraries.py libraries.timestamps).collect stories timedOut.conditions⟩

end Sample

open Sample in
/-- A source that was down is healthy after two collections in which every request has timed out. -/
theorem outage_health_stories :
    ∃ row, (Trackers.after stories false
        (List.replicate 10 ⟨moment, moment, .rateLimited⟩ ++ [collected, collected])).row = some row ∧
      row.status = .healthy := by
  have hout : ∀ t ∈ [timedOut, timedOut], ∀ i, (t.conditions.attempts i).Out := by
    intro t ht i k
    rcases List.mem_pair.1 ht with rfl | rfl
    · exact id
    · exact id
  refine ⟨_, rfl, ((@outage_health libraries stories .hackernews rfl [timedOut, timedOut] hout
    [collected, collected] rfl false (List.replicate 10 ⟨moment, moment, .rateLimited⟩) _ rfl).2.2
      (by decide) ?_).1⟩
  intro t ht
  have ht' : t ∈ [timedOut, timedOut] := List.mem_of_mem_drop ht
  rcases List.mem_pair.1 ht' with rfl | rfl
  · exact not_or.2 ⟨fun h => Bool.noConfusion h.2, not_not.2 id⟩
  · exact not_or.2 ⟨fun h => Bool.noConfusion h.2, not_not.2 id⟩

end Collectors

end InstantBoard
