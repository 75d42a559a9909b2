import InstantBoard.Finance.CachedAnswers
import InstantBoard.Processors.Accepted
import InstantBoard.Lib.Like

/-!
# Sound searches

What `search_symbols` should answer with an empty cache: symbols of the type and the market asked for
that have the search term in their symbol or name, none of them twice, in the order of the tiers, and the
symbols that Yahoo finds not lost because the tenant has one of them. No symbol comes twice and the tiers
are always in order. The rest holds exactly if the term matches no row as a pattern that does not have it
as it is and Yahoo, where it is asked, finds distinct new symbols that are as asked for
(`search_sound_iff`).
-/

namespace InstantBoard.Finance

/-! ## Sound results -/

section

variable (lib : FinanceLib) (fold : Char → Char) (q : String) (type market : Option String)

/-- A text has the term, as it is or in capitals, when the database has folded their case. -/
def HasTerm (text : String) : Prop :=
  q.toList.map fold <:+: text.toList.map fold ∨
    (lib.upper q).toList.map fold <:+: text.toList.map fold

/-- A value that is a text with the term. -/
def ValueHasTerm (v : Json) : Prop :=
  ∃ text, v = .str text ∧ HasTerm lib fold q text

/-- `result[key]` -/
def resultValue (result : Json) (key : String) : Json :=
  match result with
  | .obj fields => Dict.getD fields key .null
  | .null | .bool _ | .int _ | .float _ _ | .str _ | .arr _ => .null

/-- A value passes a filter. -/
def Passes (filter : Option String) (v : Json) : Prop :=
  ∀ s, filterOf filter = some s → v = .str s

/-- A result is as asked for. -/
structure Suits (result : Json) : Prop where
  type : Passes type (resultValue result "type")
  market : Passes market (resultValue result "market")
  term : ValueHasTerm lib fold q (resultValue result "symbol") ∨
    ValueHasTerm lib fold q (resultValue result "name")

/-- The same of a row. -/
structure SuitableRow (r : SymbolRow) : Prop where
  type : Passes type r.type
  market : Passes market r.market
  term : HasTerm lib fold q r.symbol ∨ ValueHasTerm lib fold q r.name

/-- `exact_match` -/
def exactMatch (r : SymbolRow) : Bool :=
  r.symbol == lib.upper q || r.name.isStr q

/-- `prefix_match` -/
def prefixMatch (r : SymbolRow) : Bool :=
  lib.ilike r.symbol (lib.upper q ++ "%") || ilikeColumn lib r.name (q ++ "%")

/-- `fuzzy_match` -/
def fuzzyMatch (r : SymbolRow) : Bool :=
  lib.ilike r.symbol ("%" ++ lib.upper q ++ "%") || ilikeColumn lib r.name ("%" ++ q ++ "%")

/-- A row is in one of the tiers. -/
def Matches (r : SymbolRow) : Prop :=
  exactMatch lib q r = true ∨ prefixMatch lib q r = true ∨ fuzzyMatch lib q r = true

/-- Rows in the order of their symbols. -/
def Ordered (rows : List SymbolRow) : Prop :=
  rows.Pairwise fun a b => lib.collates a.symbol b.symbol = true

/-- The results of the three tiers, one tier after the other. -/
structure Tiered (data : FinanceData) (tenantId : String) (exact begins within : List SymbolRow)
    (results : List Json) : Prop where
  results_eq : results = (exact ++ begins ++ within).map (searchResult data tenantId)
  of_exact : ∀ r ∈ exact, exactMatch lib q r = true
  of_begins : ∀ r ∈ begins, prefixMatch lib q r = true ∧ exactMatch lib q r = false
  of_within : ∀ r ∈ within, fuzzyMatch lib q r = true ∧ prefixMatch lib q r = false ∧
    exactMatch lib q r = false
  ordered : Ordered lib exact ∧ Ordered lib begins ∧ Ordered lib within

variable (data : FinanceData) (tenantId : String)

/-- Some row of the table is in one of the tiers. -/
def InTable : Prop :=
  ∃ r ∈ selectedRows data tenantId type market, Matches lib q r

/-- The rows that the external search adds and their results, as far as Yahoo answers. -/
def yahooFinds (newId : Nat → String) : Option (List (SymbolRow × Json)) :=
  (data.yahoo q).bind (externalQuotes tenantId newId)

/-- The columns take the rows. -/
def Acceptable (found : List (SymbolRow × Json)) : Prop :=
  ∀ e ∈ found, e.1.fits = true ∧ e.1.checked = true

/-- What a search should answer. Symbols that Yahoo finds and the columns take are not lost. -/
structure SearchSound (newId : Nat → String) (results : List Json) : Prop where
  suits : ∀ result ∈ results, Suits lib fold q type market result
  nodup : (results.map (resultValue · "symbol")).Nodup
  tiers : InTable lib q type market data tenantId →
    ∃ exact begins within, Tiered lib q data tenantId exact begins within results
  kept : ¬ InTable lib q type market data tenantId → ∀ found,
    yahooFinds q data tenantId newId = some found → Acceptable found →
      ∃ tables, insertRows data.tables found = .ok tables

/-- Symbols that come once and that the tenant does not have. -/
structure NewSymbols (found : List (SymbolRow × Json)) : Prop where
  nodup : (found.map (·.1.symbol)).Nodup
  fresh : ∀ e ∈ found, ∀ r ∈ data.tables.symbols, r.tenantId = tenantId → r.symbol ≠ e.1.symbol

/-- When a search is sound: a row that matches the term as a pattern has it, and what Yahoo finds when
there is none are new symbols that are as asked for. -/
structure SoundlyAsked (newId : Nat → String) : Prop where
  literal : ∀ r ∈ selectedRows data tenantId type market,
    prefixMatch lib q r = true ∨ fuzzyMatch lib q r = true →
      HasTerm lib fold q r.symbol ∨ ValueHasTerm lib fold q r.name
  found : ¬ InTable lib q type market data tenantId → ∀ found,
    yahooFinds q data tenantId newId = some found → Acceptable found →
      NewSymbols data tenantId found ∧ ∀ e ∈ found, SuitableRow lib fold q type market e.1

end

/-- `ORDER BY symbol` orders any two symbols. -/
structure Collation (lib : FinanceLib) : Prop where
  trans : ∀ {a b c}, lib.collates a b = true → lib.collates b c = true → lib.collates a c = true
  total : ∀ a b, lib.collates a b = true ∨ lib.collates b a = true

/-- New identifiers are not in use, and no two are the same. -/
structure FreshIds (db : FinanceTables) (newId : Nat → String) : Prop where
  injective : Function.Injective newId
  unused : ∀ i, ∀ r ∈ db.symbols, r.id ≠ newId i

/-! ## Each key once -/

section

variable {α : Type} {key : α → String} {seen seen' : List String} {l l' : List α}

/-- What is unseen depends on which keys were seen alone. -/
lemma unseen_congr (h : ∀ k, k ∈ seen ↔ k ∈ seen') : unseen key seen l = unseen key seen' l := by
  induction l generalizing seen seen' with
  | nil => rfl
  | cons a l ih =>
    rw [unseen, unseen]
    by_cases ha : key a ∈ seen
    · rw [if_pos ha, if_pos ((h _).1 ha), ih h]
    · rw [if_neg ha, if_neg fun ha' => ha ((h _).2 ha')]
      congr 1
      apply ih
      intro k
      rw [List.mem_cons, List.mem_cons, h]

/-- The unseen of two lists, one after the other. -/
lemma unseen_append :
    unseen key seen (l ++ l') = unseen key seen l ++ unseen key (l.map key ++ seen) l' := by
  induction l generalizing seen with
  | nil => rfl
  | cons a l ih =>
    rw [List.cons_append, unseen, unseen]
    by_cases ha : key a ∈ seen
    · rw [if_pos ha, if_pos ha, ih]
      congr 1
      apply unseen_congr
      intro k
      rw [List.map_cons, List.cons_append, List.mem_cons]
      constructor
      · exact fun hk => .inr hk
      · rintro (rfl | hk)
        · exact List.mem_append_right _ ha
        · exact hk
    · rw [if_neg ha, if_neg ha, ih, List.cons_append]
      congr 2
      apply unseen_congr
      intro k
      simp only [List.map_cons, List.cons_append, List.mem_cons, List.mem_append]
      constructor
      · rintro (hk | rfl | hk)
        · exact .inr (.inl hk)
        · exact .inl rfl
        · exact .inr (.inr hk)
      · rintro (rfl | hk | hk)
        · exact .inr (.inl rfl)
        · exact .inl hk
        · exact .inr (.inr hk)

/-- Where no key comes twice, what was not seen is left. -/
lemma unseen_eq_filter (h : (l.map key).Nodup) :
    unseen key seen l = l.filter fun a => key a ∉ seen := by
  induction l generalizing seen with
  | nil => rfl
  | cons a l ih =>
    obtain ⟨ha, hl⟩ := List.nodup_cons.1 h
    rw [unseen]
    by_cases hseen : key a ∈ seen
    · rw [if_pos hseen, List.filter_cons_of_neg (by simpa using hseen), ih hl]
    · rw [if_neg hseen, List.filter_cons_of_pos (by simpa using hseen), ih hl]
      congr 1
      apply List.filter_congr
      intro b hb
      have hne : key b ≠ key a := fun heq => ha (heq ▸ List.mem_map_of_mem hb)
      simp [hne]

/-- No key is left twice. -/
lemma nodup_unseen (seen : List String) (l : List α) :
    ((unseen key seen l).map key).Nodup ∧ ∀ a ∈ unseen key seen l, key a ∉ seen := by
  induction l generalizing seen with
  | nil => exact ⟨List.nodup_nil, fun a ha => absurd ha List.not_mem_nil⟩
  | cons a l ih =>
    rw [unseen]
    by_cases ha : key a ∈ seen
    · rw [if_pos ha]
      exact ih seen
    · rw [if_neg ha]
      obtain ⟨hnodup, hnew⟩ := ih (key a :: seen)
      constructor
      · apply List.nodup_cons.2 ⟨?_, hnodup⟩
        intro hin
        obtain ⟨b, hb, heq⟩ := List.mem_map.1 hin
        exact hnew b hb (heq ▸ List.mem_cons_self)
      · intro b hb
        rcases List.mem_cons.1 hb with rfl | hb
        · exact ha
        · exact fun hin => hnew b hb (List.mem_cons_of_mem _ hin)

/-- Pairs with the same first part. -/
lemma nodup_pairs {first second : α → String} {tenantId : String}
    (h : ∀ a ∈ l, first a = tenantId) :
    (l.map fun a => (first a, second a)).Nodup ↔ (l.map second).Nodup := by
  have hpairs : (l.map fun a => (first a, second a)) = (l.map second).map (Prod.mk tenantId) := by
    rw [List.map_map]
    apply List.map_congr_left
    intro a ha
    rw [h a ha, Function.comp_apply]
  rw [hpairs]
  exact List.nodup_map_iff fun s s' heq => (Prod.mk.inj heq).2

end

/-! ## The tiers -/

section

variable {lib : FinanceLib} {fold : Char → Char} {data : FinanceData} {tenantId q : String}
  {type market : Option String}

/-- The rows of a tier. -/
def tier (lib : FinanceLib) (rows : List SymbolRow) (level : SymbolRow → Bool) : List SymbolRow :=
  (rows.filter level).mergeSort fun a b => lib.collates a.symbol b.symbol

variable {rows : List SymbolRow} {level : SymbolRow → Bool} {r : SymbolRow}

/-- A tier has the rows on its level. -/
lemma mem_tier : r ∈ tier lib rows level ↔ r ∈ rows ∧ level r = true := by
  unfold tier
  rw [List.mem_mergeSort, List.mem_filter]

/-- A tier is in the order of the symbols. -/
lemma Collation.ordered_tier (collation : Collation lib) (rows : List SymbolRow)
    (level : SymbolRow → Bool) : Ordered lib (tier lib rows level) := by
  apply List.pairwise_mergeSort
  · exact fun a b c => collation.trans
  · intro a b
    rw [Bool.or_eq_true]
    exact collation.total a.symbol b.symbol

/-- No symbol comes twice in a tier. -/
lemma nodup_tier (h : (rows.map (·.symbol)).Nodup) (level : SymbolRow → Bool) :
    ((tier lib rows level).map (·.symbol)).Nodup := by
  have hperm : (tier lib rows level).Perm (rows.filter level) := List.mergeSort_perm _ _
  apply (hperm.map _).nodup_iff.2
  exact h.sublist (List.filter_sublist.map _)

/-- The symbols of a tenant come once. -/
lemma nodup_selectedRows (keyed : data.tables.Keyed) (tenantId : String)
    (type market : Option String) :
    ((selectedRows data tenantId type market).map (·.symbol)).Nodup := by
  have htenant : ∀ r ∈ selectedRows data tenantId type market, r.tenantId = tenantId := by
    intro r hr
    have hselected := (List.mem_filter.1 hr).2
    simp only [Bool.and_eq_true, decide_eq_true_eq] at hselected
    exact hselected.1.1.1
  rw [← nodup_pairs htenant]
  exact keyed.symbols.sublist (List.filter_sublist.map _)

/-- A symbol of a tier is that of one of its rows only. -/
lemma symbol_mem_tier (h : (rows.map (·.symbol)).Nodup) (hr : r ∈ rows) :
    r.symbol ∈ (tier lib rows level).map (·.symbol) ↔ level r = true := by
  constructor
  · intro hin
    obtain ⟨r', hr', heq⟩ := List.mem_map.1 hin
    obtain ⟨hmem, hlevel⟩ := mem_tier.1 hr'
    rw [← List.inj_on_of_nodup_map h hmem hr heq]
    exact hlevel
  · intro hlevel
    exact List.mem_map_of_mem (mem_tier.2 ⟨hr, hlevel⟩)

/-- What of a tier is left after tiers before it. -/
lemma unseen_tier (h : (rows.map (·.symbol)).Nodup) {seen : List String}
    {earlier : SymbolRow → Bool} (hseen : ∀ r ∈ rows, r.symbol ∈ seen ↔ earlier r = true)
    (level : SymbolRow → Bool) : unseen SymbolRow.symbol seen (tier lib rows level) =
      (tier lib rows level).filter fun r => !earlier r := by
  rw [unseen_eq_filter (nodup_tier h level)]
  apply List.filter_congr
  intro r hr
  rw [decide_not, Bool.eq_iff_iff, Bool.not_eq_true', Bool.not_eq_true', decide_eq_false_iff_not,
    hseen r (mem_tier.1 hr).1, Bool.not_eq_true]

/-- What is listed of the table: the tiers, each without what is in those before it. -/
lemma listed_eq (h : (rows.map (·.symbol)).Nodup) (exact begins within : SymbolRow → Bool) :
    unseen SymbolRow.symbol [] ([exact, begins, within].flatMap (tier lib rows)) =
      tier lib rows exact ++
        (tier lib rows begins).filter (fun r => !exact r) ++
        (tier lib rows within).filter fun r => !(begins r || exact r) := by
  have hfirst : unseen SymbolRow.symbol [] (tier lib rows exact) = tier lib rows exact := by
    rw [unseen_eq_filter (nodup_tier h exact), List.filter_eq_self]
    simp
  have hexact : ∀ r ∈ rows, r.symbol ∈ (tier lib rows exact).map (·.symbol) ++ [] ↔
      exact r = true := by
    intro r hr
    rw [List.append_nil, symbol_mem_tier h hr]
  have hbegins : ∀ r ∈ rows, r.symbol ∈ (tier lib rows begins).map (·.symbol) ++
      ((tier lib rows exact).map (·.symbol) ++ []) ↔ (begins r || exact r) = true := by
    intro r hr
    rw [List.mem_append, hexact r hr, symbol_mem_tier h hr, Bool.or_eq_true]
  rw [List.flatMap_cons, List.flatMap_cons, List.flatMap_singleton, unseen_append, unseen_append,
    hfirst, unseen_tier h hexact, unseen_tier h hbegins, List.append_assoc]

/-- The results of the table are in tiers. -/
lemma tiered_localResults (collation : Collation lib) (keyed : data.tables.Keyed)
    (tenantId q : String) (type market : Option String) : ∃ exact begins within,
      Tiered lib q data tenantId exact begins within
        (localResults lib data tenantId q type market) ∧
      ∀ r, r ∈ exact ++ begins ++ within ↔
        r ∈ selectedRows data tenantId type market ∧ Matches lib q r := by
  have hnodup := nodup_selectedRows keyed tenantId type market
  generalize hrows : selectedRows data tenantId type market = rows at hnodup
  have hlisted := @listed_eq lib rows hnodup (exactMatch lib q) (prefixMatch lib q)
    (fuzzyMatch lib q)
  refine ⟨tier lib rows (exactMatch lib q),
    (tier lib rows (prefixMatch lib q)).filter fun r => !exactMatch lib q r,
    (tier lib rows (fuzzyMatch lib q)).filter fun r => !(prefixMatch lib q r || exactMatch lib q r),
    ⟨?_, ?_, ?_, ?_, ?_, ?_, ?_⟩, ?_⟩
  · rw [← hlisted]
    unfold localResults
    rw [hrows]
    rfl
  · exact fun r hr => (mem_tier.1 hr).2
  · intro r hr
    obtain ⟨hin, hnot⟩ := List.mem_filter.1 hr
    exact ⟨(mem_tier.1 hin).2, by simpa using hnot⟩
  · intro r hr
    obtain ⟨hin, hnot⟩ := List.mem_filter.1 hr
    exact ⟨(mem_tier.1 hin).2, by simpa using hnot⟩
  · exact collation.ordered_tier _ _
  · exact (collation.ordered_tier _ _).filter _
  · exact (collation.ordered_tier _ _).filter _
  · intro r
    simp only [List.mem_append, List.mem_filter, mem_tier, Matches]
    cases exactMatch lib q r <;> cases prefixMatch lib q r <;> cases fuzzyMatch lib q r <;> simp

/-! ## What a result shows -/

/-- The result has what the row has. -/
structure Shows (row : SymbolRow) (result : Json) : Prop where
  symbol : resultValue result "symbol" = .str row.symbol
  name : resultValue result "name" = row.name
  type : resultValue result "type" = row.type
  market : resultValue result "market" = row.market

/-- A row's result shows the row. -/
lemma shows_searchResult (data : FinanceData) (tenantId : String) (row : SymbolRow) :
    Shows row (searchResult data tenantId row) :=
  ⟨rfl, rfl, rfl, rfl⟩

variable {row : SymbolRow} {result : Json}

/-- A text value has the term if the text does. -/
lemma valueHasTerm_str {text : String} :
    ValueHasTerm lib fold q (.str text) ↔ HasTerm lib fold q text := by
  constructor
  · rintro ⟨text', htext, hterm⟩
    cases htext
    exact hterm
  · exact fun hterm => ⟨text, rfl, hterm⟩

/-- A result is as asked for if its row is. -/
lemma Shows.suits_iff (h : Shows row result) :
    Suits lib fold q type market result ↔ SuitableRow lib fold q type market row := by
  constructor
  · rintro ⟨htype, hmarket, hterm⟩
    rw [h.type] at htype
    rw [h.market] at hmarket
    rw [h.symbol, h.name, valueHasTerm_str] at hterm
    exact ⟨htype, hmarket, hterm⟩
  · rintro ⟨htype, hmarket, hterm⟩
    refine ⟨?_, ?_, ?_⟩
    · rw [h.type]
      exact htype
    · rw [h.market]
      exact hmarket
    · rw [h.symbol, h.name, valueHasTerm_str]
      exact hterm

/-- The rows selected pass both filters. -/
lemma selectedRows_passes {r : SymbolRow} (h : r ∈ selectedRows data tenantId type market) :
    Passes type r.type ∧ Passes market r.market := by
  have hselected := (List.mem_filter.1 h).2
  simp only [Bool.and_eq_true, Option.all_eq_true] at hselected
  constructor
  · exact fun s hs => Json.eq_str_of_isStr (hselected.1.2 s hs)
  · exact fun s hs => Json.eq_str_of_isStr (hselected.2 s hs)

/-- A row that the term names has it. -/
lemma term_of_exactMatch {r : SymbolRow} (h : exactMatch lib q r = true) :
    HasTerm lib fold q r.symbol ∨ ValueHasTerm lib fold q r.name := by
  unfold exactMatch at h
  rcases Bool.or_eq_true_iff.1 h with h | h
  · left
    rw [beq_iff_eq.1 h]
    exact .inr (List.infix_refl _)
  · right
    exact ⟨q, Json.eq_str_of_isStr h, .inl (List.infix_refl _)⟩

/-- `ILIKE` is `LIKE` after the case of both is folded. -/
structure FoldsCase (lib : FinanceLib) (fold : Char → Char) : Prop where
  ilike : ∀ text pattern, lib.ilike text pattern =
    Like.like (pattern.toList.map fold) (text.toList.map fold)
  percent : fold '%' = '%'

/-- A plain term with a percent sign matches the texts that begin with it. -/
lemma FoldsCase.begins_iff (h : FoldsCase lib fold) {term text : String}
    (hterm : Like.Plain (term.toList.map fold)) :
    lib.ilike text (term ++ "%") = true ↔ term.toList.map fold <+: text.toList.map fold := by
  have hpattern : (term ++ "%").toList.map fold = term.toList.map fold ++ ['%'] := by
    rw [String.toList_append, List.map_append, ← h.percent]
    rfl
  rw [h.ilike, hpattern, Like.like_start hterm]

/-- A plain term between percent signs matches the texts that have it. -/
lemma FoldsCase.within_iff (h : FoldsCase lib fold) {term text : String}
    (hterm : Like.Plain (term.toList.map fold)) :
    lib.ilike text ("%" ++ term ++ "%") = true ↔
      term.toList.map fold <:+: text.toList.map fold := by
  have hpattern : ("%" ++ term ++ "%").toList.map fold = '%' :: (term.toList.map fold ++ ['%']) := by
    rw [String.toList_append, String.toList_append, List.map_append, List.map_append,
      List.append_assoc, ← h.percent]
    rfl
  rw [h.ilike, hpattern, Like.like_within hterm]

/-- Only a text matches a pattern. -/
lemma exists_of_ilikeColumn {v : Json} {pattern : String} (h : ilikeColumn lib v pattern = true) :
    ∃ text, v = .str text ∧ lib.ilike text pattern = true := by
  cases v with
  | str text => exact ⟨text, rfl, h⟩
  | null => cases h
  | bool b => cases h
  | int i => cases h
  | float v text => cases h
  | arr items => cases h
  | obj fields => cases h

/-- A row that a plain term matches has it. -/
lemma term_of_plain (hfold : FoldsCase lib fold)
    (hterm : Like.Plain (q.toList.map fold))
    (hupper : Like.Plain ((lib.upper q).toList.map fold)) {r : SymbolRow}
    (h : prefixMatch lib q r = true ∨ fuzzyMatch lib q r = true) :
    HasTerm lib fold q r.symbol ∨ ValueHasTerm lib fold q r.name := by
  unfold prefixMatch fuzzyMatch at h
  rcases h with h | h
  · rcases Bool.or_eq_true_iff.1 h with h | h
    · exact .inl (.inr ((hfold.begins_iff hupper).1 h).isInfix)
    · obtain ⟨text, htext, hlike⟩ := exists_of_ilikeColumn h
      exact .inr ⟨text, htext, .inl ((hfold.begins_iff hterm).1 hlike).isInfix⟩
  · rcases Bool.or_eq_true_iff.1 h with h | h
    · exact .inl (.inr ((hfold.within_iff hupper).1 h))
    · obtain ⟨text, htext, hlike⟩ := exists_of_ilikeColumn h
      exact .inr ⟨text, htext, .inl ((hfold.within_iff hterm).1 hlike)⟩

/-! ## What Yahoo finds -/

variable {newId : Nat → String}

/-- A quote with a symbol comes with a new row of the tenant's. -/
structure OfQuote (tenantId id : String) (e : SymbolRow × Json) : Prop where
  id_eq : e.1.id = id
  tenant : e.1.tenantId = tenantId
  shows : Shows e.1 e.2

/-- An external quote that is taken gives its row and result. -/
lemma externalQuote_eq_some {id : String} {v : Json} {e : SymbolRow × Json}
    (h : externalQuote tenantId id v = .ok (some e)) : OfQuote tenantId id e := by
  unfold externalQuote at h
  obtain ⟨fields, -, h⟩ := Fallible.bind_eq_ok.1 h
  dsimp only at h
  split at h
  · obtain ⟨text, htext, h⟩ := Fallible.bind_eq_ok.1 h
    obtain ⟨mapped, -, h⟩ := Fallible.bind_eq_ok.1 h
    cases h
    refine ⟨rfl, rfl, ?_, rfl, rfl, rfl⟩
    exact Json.strAttr_eq_ok htext
  · cases h

/-- The rows of the quotes have identifiers of their own. -/
lemma ofQuote_of_mapM {quotes : List Json} {k : Nat} {found : List (Option (SymbolRow × Json))}
    (h : (quotes.zipIdx k).mapM (fun (v, i) => (externalQuote tenantId (newId i) v).toOption) =
      some found) (injective : Function.Injective newId) :
    (∀ e ∈ found.filterMap id, ∃ i ≥ k, OfQuote tenantId (newId i) e) ∧
      ((found.filterMap id).map (·.1.id)).Nodup := by
  induction quotes generalizing k found with
  | nil =>
    cases h
    exact ⟨fun e he => absurd he List.not_mem_nil, List.nodup_nil⟩
  | cons v quotes ih =>
    rw [List.zipIdx_cons, List.mapM_cons] at h
    obtain ⟨first, hfirst, h⟩ := Option.bind_eq_some_iff.1 h
    obtain ⟨rest, hrest, h⟩ := Option.bind_eq_some_iff.1 h
    cases h
    obtain ⟨hall, hnodup⟩ := ih hrest
    have hlater : ∀ e ∈ rest.filterMap id, ∃ i ≥ k, OfQuote tenantId (newId i) e := by
      intro e he
      obtain ⟨i, hi, hof⟩ := hall e he
      exact ⟨i, Nat.le_of_succ_le hi, hof⟩
    cases first with
    | none =>
      rw [List.filterMap_cons_none rfl]
      exact ⟨hlater, hnodup⟩
    | some e =>
      have hof := externalQuote_eq_some (Fallible.toOption_eq_some.1 hfirst)
      have hcons : (some e :: rest).filterMap id = e :: rest.filterMap id := rfl
      rw [hcons]
      constructor
      · intro e' he'
        rcases List.mem_cons.1 he' with rfl | he'
        · exact ⟨k, Nat.le_refl k, hof⟩
        · exact hlater e' he'
      · apply List.nodup_cons.2 ⟨?_, hnodup⟩
        intro hin
        obtain ⟨e', he', heq⟩ := List.mem_map.1 hin
        obtain ⟨i, hi, hof'⟩ := hall e' he'
        have hik : i = k := injective (hof'.id_eq.symm.trans (heq.trans hof.id_eq))
        omega

/-- Every find of Yahoo is of a quote, and under its own id. -/
lemma yahooFinds_ofQuote {found : List (SymbolRow × Json)}
    (h : yahooFinds q data tenantId newId = some found) (injective : Function.Injective newId) :
    (∀ e ∈ found, ∃ i, OfQuote tenantId (newId i) e) ∧ (found.map (·.1.id)).Nodup := by
  obtain ⟨body, -, h⟩ := Option.bind_eq_some_iff.1 h
  obtain ⟨fields, -, h⟩ := Option.bind_eq_some_iff.1 h
  split at h
  · obtain ⟨made, hmade, h⟩ := Option.bind_eq_some_iff.1 h
    cases h
    obtain ⟨hall, hnodup⟩ := ofQuote_of_mapM hmade injective
    refine ⟨?_, hnodup⟩
    intro e he
    obtain ⟨i, -, hof⟩ := hall e he
    exact ⟨i, hof⟩
  all_goals cases h

/-- One row goes in exactly if the columns take it and no row of the table has its keys. -/
lemma insertRows_cons_iff {db : FinanceTables} {e : SymbolRow × Json}
    {found : List (SymbolRow × Json)} : (∃ db', insertRows db (e :: found) = .ok db') ↔
      (e.1.fits = true ∧ e.1.checked = true ∧ ∀ r ∈ db.symbols,
        r.id ≠ e.1.id ∧ (r.tenantId, r.symbol) ≠ (e.1.tenantId, e.1.symbol)) ∧
      ∃ db', insertRows { db with symbols := db.symbols ++ [e.1] } found = .ok db' := by
  constructor
  · rintro ⟨db', h⟩
    obtain ⟨db₁, hrow, hrest⟩ := Fallible.bind_eq_ok.1 h
    obtain ⟨hfits, ⟨hchecked, hfree⟩, rfl⟩ := FinanceTables.insertSymbol_eq_ok.1 hrow
    exact ⟨⟨hfits, hchecked, hfree⟩, db', hrest⟩
  · rintro ⟨⟨hfits, hchecked, hfree⟩, db', hrest⟩
    exact ⟨db', Fallible.bind_eq_ok.2
      ⟨_, FinanceTables.insertSymbol_eq_ok.2 ⟨hfits, ⟨hchecked, hfree⟩, rfl⟩, hrest⟩⟩

/-- The rows go in one after the other exactly if the columns take each and no two rows, new or old, are
one. -/
lemma insertRows_ok_iff {db : FinanceTables} {found : List (SymbolRow × Json)} :
    (∃ db', insertRows db found = .ok db') ↔ Acceptable found ∧
      (found.map fun e => (e.1.tenantId, e.1.symbol)).Nodup ∧ (found.map (·.1.id)).Nodup ∧
      ∀ e ∈ found, ∀ r ∈ db.symbols,
        r.id ≠ e.1.id ∧ (r.tenantId, r.symbol) ≠ (e.1.tenantId, e.1.symbol) := by
  induction found generalizing db with
  | nil =>
    refine ⟨fun _ => ⟨?_, List.nodup_nil, List.nodup_nil, ?_⟩, fun _ => ⟨db, rfl⟩⟩
    · exact fun e he => absurd he List.not_mem_nil
    · exact fun e he => absurd he List.not_mem_nil
  | cons e found ih =>
    rw [insertRows_cons_iff, ih, List.map_cons, List.map_cons, List.nodup_cons, List.nodup_cons]
    constructor
    · rintro ⟨⟨hfits, hchecked, hfree⟩, hacceptable, hkeys, hids, hrest⟩
      have hnew : ∀ e' ∈ found, e.1.id ≠ e'.1.id ∧
          (e.1.tenantId, e.1.symbol) ≠ (e'.1.tenantId, e'.1.symbol) := fun e' he' =>
        hrest e' he' e.1 (List.mem_append_right _ List.mem_cons_self)
      refine ⟨?_, ⟨?_, hkeys⟩, ⟨?_, hids⟩, ?_⟩
      · intro e' he'
        rcases List.mem_cons.1 he' with rfl | he'
        · exact ⟨hfits, hchecked⟩
        · exact hacceptable e' he'
      · intro hin
        obtain ⟨e', he', heq⟩ := List.mem_map.1 hin
        exact (hnew e' he').2 heq.symm
      · intro hin
        obtain ⟨e', he', heq⟩ := List.mem_map.1 hin
        exact (hnew e' he').1 heq.symm
      · intro e' he' r hr
        rcases List.mem_cons.1 he' with rfl | he'
        · exact hfree r hr
        · exact hrest e' he' r (List.mem_append_left _ hr)
    · rintro ⟨hacceptable, ⟨hkey, hkeys⟩, ⟨hid, hids⟩, hfree⟩
      obtain ⟨hfits, hchecked⟩ := hacceptable e List.mem_cons_self
      refine ⟨⟨hfits, hchecked, hfree e List.mem_cons_self⟩, ?_, hkeys, hids, ?_⟩
      · exact fun e' he' => hacceptable e' (List.mem_cons_of_mem e he')
      · intro e' he' r hr
        rcases List.mem_append.1 hr with hr | hr
        · exact hfree e' (List.mem_cons_of_mem e he') r hr
        · rw [List.mem_singleton.1 hr]
          constructor
          · intro heq
            exact hid (List.mem_map.2 ⟨e', he', heq.symm⟩)
          · intro heq
            exact hkey (List.mem_map.2 ⟨e', he', heq.symm⟩)

/-- What Yahoo finds is kept exactly if it is new. -/
lemma kept_iff (fresh : FreshIds data.tables newId) {found : List (SymbolRow × Json)}
    (hfound : yahooFinds q data tenantId newId = some found) :
    (∃ db', insertRows data.tables found = .ok db') ↔
      Acceptable found ∧ NewSymbols data tenantId found := by
  obtain ⟨hall, hids⟩ := yahooFinds_ofQuote hfound fresh.injective
  have htenant : ∀ e ∈ found, e.1.tenantId = tenantId := by
    intro e he
    obtain ⟨i, hof⟩ := hall e he
    exact hof.tenant
  rw [insertRows_ok_iff, nodup_pairs htenant]
  apply and_congr_right
  intro _
  constructor
  · rintro ⟨hnodup, -, hfree⟩
    refine ⟨hnodup, ?_⟩
    intro e he r hr hr' heq
    apply (hfree e he r hr).2
    rw [hr', heq, htenant e he]
  · rintro ⟨hnodup, hfresh⟩
    refine ⟨hnodup, hids, ?_⟩
    intro e he r hr
    obtain ⟨i, hof⟩ := hall e he
    constructor
    · rw [hof.id_eq]
      exact fresh.unused i r hr
    · intro heq
      obtain ⟨heq₁, heq₂⟩ := Prod.mk.inj heq
      rw [htenant e he] at heq₁
      exact hfresh e he r hr heq₁ heq₂

/-! ## Soundness -/

/-- Results of rows with distinct symbols have distinct symbols. -/
lemma nodup_symbols {l : List (SymbolRow × Json)} (h : ∀ e ∈ l, Shows e.1 e.2)
    (hnodup : (l.map (·.1.symbol)).Nodup) :
    ((l.map Prod.snd).map (resultValue · "symbol")).Nodup := by
  have hsymbols : (l.map Prod.snd).map (resultValue · "symbol") =
      (l.map (·.1.symbol)).map Json.str := by
    rw [List.map_map, List.map_map]
    apply List.map_congr_left
    intro e he
    exact (h e he).symbol
  rw [hsymbols]
  exact hnodup.map fun s s' heq => Json.str.inj heq

/-- A search with matches in the table is sound exactly if the rows that match have the term. -/
lemma searchSound_local (collation : Collation lib) (keyed : data.tables.Keyed)
    (newId : Nat → String) (hin : InTable lib q type market data tenantId) :
    SearchSound lib fold q type market data tenantId newId
        (localResults lib data tenantId q type market) ↔
      SoundlyAsked lib fold q type market data tenantId newId := by
  obtain ⟨exact, begins, within, htiered, hmem⟩ :=
    tiered_localResults collation keyed tenantId q type market
  have hresult : ∀ result, result ∈ localResults lib data tenantId q type market ↔
      ∃ r, (r ∈ selectedRows data tenantId type market ∧ Matches lib q r) ∧
        searchResult data tenantId r = result := by
    intro result
    rw [htiered.results_eq, List.mem_map]
    simp only [hmem]
  constructor
  · intro h
    refine ⟨?_, fun hnot => absurd hin hnot⟩
    intro r hr hmatches
    have hsuits := h.suits _ ((hresult _).2 ⟨r, ⟨hr, .inr hmatches⟩, rfl⟩)
    exact ((shows_searchResult data tenantId r).suits_iff.1 hsuits).term
  · intro h
    refine ⟨?_, ?_, fun _ => ⟨exact, begins, within, htiered⟩, fun hnot => absurd hin hnot⟩
    · intro result hin'
      obtain ⟨r, ⟨hr, hmatches⟩, rfl⟩ := (hresult result).1 hin'
      apply (shows_searchResult data tenantId r).suits_iff.2
      obtain ⟨htype, hmarket⟩ := selectedRows_passes hr
      refine ⟨htype, hmarket, ?_⟩
      rcases hmatches with hexact | hmatches
      · exact term_of_exactMatch hexact
      · exact h.literal r hr hmatches
    · have hsymbols : (localResults lib data tenantId q type market).map (resultValue · "symbol") =
          ((unseen SymbolRow.symbol [] ((matchLevels lib q).flatMap
            (tier lib (selectedRows data tenantId type market)))).map SymbolRow.symbol).map
              Json.str := by
        unfold localResults
        rw [List.map_map, List.map_map]
        rfl
      rw [hsymbols]
      exact (nodup_unseen [] _).1.map fun s s' heq => Json.str.inj heq

/-- With no matching row the table gives nothing. -/
lemma localResults_eq_nil (collation : Collation lib) (keyed : data.tables.Keyed)
    (hnot : ¬ InTable lib q type market data tenantId) :
    localResults lib data tenantId q type market = [] := by
  obtain ⟨exact, begins, within, htiered, hmem⟩ :=
    tiered_localResults collation keyed tenantId q type market
  rw [htiered.results_eq, List.map_eq_nil_iff, List.eq_nil_iff_forall_not_mem]
  exact fun r hr => hnot ⟨r, (hmem r).1 hr⟩

/-- With a matching row the table gives something. -/
lemma localResults_ne_nil (collation : Collation lib) (keyed : data.tables.Keyed)
    (hin : InTable lib q type market data tenantId) :
    localResults lib data tenantId q type market ≠ [] := by
  obtain ⟨exact, begins, within, htiered, hmem⟩ :=
    tiered_localResults collation keyed tenantId q type market
  obtain ⟨r, hr⟩ := hin
  rw [htiered.results_eq]
  exact List.ne_nil_of_mem (List.mem_map_of_mem ((hmem r).2 hr))

/-- With no matching row Yahoo's finds are the results. -/
lemma searchResults_external (collation : Collation lib) (keyed : data.tables.Keyed)
    (hnot : ¬ InTable lib q type market data tenantId) :
    (searchResults lib data tenantId q type market newId).1 =
      (unseen (fun e => e.1.symbol) [] (searchSymbolsExternal data tenantId q newId).1).map
        Prod.snd := by
  unfold searchResults
  rw [localResults_eq_nil collation keyed hnot]

/-- What the external search finds is kept, or there are no results. -/
lemma searchSymbolsExternal_cases (data : FinanceData) (tenantId q : String)
    (newId : Nat → String) :
    ((searchSymbolsExternal data tenantId q newId).1 = [] ∧
        ∀ found, yahooFinds q data tenantId newId = some found →
          ¬ ∃ tables, insertRows data.tables found = .ok tables) ∨
      ∃ found, yahooFinds q data tenantId newId = some found ∧
        (∃ tables, insertRows data.tables found = .ok tables) ∧
        (searchSymbolsExternal data tenantId q newId).1 = found := by
  have hsearch : externalSearch data tenantId q newId =
      (yahooFinds q data tenantId newId).bind fun found =>
        (insertRows data.tables found).toOption.map fun tables => (found, tables) := by
    unfold externalSearch yahooFinds
    cases data.yahoo q with
    | none => rfl
    | some body =>
      rw [Option.bind_some]
      show ((externalQuotes tenantId newId body).bind fun found =>
        (insertRows data.tables found).toOption.bind fun tables => some (found, tables)) = _
      congr 1
      funext found
      cases (insertRows data.tables found).toOption with
      | none => rfl
      | some tables => rfl
  unfold searchSymbolsExternal
  rw [hsearch]
  cases yahooFinds q data tenantId newId with
  | none => exact .inl ⟨rfl, fun found h => by cases h⟩
  | some found =>
    cases hinsert : insertRows data.tables found with
    | error e =>
      left
      refine ⟨by rw [Option.bind_some, hinsert]; rfl, ?_⟩
      rintro found' hfound ⟨tables, htables⟩
      cases hfound
      rw [hinsert] at htables
      cases htables
    | ok tables =>
      right
      refine ⟨found, rfl, ⟨tables, hinsert⟩, ?_⟩
      rw [Option.bind_some, hinsert]
      rfl

/-- A search with none is sound exactly if Yahoo finds new symbols that are as asked for. -/
lemma searchSound_external (fresh : FreshIds data.tables newId)
    (hnot : ¬ InTable lib q type market data tenantId) :
    SearchSound lib fold q type market data tenantId newId
        ((unseen (fun e => e.1.symbol) [] (searchSymbolsExternal data tenantId q newId).1).map
          Prod.snd) ↔
      SoundlyAsked lib fold q type market data tenantId newId := by
  have hliteral : ∀ r ∈ selectedRows data tenantId type market,
      ¬ (prefixMatch lib q r = true ∨ fuzzyMatch lib q r = true) := fun r hr hmatches =>
    hnot ⟨r, hr, .inr hmatches⟩
  rcases searchSymbolsExternal_cases data tenantId q newId with ⟨hnil, hlost⟩ | ⟨found, hfound, hkept, heq⟩
  · rw [hnil]
    constructor
    · intro h
      refine ⟨fun r hr hmatches => absurd hmatches (hliteral r hr), ?_⟩
      intro _ found hfound hacceptable
      exact absurd (h.kept hnot found hfound hacceptable) (hlost found hfound)
    · intro h
      refine ⟨fun result hin => absurd hin List.not_mem_nil, List.nodup_nil,
        fun hin => absurd hin hnot, ?_⟩
      intro _ found hfound hacceptable
      exact (kept_iff fresh hfound).2 ⟨hacceptable, (h.found hnot found hfound hacceptable).1⟩
  · rw [heq]
    obtain ⟨hacceptable, hnew⟩ := (kept_iff fresh hfound).1 hkept
    have hshows : ∀ e ∈ found, Shows e.1 e.2 := by
      intro e he
      obtain ⟨i, hof⟩ := (yahooFinds_ofQuote hfound fresh.injective).1 e he
      exact hof.shows
    have hlisted : unseen (fun e : SymbolRow × Json => e.1.symbol) [] found = found := by
      rw [unseen_eq_filter hnew.nodup, List.filter_eq_self]
      simp
    rw [hlisted]
    constructor
    · intro h
      refine ⟨fun r hr hmatches => absurd hmatches (hliteral r hr), ?_⟩
      intro _ found' hfound' _
      cases hfound.symm.trans hfound'
      refine ⟨hnew, ?_⟩
      intro e he
      exact (hshows e he).suits_iff.1 (h.suits e.2 (List.mem_map_of_mem he))
    · intro h
      refine ⟨?_, nodup_symbols hshows hnew.nodup, fun hin => absurd hin hnot, ?_⟩
      · intro result hin
        obtain ⟨e, he, rfl⟩ := List.mem_map.1 hin
        exact (hshows e he).suits_iff.2 ((h.found hnot found hfound hacceptable).2 e he)
      · intro _ found' hfound' _
        cases hfound.symm.trans hfound'
        exact hkept

end

/-- `search_symbols` with an empty cache is sound exactly if each row of the tenant's, of the type and
the market asked for, that matches the term as a pattern has it as it is, and the quotes that Yahoo
answers when there is none have symbols that are new to the tenant and differ, are of that type and
market and have the term. -/
theorem search_sound_iff (lib : FinanceLib) (fold : Char → Char) (collation : Collation lib)
    (data : FinanceData) (keyed : data.tables.Keyed) (tenantId : Uuid) (args : SearchArgs)
    (now : Nat) (timestamp : Json) (newId : Nat → String) (fresh : FreshIds data.tables newId) :
    let results := (searchResults lib data tenantId.text args.q args.type args.market newId).1
    computed lib data ⟨tenantId, .search args, now, timestamp, newId⟩ =
        .ok (.obj (paginateResults results args.page args.pageSize)) ∧
      (SearchSound lib fold args.q args.type args.market data tenantId.text newId results ↔
        SoundlyAsked lib fold args.q args.type args.market data tenantId.text newId) := by
  refine ⟨computed_search rfl, ?_⟩
  by_cases hin : InTable lib args.q args.type args.market data tenantId.text
  · rw [searchResults_local (localResults_ne_nil collation keyed hin)]
    exact searchSound_local collation keyed newId hin
  · rw [searchResults_external collation keyed hin]
    exact searchSound_external fresh hin

/-! ## Searches for a stock -/

namespace StockSearch

/-- `ILIKE` of ASCII letters. -/
def lib : FinanceLib :=
  { IndexFund.exact with
    upper := fun s => String.ofList (s.toList.map Char.toUpper)
    ilike := fun text pattern =>
      Like.like (pattern.toList.map Char.toLower) (text.toList.map Char.toLower) }

def tenant : Uuid := ⟨"5d1c7e42-90ab-4c3f-8e67-b4a2f1d09c58", by decide⟩

def stock : SymbolRow where
  id := "7f3e2d1c-5a4b-4c9d-8e0f-1a2b3c4d5e6f"
  tenantId := tenant.text
  symbol := "AAPL"
  name := .str "Apple Inc."
  type := .str "stock"
  market := .str "US"
  exchange := .str "NMS"
  currency := .str "USD"
  isActive := true

def newId (i : Nat) : String := String.ofList (List.replicate i 'n')

/-- Yahoo finds the stock. -/
def answer : Json :=
  .obj [("quotes", .arr [.obj
    [("symbol", .str "AAPL"), ("shortname", .str "Apple Inc."), ("quoteType", .str "EQUITY"),
     ("exchange", .str "NMS")]])]

/-- The tables have these symbols. -/
def data (symbols : List SymbolRow) : FinanceData where
  tables := ⟨symbols, []⟩
  navs := []
  quotes := fun _ => none
  yahoo := fun _ => some answer

/-- The order of the sample collates. -/
lemma collation : Collation lib where
  trans := by
    intro a b c hab hbc
    exact decide_eq_true (String.le_trans (of_decide_eq_true hab) (of_decide_eq_true hbc))
  total := by
    intro a b
    rcases String.le_total a b with h | h
    · exact .inl (decide_eq_true h)
    · exact .inr (decide_eq_true h)

/-- A table of one row is keyed. -/
lemma keyed (row : SymbolRow) : (data [row]).tables.Keyed :=
  ⟨List.nodup_singleton _, List.nodup_singleton _⟩

/-- The sample ids are new. -/
lemma fresh : FreshIds (data [stock]).tables newId where
  injective := by
    intro i j h
    simpa [newId] using congrArg (fun s => s.toList.length) h
  unused := by
    intro i r hr heq
    cases List.mem_singleton.1 hr
    have hin : '7' ∈ List.replicate i 'n' := by
      rw [← @String.toList_ofList (List.replicate i 'n'), ← newId, ← heq]
      decide
    exact absurd (List.eq_of_mem_replicate hin) (by decide)

end StockSearch

open StockSearch in
/-- A search for its symbol finds the stock. -/
theorem stock_found : SearchSound lib Char.toLower "aapl" none none (data [stock]) tenant.text newId
    (searchResults lib (data [stock]) tenant.text "aapl" none none newId).1 := by
  apply (search_sound_iff lib Char.toLower collation (data [stock]) (keyed stock) tenant
    ⟨"aapl", none, none, 1, 20, by decide⟩ 0 .null newId fresh).2.2
  have hfold : FoldsCase lib Char.toLower := ⟨fun _ _ => rfl, by decide⟩
  constructor
  · exact fun r _ hmatches => term_of_plain hfold (by decide +kernel) (by decide +kernel) hmatches
  · intro hnot
    exact absurd ⟨stock, List.mem_cons_self, .inl (by decide +kernel)⟩ hnot

namespace StockSearch

/-- The stock, not tracked any more. -/
def inactive : SymbolRow := { stock with isActive := false }

/-- Where no row is selected none matches. -/
lemma not_inTable {q : String} {type market : Option String} {symbols : List SymbolRow}
    (h : selectedRows (data symbols) tenant.text type market = []) :
    ¬ InTable lib q type market (data symbols) tenant.text := by
  rintro ⟨r, hr, _⟩
  rw [h] at hr
  cases hr

/-- The result of Yahoo's answer. -/
def result : Json :=
  .obj
    [("symbol", .str "AAPL"), ("name", .str "Apple Inc."), ("type", .str "stock"),
     ("market", .str "US"), ("exchange", .str "NMS"), ("current_price", .null),
     ("change_percent", .null), ("currency", .str "USD")]

/-- An underscore finds any character. -/
lemma underscore_unsound :
    ¬ SearchSound lib Char.toLower "A_PL" none none (data [stock]) tenant.text newId
      (searchResults lib (data [stock]) tenant.text "A_PL" none none newId).1 := by
  intro h
  obtain ⟨exact, begins, within, htiered, hmem⟩ :=
    tiered_localResults collation (keyed stock) tenant.text "A_PL" none none
  have hmatches : Matches lib "A_PL" stock := .inr (.inr (by decide +kernel))
  have hin : InTable lib "A_PL" none none (data [stock]) tenant.text :=
    ⟨stock, List.mem_cons_self, hmatches⟩
  rw [searchResults_local (localResults_ne_nil collation (keyed stock) hin)] at h
  have hresult : searchResult (data [stock]) tenant.text stock ∈
      localResults lib (data [stock]) tenant.text "A_PL" none none := by
    rw [htiered.results_eq]
    exact List.mem_map_of_mem ((hmem stock).2 ⟨List.mem_cons_self, hmatches⟩)
  rcases (h.suits _ hresult).term with ⟨text, htext, hterm⟩ | ⟨text, htext, hterm⟩
  · cases htext
    unfold HasTerm at hterm
    exact absurd hterm (by decide +kernel)
  · cases htext
    unfold HasTerm at hterm
    exact absurd hterm (by decide +kernel)

/-- A search for funds is answered with a stock. -/
lemma fund_unsound :
    ¬ SearchSound lib Char.toLower "apple" (some "fund") none (data []) tenant.text newId
      (searchResults lib (data []) tenant.text "apple" (some "fund") none newId).1 := by
  intro h
  have hkeyed : (data []).tables.Keyed := ⟨List.nodup_nil, List.nodup_nil⟩
  have hin : result ∈
      (searchResults lib (data []) tenant.text "apple" (some "fund") none newId).1 := by
    rw [searchResults_external collation hkeyed (not_inTable rfl)]
    decide +kernel
  have htype := (h.suits _ hin).type "fund" rfl
  exact absurd (Json.str.inj htype) (by decide)

/-- A stock that is not tracked any more is not found. -/
lemma inactive_unsound :
    ¬ SearchSound lib Char.toLower "apple" none none (data [inactive]) tenant.text newId
      (searchResults lib (data [inactive]) tenant.text "apple" none none newId).1 := by
  intro h
  have hfound : ∃ row, yahooFinds "apple" (data [inactive]) tenant.text newId =
      some [(row, result)] ∧ row.fits = true ∧ row.checked = true ∧
        row.tenantId = inactive.tenantId ∧ row.symbol = inactive.symbol :=
    ⟨_, rfl, by decide +kernel, by decide +kernel, rfl, rfl⟩
  obtain ⟨row, hfound, hfits, hchecked, htenant, hsymbol⟩ := hfound
  have hacceptable : Acceptable [(row, result)] := by
    intro e he
    cases List.mem_singleton.1 he
    exact ⟨hfits, hchecked⟩
  obtain ⟨tables, htables⟩ := h.kept (not_inTable rfl) _ hfound hacceptable
  obtain ⟨-, -, -, hfree⟩ := insertRows_ok_iff.1 ⟨tables, htables⟩
  apply (hfree _ List.mem_cons_self inactive List.mem_cons_self).2
  rw [htenant, hsymbol]

end StockSearch

open StockSearch in
/-- An underscore finds any character, a fund is answered with a stock, and a stock that is not tracked
any more is not found. -/
theorem unsound_searches :
    (¬ SearchSound lib Char.toLower "A_PL" none none (data [stock]) tenant.text newId
      (searchResults lib (data [stock]) tenant.text "A_PL" none none newId).1) ∧
    (¬ SearchSound lib Char.toLower "apple" (some "fund") none (data []) tenant.text newId
      (searchResults lib (data []) tenant.text "apple" (some "fund") none newId).1) ∧
    ¬ SearchSound lib Char.toLower "apple" none none (data [inactive]) tenant.text newId
      (searchResults lib (data [inactive]) tenant.text "apple" none none newId).1 :=
  ⟨underscore_unsound, fund_unsound, inactive_unsound⟩

end InstantBoard.Finance
