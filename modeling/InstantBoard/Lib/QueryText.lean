import Mathlib.Data.List.Basic
import Mathlib.Data.List.Nodup
import Mathlib.Tactic.Lemma
import Mathlib.Tactic.TypeStar

/-!
# Query strings

A query string is a list of pairs, `name=value` joined by `&`, with both quoted (`Quoting`). It is
read into a dictionary of lists (`group`) and written from one (`Quoting.encode`). Writing a
dictionary and reading it again gives its pairs (`Quoting.pairs_encode`), and a dictionary that came
from pairs comes again from its own (`group_ungroup_group`). Grouping moves pairs of different names
past each other and nothing else: each name has its values in their order (`values_ungroup_group`).
-/

namespace QueryText

/-! ## Dictionaries of lists -/

section Dictionary

variable {α β : Type*} [DecidableEq α]

/-- One more value under its name. -/
def add : List (α × List β) → α × β → List (α × List β)
  | [], (k, v) => [(k, [v])]
  | (k', vs) :: d, (k, v) => if k' = k then (k', vs ++ [v]) :: d else (k', vs) :: add d (k, v)

/-- The values of each name, the names in the order in which they first come. -/
def group (ps : List (α × β)) : List (α × List β) := ps.foldl add []

/-- The pairs of a dictionary. -/
def ungroup (d : List (α × List β)) : List (α × β) := d.flatMap fun kv => kv.2.map (kv.1, ·)

/-- The values of one name. -/
def values (k : α) (ps : List (α × β)) : List β := (ps.filter fun p => p.1 = k).map Prod.snd

variable {k : α} {v : β} {p : α × β} {ps : List (α × β)} {d : List (α × List β)}

/-- A value of a key is in a pair with it. -/
lemma mem_values : v ∈ values k ps ↔ (k, v) ∈ ps := by
  simp [values]

/-- A filter that keeps a key's pairs keeps its values. -/
lemma values_filter_of_forall {q : α × β → Bool} (h : ∀ v, (k, v) ∈ ps → q (k, v) = true) :
    values k (ps.filter q) = values k ps := by
  unfold values
  rw [List.filter_filter]
  congr 1
  apply List.filter_congr
  rintro ⟨k', v⟩ hmem
  by_cases hk : k' = k
  · subst hk
    simp [h v hmem]
  · simp [hk]

/-- A filter that drops a key's pairs leaves no value. -/
lemma values_filter_of_forall_not {q : α × β → Bool} (h : ∀ v, q (k, v) = false) :
    values k (ps.filter q) = [] := by
  apply List.eq_nil_iff_forall_not_mem.2
  intro v hv
  have hmem := List.mem_filter.1 (mem_values.1 hv)
  rw [h v] at hmem
  exact absurd hmem.2 Bool.false_ne_true

/-! ### Grouping -/

/-- The keys after a pair is added. -/
lemma mem_map_fst_add (d : List (α × List β)) (p : α × β) :
    k ∈ (add d p).map Prod.fst ↔ k ∈ d.map Prod.fst ∨ k = p.1 := by
  induction d with
  | nil => simp [add]
  | cons kv d ih =>
    rw [add]
    split
    · rename_i h
      simp only [List.map_cons, List.mem_cons, h]
      tauto
    · simp only [List.map_cons, List.mem_cons, ih]
      tauto

/-- No name stands twice and none is without values. -/
structure Tidy (d : List (α × List β)) : Prop where
  nodup : (d.map Prod.fst).Nodup
  ne_nil : ∀ kv ∈ d, kv.2 ≠ []

omit [DecidableEq α] in
/-- The empty dict is tidy. -/
lemma tidy_nil : Tidy ([] : List (α × List β)) := ⟨List.nodup_nil, by simp⟩

/-- Adding a pair keeps a dict tidy. -/
lemma Tidy.add (h : Tidy d) (p : α × β) : Tidy (add d p) := by
  induction d with
  | nil => exact ⟨by simp [QueryText.add], by simp [QueryText.add]⟩
  | cons kv d ih =>
    have hnodup := List.nodup_cons.1 h.nodup
    have hd : Tidy d := ⟨hnodup.2, fun kv hkv => h.ne_nil kv (List.mem_cons_of_mem _ hkv)⟩
    rw [QueryText.add]
    split
    · refine ⟨h.nodup, ?_⟩
      intro kv' hkv'
      rcases List.mem_cons.1 hkv' with rfl | hkv'
      · simp
      · exact hd.ne_nil kv' hkv'
    · rename_i hne
      refine ⟨List.nodup_cons.2 ⟨?_, (ih hd).nodup⟩, ?_⟩
      · rw [mem_map_fst_add]
        rintro (hmem | heq)
        · exact hnodup.1 hmem
        · exact hne heq
      · intro kv' hkv'
        rcases List.mem_cons.1 hkv' with rfl | hkv'
        · exact h.ne_nil _ (List.mem_cons_self ..)
        · exact (ih hd).ne_nil kv' hkv'

/-- A grouped query is tidy. -/
lemma tidy_group (ps : List (α × β)) : Tidy (group ps) := by
  have key : ∀ d : List (α × List β), Tidy d → Tidy (ps.foldl QueryText.add d) := by
    induction ps with
    | nil => intro d hd; exact hd
    | cons p ps ih => intro d hd; exact ih _ (hd.add p)
  exact key [] tidy_nil

/-! ### Filtering -/

/-- Filtering by key after a pair is added. -/
lemma filter_add (q : α → Bool) (d : List (α × List β)) (p : α × β) :
    (add d p).filter (fun kv => q kv.1) =
      if q p.1 then add (d.filter fun kv => q kv.1) p else d.filter fun kv => q kv.1 := by
  obtain ⟨k, v⟩ := p
  induction d with
  | nil => cases hq : q k <;> simp [add, hq]
  | cons kv d ih =>
    obtain ⟨k', vs⟩ := kv
    rw [add]
    by_cases hk : k' = k
    · subst hk
      cases hq : q k' <;> simp [add, hq]
    · rw [if_neg hk]
      cases hq' : q k'
      · rw [List.filter_cons_of_neg (by simp [hq']), List.filter_cons_of_neg (by simp [hq']), ih]
      · rw [List.filter_cons_of_pos (by simp [hq']), List.filter_cons_of_pos (by simp [hq']), ih]
        cases hq : q k <;> simp [add, hk]

/-- Names are taken out before or after the grouping. -/
lemma filter_group (q : α → Bool) (ps : List (α × β)) :
    (group ps).filter (fun kv => q kv.1) = group (ps.filter fun p => q p.1) := by
  have key : ∀ d : List (α × List β), (ps.foldl add d).filter (fun kv => q kv.1) =
      (ps.filter fun p => q p.1).foldl add (d.filter fun kv => q kv.1) := by
    induction ps with
    | nil => intro d; rfl
    | cons p ps ih =>
      intro d
      rw [List.foldl_cons, ih, filter_add]
      cases hq : q p.1
      · rw [List.filter_cons_of_neg (by simp [hq]), if_neg (by simp)]
      · rw [List.filter_cons_of_pos (by simp [hq]), if_pos rfl, List.foldl_cons]
  exact key []

/-! ### The pairs of a grouping -/

/-- The values in two queries. -/
lemma values_append (ps qs : List (α × β)) : values k (ps ++ qs) = values k ps ++ values k qs := by
  simp [values]

/-- The values of a query with one key. -/
lemma values_map_pair (k k' : α) (vs : List β) :
    values k (vs.map (k', ·)) = if k' = k then vs else [] := by
  induction vs with
  | nil => simp [values]
  | cons v vs ih =>
    unfold values at ih ⊢
    by_cases hk : k' = k
    · rw [if_pos hk] at ih ⊢
      rw [List.map_cons, List.filter_cons_of_pos (by simpa using hk), List.map_cons, ih]
    · rw [if_neg hk] at ih ⊢
      rw [List.map_cons, List.filter_cons_of_neg (by simpa using hk), ih]

omit [DecidableEq α] in
/-- The pairs of one more entry. -/
lemma ungroup_cons (kv : α × List β) (d : List (α × List β)) :
    ungroup (kv :: d) = kv.2.map (kv.1, ·) ++ ungroup d := rfl

/-- A key that is not in a dict has no value. -/
lemma values_ungroup_of_not_mem (h : k ∉ d.map Prod.fst) : values k (ungroup d) = [] := by
  induction d with
  | nil => rfl
  | cons kv d ih =>
    rw [List.map_cons, List.mem_cons, not_or] at h
    rw [ungroup_cons, values_append, values_map_pair, if_neg (Ne.symm h.1), ih h.2]
    rfl

/-- A pair that is added gives its key one more value. -/
lemma values_ungroup_add (h : (d.map Prod.fst).Nodup) (p : α × β) :
    values k (ungroup (add d p)) = values k (ungroup d) ++ values k [p] := by
  obtain ⟨k₀, v⟩ := p
  have hone : values k [(k₀, v)] = if k₀ = k then [v] else [] := values_map_pair k k₀ [v]
  induction d with
  | nil => rfl
  | cons kv d ih =>
    obtain ⟨k', vs⟩ := kv
    have hnodup := List.nodup_cons.1 h
    rw [add]
    split
    · -- the value goes behind those of its name, and no later entry has that name
      rename_i hk
      subst hk
      rw [ungroup_cons, ungroup_cons, values_append, values_append, values_map_pair,
        values_map_pair, hone]
      by_cases hk : k' = k
      · subst hk
        rw [values_ungroup_of_not_mem hnodup.1]
        simp
      · simp [hk]
    · rw [ungroup_cons, ungroup_cons, values_append, values_append, ih hnodup.2, List.append_assoc]

/-- Each name keeps its values in their order. -/
lemma values_ungroup_group (k : α) (ps : List (α × β)) :
    values k (ungroup (group ps)) = values k ps := by
  have key : ∀ d : List (α × List β), Tidy d →
      values k (ungroup (ps.foldl add d)) = values k (ungroup d) ++ values k ps := by
    induction ps with
    | nil => intro d _; simp [values]
    | cons p ps ih =>
      intro d hd
      rw [List.foldl_cons, ih _ (hd.add p), values_ungroup_add hd.nodup, List.append_assoc,
        ← values_append]
      rfl
  exact key [] tidy_nil

/-- Grouping keeps the pairs. -/
lemma mem_ungroup_group : p ∈ ungroup (group ps) ↔ p ∈ ps := by
  obtain ⟨k, v⟩ := p
  rw [← mem_values, values_ungroup_group, mem_values]

/-- A pair is added past the entries of other keys. -/
lemma add_append_of_not_mem (h : k ∉ d.map Prod.fst) (d' : List (α × List β)) (v : β) :
    add (d ++ d') (k, v) = d ++ add d' (k, v) := by
  induction d with
  | nil => rfl
  | cons kv d ih =>
    rw [List.map_cons, List.mem_cons, not_or] at h
    rw [List.cons_append, add, if_neg (Ne.symm h.1), ih h.2]
    rfl

/-- The values of a new name put in one by one. -/
lemma foldl_add_entry (h : k ∉ d.map Prod.fst) {vs : List β} (hvs : vs ≠ []) :
    (vs.map (k, ·)).foldl add d = d ++ [(k, vs)] := by
  have behind : ∀ vs ws : List β,
      (vs.map (k, ·)).foldl add (d ++ [(k, ws)]) = d ++ [(k, ws ++ vs)] := by
    intro vs
    induction vs with
    | nil => intro ws; simp
    | cons v vs ih =>
      intro ws
      rw [List.map_cons, List.foldl_cons, add_append_of_not_mem h, add, if_pos rfl, ih]
      simp
  obtain ⟨v, vs, rfl⟩ := List.exists_cons_of_ne_nil hvs
  have hfirst : add d (k, v) = d ++ [(k, [v])] := by
    simpa [add] using add_append_of_not_mem h [] v
  rw [List.map_cons, List.foldl_cons, hfirst, behind]
  rfl

/-- A tidy dictionary comes again from its own pairs. -/
lemma Tidy.group_ungroup (h : Tidy d) : group (ungroup d) = d := by
  have key : ∀ d₀ : List (α × List β), Tidy (d₀ ++ d) →
      (ungroup d).foldl QueryText.add d₀ = d₀ ++ d := by
    clear h
    induction d with
    | nil => intro d₀ _; simp [ungroup]
    | cons kv d ih =>
      intro d₀ hd₀
      have hnew : kv.1 ∉ d₀.map Prod.fst := by
        intro hmem
        have hdisjoint := (List.nodup_append.1 (List.map_append .. ▸ hd₀.nodup)).2.2
        exact hdisjoint _ hmem _ (List.mem_cons_self ..) rfl
      rw [ungroup_cons, List.foldl_append, foldl_add_entry hnew (hd₀.ne_nil kv (by simp)), ih]
      · simp
      · simpa using hd₀
  exact key [] h

/-- Grouping again changes nothing. -/
lemma group_ungroup_group (ps : List (α × β)) : group (ungroup (group ps)) = group ps :=
  (tidy_group ps).group_ungroup

end Dictionary

/-! ## Quoting -/

/-- The characters that quoted text is written in. -/
def Safe (c : Char) : Prop := c.isAlphanum = true ∨ c ∈ ['_', '.', '-', '~', '+', '%']

instance : DecidablePred Safe := fun _ => inferInstanceAs (Decidable (_ ∨ _))

/-- A way to write any text in safe characters and to read it back. -/
structure Quoting where
  quote : String → List Char
  unquote : List Char → String
  unquote_quote : ∀ s, unquote (quote s) = s
  safe : ∀ s, ∀ c ∈ quote s, Safe c

namespace Quoting

variable (Q : Quoting)

/-- What one piece of a query says: the name before the first `=` and the value after it. -/
def pair (piece : List Char) : String × String :=
  (Q.unquote (piece.takeWhile (· ≠ '=')), Q.unquote ((piece.dropWhile (· ≠ '=')).drop 1))

/-- The pairs of a query: its nonempty pieces between the `&`. -/
def pairs (query : List Char) : List (String × String) :=
  ((query.splitOn '&').filter (· ≠ [])).map Q.pair

/-- One pair as it is written. -/
def piece (p : String × String) : List Char := Q.quote p.1 ++ '=' :: Q.quote p.2

/-- The query that says what is in a dictionary. -/
def encode (d : List (String × List String)) : List Char :=
  ['&'].intercalate ((ungroup d).map Q.piece)

variable {Q}

/-- Quoted texts have safe characters alone. -/
lemma not_mem_quote {c : Char} (h : ¬ Safe c) (s : String) : c ∉ Q.quote s :=
  fun hc => h (Q.safe s c hc)

/-- A piece has safe characters and an equals sign. -/
lemma mem_piece {p : String × String} {c : Char} (h : c ∈ Q.piece p) : Safe c ∨ c = '=' := by
  rcases List.mem_append.1 h with h | h
  · exact Or.inl (Q.safe _ c h)
  · rcases List.mem_cons.1 h with rfl | h
    · exact Or.inr rfl
    · exact Or.inl (Q.safe _ c h)

/-- A piece is read back as its pair. -/
lemma pair_piece (p : String × String) : Q.pair (Q.piece p) = p := by
  have hname : ∀ c ∈ Q.quote p.1, decide (c ≠ '=') = true := by
    intro c hc
    apply decide_eq_true
    rintro rfl
    exact not_mem_quote (by decide) p.1 hc
  unfold pair piece
  rw [List.takeWhile_append_of_pos hname, List.dropWhile_append_of_pos hname]
  simp [Q.unquote_quote]

/-- What is written is read again. -/
lemma pairs_encode (d : List (String × List String)) : Q.pairs (Q.encode d) = ungroup d := by
  have hpieces : ∀ piece ∈ (ungroup d).map Q.piece, '&' ∉ piece := by
    intro piece hpiece hmem
    obtain ⟨p, -, rfl⟩ := List.mem_map.1 hpiece
    rcases mem_piece hmem with h | h
    · exact absurd h (by decide)
    · exact absurd h (by decide)
  unfold pairs encode
  by_cases hnil : ungroup d = []
  · rw [hnil]
    rfl
  · rw [List.splitOn_intercalate _ hpieces (by simpa using hnil), List.filter_eq_self.2,
      List.map_map]
    · exact (List.map_congr_left fun p _ => pair_piece p).trans (List.map_id _)
    · intro piece hpiece
      obtain ⟨p, -, rfl⟩ := List.mem_map.1 hpiece
      simp [Quoting.piece]

/-- A member of joined lists is in one of them or in the separator. -/
lemma mem_intercalate {α : Type*} {sep : List α} {ls : List (List α)} {a : α}
    (h : a ∈ sep.intercalate ls) : a ∈ sep ∨ ∃ l ∈ ls, a ∈ l := by
  induction ls with
  | nil => simp at h
  | cons l ls ih =>
    have htail (h : a ∈ sep.intercalate ls) : a ∈ sep ∨ ∃ l' ∈ l :: ls, a ∈ l' := by
      rcases ih h with h | ⟨l', hl', ha⟩
      · exact Or.inl h
      · exact Or.inr ⟨l', List.mem_cons_of_mem _ hl', ha⟩
    cases ls with
    | nil => exact Or.inr ⟨l, List.mem_cons_self .., by simpa using h⟩
    | cons l' ls =>
      rw [List.intercalate_cons_cons, List.mem_append, List.mem_append] at h
      rcases h with (h | h) | h
      · exact Or.inr ⟨l, List.mem_cons_self .., h⟩
      · exact Or.inl h
      · exact htail h

/-- An encoded query has safe characters, equals signs and ampersands. -/
lemma mem_encode {d : List (String × List String)} {c : Char} (h : c ∈ Q.encode d) :
    Safe c ∨ c = '=' ∨ c = '&' := by
  rcases mem_intercalate h with hsep | ⟨piece, hpiece, hc⟩
  · exact Or.inr (Or.inr (by simpa using hsep))
  · obtain ⟨p, -, rfl⟩ := List.mem_map.1 hpiece
    rcases mem_piece hc with h | h
    · exact Or.inl h
    · exact Or.inr (Or.inl h)

/-- Only a dict without values is encoded as nothing. -/
lemma encode_eq_nil {d : List (String × List String)} : Q.encode d = [] ↔ ungroup d = [] := by
  constructor
  · intro h
    rw [← pairs_encode (Q := Q), h]
    rfl
  · intro h
    unfold encode
    rw [h]
    rfl

end Quoting

end QueryText
