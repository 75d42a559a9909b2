import InstantBoard.Processors.UrlParts

/-!
# Which URLs have a canonical form

What is wanted of the normal form (`Canonical`): it is its own, it is shared by the URLs that differ
only in tracking parameters, fragment and the case of the network location, and it has the other
parameters with all their values. `normalizeUrl_canonical` says which URLs have such a form. The
code departs from it in four places: `parse_qs` drops blank values (`Unblank`), one slash is cut from the
end of whatever comes out, so that a second reading can cut more (`Settled`), a scheme is known in
small letters only (`Misread`), and a URL that `urlparse` refuses is returned as it is (`Accepted`).
-/

namespace InstantBoard.TransformerProcessor

open QueryText UrlText Urllib

variable {py : Stdlib} {Q : Quoting} {accepts : List Char → Bool} {url url' : String}
variable {t rest : List Char} {s : String}

/-! ## The property and its condition -/

/-- The URL's normal form is its own, it is that of every URL that differs from it only in tracking
parameters, fragment and the case of the network location, and it has the other parameters with all
their values and no tracking parameter. -/
structure Canonical (py : Stdlib) (Q : Quoting) (url : String) : Prop where
  idempotent : normalizeUrl py (normalizeUrl py url) = normalizeUrl py url
  same : ∀ url', Text.strip url' ≠ "" → SameUrl py Q url url' →
    normalizeUrl py url' = normalizeUrl py url
  values : ∀ name, values name (asked Q (normalizeUrl py url)) =
    if name ∈ TRACKING_PARAMS then [] else values name (asked Q url)

/-- `urlparse` raises for no URL that differs from this one only so. -/
def Accepted (py : Stdlib) (Q : Quoting) (accepts : List Char → Bool) (url : String) : Prop :=
  ∀ url', Text.strip url' ≠ "" → SameUrl py Q url url' → accepts (netloc (read url')) = true

/-- Only tracking parameters are blank. -/
def Unblank (Q : Quoting) (url : String) : Prop :=
  ∀ p ∈ asked Q url, p.2 = "" → p.1 ∈ TRACKING_PARAMS

instance : DecidablePred (Unblank Q) := fun _ =>
  inferInstanceAs (Decidable (∀ p ∈ asked Q _, p.2 = "" → p.1 ∈ TRACKING_PARAMS))

/-- A parameter is left, or what stands before the query is firm without one slash at its end. -/
def Settled (Q : Quoting) (url : String) : Prop :=
  Keeps Q (query (read url)) ∨
    Firm (unslash (netloc (read url) ++ writeHier (hier (read url))))

instance : DecidablePred (Settled Q) := fun _ => inferInstanceAs (Decidable (_ ∨ _))

/-- No other text has the same lower case. -/
def Uncased (py : Stdlib) (n : List Char) : Prop := ∀ n', lowered py n' = lowered py n → n' = n

/-! ### The parameters of the normal form -/

/-- Stripping adds no character. -/
lemma text_subset (u : String) : text u ⊆ u.toList := by
  unfold text Text.strip
  rw [String.toList_ofList]
  exact fun c hc => (List.dropWhile_suffix _).subset ((List.rdropWhile_prefix _ _).subset hc)

/-- The query of an address is that of what follows the scheme. -/
lemma query_clean_address (hs : s ∈ SCHEMES) (rest : List Char) :
    query (clean (address s rest).toList) = query (clean rest) := by
  rcases List.mem_pair.1 hs with rfl | rfl
  · rw [http_append, clean_append]
    exact query_append (by decide) (by decide) _
  · rw [https_append, clean_append]
    exact query_append (by decide) (by decide) _

/-- The query of the normal form has the kept parameters. -/
lemma query_normalForm (lib : Urllib py Q accepts) (hs : s ∈ SCHEMES) (hrest : clean rest = rest) :
    query (clean (text (String.ofList (normalForm py Q s rest)))) =
      Q.encode (kept Q (query rest)) := by
  have hbase := bare_base lib hrest
  unfold normalForm
  by_cases hnil : Q.encode (kept Q (query rest)) = []
  · rw [hnil]
    apply query_of_not_mem
    intro hmem
    have hmem := text_subset _ (mem_of_mem_clean hmem)
    rw [String.toList_ofList] at hmem
    have hmem := (unslash_isPrefix _).subset hmem
    unfold address at hmem
    rw [String.toList_ofList, List.mem_append, List.mem_append, List.mem_append] at hmem
    rcases hmem with hmem | hmem | hmem | hmem
    · have hno : ∀ s ∈ SCHEMES, '?' ∉ s.toList := by decide
      exact hno s hs hmem
    · exact absurd hmem (by decide)
    · exact hbase.question hmem
    · exact List.not_mem_nil hmem
  · unfold text
    rw [unslash_address_tail hnil, String.ofList_toList, text_address hs,
      rdropWhile_append_tail hnil, query_clean_address hs, clean_append_tail (clean_base lib hrest)]
    exact query_compose hbase.hash hbase.question (not_mem_encode (by decide))

/-- The normal form has the values of each name that are not blank, and no tracking parameter. -/
lemma values_normalForm (lib : Urllib py Q accepts) (hs : s ∈ SCHEMES) (hrest : clean rest = rest)
    (name : String) :
    values name (asked Q (String.ofList (normalForm py Q s rest))) =
      values name ((Q.pairs (query rest)).filter fun p => p.2 ≠ "" ∧ p.1 ∉ TRACKING_PARAMS) := by
  unfold asked
  rw [query_normalForm lib hs hrest, Quoting.pairs_encode]
  exact values_ungroup_group name _

/-- What is read is clean. -/
lemma clean_read (url : String) : clean (read url) = read url := clean_clean _

/-- The parameters are kept with all their values exactly if only tracking ones are blank. -/
lemma values_iff (lib : Urllib py Q accepts) (hs : s ∈ SCHEMES) :
    (∀ name, values name (asked Q (String.ofList (normalForm py Q s (read url)))) =
      if name ∈ TRACKING_PARAMS then [] else values name (asked Q url)) ↔ Unblank Q url := by
  constructor
  · intro h p hp hblank
    by_contra htracking
    have hvalue : p.2 ∈ values p.1 (asked Q url) := mem_values.2 hp
    have hname := h p.1
    rw [if_neg htracking, values_normalForm lib hs (clean_read url)] at hname
    rw [← hname, mem_values, List.mem_filter, decide_eq_true_iff] at hvalue
    exact hvalue.2.1 hblank
  · intro h name
    rw [values_normalForm lib hs (clean_read url), ← asked_eq]
    split
    · rename_i htracking
      apply values_filter_of_forall_not
      intro v
      simp [htracking]
    · rename_i htracking
      apply values_filter_of_forall
      intro v hv
      exact decide_eq_true ⟨fun hblank => htracking (h _ hv hblank), htracking⟩

/-! ### URLs that are not accepted -/

/-- A stripped text does not begin with white space. -/
lemma text_head {c : Char} (h : text url = c :: t) : Text.isSpace c = false := by
  have hprefix : c :: t <+: url.toList.dropWhile Text.isSpace := by
    rw [← h]
    unfold text Text.strip
    rw [String.toList_ofList]
    exact List.rdropWhile_prefix _ _
  obtain ⟨r, hr⟩ := hprefix
  have hhead := List.head_dropWhile_not Text.isSpace (l := url.toList) (by rw [← hr]; simp)
  simpa [← hr] using hhead

/-- A text with no white space at either end. -/
lemma text_ofList {c : Char} (hc : Text.isSpace c = false)
    (hhead : ∀ d r, t = d :: r → Text.isSpace d = false) :
    text (String.ofList (t ++ [c])) = t ++ [c] := by
  have hdrop : (t ++ [c]).dropWhile Text.isSpace = t ++ [c] := by
    cases t with
    | nil => exact List.dropWhile_cons_of_neg (by simp [hc])
    | cons d r => exact List.dropWhile_cons_of_neg (by simp [hhead d r rfl])
  unfold text Text.strip
  rw [String.toList_ofList, String.toList_ofList, hdrop,
    List.rdropWhile_concat_neg _ _ _ (by simp [hc])]

/-- The URL with something more in its fragment. -/
def refragmented (url : String) : String := String.ofList (text url ++ ['#', 'x'])

/-- The text with more in its fragment. -/
lemma text_refragmented (url : String) : text (refragmented url) = text url ++ ['#', 'x'] := by
  have h := text_ofList (t := text url ++ ['#']) (c := 'x') (by decide) ?_
  · simpa [refragmented] using h
  · intro d r hd
    cases htext : text url with
    | nil =>
      rw [htext, List.nil_append, List.cons.injEq] at hd
      rw [← hd.1]
      decide
    | cons c t =>
      rw [htext, List.cons_append, List.cons.injEq] at hd
      rw [← hd.1]
      exact text_head htext

/-- More in the fragment stands behind the located part. -/
lemma located_refragmented (url : String) :
    located (refragmented url) = located url ++ '#' :: ['x'] := by
  have hle : (opening (text url)).length ≤ (text url).length := (opening_isPrefix _).length_le
  have hclean : clean ['#', 'x'] = ['#', 'x'] := by decide
  unfold located
  rw [text_refragmented, opening_append_hash, List.drop_append_of_le_length hle, clean_append,
    hclean]

/-- The fragment does not matter for the opening. -/
lemma opening_refragmented (url : String) :
    opening (text (refragmented url)) = opening (text url) := by
  rw [text_refragmented, opening_append_hash]

/-- The fragment does not matter for the front. -/
lemma front_refragmented (url : String) :
    front (located (refragmented url)) = front (located url) := by
  rw [located_refragmented, front_append_hash]

/-- More in the fragment leaves the same URL. -/
lemma sameUrl_refragmented (url : String) : SameUrl py Q url (refragmented url) := by
  have hfront := front_refragmented url
  refine ⟨opening_refragmented url, by rw [netloc_congr hfront], by rw [hier_congr hfront],
    by rw [hier_congr hfront], ?_⟩
  unfold asked
  rw [query_clean_text, query_clean_text, located_refragmented, query_append_hash]

/-- A URL is the same as itself. -/
lemma SameUrl.refl (url : String) : SameUrl py Q url url := ⟨rfl, rfl, rfl, rfl, rfl⟩

/-- URLs that are the same as one are the same. -/
lemma SameUrl.trans {url'' : String} (h : SameUrl py Q url url') (h' : SameUrl py Q url' url'') :
    SameUrl py Q url url'' :=
  ⟨h'.opening.trans h.opening, h'.netloc.trans h.netloc, h'.path.trans h.path,
    h'.params.trans h.params, h'.query.trans h.query⟩

/-- The fragment does not matter for the network location. -/
lemma netloc_read_refragmented (url : String) :
    netloc (read (refragmented url)) = netloc (read url) := by
  apply netloc_congr
  have hm := misread_congr (opening_refragmented url)
  by_cases h : Misread url
  · rw [read_of_misread h, read_of_misread (hm.2 h), opening_refragmented, located_refragmented,
      ← List.append_assoc, front_append_hash]
  · rw [read_eq_located h, read_eq_located (mt hm.1 h), front_refragmented]

/-- A fragment stands behind the remainder. -/
lemma remainder_append_hash (t f : List Char) :
    remainder (t ++ '#' :: f) = remainder t ++ '#' :: f := by
  unfold remainder
  simp only [http_prefix_iff, https_prefix_iff, opening_append_hash]
  split
  · rename_i h
    exact List.drop_append_of_le_length (http_prefix_iff.2 h).length_le
  · split
    · rename_i h
      exact List.drop_append_of_le_length (https_prefix_iff.2 h).length_le
    · rfl

/-- With a fragment the text is not empty. -/
lemma strip_ne_empty (url : String) : Text.strip (refragmented url) ≠ "" := by
  intro h
  have htext := text_refragmented url
  unfold text at htext
  rw [h] at htext
  simp at htext

/-- The code returns a URL that `urlparse` does not accept with its fragment. -/
lemma accepted_of_same (lib : Urllib py Q accepts)
    (hsame : ∀ url', Text.strip url' ≠ "" → SameUrl py Q url url' →
      normalizeUrl py url' = normalizeUrl py url) : Accepted py Q accepts url := by
  intro url' hne h
  by_contra haccepts
  have hfragment := hsame _ (strip_ne_empty url') (h.trans (sameUrl_refragmented url'))
  have hplain := hsame url' hne h
  have hrefused : ¬ accepts (netloc (read (refragmented url'))) = true := by
    rw [netloc_read_refragmented]
    exact haccepts
  rw [← hplain, normalizeUrl_eq lib hne, normalizeUrl_eq lib (strip_ne_empty url'), if_neg haccepts,
    if_neg hrefused, scheme_congr (opening_refragmented url'), text_refragmented,
    remainder_append_hash] at hfragment
  simpa using address_inj hfragment

/-! ### Misread URLs -/

/-- The URL with another network location, and a fragment. -/
def relocated (url : String) (n : List Char) : String :=
  String.ofList (opening (text url) ++
    (n ++ hier (located url) ++ tail (query (located url)) ++ ['#', 'x']))

/-- The text with another network location. -/
lemma text_relocated (h : opening (text url) ≠ []) (n : List Char) :
    text (relocated url n) = opening (text url) ++
      (n ++ hier (located url) ++ tail (query (located url)) ++ ['#', 'x']) := by
  have htext := text_ofList (t := opening (text url) ++
    (n ++ hier (located url) ++ tail (query (located url)) ++ ['#'])) (c := 'x') (by decide) ?_
  · simpa [relocated] using htext
  · intro d r hd
    obtain ⟨c, o, ho⟩ := List.exists_cons_of_ne_nil h
    obtain ⟨t, ht⟩ := opening_isPrefix (text url)
    rw [ho, List.cons_append, List.cons.injEq] at hd
    rw [ho, List.cons_append] at ht
    rw [← hd.1]
    exact text_head ht.symm

/-- The network location does not matter for the opening. -/
lemma opening_relocated (h : opening (text url) ≠ []) (n : List Char) :
    opening (text (relocated url n)) = opening (text url) := by
  obtain ⟨-, -, -, hsame⟩ := (opening_cases (text url)).resolve_left h
  rw [text_relocated h, hsame]

/-- The located part is clean. -/
lemma clean_located (url : String) : clean (located url) = located url := by
  unfold located
  rw [clean_clean]

/-- The located part with another network location. -/
lemma located_relocated (h : opening (text url) ≠ []) {n : List Char} (hn : clean n = n) :
    located (relocated url n) =
      n ++ hier (located url) ++ tail (query (located url)) ++ '#' :: ['x'] := by
  have hhier : clean (hier (located url)) = hier (located url) :=
    clean_of_subset (clean_located url)
      fun _ hc => mem_of_mem_front (mem_front_of_mem_hier hc)
  have htail : clean (tail (query (located url))) = tail (query (located url)) :=
    clean_tail (clean_of_subset (clean_located url) fun _ hc => mem_of_mem_query hc)
  have hclean : clean ['#', 'x'] = ['#', 'x'] := by decide
  nth_rewrite 1 [located]
  rw [opening_relocated h, text_relocated h, List.drop_left, clean_append, clean_append,
    clean_append, hn, hhier, htail, hclean]

/-- The parts of a URL with another network location. -/
lemma parts_relocated (h : opening (text url) ≠ []) {n : List Char} (hn : clean n = n)
    (hslash : '/' ∉ n) (hhash : '#' ∉ n) (hquestion : '?' ∉ n) :
    netloc (located (relocated url n)) = n ∧
      hier (located (relocated url n)) = hier (located url) ∧
      query (located (relocated url n)) = query (located url) := by
  have hhash' : '#' ∉ n ++ hier (located url) := by
    rw [List.mem_append, not_or]
    exact ⟨hhash, fun hc => hash_not_mem_front _ (mem_front_of_mem_hier hc)⟩
  have hquestion' : '?' ∉ n ++ hier (located url) := by
    rw [List.mem_append, not_or]
    exact ⟨hquestion, fun hc => question_not_mem_front _ (mem_front_of_mem_hier hc)⟩
  have hfront : front (located (relocated url n)) = n ++ hier (located url) := by
    rw [located_relocated h hn, front_append_hash,
      front_compose hhash' hquestion' (hash_not_mem_query _)]
  refine ⟨netloc_eq hslash (hier_cases _) hfront, hier_eq hslash (hier_cases _) hfront, ?_⟩
  rw [located_relocated h hn, query_append_hash,
    query_compose hhash' hquestion' (hash_not_mem_query _)]

/-- A network location in other case leaves the same URL. -/
lemma sameUrl_relocated (lib : Urllib py Q accepts) (h : opening (text url) ≠ []) {n : List Char}
    (hn : lowered py n = lowered py (netloc (located url))) :
    SameUrl py Q url (relocated url n) ∧ netloc (located (relocated url n)) = n ∧
      hier (located (relocated url n)) = hier (located url) := by
  have hno {c : Char} (hc : Break c) (hnetloc : c ∉ netloc (located url)) : c ∉ n :=
    lib.not_mem_of_lowered_eq hc hn hnetloc
  have hfront {c : Char} (hc : c ∈ netloc (located url)) : c ∈ front (located url) := by
    rw [← netloc_append_hier]
    exact List.mem_append_left _ hc
  obtain ⟨h₁, h₂, h₃⟩ := clean_eq_self.1 (clean_located url)
  have hclean : clean n = n := clean_eq_self.2
    ⟨hno (by decide) fun hc => h₁ (mem_of_mem_front (hfront hc)),
      hno (by decide) fun hc => h₂ (mem_of_mem_front (hfront hc)),
      hno (by decide) fun hc => h₃ (mem_of_mem_front (hfront hc))⟩
  obtain ⟨hnetloc, hhier, hquery⟩ := parts_relocated h hclean
    (hno (by decide) (slash_not_mem_netloc _))
    (hno (by decide) fun hc => hash_not_mem_front _ (hfront hc))
    (hno (by decide) fun hc => question_not_mem_front _ (hfront hc))
  refine ⟨⟨opening_relocated h n, by rw [hnetloc, hn], by rw [hhier], by rw [hhier], ?_⟩, hnetloc,
    hhier⟩
  unfold asked
  rw [query_clean_text, query_clean_text, hquery]

/-- A path of two slashes and one segment, written back: only a lone semicolon is lost. -/
lemma writeHier_segment {n : List Char} (hn : '/' ∉ n) :
    ∃ m, (n = m ∨ n = m ++ [';']) ∧ '/' ∉ m ∧ writeHier (['/', '/'] ++ n) = ['/', '/'] ++ m := by
  by_cases hlone : Lone (['/', '/'] ++ n)
  · have hcut := append_of_lone hlone
    rcases List.eq_nil_or_concat' n with rfl | ⟨m, c, rfl⟩
    · have hlast : ['/'] ++ ['/'] = path (['/', '/'] ++ []) ++ [';'] := hcut
      exact absurd (List.append_inj_right' hlast rfl) (by decide)
    · rw [← List.append_assoc] at hlone hcut
      obtain ⟨hpath, hc⟩ := List.append_inj' hcut rfl
      refine ⟨m, Or.inr (by rw [hc]), fun hm => hn (List.mem_append_left _ hm), ?_⟩
      rw [← List.append_assoc, writeHier_of_lone hlone, ← hpath]
  · exact ⟨n, Or.inl rfl, hn, writeHier_of_not_lone hlone⟩

/-- Taking the slash from two slashes and a segment. -/
lemma unslash_segment {m : List Char} (hm : '/' ∉ m) :
    unslash (['/', '/'] ++ m) = if m = [] then ['/'] else ['/', '/'] ++ m := by
  split
  · rename_i hnil
    rw [hnil]
    decide
  · rename_i hne
    rw [unslash_append _ hne, unslash_of_not_mem hm]

/-- Two slashes before it, the segment is told apart. -/
lemma unslash_segment_inj {m m' : List Char} (hm : '/' ∉ m) (hm' : '/' ∉ m')
    (h : unslash (['/', '/'] ++ m') = unslash (['/', '/'] ++ m)) : m' = m := by
  rw [unslash_segment hm, unslash_segment hm'] at h
  cases m <;> cases m' <;> simp_all

/-- The location can be read off the normal form, a semicolon at its end apart. -/
lemma location_inj (lib : Urllib py Q accepts) {n n' : List Char} (hn : '/' ∉ n) (hn' : '/' ∉ n')
    (hlower : lowered py n' = lowered py n)
    (h : unslash (writeHier (['/', '/'] ++ n' ++ hier rest)) =
      unslash (writeHier (['/', '/'] ++ n ++ hier rest))) : n' = n := by
  by_cases hnil : hier rest = []
  · rw [hnil, List.append_nil, List.append_nil] at h
    obtain ⟨m, hnm, hm, hwrite⟩ := writeHier_segment hn
    obtain ⟨m', hnm', hm', hwrite'⟩ := writeHier_segment hn'
    rw [hwrite, hwrite'] at h
    obtain rfl := unslash_segment_inj hm hm' h
    -- a semicolon at the end of one of them only would also be in its lower case
    have hbreak := lib.lowered_append_break_ne (c := ';') (by decide) m' []
    rcases hnm with rfl | rfl <;> rcases hnm' with rfl | rfl
    · rfl
    · exact absurd hlower hbreak
    · exact absurd hlower.symm hbreak
    · rfl
  · obtain ⟨r, hr⟩ := writeHier_cases ((hier_cases rest).resolve_left hnil)
    have hne : writeHier (hier rest) ≠ [] := by
      rw [hr]
      exact List.cons_ne_nil _ _
    rw [writeHier_location hnil, writeHier_location hnil, unslash_append _ hne,
      unslash_append _ hne] at h
    exact List.append_cancel_left (List.append_cancel_right h)

/-- What stands before the query can be read off the normal form, a slash at its end apart. -/
lemma unslash_base_eq {b b' q : List Char} (hb : b ≠ []) (hb' : b' ≠ [])
    (h : unslash (address s (b' ++ q)).toList = unslash (address s (b ++ q)).toList) :
    unslash b' = unslash b := by
  rw [unslash_address s (by simp [hb']), unslash_address s (by simp [hb])] at h
  have hrest := address_inj (String.toList_injective h)
  by_cases hq : q = []
  · rwa [hq, List.append_nil, List.append_nil] at hrest
  · rw [unslash_append _ hq, unslash_append _ hq] at hrest
    rw [List.append_cancel_right hrest]

/-- A URL that is misread is not empty. -/
lemma strip_ne_empty_of_misread (h : Misread url) : Text.strip url ≠ "" := by
  intro hempty
  apply h.1
  unfold text
  rw [hempty]
  rfl

variable (py) in
/-- What the code makes of a misread URL before the query: its network location is that path's. -/
lemma base_of_misread (h : Misread url) : ∃ w, clean (opening (text url)) = w ++ ['/', '/'] ∧
    base py (read url) = lowered py w ++
      writeHier (['/', '/'] ++ netloc (located url) ++ hier (located url)) := by
  obtain ⟨w, hw, hnetloc, hhier⟩ := misread_parts h
  unfold base
  rw [hnetloc, hhier]
  exact ⟨w, hw, rfl⟩

/-- If case does not matter for a misread URL its network location has none. -/
lemma uncased_of_same (lib : Urllib py Q accepts) (h : Misread url)
    (haccepts : Accepted py Q accepts url)
    (hsame : ∀ url', Text.strip url' ≠ "" → SameUrl py Q url url' →
      normalizeUrl py url' = normalizeUrl py url) : Uncased py (netloc (located url)) := by
  intro n hn
  obtain ⟨hurl, hnetloc, hhier⟩ := sameUrl_relocated (Q := Q) lib h.1 hn
  have hmisread := (misread_congr hurl.opening).2 h
  have hne := strip_ne_empty_of_misread h
  have hne' := strip_ne_empty_of_misread hmisread
  -- the normal forms are equal, so is what stands before the query
  have hform := hsame _ hne' hurl
  rw [normalizeUrl_eq lib hne', normalizeUrl_eq lib hne, if_pos (haccepts _ hne' hurl),
    if_pos (haccepts _ hne (SameUrl.refl url)), scheme_congr hurl.opening] at hform
  have hlist := String.ofList_injective hform
  unfold normalForm at hlist
  rw [kept_congr hurl] at hlist
  obtain ⟨w, hw, hbase⟩ := base_of_misread py h
  obtain ⟨w', hw', hbase'⟩ := base_of_misread py hmisread
  rw [hurl.opening, hw] at hw'
  rw [← List.append_cancel_right hw', hnetloc, hhier] at hbase'
  have hpath (m : List Char) : writeHier (['/', '/'] ++ m ++ hier (located url)) ≠ [] := by
    obtain ⟨r, hr⟩ := writeHier_cases (h := ['/', '/'] ++ m ++ hier (located url)) ⟨_, rfl⟩
    rw [hr]
    exact List.cons_ne_nil _ _
  rw [hbase, hbase'] at hlist
  have hbefore := unslash_base_eq (List.append_ne_nil_of_right_ne_nil _ (hpath _))
    (List.append_ne_nil_of_right_ne_nil _ (hpath _)) hlist
  rw [unslash_append _ (hpath _), unslash_append _ (hpath _)] at hbefore
  have hslash := slash_not_mem_netloc (located url)
  exact location_inj lib hslash (lib.not_mem_of_lowered_eq (by decide) hn hslash) hn
    (List.append_cancel_left hbefore)

/-! ## The library on ASCII texts -/

namespace Sample

/-! Quoting that leaves plain characters as they are and counts out the others, `urllib.parse` on
http and https URLs, and `str.lower` on ASCII texts. -/

def plainChar (c : Char) : Bool := c.isAlphanum || c ∈ ['_', '.', '-', '~']

def quoteChar (c : Char) : List Char :=
  if plainChar c then [c] else '%' :: (List.replicate c.toNat '~' ++ ['.'])

/-- The number counts the marks of a quoted character. -/
def unquoteFrom : Option Nat → List Char → List Char
  | _, [] => []
  | none, c :: t => if c = '%' then unquoteFrom (some 0) t else c :: unquoteFrom none t
  | some n, c :: t =>
    if c = '~' then unquoteFrom (some (n + 1)) t else Char.ofNat n :: unquoteFrom none t

/-- A row of marks is read back as its character. -/
lemma unquoteFrom_replicate (k n : Nat) (t : List Char) :
    unquoteFrom (some k) (List.replicate n '~' ++ '.' :: t) =
      Char.ofNat (k + n) :: unquoteFrom none t := by
  induction n generalizing k with
  | zero => rfl
  | succ n ih =>
    rw [List.replicate_succ, List.cons_append, unquoteFrom, if_pos rfl, ih]
    congr 2
    omega

/-- A quoted character is read back. -/
lemma unquoteFrom_quoteChar (c : Char) (t : List Char) :
    unquoteFrom none (quoteChar c ++ t) = c :: unquoteFrom none t := by
  unfold quoteChar
  split
  · rename_i hc
    have hne : c ≠ '%' := by
      rintro rfl
      exact absurd hc (by decide)
    exact if_neg hne
  · rw [List.cons_append, List.append_assoc]
    refine (if_pos rfl).trans ((unquoteFrom_replicate 0 c.toNat t).trans ?_)
    rw [Nat.zero_add, Char.ofNat_toNat]

def quoting : Quoting where
  quote s := s.toList.flatMap quoteChar
  unquote t := String.ofList (unquoteFrom none t)
  unquote_quote s := by
    have h (l : List Char) : unquoteFrom none (l.flatMap quoteChar) = l := by
      induction l with
      | nil => rfl
      | cons c l ih => rw [List.flatMap_cons, unquoteFrom_quoteChar, ih]
    rw [h, String.ofList_toList]
  safe s c hc := by
    obtain ⟨d, -, hd⟩ := List.mem_flatMap.1 hc
    unfold quoteChar at hd
    split at hd
    · rename_i hplain
      rw [List.mem_singleton.1 hd]
      rcases Bool.or_eq_true_iff.1 hplain with halnum | hmem
      · exact Or.inl halnum
      · have hd := of_decide_eq_true hmem
        simp only [List.mem_cons, List.not_mem_nil, or_false] at hd
        rcases hd with rfl | rfl | rfl | rfl <;> decide
    · rcases List.mem_cons.1 hd with rfl | hd
      · decide
      · rcases List.mem_append.1 hd with hd | hd
        · rw [List.eq_of_mem_replicate hd]
          decide
        · rw [List.mem_singleton.1 hd]
          decide

def library : Stdlib where
  lower s := String.ofList (s.toList.map Char.toLower)
  reprStr s := "'" ++ s ++ "'"
  md5 s := s
  urlparse u :=
    if Plain u.toList then some (parsed (scheme u.toList) (clean (remainder u.toList))) else none
  parseQs q := group ((quoting.pairs q.toList).filter (·.2 ≠ ""))
  urlencode d := String.ofList (quoting.encode d)
  urlunparse p := address p.scheme
    (p.netloc.toList ++ joinParams p.path.toList p.params.toList ++ tail p.query.toList)
  strptime _ _ := none
  fromisoformat _ := none

/-- The sample lowers character by character. -/
lemma lowered_eq (n : List Char) : lowered library n = n.map Char.toLower := by
  unfold lowered library
  simp

/-- The library behaves as documented; its `urlparse` accepts every network location. -/
lemma urllib : Urllib library quoting (fun _ => true) where
  urlparse s hs rest := by
    have hplain : Plain (address s rest).toList := by
      rcases List.mem_pair.1 hs with rfl | rfl
      · rw [http_append]
        exact Or.inl (List.prefix_append ..)
      · rw [https_append]
        exact Or.inr (List.prefix_append ..)
    obtain ⟨hscheme, hrest⟩ := scheme_remainder_address hs rest
    show (if Plain (address s rest).toList then _ else _) = _
    rw [if_pos hplain, hscheme, hrest, if_pos rfl]
  urlunparse s _ n p ps q _ := by
    unfold library
    simp
  parse_qs q := by
    unfold library
    simp
  urlencode d := rfl
  lower_eq_nil n := by rw [lowered_eq, List.map_eq_nil_iff]
  lower_lower n := by
    rw [lowered_eq, lowered_eq, List.map_map]
    apply List.map_congr_left
    intro c _
    exact toLower_of_not_isUpper (not_isUpper_toLower c)
  lower_break a c b hc := by
    have hupper : ¬ c.isUpper = true := by
      intro h
      exact not_isAlphanum_of_break hc ((isAlphanum_iff c).2 (Or.inl (Or.inl h)))
    rw [lowered_eq, lowered_eq, lowered_eq, List.map_append, List.map_cons,
      toLower_of_not_isUpper hupper]
  of_mem_lower n c hc hmem := by
    rw [lowered_eq] at hmem
    obtain ⟨d, hd, hdc⟩ := List.mem_map.1 hmem
    have hlower : ¬ c.isLower = true := by
      intro h
      exact not_isAlphanum_of_break hc ((isAlphanum_iff c).2 (Or.inl (Or.inr h)))
    rwa [eq_of_toLower_eq hlower hdc] at hd
  accepts_lower _ _ := rfl

end Sample

/-! ## Which URLs have a canonical form -/

/-- The normal form of a URL is canonical exactly when `urlparse` accepts it in every spelling of
its network location, no parameter but tracking parameters is blank, nothing more is cut from the
normal form when it is read again, and the network location of a misread URL has no case. -/
theorem normalizeUrl_canonical (lib : Urllib py Q accepts) (hne : Text.strip url ≠ "") :
    Canonical py Q url ↔
      Accepted py Q accepts url ∧ Unblank Q url ∧ Settled Q url ∧
        (Misread url → Uncased py (netloc (located url))) := by
  have heq (haccepts : Accepted py Q accepts url) {url' : String} (hne' : Text.strip url' ≠ "")
      (h : SameUrl py Q url url') : normalizeUrl py url' =
        String.ofList (normalForm py Q (scheme (text url')) (read url')) := by
    rw [normalizeUrl_eq lib hne', if_pos (haccepts url' hne' h)]
  constructor
  · intro h
    have haccepts := accepted_of_same lib h.same
    have hform := heq haccepts hne (SameUrl.refl url)
    have hvalues := h.values
    have hidempotent := h.idempotent
    rw [hform] at hvalues hidempotent
    exact ⟨haccepts, (values_iff lib (scheme_mem _)).1 hvalues,
      (fixed_iff lib (scheme_mem _) (clean_read url) (haccepts url hne (SameUrl.refl url))).1
        hidempotent,
      fun hmisread => uncased_of_same lib hmisread haccepts h.same⟩
  · rintro ⟨haccepts, hunblank, hsettled, huncased⟩
    have hform := heq haccepts hne (SameUrl.refl url)
    refine ⟨?_, ?_, ?_⟩
    · rw [hform]
      exact (fixed_iff lib (scheme_mem _) (clean_read url)
        (haccepts url hne (SameUrl.refl url))).2 hsettled
    · intro url' hne' hsame
      rw [hform, heq haccepts hne' hsame,
        normalForm_congr hsame fun hmisread => huncased hmisread _ hsame.netloc]
    · rw [hform]
      exact (values_iff lib (scheme_mem _)).2 hunblank

open Sample

/-- A URL that keeps a parameter has a canonical form. -/
theorem canonical_with_query :
    Canonical library quoting "https://A.io/x/?ref=hn&b=2&b=3#top" :=
  (normalizeUrl_canonical urllib (by decide)).2
    ⟨fun _ _ _ => rfl, by decide +kernel, by decide +kernel,
      fun h => absurd h (by decide +kernel)⟩

/-- A blank value is lost, a URL that ends in two slashes loses them one by one, and in a URL with
its scheme in capital letters the case of the network location matters. -/
theorem not_every_url_canonical :
    ¬ Canonical library quoting "https://a.io/x?a=&b=1" ∧
      ¬ Canonical library quoting "https://a.io/x//" ∧
      ¬ Canonical library quoting "HTTP://a.io" := by
  refine ⟨?_, ?_, ?_⟩
  · intro h
    exact absurd (h.values "a") (by decide +kernel)
  · intro h
    exact absurd h.idempotent (by decide +kernel)
  · intro h
    have hsame : SameUrl library quoting "HTTP://a.io" "HTTP://A.io" :=
      ⟨by decide +kernel, by decide +kernel, by decide +kernel, by decide +kernel,
        by decide +kernel⟩
    exact absurd (h.same _ (by decide +kernel) hsame) (by decide +kernel)

end InstantBoard.TransformerProcessor
