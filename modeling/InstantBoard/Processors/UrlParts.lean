import InstantBoard.Processors.NormalUrl

/-!
# The parts of a URL and what the code takes for them

A URL opens with its scheme in letters of either case, with two slashes alone or with neither, and
its network location follows (`located`). The code knows a scheme in small letters only: any other
URL gets `https://` before it, and one that had a scheme or slashes is then read as a path
(`Misread`, `misread_parts`). Two URLs that differ only in tracking parameters, fragment and the
case of the network location (`SameUrl`) have the same normal form unless they are misread
(`normalForm_congr`).
-/

namespace InstantBoard.TransformerProcessor

open QueryText UrlText Urllib

/-! ## The parts of a URL -/

/-- A scheme with its slashes, in letters of either case, or the slashes alone. -/
def Opening (a : List Char) : Prop :=
  (clean a).map Char.toLower ∈ ["http://".toList, "https://".toList, "//".toList]

instance : DecidablePred Opening := fun _ => inferInstanceAs (Decidable (_ ∈ _))

/-- The first opening of `seen ++ t` that ends in `t`; empty if there is none. -/
def openingFrom : List Char → List Char → List Char
  | _, [] => []
  | seen, c :: t => if Opening (seen ++ [c]) then seen ++ [c] else openingFrom (seen ++ [c]) t

/-- What stands before the network location. -/
def opening (t : List Char) : List Char := openingFrom [] t

/-- What follows the opening. -/
def located (url : String) : List Char := clean ((text url).drop (opening (text url)).length)

/-- The parameters of a URL, the blank ones among them. -/
def asked (Q : Quoting) (url : String) : List (String × String) :=
  Q.pairs (query (clean (text url)))

/-- The two differ only in tracking parameters, fragment and the case of the network location. -/
structure SameUrl (py : Stdlib) (Q : Quoting) (url url' : String) : Prop where
  opening : opening (text url') = opening (text url)
  netloc : lowered py (netloc (located url')) = lowered py (netloc (located url))
  path : path (hier (located url')) = path (hier (located url))
  params : params (hier (located url')) = params (hier (located url))
  query : (asked Q url').filter (·.1 ∉ TRACKING_PARAMS) =
    (asked Q url).filter (·.1 ∉ TRACKING_PARAMS)

variable {py : Stdlib} {Q : Quoting} {accepts : List Char → Bool} {url url' : String}
variable {t rest a seen : List Char}

/-! ### Openings -/

/-- An opening ends in its two slashes and has no other delimiter. -/
lemma Opening.clean_eq (h : Opening a) :
    ∃ w, clean a = w ++ ['/', '/'] ∧ '/' ∉ w ∧ '#' ∉ clean a ∧ '?' ∉ clean a := by
  have hchar {c : Char} (hc : c.toLower = c)
      (hno : ∀ m ∈ ["http://".toList, "https://".toList, "//".toList], c ∉ m) : c ∉ clean a :=
    fun hmem => hno _ h (List.mem_map.2 ⟨c, hmem, hc⟩)
  have hsplit : ∃ w, '/' ∉ w ∧ (clean a).map Char.toLower = w ++ ['/', '/'] := by
    rcases List.mem_cons.1 h with h | h
    · exact ⟨"http:".toList, by decide, h⟩
    · rcases List.mem_pair.1 h with h | h
      · exact ⟨"https:".toList, by decide, h⟩
      · exact ⟨[], by decide, h⟩
  obtain ⟨w', hw', heq⟩ := hsplit
  obtain ⟨w, l, hwl, hw, hl⟩ := List.map_eq_append_iff.1 heq
  refine ⟨w, ?_, ?_, hchar (by decide) (by decide), hchar (by decide) (by decide)⟩
  · have hl' : l = ['/', '/'] := by
      obtain ⟨c, l₁, rfl, hc, hl₁⟩ := List.map_eq_cons_iff.1 hl
      obtain ⟨d, l₂, rfl, hd, hl₂⟩ := List.map_eq_cons_iff.1 hl₁
      rw [eq_of_toLower_eq (by decide) hc, eq_of_toLower_eq (by decide) hd,
        List.map_eq_nil_iff.1 hl₂]
    rw [hwl, hl']
  · intro hmem
    exact hw' (hw ▸ List.mem_map.2 ⟨'/', hmem, by decide⟩)

/-- There is no opening or it is read whatever follows. -/
lemma openingFrom_cases (seen t : List Char) : openingFrom seen t = [] ∨
    ∃ x r, t = x ++ r ∧ openingFrom seen t = seen ++ x ∧ Opening (seen ++ x) ∧
      ∀ r', openingFrom seen (x ++ r') = seen ++ x := by
  induction t generalizing seen with
  | nil => exact Or.inl rfl
  | cons c t ih =>
    by_cases hc : Opening (seen ++ [c])
    · have hfirst (r : List Char) : openingFrom seen ([c] ++ r) = seen ++ [c] := if_pos hc
      exact Or.inr ⟨[c], t, rfl, hfirst t, hc, hfirst⟩
    · have hnext (r : List Char) : openingFrom seen (c :: r) = openingFrom (seen ++ [c]) r :=
        if_neg hc
      rw [hnext]
      rcases ih (seen ++ [c]) with hnil | ⟨x, r, ht, hx, hopen, hsame⟩
      · exact Or.inl hnil
      · rw [List.append_assoc] at hx hopen
        refine Or.inr ⟨c :: x, r, by rw [ht, List.cons_append], hx, hopen, ?_⟩
        intro r'
        rw [List.cons_append, hnext, hsame, List.append_assoc]
        rfl

/-- A text begins with its opening, which does not depend on what follows. -/
lemma opening_cases (t : List Char) : opening t = [] ∨
    Opening (opening t) ∧ ∃ r, t = opening t ++ r ∧
      ∀ r', opening (opening t ++ r') = opening t := by
  rcases openingFrom_cases [] t with hnil | ⟨x, r, ht, hx, hopen, hsame⟩
  · exact Or.inl hnil
  · have heq : opening t = x := hx
    rw [heq]
    exact Or.inr ⟨hopen, r, ht, hsame⟩

/-- An opening has no hash. -/
lemma not_opening_of_hash_mem (h : '#' ∈ a) : ¬ Opening a := by
  intro hopen
  obtain ⟨-, -, -, hhash, -⟩ := hopen.clean_eq
  exact hhash (List.mem_filter.2 ⟨h, by decide⟩)

/-- After a hash there is no opening. -/
lemma openingFrom_of_hash_mem (h : '#' ∈ seen) (t : List Char) : openingFrom seen t = [] := by
  induction t generalizing seen with
  | nil => rfl
  | cons c t ih =>
    have hmem : '#' ∈ seen ++ [c] := List.mem_append_left _ h
    rw [openingFrom, if_neg (not_opening_of_hash_mem hmem), ih hmem]

/-- A fragment has no opening. -/
lemma openingFrom_append_hash (seen t f : List Char) :
    openingFrom seen (t ++ '#' :: f) = openingFrom seen t := by
  induction t generalizing seen with
  | nil =>
    have hmem : '#' ∈ seen ++ ['#'] := List.mem_append_right _ (List.mem_singleton_self _)
    exact (if_neg (not_opening_of_hash_mem hmem)).trans (openingFrom_of_hash_mem hmem f)
  | cons c t ih =>
    rw [List.cons_append, openingFrom, openingFrom, ih]

/-- A fragment does not change the opening. -/
lemma opening_append_hash (t f : List Char) : opening (t ++ '#' :: f) = opening t :=
  openingFrom_append_hash [] t f

/-- A text begins with an opening exactly if it is the text's. -/
lemma prefix_iff_opening_eq (ha : opening a = a) (hne : a ≠ []) : a <+: t ↔ opening t = a := by
  constructor
  · rintro ⟨r, rfl⟩
    rcases opening_cases a with hnil | ⟨-, -, -, hsame⟩
    · exact absurd (ha.symm.trans hnil) hne
    · rw [ha] at hsame
      exact hsame r
  · intro h
    rcases opening_cases t with hnil | ⟨-, r, ht, -⟩
    · exact absurd (h.symm.trans hnil) hne
    · exact ⟨r, by rw [← h, ← ht]⟩

/-- `http://` as the text's opening. -/
lemma http_prefix_iff : "http://".toList <+: t ↔ opening t = "http://".toList :=
  prefix_iff_opening_eq (by decide) (by decide)

/-- `https://` as the text's opening. -/
lemma https_prefix_iff : "https://".toList <+: t ↔ opening t = "https://".toList :=
  prefix_iff_opening_eq (by decide) (by decide)

/-- The scheme depends on the opening alone. -/
lemma scheme_congr {t' : List Char} (h : opening t' = opening t) : scheme t' = scheme t := by
  unfold scheme
  simp only [http_prefix_iff, h]

/-- Whether there is a scheme depends on the opening alone. -/
lemma plain_congr {t' : List Char} (h : opening t' = opening t) : Plain t' ↔ Plain t := by
  unfold Plain
  rw [http_prefix_iff, http_prefix_iff, https_prefix_iff, https_prefix_iff, h]

/-! ### What the code takes for the parts -/

/-- The URL has a scheme in capital letters or only slashes before its network location. The code
takes it for one without a scheme. -/
def Misread (url : String) : Prop := opening (text url) ≠ [] ∧ ¬ Plain (text url)

instance : DecidablePred Misread := fun _ => inferInstanceAs (Decidable (_ ∧ _))

/-- What is not misread is read from where it is located. -/
lemma read_eq_located (h : ¬ Misread url) : read url = located url := by
  unfold read located remainder
  by_cases hhttp : "http://".toList <+: text url
  · rw [if_pos hhttp, http_prefix_iff.1 hhttp]
    rfl
  · by_cases hhttps : "https://".toList <+: text url
    · rw [if_neg hhttp, if_pos hhttps, https_prefix_iff.1 hhttps]
      rfl
    · have hnil : opening (text url) = [] := by
        by_contra hne
        exact h ⟨hne, not_or.2 ⟨hhttp, hhttps⟩⟩
      rw [if_neg hhttp, if_neg hhttps, hnil]
      rfl

/-- A text begins with its opening. -/
lemma opening_isPrefix (t : List Char) : opening t <+: t := by
  rcases opening_cases t with hnil | ⟨-, r, ht, -⟩
  · rw [hnil]
    exact List.nil_prefix
  · exact ⟨r, ht.symm⟩

/-- The clean text is the opening and the located part. -/
lemma clean_text_eq (url : String) :
    clean (text url) = clean (opening (text url)) ++ located url := by
  unfold located
  rw [← clean_append, ← List.prefix_append_drop (opening_isPrefix _)]

/-- A misread URL is read behind what was taken for a network location. -/
lemma read_of_misread (h : Misread url) :
    read url = clean (opening (text url)) ++ located url := by
  unfold read
  rw [(scheme_remainder_of_not_plain h.2).2, clean_text_eq]

/-- The query of the text is the query that the code reads. -/
lemma query_clean_text (url : String) : query (clean (text url)) = query (located url) := by
  rw [clean_text_eq]
  rcases opening_cases (text url) with hnil | ⟨hopen, -⟩
  · have hclean : clean ([] : List Char) = [] := rfl
    rw [hnil, hclean, List.nil_append]
  · obtain ⟨w, -, -, hhash, hquestion⟩ := hopen.clean_eq
    exact query_append hhash hquestion _

/-- The query is read as it is. -/
lemma query_read (url : String) : query (read url) = query (located url) := by
  by_cases h : Misread url
  · rw [← query_clean_text, clean_text_eq, read_of_misread h]
  · rw [read_eq_located h]

/-- What the code takes for the parts of a misread URL. -/
lemma misread_parts (h : Misread url) :
    ∃ w, clean (opening (text url)) = w ++ ['/', '/'] ∧ netloc (read url) = w ∧
      hier (read url) = ['/', '/'] ++ netloc (located url) ++ hier (located url) := by
  obtain ⟨hopen, -⟩ := (opening_cases (text url)).resolve_left h.1
  obtain ⟨w, hw, hslash, hhash, hquestion⟩ := hopen.clean_eq
  have hfront : front (read url) =
      w ++ (['/', '/'] ++ netloc (located url) ++ hier (located url)) := by
    rw [read_of_misread h, front_append hhash hquestion, ← netloc_append_hier (located url), hw]
    simp
  exact ⟨w, hw, netloc_eq hslash (Or.inr ⟨_, rfl⟩) hfront,
    hier_eq hslash (Or.inr ⟨_, rfl⟩) hfront⟩

/-! ### URLs that differ only so -/

/-- Whether a URL is misread depends on the opening alone. -/
lemma misread_congr (h : opening (text url') = opening (text url)) :
    Misread url' ↔ Misread url := by
  unfold Misread
  rw [h, plain_congr h]

/-- The parameters are those of what is read. -/
lemma asked_eq (url : String) : asked Q url = Q.pairs (query (read url)) := by
  unfold asked
  rw [query_clean_text, query_read]

/-- The same URLs keep the same parameters. -/
lemma kept_congr (h : SameUrl py Q url url') :
    kept Q (query (read url')) = kept Q (query (read url)) := by
  have hsplit (u : String) : kept Q (query (read u)) =
      group (((asked Q u).filter (·.1 ∉ TRACKING_PARAMS)).filter (·.2 ≠ "")) := by
    rw [List.filter_filter, asked_eq]
    unfold kept
    apply congrArg group
    apply List.filter_congr
    intro p _
    simp
  rw [hsplit, hsplit, h.query]

/-- What is written back depends on path and parameters alone. -/
lemma writeHier_congr {h h' : List Char} (hpath : path h' = path h)
    (hparams : params h' = params h) :
    writeHier h' = writeHier h := by
  unfold writeHier
  rw [hpath, hparams]

/-- The path is empty only if nothing follows the host. -/
lemma path_hier_eq_nil : path (hier rest) = [] ↔ hier rest = [] := by
  constructor
  · intro h
    refine (hier_cases rest).resolve_right fun hcons => ?_
    obtain ⟨r, hr⟩ := path_cases hcons
    rw [h] at hr
    exact absurd hr (List.cons_ne_nil _ _).symm
  · intro h
    rw [h]
    rfl

/-- The path of a misread URL as it is written back. -/
lemma writeHier_location {n : List Char} (h : hier rest ≠ []) :
    writeHier (['/', '/'] ++ n ++ hier rest) = ['/', '/'] ++ n ++ writeHier (hier rest) := by
  obtain ⟨r, hr⟩ := (hier_cases rest).resolve_left h
  rw [hr]
  exact writeHier_append _ (List.mem_cons_self ..)

/-- The same URLs have the same base. -/
lemma base_congr (h : SameUrl py Q url url')
    (hmisread : Misread url → netloc (located url') = netloc (located url)) :
    base py (read url') = base py (read url) := by
  unfold base
  by_cases hm : Misread url
  · obtain ⟨w, hw, hnetloc, hhier⟩ := misread_parts hm
    obtain ⟨w', hw', hnetloc', hhier'⟩ := misread_parts ((misread_congr h.opening).2 hm)
    have hsame : w' = w := by
      rw [h.opening, hw] at hw'
      exact (List.append_cancel_right hw').symm
    rw [hnetloc, hnetloc', hsame, hhier, hhier', hmisread hm]
    apply congrArg (lowered py w ++ ·)
    by_cases hnil : hier (located url) = []
    · have hnil' : hier (located url') = [] := by
        rw [← path_hier_eq_nil, h.path, path_hier_eq_nil.2 hnil]
      rw [hnil, hnil']
    · have hne' : hier (located url') ≠ [] := by
        rw [Ne, ← path_hier_eq_nil, h.path, path_hier_eq_nil]
        exact hnil
      rw [writeHier_location hnil, writeHier_location hne', writeHier_congr h.path h.params]
  · rw [read_eq_located hm, read_eq_located (mt (misread_congr h.opening).1 hm), h.netloc,
      writeHier_congr h.path h.params]

/-- They have the same normal form unless the code has taken the location for a part of the path. -/
lemma normalForm_congr (h : SameUrl py Q url url')
    (hmisread : Misread url → netloc (located url') = netloc (located url)) :
    normalForm py Q (scheme (text url')) (read url') =
      normalForm py Q (scheme (text url)) (read url) := by
  unfold normalForm
  rw [scheme_congr h.opening, base_congr h hmisread, kept_congr h]

end InstantBoard.TransformerProcessor
