import InstantBoard.Python.Urllib
import InstantBoard.Processors.Transformer

/-!
# The normal form of a URL

`normalizeUrl` in terms of the parts of the URL's text (`normalizeUrl_eq`): an accepted URL gets the
`normalForm` of its parts. A normal form with a query is read as it is; one without is read as it is
exactly when nothing is cut from its end (`Bare.fixed_iff`), and `fixed_iff` says when that is.
-/

namespace InstantBoard.TransformerProcessor

open QueryText UrlText Urllib

/-! ## The parts as the code reads them -/

/-- The text of a URL without the white space around it. -/
def text (url : String) : List Char := (Text.strip url).toList

/-- It starts with a scheme as the code looks for one. -/
def Plain (t : List Char) : Prop := "http://".toList <+: t ∨ "https://".toList <+: t

instance : DecidablePred Plain := fun _ => inferInstanceAs (Decidable (_ ∨ _))

def scheme (t : List Char) : String := if "http://".toList <+: t then "http" else "https"

/-- What follows the scheme, or the whole text when the code puts `https://` before it. -/
def remainder (t : List Char) : List Char :=
  if "http://".toList <+: t then t.drop 7 else if "https://".toList <+: t then t.drop 8 else t

/-- The text that `urlparse` splits, without the scheme. -/
def read (url : String) : List Char := clean (remainder (text url))

variable (py : Stdlib) (Q : Quoting)

/-- The parameters that the code keeps, by name. -/
def kept (q : List Char) : List (String × List String) :=
  group ((Q.pairs q).filter fun p => p.2 ≠ "" ∧ p.1 ∉ TRACKING_PARAMS)

/-- The normal form up to the query, without the scheme. -/
def base (rest : List Char) : List Char := lowered py (netloc rest) ++ writeHier (hier rest)

/-- The normal form of an accepted URL. -/
def normalForm (scheme : String) (rest : List Char) : List Char :=
  unslash (address scheme (base py rest ++ tail (Q.encode (kept Q (query rest))))).toList

variable {py Q} {accepts : List Char → Bool} {url : String} {t rest : List Char} {s : String}

/-- The scheme is http or https. -/
lemma scheme_mem (t : List Char) : scheme t ∈ SCHEMES := by
  unfold scheme SCHEMES
  split <;> simp

/-- The characters of an http address. -/
lemma http_append (rest : List Char) : (address "http" rest).toList = "http://".toList ++ rest := by
  simp [address]

/-- The characters of an https address. -/
lemma https_append (rest : List Char) :
    (address "https" rest).toList = "https://".toList ++ rest := by
  simp [address]

/-- An https address does not begin like an http one. -/
lemma not_http_isPrefix (rest : List Char) : ¬ "http://".toList <+: "https://".toList ++ rest := by
  intro h
  simp at h

/-- The scheme and the remainder of an address. -/
lemma scheme_remainder_address (hs : s ∈ SCHEMES) (rest : List Char) :
    scheme (address s rest).toList = s ∧ remainder (address s rest).toList = rest := by
  unfold scheme remainder
  rcases List.mem_pair.1 hs with rfl | rfl
  · rw [http_append, if_pos (List.prefix_append ..), if_pos (List.prefix_append ..)]
    exact ⟨rfl, List.drop_left' (by simp)⟩
  · rw [https_append, if_neg (not_http_isPrefix rest), if_neg (not_http_isPrefix rest),
      if_pos (List.prefix_append ..)]
    exact ⟨rfl, List.drop_left' (by simp)⟩

/-- A text with a scheme is that scheme and the remainder. -/
lemma eq_address_of_plain {u : String} (h : Plain u.toList) :
    ∃ s ∈ SCHEMES, ∃ rest, u = address s rest := by
  rcases h with ⟨rest, h⟩ | ⟨rest, h⟩
  · exact ⟨"http", by decide, rest, String.toList_injective (by rw [http_append, h])⟩
  · exact ⟨"https", by decide, rest, String.toList_injective (by rw [https_append, h])⟩

/-- Without a scheme the code takes https. -/
lemma scheme_remainder_of_not_plain (h : ¬ Plain t) : scheme t = "https" ∧ remainder t = t := by
  obtain ⟨h₁, h₂⟩ := not_or.1 h
  unfold scheme remainder
  rw [if_neg h₁, if_neg h₁, if_neg h₂]
  exact ⟨rfl, rfl⟩

/-- What the code takes for the URL. -/
lemma completed_eq (u : String) :
    (if "http://".toList <+: u.toList ∨ "https://".toList <+: u.toList then u
      else "https://" ++ u) =
      address (scheme u.toList) (remainder u.toList) := by
  by_cases h : Plain u.toList
  · obtain ⟨s, hs, rest, rfl⟩ := eq_address_of_plain h
    obtain ⟨hscheme, hrest⟩ := scheme_remainder_address hs rest
    rw [hscheme, hrest]
    exact if_pos h
  · obtain ⟨hscheme, hrest⟩ := scheme_remainder_of_not_plain h
    rw [hscheme, hrest]
    apply (if_neg h).trans
    apply String.toList_injective
    rw [https_append]
    simp

/-! ## What the code returns -/

/-- The code's filters keep these parameters. -/
lemma kept_eq (q : List Char) :
    (group ((Q.pairs q).filter (·.2 ≠ ""))).filter (fun kv => kv.1 ∉ TRACKING_PARAMS) =
      kept Q q := by
  rw [filter_group (fun name => name ∉ TRACKING_PARAMS), List.filter_filter]
  unfold kept
  congr 1
  apply List.filter_congr
  intro p _
  simp [Bool.and_comm]

/-- The path is empty, then without parameters, or begins with a slash. -/
lemma hier_shape (rest : List Char) :
    path (hier rest) = [] ∧ params (hier rest) = [] ∨ ∃ r, path (hier rest) = '/' :: r := by
  rcases hier_cases rest with hnil | hcons
  · rw [hnil]
    exact Or.inl ⟨rfl, rfl⟩
  · exact Or.inr (path_cases hcons)

/-- What `urlunparse` makes of the parts. -/
lemma unparse_eq (lib : Urllib py Q accepts) (hs : s ∈ SCHEMES) (rest : List Char) :
    py.urlunparse
        { parsed s rest with
          netloc := py.lower (parsed s rest).netloc
          query := py.urlencode
            ((py.parseQs (parsed s rest).query).filter fun kv => kv.1 ∉ TRACKING_PARAMS) } =
      address s (base py rest ++ tail (Q.encode (kept Q (query rest)))) := by
  have hlower : py.lower (parsed s rest).netloc = String.ofList (lowered py (netloc rest)) := by
    simp [lowered, parsed]
  have hquery : (parsed s rest).query = String.ofList (query rest) := rfl
  rw [hlower, hquery, lib.parse_qs, kept_eq, lib.urlencode]
  exact lib.urlunparse s hs _ _ _ _ (hier_shape rest)

/-- The normal form of an accepted URL; any other one gets its scheme. -/
lemma normalizeUrl_eq (lib : Urllib py Q accepts) (h : Text.strip url ≠ "") :
    normalizeUrl py url =
      if accepts (netloc (read url)) then
        String.ofList (normalForm py Q (scheme (text url)) (read url))
      else address (scheme (text url)) (remainder (text url)) := by
  unfold normalizeUrl
  rw [if_neg h, completed_eq]
  simp only [lib.urlparse _ (scheme_mem _)]
  unfold read text
  by_cases haccepts : accepts (netloc (clean (remainder (Text.strip url).toList))) = true
  · rw [if_pos haccepts, if_pos haccepts]
    simp only [unparse_eq lib (scheme_mem _)]
    unfold normalForm unslash
    split
    · rw [if_pos]
      assumption
    · rw [if_neg, String.ofList_toList]
      assumption
  · rw [if_neg haccepts, if_neg haccepts]

/-! ## The normal form read again -/

/-- Dropping from the end stops at a character. -/
lemma rdropWhile_append_of_not {p : Char → Bool} {c : Char} (hc : p c = false) (a b : List Char) :
    (a ++ c :: b).rdropWhile p = a ++ c :: b.rdropWhile p := by
  induction b using List.reverseRecOn with
  | nil => simp [hc]
  | append_singleton b d ih =>
    rw [← List.cons_append, ← List.append_assoc]
    cases hd : p d
    · rw [List.rdropWhile_concat_neg _ _ _ (by simp [hd]),
        List.rdropWhile_concat_neg _ _ _ (by simp [hd])]
      simp
    · rw [List.rdropWhile_concat_pos _ _ _ hd, List.rdropWhile_concat_pos _ _ _ hd, ih]

/-- Stripping an address strips its end. -/
lemma text_address (hs : s ∈ SCHEMES) (rest : List Char) :
    Text.strip (address s rest) = address s (rest.rdropWhile Text.isSpace) := by
  have hend (a : List Char) : (a ++ ("://".toList ++ rest)).rdropWhile Text.isSpace =
      a ++ ("://".toList ++ rest.rdropWhile Text.isSpace) := by
    have h := rdropWhile_append_of_not (p := Text.isSpace) (c := '/') (by decide)
      (a ++ [':', '/']) rest
    simpa using h
  unfold Text.strip address
  rw [String.toList_ofList, ← hend]
  rcases List.mem_pair.1 hs with rfl | rfl <;> rfl

/-- An address is not empty. -/
lemma address_ne_empty (s : String) (rest : List Char) : address s rest ≠ "" := by
  intro h
  have := congrArg String.toList h
  simp [address] at this

/-- The length of an address. -/
lemma length_address (s : String) (rest : List Char) :
    (address s rest).toList.length = s.toList.length + 3 + rest.length := by
  simp [address]
  omega

/-- Only the slashes of the scheme can be cut when nothing follows them. -/
lemma unslash_address (s : String) (h : rest ≠ []) :
    unslash (address s rest).toList = (address s (unslash rest)).toList := by
  unfold address
  rw [String.toList_ofList, unslash_append _ (by simp), unslash_append _ h]
  simp

/-- An address without a host loses a slash. -/
lemma length_unslash_address_nil (s : String) :
    (unslash (address s []).toList).length + 1 = s.toList.length + 3 := by
  rw [length_unslash_of_suffix, length_address]
  · rfl
  · exact ⟨s.toList ++ [':', '/'], by simp [address]⟩

/-- An address tells what follows its scheme. -/
lemma address_inj {a b : List Char} (h : address s a = address s b) : a = b := by
  have heq := congrArg String.toList h
  simpa [address] using heq

/-- The normal form of an address. -/
lemma normalizeUrl_address (lib : Urllib py Q accepts) (hs : s ∈ SCHEMES) (rest : List Char) :
    normalizeUrl py (address s rest) =
      if accepts (netloc (clean (rest.rdropWhile Text.isSpace))) then
        String.ofList (normalForm py Q s (clean (rest.rdropWhile Text.isSpace)))
      else address s (rest.rdropWhile Text.isSpace) := by
  have hstrip := text_address hs rest
  rw [normalizeUrl_eq lib (by rw [hstrip]; exact address_ne_empty _ _)]
  unfold read text
  rw [hstrip, (scheme_remainder_address hs _).1, (scheme_remainder_address hs _).2]

/-- What is left as it is when it is read again: it is not empty and ends neither in a slash nor in
white space nor in a semicolon that is the only one of its segment. -/
def Firm (b : List Char) : Prop :=
  b ≠ [] ∧ ¬ ['/'] <:+ b ∧ b.rdropWhile Text.isSpace = b ∧ ¬ Lone (b.dropWhile (· ≠ '/'))

instance : DecidablePred Firm := fun _ => inferInstanceAs (Decidable (_ ∧ _ ∧ _ ∧ _))

/-- With a path, firmness is the path's. -/
lemma firm_iff_of_path {m g : List Char} (hm : '/' ∉ m) (hg : ∃ r, g = '/' :: r) :
    Firm (m ++ g) ↔ Firm g := by
  obtain ⟨r, rfl⟩ := hg
  have hspace : (m ++ '/' :: r).rdropWhile Text.isSpace = m ++ '/' :: r ↔
      ('/' :: r).rdropWhile Text.isSpace = '/' :: r := by
    have hr := rdropWhile_append_of_not (p := Text.isSpace) (c := '/') (by decide) [] r
    rw [List.nil_append, List.nil_append] at hr
    rw [rdropWhile_append_of_not (by decide), hr, List.append_cancel_left_eq]
  unfold Firm
  rw [slash_suffix_append m (List.cons_ne_nil _ _), hspace, dropWhile_append hm]
  simp

/-- A network location alone is firm if it is there and does not end in white space. -/
lemma firm_iff_of_location {m : List Char} (hm : '/' ∉ m) :
    Firm m ↔ m ≠ [] ∧ m.rdropWhile Text.isSpace = m := by
  have hslash : ¬ ['/'] <:+ m := fun h => hm (h.subset (List.mem_singleton_self _))
  have hlone : ¬ Lone [] := by decide
  unfold Firm
  rw [dropWhile_of_not_mem hm]
  tauto

/-- The case of the network location does not matter. -/
lemma firm_lowered_iff (lib : Urllib py Q accepts) {n g : List Char} (hn : '/' ∉ n)
    (hg : g = [] ∨ ∃ r, g = '/' :: r) : Firm (lowered py n ++ g) ↔ Firm (n ++ g) := by
  have hlow := lib.not_mem_lowered (c := '/') (by decide) hn
  rcases hg with rfl | hg
  · rw [List.append_nil, List.append_nil, firm_iff_of_location hlow, firm_iff_of_location hn,
      lib.rdropWhile_lowered_eq_iff, Ne, lib.lower_eq_nil]
  · rw [firm_iff_of_path hlow hg, firm_iff_of_path hn hg]

/-- A network location and a path, without a query. -/
structure Bare (m g : List Char) : Prop where
  slash : '/' ∉ m
  shape : g = [] ∨ ∃ r, g = '/' :: r
  hash : '#' ∉ m ++ g
  question : '?' ∉ m ++ g
  cleaned : clean (m ++ g) = m ++ g

namespace Bare

variable {m g g' : List Char}

/-- The front is all there is. -/
lemma front_eq (h : Bare m g) : front (m ++ g) = m ++ g := by
  simpa [tail] using front_compose (q := []) h.hash h.question (by simp)

/-- The network location is read back. -/
lemma netloc_eq (h : Bare m g) : netloc (m ++ g) = m :=
  UrlText.netloc_eq h.slash h.shape h.front_eq

/-- The path is read back. -/
lemma hier_eq (h : Bare m g) : hier (m ++ g) = g := UrlText.hier_eq h.slash h.shape h.front_eq

/-- There is no query. -/
lemma query_eq (h : Bare m g) : query (m ++ g) = [] := by
  simpa [tail] using query_compose (q := []) h.hash h.question (by simp)

/-- Parts with no other characters are bare too. -/
lemma of_subset {m' : List Char} (h : Bare m g) (hslash : '/' ∉ m')
    (hs : g' = [] ∨ ∃ r, g' = '/' :: r) (hsub : m' ++ g' ⊆ m ++ g) : Bare m' g' := by
  exact ⟨hslash, hs, fun hc => h.hash (hsub hc), fun hc => h.question (hsub hc),
    clean_of_subset h.cleaned hsub⟩

/-- A beginning of the path is bare too. -/
lemma of_prefix (h : Bare m g) (hp : g' <+: g) : Bare m g' := by
  refine h.of_subset h.slash ?_ (List.append_subset.2 ⟨List.subset_append_left .., fun _ hc =>
    List.mem_append_right _ (hp.subset hc)⟩)
  cases g' with
  | nil => exact Or.inl rfl
  | cons c g' =>
    obtain ⟨r, rfl⟩ := h.shape.resolve_left (List.ne_nil_of_mem (hp.subset (List.mem_cons_self ..)))
    rw [(List.cons_prefix_cons.1 hp).1]
    exact Or.inr ⟨g', rfl⟩

/-- The normal form without a query. -/
lemma normalForm_eq (h : Bare m g) :
    normalForm py Q s (m ++ g) = unslash (address s (lowered py m ++ writeHier g)).toList := by
  unfold normalForm base
  rw [h.netloc_eq, h.hier_eq, h.query_eq]
  show unslash (address s (lowered py m ++ writeHier g ++ [])).toList = _
  rw [List.append_nil]

/-- Firmness, part by part. -/
lemma firm_iff (h : Bare m g) : Firm (m ++ g) ↔
    m ++ g ≠ [] ∧ ¬ ['/'] <:+ m ++ g ∧ (m ++ g).rdropWhile Text.isSpace = m ++ g ∧ ¬ Lone g := by
  have hdrop : (m ++ g).dropWhile (· ≠ '/') = g := by
    have h₁ := h.hier_eq
    unfold hier at h₁
    rwa [h.front_eq] at h₁
  unfold Firm
  rw [hdrop]

/-- One reading of such a text that has no white space at its end. -/
lemma normalizeUrl_eq (h : Bare m g) (lib : Urllib py Q accepts) (hs : s ∈ SCHEMES)
    (hlower : lowered py m = m) (haccepts : accepts m = true) {rest : List Char}
    (hrest : rest.rdropWhile Text.isSpace = m ++ g) :
    normalizeUrl py (address s rest) =
      String.ofList (unslash (address s (m ++ writeHier g)).toList) := by
  rw [normalizeUrl_address lib hs, hrest, h.cleaned, h.netloc_eq, if_pos haccepts,
    h.normalForm_eq, hlower]

/-- It is read as it is only if nothing is taken from it. -/
lemma firm_of_unslash_eq (hp : g' <+: g)
    (heq : unslash (address s (m ++ writeHier g')).toList = (address s (m ++ g)).toList) :
    g' = g ∧ m ++ g ≠ [] ∧ ¬ ['/'] <:+ m ++ g ∧ ¬ Lone g := by
  have hlength := congrArg List.length heq
  have hle : g'.length ≤ g.length := hp.length_le
  have hwrite : (writeHier g').length ≤ g'.length := by
    by_cases hlone : Lone g'
    · have := length_writeHier_of_lone hlone
      omega
    · rw [writeHier_of_not_lone hlone]
  -- nothing is taken at any of the three places, or the result would be shorter
  have hsuffix : ¬ ['/'] <:+ (address s (m ++ writeHier g')).toList := by
    intro hsuffix
    have := length_unslash_of_suffix hsuffix
    rw [hlength, length_address, length_address, List.length_append, List.length_append] at this
    omega
  rw [unslash_of_not_suffix hsuffix, length_address, length_address, List.length_append,
    List.length_append] at hlength
  have hg : g' = g := hp.eq_of_length (by omega)
  subst hg
  have hlone : ¬ Lone g' := by
    intro hlone
    have := length_writeHier_of_lone hlone
    omega
  rw [writeHier_of_not_lone hlone] at hsuffix
  refine ⟨rfl, ?_, ?_, hlone⟩
  · intro hnil
    rw [hnil] at hsuffix
    exact hsuffix ⟨s.toList ++ [':', '/'], by simp [address]⟩
  · intro hslash
    apply hsuffix
    refine hslash.trans ⟨s.toList ++ "://".toList, ?_⟩
    simp [address]

/-- White space at the end of the network location is lost with the next reading. -/
lemma spaced_not_fixed (h : Bare m []) (lib : Urllib py Q accepts) (hs : s ∈ SCHEMES)
    (hlower : lowered py m = m) (hspace : m.rdropWhile Text.isSpace ≠ m) :
    normalizeUrl py (address s m) ≠ address s m := by
  intro hfixed
  have hsplit : m.rdropWhile Text.isSpace ++ m.rtakeWhile Text.isSpace = m :=
    List.rdropWhile_append_rtakeWhile
  have hbreaks : ∀ c ∈ m.rtakeWhile Text.isSpace, Break c :=
    fun c hc => break_of_isSpace (List.mem_rtakeWhile_imp hc)
  rw [normalizeUrl_address lib hs] at hfixed
  generalize m.rdropWhile Text.isSpace = p at hsplit hspace hfixed
  generalize m.rtakeWhile Text.isSpace = w at hsplit hbreaks
  have hw : w ≠ [] := by
    rintro rfl
    exact hspace (by simpa using hsplit)
  obtain ⟨c, ws, rfl⟩ := List.exists_cons_of_ne_nil hw
  have hsub : p ⊆ m := hsplit ▸ List.subset_append_left ..
  have hp : Bare p [] :=
    h.of_subset (fun hc => h.slash (hsub hc)) (Or.inl rfl) (by simpa using hsub)
  have hne : lowered py p ≠ m := by
    intro heq
    apply lib.lowered_append_break_ne (hbreaks c (List.mem_cons_self ..)) p ws
    rw [hsplit, hlower, heq]
  have hparts := hp.cleaned
  have hnetloc := hp.netloc_eq
  have hform : normalForm py Q s (p ++ []) = _ := hp.normalForm_eq
  rw [List.append_nil] at hparts hnetloc hform
  rw [hparts, hnetloc, hform] at hfixed
  by_cases haccepts : accepts p = true
  · rw [if_pos haccepts] at hfixed
    have heq := congrArg String.toList hfixed
    rw [String.toList_ofList, writeHier_nil, List.append_nil] at heq
    by_cases hnil : lowered py p = []
    · have hlength := length_unslash_address_nil s
      rw [hnil] at heq
      rw [heq, length_address] at hlength
      omega
    · rw [unslash_address s hnil,
        unslash_of_not_mem (lib.not_mem_lowered (by decide) hp.slash)] at heq
      exact hne (address_inj (String.toList_injective heq))
  · rw [if_neg haccepts] at hfixed
    exact hspace (address_inj hfixed)

/-- Without a query a normal form is kept exactly when it is firm. -/
lemma fixed_iff (h : Bare m g) (lib : Urllib py Q accepts) (hs : s ∈ SCHEMES)
    (hlower : lowered py m = m) (haccepts : accepts m = true) :
    normalizeUrl py (address s (m ++ g)) = address s (m ++ g) ↔ Firm (m ++ g) := by
  rw [h.firm_iff]
  constructor
  · intro hfixed
    -- what the next reading finds of the path when the white space at the end is gone
    have hread : ∃ g', g' <+: g ∧ (m ++ g).rdropWhile Text.isSpace = m ++ g' := by
      rcases h.shape with rfl | ⟨r, rfl⟩
      · refine ⟨[], List.prefix_refl _, ?_⟩
        rw [List.append_nil] at hfixed ⊢
        by_contra hspace
        exact h.spaced_not_fixed lib hs hlower hspace hfixed
      · exact ⟨'/' :: r.rdropWhile Text.isSpace,
          (List.prefix_cons_inj _).2 (List.rdropWhile_prefix _ r),
          rdropWhile_append_of_not (by decide) m r⟩
    obtain ⟨g', hp, hspace⟩ := hread
    rw [(h.of_prefix hp).normalizeUrl_eq lib hs hlower haccepts hspace] at hfixed
    have heq := congrArg String.toList hfixed
    rw [String.toList_ofList] at heq
    obtain ⟨rfl, hne, hslash, hlone⟩ := firm_of_unslash_eq hp heq
    exact ⟨hne, hslash, hspace, hlone⟩
  · rintro ⟨hne, hslash, hspace, hlone⟩
    rw [h.normalizeUrl_eq lib hs hlower haccepts hspace, writeHier_of_not_lone hlone,
      unslash_address s hne, unslash_of_not_suffix hslash, String.ofList_toList]

end Bare

/-! ### The query -/

/-- A parameter is left when the tracking parameters and the blank values are gone. -/
def Keeps (Q : Quoting) (q : List Char) : Prop :=
  ∃ p ∈ Q.pairs q, p.2 ≠ "" ∧ p.1 ∉ TRACKING_PARAMS

instance (q : List Char) : Decidable (Keeps Q q) :=
  inferInstanceAs (Decidable (∃ p ∈ Q.pairs q, p.2 ≠ "" ∧ p.1 ∉ TRACKING_PARAMS))

/-- The pairs that are kept. -/
lemma mem_ungroup_kept {q : List Char} {p : String × String} :
    p ∈ ungroup (kept Q q) ↔ p ∈ Q.pairs q ∧ p.2 ≠ "" ∧ p.1 ∉ TRACKING_PARAMS := by
  unfold kept
  rw [mem_ungroup_group, List.mem_filter, decide_eq_true_iff]

/-- The query is empty if no parameter is left. -/
lemma encode_kept_eq_nil {q : List Char} : Q.encode (kept Q q) = [] ↔ ¬ Keeps Q q := by
  rw [Quoting.encode_eq_nil, List.eq_nil_iff_forall_not_mem]
  constructor
  · rintro h ⟨p, hp⟩
    exact h p (mem_ungroup_kept.2 hp)
  · intro h p hp
    exact h ⟨p, mem_ungroup_kept.1 hp⟩

/-- The query of a normal form is kept as it is. -/
lemma kept_encode (q : List Char) : kept Q (Q.encode (kept Q q)) = kept Q q := by
  nth_rewrite 1 [kept]
  rw [Quoting.pairs_encode, List.filter_eq_self.2]
  · exact group_ungroup_group _
  · intro p hp
    exact decide_eq_true (mem_ungroup_kept.1 hp).2

/-- White space is not safe. -/
lemma not_safe_of_isSpace {c : Char} (h : Text.isSpace c = true) : ¬ Safe c := by
  intro hsafe
  rcases hsafe with halnum | hmem
  · exact not_isAlphanum_of_isSpace h halnum
  · simp only [List.mem_cons, List.not_mem_nil, or_false] at hmem
    rcases hmem with rfl | rfl | rfl | rfl | rfl | rfl <;> exact absurd h (by decide)

/-- A query that is written has no delimiter of a URL. -/
lemma not_break_of_mem_encode {d : List (String × List String)} {c : Char} (h : c ∈ Q.encode d) :
    ¬ Break c := by
  rintro (hdelim | hspace)
  · have hc := Quoting.mem_encode h
    simp only [List.mem_cons, List.not_mem_nil, or_false] at hdelim
    rcases hdelim with rfl | rfl | rfl | rfl <;> exact absurd hc (by decide)
  · rcases Quoting.mem_encode h with hsafe | rfl | rfl
    · exact not_safe_of_isSpace hspace hsafe
    · exact absurd hspace (by decide)
    · exact absurd hspace (by decide)

/-- A colon and a slash are all that is left of an address without a location: the next reading
takes the scheme for the location. -/
lemma scheme_not_fixed (lib : Urllib py Q accepts) (hs : s ∈ SCHEMES) :
    normalizeUrl py (String.ofList (unslash (address s []).toList)) ≠
      String.ofList (unslash (address s []).toList) := by
  have hunslash : unslash (address s []).toList = s.toList ++ [':'] ++ ['/'] := by
    rw [← unslash_concat (s.toList ++ [':'] ++ ['/'])]
    simp [address]
  have hbare : Bare (s.toList ++ [':']) ['/'] := by
    rcases List.mem_pair.1 hs with rfl | rfl <;>
      exact ⟨by decide, Or.inr ⟨[], rfl⟩, by decide, by decide, by decide⟩
  have hstrip : Text.strip (String.ofList (s.toList ++ [':'] ++ ['/'])) =
      String.ofList (s.toList ++ [':'] ++ ['/']) := by
    rcases List.mem_pair.1 hs with rfl | rfl <;> decide
  have hwrite : writeHier ['/'] = ['/'] := by decide
  have hplain : ¬ Plain (s.toList ++ [':'] ++ ['/']) := by
    rcases List.mem_pair.1 hs with rfl | rfl <;> decide
  intro hfixed
  rw [hunslash, normalizeUrl_eq lib (by rw [hstrip]; simp)] at hfixed
  unfold read text at hfixed
  rw [hstrip, String.toList_ofList, (scheme_remainder_of_not_plain hplain).1,
    (scheme_remainder_of_not_plain hplain).2, hbare.cleaned, hbare.normalForm_eq,
    unslash_address _ (by rw [hwrite]; simp)] at hfixed
  have hshort : (String.ofList (s.toList ++ [':'] ++ ['/'])).toList.length ≤ 7 := by
    rcases List.mem_pair.1 hs with rfl | rfl <;> decide
  have hlong (rest : List Char) : 8 ≤ (address "https" rest).toList.length := by
    rw [length_address]
    exact Nat.le_add_right 8 _
  rw [← hfixed] at hshort
  split at hshort
  · rw [String.ofList_toList] at hshort
    exact absurd (le_trans (hlong _) hshort) (by decide)
  · exact absurd (le_trans (hlong _) hshort) (by decide)

/-! ### Idempotence -/

/-- The text before the query of a normal form has the same parts again. -/
lemma bare_base (lib : Urllib py Q accepts) (hrest : clean rest = rest) :
    Bare (lowered py (netloc rest)) (writeHier (hier rest)) := by
  have hfront : ∀ c ∈ netloc rest ++ hier rest, c ∈ front rest :=
    fun c hc => netloc_append_hier rest ▸ hc
  have hmem {c : Char} (hc : Break c)
      (h : c ∈ lowered py (netloc rest) ++ writeHier (hier rest)) : c ∈ front rest := by
    rcases List.mem_append.1 h with h | h
    · exact hfront c (List.mem_append_left _ (lib.of_mem_lower _ c hc h))
    · exact hfront c (List.mem_append_right _ (writeHier_subset _ h))
  obtain ⟨h₁, h₂, h₃⟩ := clean_eq_self.1 hrest
  refine ⟨lib.not_mem_lowered (by decide) (slash_not_mem_netloc rest), ?_,
    fun h => hash_not_mem_front rest (hmem (by decide) h),
    fun h => question_not_mem_front rest (hmem (by decide) h),
    clean_eq_self.2 ⟨fun h => h₁ (mem_of_mem_front (hmem (by decide) h)),
      fun h => h₂ (mem_of_mem_front (hmem (by decide) h)),
      fun h => h₃ (mem_of_mem_front (hmem (by decide) h))⟩⟩
  rcases hier_cases rest with hnil | hcons
  · rw [hnil]
    exact Or.inl rfl
  · exact Or.inr (writeHier_cases hcons)

/-- The base is clean. -/
lemma clean_base (lib : Urllib py Q accepts) (hrest : clean rest = rest) :
    clean (base py rest) = base py rest :=
  (bare_base lib hrest).cleaned

section Query

variable {d : List (String × List String)}

/-- A delimiter is not in a query that is written. -/
lemma not_mem_encode {c : Char} (hc : Break c) : c ∉ Q.encode d :=
  fun h => not_break_of_mem_encode h hc

/-- A clean part stays clean with a query that is written. -/
lemma clean_append_tail {b : List Char} (hb : clean b = b) :
    clean (b ++ tail (Q.encode d)) = b ++ tail (Q.encode d) := by
  have hquery : clean (Q.encode d) = Q.encode d :=
    clean_eq_self.2 ⟨not_mem_encode (by decide), not_mem_encode (by decide),
      not_mem_encode (by decide)⟩
  rw [clean_append, hb, clean_tail hquery]

/-- A query ends in no white space. -/
lemma rdropWhile_append_tail (hd : Q.encode d ≠ []) (b : List Char) :
    (b ++ tail (Q.encode d)).rdropWhile Text.isSpace = b ++ tail (Q.encode d) := by
  have htail : tail (Q.encode d) = '?' :: Q.encode d := if_neg hd
  rw [htail, rdropWhile_append_of_not (by decide), List.rdropWhile_eq_self_iff.2]
  intro hne hlast
  exact not_break_of_mem_encode (List.getLast_mem hne) (break_of_isSpace hlast)

/-- A query ends in no slash. -/
lemma unslash_address_tail (hd : Q.encode d ≠ []) (b : List Char) :
    unslash (address s (b ++ tail (Q.encode d))).toList =
      (address s (b ++ tail (Q.encode d))).toList := by
  have htail : tail (Q.encode d) = '?' :: Q.encode d := if_neg hd
  have hslash : '/' ∉ tail (Q.encode d) := by
    rw [htail]
    exact List.not_mem_cons_of_ne_of_not_mem (by decide) (not_mem_encode (by decide))
  rw [unslash_address s (by simp [htail]), unslash_append b (by simp [htail]),
    unslash_of_not_mem hslash]

end Query

/-- With a query a normal form is kept. -/
lemma fixed_of_keeps (lib : Urllib py Q accepts) (hs : s ∈ SCHEMES) (hrest : clean rest = rest)
    (haccepts : accepts (netloc rest) = true) (hkeeps : Keeps Q (query rest)) :
    normalizeUrl py (String.ofList (normalForm py Q s rest)) =
      String.ofList (normalForm py Q s rest) := by
  have hbase := bare_base lib hrest
  have hne := fun h => encode_kept_eq_nil.1 h hkeeps
  have hhash : '#' ∉ Q.encode (kept Q (query rest)) := not_mem_encode (by decide)
  -- the parts of the normal form are those it was made of
  have hfront := front_compose hbase.hash hbase.question hhash
  have hquery := query_compose hbase.hash hbase.question hhash
  have hnetloc := UrlText.netloc_eq hbase.slash hbase.shape hfront
  have hhier := UrlText.hier_eq hbase.slash hbase.shape hfront
  have hbare : base py (base py rest ++ tail (Q.encode (kept Q (query rest)))) = base py rest := by
    nth_rewrite 1 [base]
    unfold base
    rw [hnetloc, hhier, lib.lower_lower, writeHier_writeHier]
  have hform : normalForm py Q s (base py rest ++ tail (Q.encode (kept Q (query rest)))) =
      normalForm py Q s rest := by
    unfold normalForm
    rw [hbare]
    unfold base
    rw [hquery, kept_encode]
  nth_rewrite 1 [normalForm]
  rw [unslash_address_tail hne, String.ofList_toList, normalizeUrl_address lib hs,
    rdropWhile_append_tail hne, clean_append_tail (clean_base lib hrest), hform, if_pos]
  unfold base
  rw [hnetloc]
  exact lib.accepts_lower _ haccepts

/-- Without a query a normal form is its base less one slash. -/
lemma fixed_iff_of_not_keeps (lib : Urllib py Q accepts) (hs : s ∈ SCHEMES)
    (hrest : clean rest = rest) (haccepts : accepts (netloc rest) = true)
    (hkeeps : ¬ Keeps Q (query rest)) :
    normalizeUrl py (String.ofList (normalForm py Q s rest)) =
      String.ofList (normalForm py Q s rest) ↔ Firm (unslash (base py rest)) := by
  have hform : normalForm py Q s rest = unslash (address s (base py rest)).toList := by
    unfold normalForm
    rw [encode_kept_eq_nil.2 hkeeps]
    show unslash (address s (base py rest ++ [])).toList = _
    rw [List.append_nil]
  have hbase := bare_base lib hrest
  rw [hform]
  by_cases hnil : base py rest = []
  · rw [hnil]
    exact iff_of_false (scheme_not_fixed lib hs) fun h => h.1 rfl
  · have hcut : ∃ g, g <+: writeHier (hier rest) ∧
        unslash (base py rest) = lowered py (netloc rest) ++ g := by
      unfold base
      by_cases hpath : writeHier (hier rest) = []
      · refine ⟨[], List.nil_prefix, ?_⟩
        rw [hpath, List.append_nil, unslash_of_not_mem hbase.slash]
      · exact ⟨_, unslash_isPrefix _, unslash_append _ hpath⟩
    obtain ⟨g, hp, hg⟩ := hcut
    rw [unslash_address s hnil, String.ofList_toList, hg]
    exact (hbase.of_prefix hp).fixed_iff lib hs (lib.lower_lower _) (lib.accepts_lower _ haccepts)

/-- Lower-casing the network location does not matter for firmness. -/
lemma firm_base_iff (lib : Urllib py Q accepts) (hrest : clean rest = rest) :
    Firm (unslash (base py rest)) ↔ Firm (unslash (netloc rest ++ writeHier (hier rest))) := by
  have hbase := bare_base lib hrest
  have hslash := slash_not_mem_netloc rest
  unfold base
  by_cases hpath : writeHier (hier rest) = []
  · have hfirm := firm_lowered_iff lib hslash (Or.inl rfl)
    rw [List.append_nil, List.append_nil] at hfirm
    rw [hpath, List.append_nil, List.append_nil, unslash_of_not_mem hbase.slash,
      unslash_of_not_mem hslash, hfirm]
  · rw [unslash_append _ hpath, unslash_append _ hpath]
    exact firm_lowered_iff lib hslash (hbase.of_prefix (unslash_isPrefix _)).shape

/-- Reading a normal form again changes nothing exactly when it has a query or what stands before
the query is firm. -/
lemma fixed_iff (lib : Urllib py Q accepts) (hs : s ∈ SCHEMES) (hrest : clean rest = rest)
    (haccepts : accepts (netloc rest) = true) :
    normalizeUrl py (String.ofList (normalForm py Q s rest)) =
      String.ofList (normalForm py Q s rest) ↔
        Keeps Q (query rest) ∨ Firm (unslash (netloc rest ++ writeHier (hier rest))) := by
  rw [← firm_base_iff lib hrest]
  by_cases hkeeps : Keeps Q (query rest)
  · exact iff_of_true (fixed_of_keeps lib hs hrest haccepts hkeeps) (Or.inl hkeeps)
  · rw [fixed_iff_of_not_keeps lib hs hrest haccepts hkeeps, or_iff_right hkeeps]

end InstantBoard.TransformerProcessor
