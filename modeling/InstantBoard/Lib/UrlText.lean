import Mathlib.Data.List.DropRight
import Mathlib.Data.List.Infix
import Mathlib.Tactic.Lemma

/-!
# The parts of a URL's text

What follows the `//` of a URL: a network location up to the first slash, the path with its
parameters, a query after the first question mark and a fragment after the first `#`. The parameters
are what follows the first semicolon of the last segment. The parts of a text that is made of parts
are these parts again (`front_compose`, `query_compose`, `netloc_eq`, `hier_eq`), and writing the
path and its parameters back drops a semicolon with nothing behind it and changes nothing else
(`writeHier_of_lone`, `writeHier_of_not_lone`).
-/

namespace UrlText

/-- The text without the characters that are taken out of a URL before it is read. -/
def clean (t : List Char) : List Char := t.filter (· ∉ ['\t', '\r', '\n'])

/-- The network location and the path with its parameters. -/
def front (t : List Char) : List Char := (t.takeWhile (· ≠ '#')).takeWhile (· ≠ '?')

def query (t : List Char) : List Char := ((t.takeWhile (· ≠ '#')).dropWhile (· ≠ '?')).drop 1

def netloc (t : List Char) : List Char := (front t).takeWhile (· ≠ '/')

/-- The path with its parameters. -/
def hier (t : List Char) : List Char := (front t).dropWhile (· ≠ '/')

/-- The query behind its question mark. -/
def tail (q : List Char) : List Char := if q = [] then [] else '?' :: q

/-- What stands before the last segment, its slash included. -/
def dirs (h : List Char) : List Char := h.rdropWhile (· ≠ '/')

/-- The last segment. -/
def segment (h : List Char) : List Char := h.rtakeWhile (· ≠ '/')

def path (h : List Char) : List Char := dirs h ++ (segment h).takeWhile (· ≠ ';')

def params (h : List Char) : List Char := ((segment h).dropWhile (· ≠ ';')).drop 1

def joinParams (path params : List Char) : List Char :=
  if params = [] then path else path ++ ';' :: params

/-- The path and its parameters, read and written back. -/
def writeHier (h : List Char) : List Char := joinParams (path h) (params h)

/-- The only semicolon of the last segment is its last character. -/
def Lone (h : List Char) : Prop := (segment h).dropWhile (· ≠ ';') = [';']

instance : DecidablePred Lone := fun _ => inferInstanceAs (Decidable (_ = _))

/-- The text without a slash at its end. -/
def unslash (t : List Char) : List Char := if ['/'] <:+ t then t.dropLast else t

variable {t n h q a x : List Char}

/-! ## Taking out characters -/

/-- Two texts are cleaned part by part. -/
lemma clean_append (a t : List Char) : clean (a ++ t) = clean a ++ clean t := List.filter_append ..

/-- A text without tabs and newlines is clean. -/
lemma clean_eq_self : clean t = t ↔ '\t' ∉ t ∧ '\r' ∉ t ∧ '\n' ∉ t := by
  unfold clean
  rw [List.filter_eq_self]
  constructor
  · intro h
    refine ⟨?_, ?_, ?_⟩ <;> intro hmem <;> simpa using h _ hmem
  · rintro ⟨h₁, h₂, h₃⟩ c hc
    simp only [List.mem_cons, List.not_mem_nil, or_false, not_or, decide_eq_true_eq]
    exact ⟨fun h => h₁ (h ▸ hc), fun h => h₂ (h ▸ hc), fun h => h₃ (h ▸ hc)⟩

/-- What has only characters of a clean text is clean. -/
lemma clean_of_subset (ht : clean t = t) (h : a ⊆ t) : clean a = a :=
  List.filter_eq_self.2 fun c hc => List.filter_eq_self.1 ht c (h hc)

/-- The query's tail is cleaned like the query. -/
lemma clean_tail (hq : clean q = q) : clean (tail q) = tail q := by
  unfold tail
  split
  · rfl
  · have hcons : clean (['?'] ++ q) = ['?'] ++ clean q := clean_append ['?'] q
    rwa [hq] at hcons

/-- Cleaning adds no character. -/
lemma mem_of_mem_clean {c : Char} (h : c ∈ clean t) : c ∈ t := (List.mem_filter.1 h).1

/-- Cleaning twice is cleaning once. -/
lemma clean_clean (t : List Char) : clean (clean t) = clean t := by
  unfold clean
  rw [List.filter_filter]
  simp

/-! ## Cutting at a character -/

/-- Every character differs from one that is not there. -/
lemma forall_ne_of_not_mem {c : Char} (h : c ∉ a) : ∀ d ∈ a, decide (d ≠ c) = true :=
  fun _ hd => decide_eq_true fun heq => h (heq ▸ hd)

/-- Without the character everything is taken. -/
lemma takeWhile_of_not_mem {c : Char} (h : c ∉ a) : a.takeWhile (· ≠ c) = a :=
  List.takeWhile_eq_self_iff.2 (forall_ne_of_not_mem h)

/-- Without the character everything is dropped. -/
lemma dropWhile_of_not_mem {c : Char} (h : c ∉ a) : a.dropWhile (· ≠ c) = [] :=
  List.dropWhile_eq_nil_iff.2 (forall_ne_of_not_mem h)

/-- A part without the character is taken as a whole. -/
lemma takeWhile_append {c : Char} (h : c ∉ a) (t : List Char) :
    (a ++ t).takeWhile (· ≠ c) = a ++ t.takeWhile (· ≠ c) :=
  List.takeWhile_append_of_pos (forall_ne_of_not_mem h)

/-- A part without the character is dropped as a whole. -/
lemma dropWhile_append {c : Char} (h : c ∉ a) (t : List Char) :
    (a ++ t).dropWhile (· ≠ c) = t.dropWhile (· ≠ c) :=
  List.dropWhile_append_of_pos (forall_ne_of_not_mem h)

/-- Nothing is taken at the character. -/
lemma takeWhile_cons_self (c : Char) (t : List Char) : (c :: t).takeWhile (· ≠ c) = [] :=
  List.takeWhile_cons_of_neg (by simp)

/-- Nothing is dropped at the character. -/
lemma dropWhile_cons_self (c : Char) (t : List Char) : (c :: t).dropWhile (· ≠ c) = c :: t :=
  List.dropWhile_cons_of_neg (by simp)

/-- What stands behind the character does not matter. -/
lemma takeWhile_append_cons (c : Char) (t f : List Char) :
    (t ++ c :: f).takeWhile (· ≠ c) = t.takeWhile (· ≠ c) := by
  induction t with
  | nil => exact takeWhile_cons_self c f
  | cons d t ih =>
    rw [List.cons_append, List.takeWhile_cons, List.takeWhile_cons, ih]

/-- The character is not in what is taken. -/
lemma not_mem_takeWhile (c : Char) (t : List Char) : c ∉ t.takeWhile (· ≠ c) := by
  intro h
  simpa using List.mem_takeWhile_imp h

/-- What is left is nothing or begins with the character. -/
lemma dropWhile_cases (c : Char) (t : List Char) :
    t.dropWhile (· ≠ c) = [] ∨ ∃ rest, t.dropWhile (· ≠ c) = c :: rest := by
  induction t with
  | nil => exact Or.inl rfl
  | cons d t ih =>
    by_cases hd : d = c
    · subst hd
      exact Or.inr ⟨t, dropWhile_cons_self d t⟩
    · rw [List.dropWhile_cons_of_pos (by simpa using hd)]
      exact ih

/-! ## The front and the query -/

/-- There is no hash in the front. -/
lemma hash_not_mem_front (t : List Char) : '#' ∉ front t :=
  fun h => not_mem_takeWhile '#' t ((List.takeWhile_prefix _).subset h)

/-- There is no question mark in the front. -/
lemma question_not_mem_front (t : List Char) : '?' ∉ front t := not_mem_takeWhile '?' _

/-- There is no hash in the query. -/
lemma hash_not_mem_query (t : List Char) : '#' ∉ query t :=
  fun h => not_mem_takeWhile '#' t
    ((List.dropWhile_suffix _).subset ((List.drop_suffix 1 _).subset h))

/-- The front is part of the text. -/
lemma mem_of_mem_front {c : Char} (h : c ∈ front t) : c ∈ t :=
  (List.takeWhile_prefix _).subset ((List.takeWhile_prefix _).subset h)

/-- The query is part of the text. -/
lemma mem_of_mem_query {c : Char} (h : c ∈ query t) : c ∈ t :=
  (List.takeWhile_prefix _).subset
    ((List.dropWhile_suffix _).subset ((List.drop_suffix 1 _).subset h))

/-- Without a question mark there is no query. -/
lemma query_of_not_mem (h : '?' ∉ t) : query t = [] := by
  unfold query
  rw [dropWhile_of_not_mem fun hmem => h ((List.takeWhile_prefix _).subset hmem)]
  rfl

/-- A fragment is not read. -/
lemma front_append_hash (t f : List Char) : front (t ++ '#' :: f) = front t := by
  unfold front
  rw [takeWhile_append_cons]

/-- A fragment does not change the query. -/
lemma query_append_hash (t f : List Char) : query (t ++ '#' :: f) = query t := by
  unfold query
  rw [takeWhile_append_cons]

/-- A beginning without these characters stays in front. -/
lemma front_append (ha : '#' ∉ a) (ha' : '?' ∉ a) (t : List Char) :
    front (a ++ t) = a ++ front t := by
  unfold front
  rw [takeWhile_append ha, takeWhile_append ha']

/-- What has neither sign comes before the query. -/
lemma query_append (ha : '#' ∉ a) (ha' : '?' ∉ a) (t : List Char) : query (a ++ t) = query t := by
  unfold query
  rw [takeWhile_append ha, dropWhile_append ha']

/-- A query's tail has no front. -/
lemma front_tail (hq : '#' ∉ q) : front (tail q) = [] := by
  unfold tail
  split
  · rfl
  · unfold front
    rw [takeWhile_of_not_mem (c := '#') (by simp [hq]), takeWhile_cons_self]

/-- A query is read back from its tail. -/
lemma query_tail (hq : '#' ∉ q) : query (tail q) = q := by
  unfold tail
  split
  · rename_i h
    rw [h]
    rfl
  · unfold query
    rw [takeWhile_of_not_mem (c := '#') (by simp [hq]), dropWhile_cons_self]
    rfl

/-- The front of a composed text. -/
lemma front_compose (hx : '#' ∉ x) (hx' : '?' ∉ x) (hq : '#' ∉ q) : front (x ++ tail q) = x := by
  rw [front_append hx hx', front_tail hq, List.append_nil]

/-- The query of a composed text. -/
lemma query_compose (hx : '#' ∉ x) (hx' : '?' ∉ x) (hq : '#' ∉ q) : query (x ++ tail q) = q := by
  rw [query_append hx hx', query_tail hq]

/-! ## The network location and the path -/

/-- The front is the host and the hierarchical part. -/
lemma netloc_append_hier (t : List Char) : netloc t ++ hier t = front t :=
  List.takeWhile_append_dropWhile

/-- The hierarchical part is in the front. -/
lemma mem_front_of_mem_hier {c : Char} (h : c ∈ hier t) : c ∈ front t :=
  (List.dropWhile_suffix _).subset h

/-- There is no slash in the host. -/
lemma slash_not_mem_netloc (t : List Char) : '/' ∉ netloc t := not_mem_takeWhile '/' _

/-- The hierarchical part is empty or begins with a slash. -/
lemma hier_cases (t : List Char) : hier t = [] ∨ ∃ rest, hier t = '/' :: rest :=
  dropWhile_cases '/' _

/-- The host depends on the front alone. -/
lemma netloc_congr {t' : List Char} (h : front t' = front t) : netloc t' = netloc t := by
  unfold netloc
  rw [h]

/-- The hierarchical part depends on the front alone. -/
lemma hier_congr {t' : List Char} (h : front t' = front t) : hier t' = hier t := by
  unfold hier
  rw [h]

/-- The parts of a text that is made of parts. -/
lemma netloc_eq (hn : '/' ∉ n) (hh : h = [] ∨ ∃ rest, h = '/' :: rest) (ht : front t = n ++ h) :
    netloc t = n := by
  unfold netloc
  rw [ht, takeWhile_append hn]
  rcases hh with rfl | ⟨rest, rfl⟩
  · simp
  · rw [takeWhile_cons_self, List.append_nil]

/-- The hierarchical part of a front that is split at a slash. -/
lemma hier_eq (hn : '/' ∉ n) (hh : h = [] ∨ ∃ rest, h = '/' :: rest) (ht : front t = n ++ h) :
    hier t = h := by
  refine (List.append_right_inj n).1 ?_
  rw [← ht, ← netloc_append_hier t, netloc_eq hn hh ht]

/-! ## The path and its parameters -/

/-- The hierarchical part is the directories and the last segment. -/
lemma dirs_append_segment (h : List Char) : dirs h ++ segment h = h :=
  List.rdropWhile_append_rtakeWhile

/-- There is no slash in the last segment. -/
lemma slash_not_mem_segment (h : List Char) : '/' ∉ segment h := by
  intro hmem
  simpa using List.mem_rtakeWhile_imp hmem

/-- The directories are empty or end with a slash. -/
lemma dirs_cases (h : List Char) : dirs h = [] ∨ ∃ a, dirs h = a ++ ['/'] := by
  by_cases hnil : dirs h = []
  · exact Or.inl hnil
  · have hlast : (dirs h).getLast hnil = '/' := by
      have hnot := List.rdropWhile_last_not (· ≠ '/') h hnil
      rw [Bool.not_eq_true, decide_eq_false_iff_not, not_not] at hnot
      exact hnot
    refine Or.inr ⟨(dirs h).dropLast, ?_⟩
    rw [← hlast, List.dropLast_append_getLast]

/-- The last segment comes after the last slash. -/
lemma segment_eq (ha : a = [] ∨ ∃ b, a = b ++ ['/']) (hx : '/' ∉ x) : segment (a ++ x) = x := by
  have hrev : '/' ∉ x.reverse := by simpa using hx
  unfold segment List.rtakeWhile
  rw [List.reverse_append, takeWhile_append hrev]
  rcases ha with rfl | ⟨b, rfl⟩
  · simp
  · rw [List.reverse_concat, takeWhile_cons_self, List.append_nil, List.reverse_reverse]

/-- The directories go up to the last slash. -/
lemma dirs_eq (ha : a = [] ∨ ∃ b, a = b ++ ['/']) (hx : '/' ∉ x) : dirs (a ++ x) = a := by
  refine (List.append_left_inj x).1 ?_
  nth_rewrite 2 [← segment_eq ha hx]
  exact dirs_append_segment _

/-- The last segment begins behind the last slash. -/
lemma dirs_of_slash_mem (hh : '/' ∈ h) : ∃ a, dirs h = a ++ ['/'] := by
  refine (dirs_cases h).resolve_left fun hnil => ?_
  rw [← dirs_append_segment h, hnil, List.nil_append] at hh
  exact slash_not_mem_segment h hh

/-- A part in front goes to the directories. -/
lemma dirs_append (a : List Char) (hh : '/' ∈ h) : dirs (a ++ h) = a ++ dirs h := by
  obtain ⟨b, hb⟩ := dirs_of_slash_mem hh
  have hsplit : a ++ h = (a ++ dirs h) ++ segment h := by
    rw [List.append_assoc, dirs_append_segment]
  rw [hsplit, dirs_eq (Or.inr ⟨a ++ b, by rw [hb, List.append_assoc]⟩) (slash_not_mem_segment h)]

/-- A part in front does not change the last segment. -/
lemma segment_append (a : List Char) (hh : '/' ∈ h) : segment (a ++ h) = segment h := by
  refine (List.append_right_inj (dirs (a ++ h))).1 ?_
  rw [dirs_append_segment, dirs_append a hh, List.append_assoc, dirs_append_segment]

/-- A part in front goes to the path. -/
lemma path_append (a : List Char) (hh : '/' ∈ h) : path (a ++ h) = a ++ path h := by
  unfold path
  rw [dirs_append a hh, segment_append a hh, List.append_assoc]

/-- A part in front does not change the parameters. -/
lemma params_append (a : List Char) (hh : '/' ∈ h) : params (a ++ h) = params h := by
  unfold params
  rw [segment_append a hh]

/-- A part in front is written as it is. -/
lemma writeHier_append (a : List Char) (hh : '/' ∈ h) : writeHier (a ++ h) = a ++ writeHier h := by
  unfold writeHier joinParams
  rw [path_append a hh, params_append a hh]
  split <;> simp

/-- The last segment is cut at its first semicolon. -/
lemma writeHier_of_not_lone (hh : ¬ Lone h) : writeHier h = h := by
  have hcut : (segment h).takeWhile (· ≠ ';') ++ (segment h).dropWhile (· ≠ ';') = segment h :=
    List.takeWhile_append_dropWhile
  unfold writeHier joinParams path params
  rcases dropWhile_cases ';' (segment h) with hnil | ⟨rest, hrest⟩
  · rw [hnil, List.append_nil] at hcut
    rw [hnil, hcut]
    simpa using dirs_append_segment h
  · have hne : rest ≠ [] := by
      rintro rfl
      exact hh hrest
    rw [hrest] at hcut
    rw [hrest, List.drop_one, List.tail_cons, if_neg hne, List.append_assoc, hcut,
      dirs_append_segment]

/-- A lone semicolon stands behind the path. -/
lemma append_of_lone (hh : Lone h) : h = path h ++ [';'] := by
  have hcut : (segment h).takeWhile (· ≠ ';') ++ (segment h).dropWhile (· ≠ ';') = segment h :=
    List.takeWhile_append_dropWhile
  rw [hh] at hcut
  unfold path
  rw [List.append_assoc, hcut, dirs_append_segment]

/-- Behind a lone semicolon there are no parameters. -/
lemma params_of_lone (hh : Lone h) : params h = [] := by
  unfold params
  rw [hh]
  rfl

/-- A lone semicolon is not written back. -/
lemma writeHier_of_lone (hh : Lone h) : writeHier h = path h := by
  unfold writeHier joinParams
  rw [params_of_lone hh, if_pos rfl]

/-- The last segment of the path goes up to the semicolon. -/
lemma segment_path (h : List Char) : segment (path h) = (segment h).takeWhile (· ≠ ';') :=
  segment_eq (dirs_cases h)
    fun hmem => slash_not_mem_segment h ((List.takeWhile_prefix _).subset hmem)

/-- The path has the directories. -/
lemma dirs_path (h : List Char) : dirs (path h) = dirs h :=
  dirs_eq (dirs_cases h)
    fun hmem => slash_not_mem_segment h ((List.takeWhile_prefix _).subset hmem)

/-- The path of the path is the path. -/
lemma path_path (h : List Char) : path (path h) = path h := by
  have hseg := takeWhile_of_not_mem (not_mem_takeWhile ';' (segment h))
  nth_rewrite 1 [path]
  rw [dirs_path, segment_path, hseg]
  rfl

/-- The path has no parameters. -/
lemma params_path (h : List Char) : params (path h) = [] := by
  unfold params
  rw [segment_path, dropWhile_of_not_mem (not_mem_takeWhile ';' _)]
  rfl

/-- Writing back keeps the path. -/
lemma path_writeHier (h : List Char) : path (writeHier h) = path h := by
  by_cases hh : Lone h
  · rw [writeHier_of_lone hh, path_path]
  · rw [writeHier_of_not_lone hh]

/-- Writing back keeps the parameters. -/
lemma params_writeHier (h : List Char) : params (writeHier h) = params h := by
  by_cases hh : Lone h
  · rw [writeHier_of_lone hh, params_path, params_of_lone hh]
  · rw [writeHier_of_not_lone hh]

/-- Writing back twice is writing back once. -/
lemma writeHier_writeHier (h : List Char) : writeHier (writeHier h) = writeHier h := by
  nth_rewrite 1 [writeHier]
  rw [path_writeHier, params_writeHier]
  rfl

/-- The path begins as the text does. -/
lemma path_cases (hh : ∃ rest, h = '/' :: rest) : ∃ rest, path h = '/' :: rest := by
  obtain ⟨rest, rfl⟩ := hh
  obtain ⟨a, ha⟩ := dirs_of_slash_mem (h := '/' :: rest) (List.mem_cons_self ..)
  have hcons : a ++ '/' :: segment ('/' :: rest) = '/' :: rest := by
    simpa [ha] using dirs_append_segment ('/' :: rest)
  unfold path
  rw [ha]
  cases a with
  | nil => exact ⟨_, rfl⟩
  | cons c a =>
    rw [List.cons_append, List.cons.injEq] at hcons
    rw [hcons.1]
    exact ⟨_, rfl⟩

/-- What begins with a slash is written so. -/
lemma writeHier_cases (hh : ∃ rest, h = '/' :: rest) : ∃ rest, writeHier h = '/' :: rest := by
  obtain ⟨rest, hrest⟩ := path_cases hh
  unfold writeHier joinParams
  split
  · exact ⟨rest, hrest⟩
  · rw [hrest]
    exact ⟨_, rfl⟩

/-- Nothing is written back as nothing. -/
lemma writeHier_nil : writeHier [] = [] := rfl

/-- A lone semicolon is all that is lost. -/
lemma length_writeHier_of_lone (hh : Lone h) : (writeHier h).length + 1 = h.length := by
  nth_rewrite 2 [append_of_lone hh]
  rw [writeHier_of_lone hh, List.length_append, List.length_singleton]

/-- Writing back adds no character. -/
lemma writeHier_subset (h : List Char) : writeHier h ⊆ h := by
  by_cases hh : Lone h
  · nth_rewrite 2 [append_of_lone hh]
    rw [writeHier_of_lone hh]
    exact List.subset_append_left ..
  · rw [writeHier_of_not_lone hh]
    exact List.Subset.refl _

/-! ## The slash at the end -/

/-- A slash at the end is taken away. -/
lemma unslash_concat (t : List Char) : unslash (t ++ ['/']) = t := by
  unfold unslash
  rw [if_pos (List.suffix_append ..), List.dropLast_concat]

/-- Without a slash at the end nothing is taken away. -/
lemma unslash_of_not_suffix (ht : ¬ ['/'] <:+ t) : unslash t = t := if_neg ht

/-- One slash is taken away. -/
lemma length_unslash_of_suffix (ht : ['/'] <:+ t) : (unslash t).length + 1 = t.length := by
  obtain ⟨a, rfl⟩ := ht
  rw [unslash_concat, List.length_append, List.length_singleton]

/-- What is left is the beginning. -/
lemma unslash_isPrefix (t : List Char) : unslash t <+: t := by
  unfold unslash
  split
  · exact List.dropLast_prefix t
  · exact List.prefix_refl t

/-- Without a slash nothing is taken away. -/
lemma unslash_of_not_mem (ht : '/' ∉ t) : unslash t = t :=
  unslash_of_not_suffix fun h => ht (h.subset (List.mem_singleton_self _))

/-- A text ends with a slash if its last character is one. -/
lemma slash_suffix_concat (t : List Char) (c : Char) : ['/'] <:+ t ++ [c] ↔ c = '/' := by
  constructor
  · rintro ⟨a, ha⟩
    exact (List.append_inj_right' ha rfl |> List.cons.inj |>.1).symm
  · rintro rfl
    exact List.suffix_append ..

/-- The end of two texts is that of the second. -/
lemma slash_suffix_append (a : List Char) (ht : t ≠ []) : ['/'] <:+ a ++ t ↔ ['/'] <:+ t := by
  obtain ⟨b, c, rfl⟩ := (List.eq_nil_or_concat' t).resolve_left ht
  rw [← List.append_assoc, slash_suffix_concat, slash_suffix_concat]

/-- The slash is taken from the second of two texts. -/
lemma unslash_append (a : List Char) (ht : t ≠ []) : unslash (a ++ t) = a ++ unslash t := by
  obtain ⟨b, c, rfl⟩ := (List.eq_nil_or_concat' t).resolve_left ht
  rw [← List.append_assoc]
  by_cases hc : c = '/'
  · rw [hc, unslash_concat, unslash_concat]
  · have hsuffix (b : List Char) : ¬ ['/'] <:+ b ++ [c] := mt (slash_suffix_concat b c).1 hc
    rw [unslash_of_not_suffix (hsuffix _), unslash_of_not_suffix (hsuffix _), List.append_assoc]

end UrlText
