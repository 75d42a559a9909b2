import InstantBoard.Python.Text

/-!
# Markup in a text

What is outside the tags of a text, and what the characters and the entities of a text stand for, as
relations on the text alone. `re.sub` at a tag leaves what is outside the tags (`outside_iff`), and
replacing one entity after the other comes to reading the text once, where `&amp;` is read on into the
name that follows it (`Reads.passes_eq`).
-/

namespace InstantBoard.Markup

/-! ## Tags -/

/-- The text starts with a match of `<[^>]+>`. -/
def StartsTag (s : List Char) : Prop :=
  ∃ body rest, s = '<' :: (body ++ '>' :: rest) ∧ body ≠ [] ∧ '>' ∉ body

/-- A part of the text matches `<[^>]+>`. -/
def HasTag (s : List Char) : Prop :=
  ∃ before rest, s = before ++ rest ∧ StartsTag rest

/-- What is outside the tags of a text, read from the left. -/
inductive Outside : List Char → List Char → Prop where
  | nil : Outside [] []
  | tag {body s t} :
    body ≠ [] →
    '>' ∉ body →
    Outside s t →
    Outside ('<' :: (body ++ '>' :: s)) t
  | char {c s t} :
    ¬ StartsTag (c :: s) →
    Outside s t →
    Outside (c :: s) (c :: t)

/-- A tag's body goes up to its end. -/
lemma takeWhile_body {body s : List Char} (h : '>' ∉ body) :
    (body ++ '>' :: s).takeWhile (· ≠ '>') = body := by
  rw [List.takeWhile_append_of_pos]
  · simp
  · intro c hc
    simp only [decide_eq_true_eq]
    rintro rfl
    exact h hc

/-- The test of the loop is whether a tag starts. -/
lemma startsTag_cons {c : Char} {s : List Char} :
    StartsTag (c :: s) ↔ c = '<' ∧ s.takeWhile (· ≠ '>') ≠ [] ∧
      (s.takeWhile (· ≠ '>')).length < s.length := by
  constructor
  · rintro ⟨body, rest, heq, hne, hbody⟩
    obtain ⟨rfl, rfl⟩ := List.cons.inj heq
    rw [takeWhile_body hbody]
    refine ⟨rfl, hne, ?_⟩
    rw [List.length_append, List.length_cons]
    omega
  · rintro ⟨rfl, hne, hlt⟩
    have happend := @List.takeWhile_append_dropWhile _ (· ≠ '>') s
    cases hdrop : s.dropWhile (· ≠ '>') with
    | nil =>
      rw [hdrop, List.append_nil] at happend
      rw [happend] at hlt
      exact absurd hlt (Nat.lt_irrefl _)
    | cons d rest =>
      have hd := List.head?_dropWhile_not (· ≠ '>') s
      rw [hdrop] at hd happend
      obtain rfl : d = '>' := by simpa using hd
      refine ⟨s.takeWhile (· ≠ '>'), rest, by rw [happend], hne, ?_⟩
      intro hin
      simpa using List.mem_takeWhile_imp hin

/-- Passing over characters is dropping them. -/
lemma removeTags_skip (skip : Nat) (s : List Char) :
    Text.removeTags skip s = Text.removeTags 0 (s.drop skip) := by
  induction s generalizing skip with
  | nil => simp [Text.removeTags]
  | cons c s ih =>
    cases skip with
    | zero => rfl
    | succ skip => simpa [Text.removeTags] using ih skip

/-- What the code leaves is what is outside the tags. -/
lemma Outside.removeTags_eq {s t : List Char} (h : Outside s t) : Text.removeTags 0 s = t := by
  induction h with
  | nil => rfl
  | @tag body s t hne hbody _ ih =>
    have hstarts : StartsTag ('<' :: (body ++ '>' :: s)) := ⟨body, s, rfl, hne, hbody⟩
    rw [Text.removeTags]
    refine (if_pos (startsTag_cons.1 hstarts)).trans ?_
    rw [removeTags_skip, takeWhile_body hbody, ← ih]
    congr 1
    rw [← List.drop_drop]
    simp
  | @char c s t hnot _ ih =>
    rw [Text.removeTags]
    refine (if_neg fun h => hnot (startsTag_cons.2 h)).trans ?_
    rw [ih]

/-- Each text has something outside its tags. -/
lemma exists_outside (s : List Char) : ∃ t, Outside s t := by
  induction h : s.length using Nat.strong_induction_on generalizing s with
  | _ n ih =>
    subst h
    cases s with
    | nil => exact ⟨[], .nil⟩
    | cons c s =>
      by_cases hstarts : StartsTag (c :: s)
      · obtain ⟨body, rest, heq, hne, hbody⟩ := hstarts
        rw [heq] at ih ⊢
        have hlt : rest.length < ('<' :: (body ++ '>' :: rest)).length := by
          simp only [List.length_append, List.length_cons]
          omega
        obtain ⟨t, ht⟩ := ih rest.length hlt rest rfl
        exact ⟨t, .tag hne hbody ht⟩
      · obtain ⟨t, ht⟩ := ih s.length (Nat.lt_succ_self _) s rfl
        exact ⟨c :: t, .char hstarts ht⟩

/-- `re.sub(r"<[^>]+>", "", s)` leaves what is outside the tags. -/
lemma outside_iff {s t : List Char} : Outside s t ↔ Text.removeTags 0 s = t := by
  constructor
  · exact Outside.removeTags_eq
  · intro h
    obtain ⟨t', ht'⟩ := exists_outside s
    rw [← h, ht'.removeTags_eq]
    exact ht'

/-! ## Entities -/

/-- The entities that are read after `&amp;` too, without their `&`, and what they stand for. -/
def LATER : List (List Char × Char) :=
  [(['l', 't', ';'], '<'), (['g', 't', ';'], '>'), (['q', 'u', 'o', 't', ';'], '"')]

/-- `&nbsp;` without its `&`. -/
def NBSP : List Char :=
  ['n', 'b', 's', 'p', ';']

def ENTITIES : List (List Char × Char) :=
  (NBSP, ' ') :: LATER

/-- `&amp;` without its `&`. -/
def AMP : List Char :=
  ['a', 'm', 'p', ';']

/-- What a text stands for. -/
inductive Reads : List Char → List Char → Prop where
  | nil : Reads [] []
  | entity {n g s t} :
    (n, g) ∈ ENTITIES →
    Reads s t →
    Reads ('&' :: (n ++ s)) (g :: t)
  | later {n g s t} :
    (n, g) ∈ LATER →
    Reads s t →
    Reads ('&' :: (AMP ++ (n ++ s))) (g :: t)
  | ampersand {s t} :
    (∀ e ∈ LATER, ¬ e.1 <+: s) →
    Reads s t →
    Reads ('&' :: (AMP ++ s)) ('&' :: t)
  | char {c s t} :
    (c = '&' → ¬ AMP <+: s ∧ ∀ e ∈ ENTITIES, ¬ e.1 <+: s) →
    Reads s t →
    Reads (c :: s) (c :: t)

/-- The rest after an entity is shorter. -/
lemma length_rest_lt (c : Char) (n s : List Char) : s.length < (c :: (n ++ s)).length := by
  rw [List.length_cons, List.length_append]
  exact Nat.lt_succ_of_le (Nat.le_add_left s.length n.length)

/-- Each text stands for something. -/
lemma exists_reads (s : List Char) : ∃ t, Reads s t := by
  induction h : s.length using Nat.strong_induction_on generalizing s with
  | _ n ih =>
    subst h
    cases s with
    | nil => exact ⟨[], .nil⟩
    | cons c s =>
      obtain ⟨t, ht⟩ := ih s.length (Nat.lt_succ_self _) s rfl
      by_cases hc : c = '&'
      · subst hc
        by_cases hamp : AMP <+: s
        · obtain ⟨s, rfl⟩ := hamp
          by_cases hlater : ∃ e ∈ LATER, e.1 <+: s
          · obtain ⟨⟨n, g⟩, hin, s, rfl⟩ := hlater
            have hlt : s.length < ('&' :: (AMP ++ (n ++ s))).length := by
              rw [← List.append_assoc]
              exact length_rest_lt '&' (AMP ++ n) s
            obtain ⟨t, ht⟩ := ih s.length hlt s rfl
            exact ⟨g :: t, .later hin ht⟩
          · obtain ⟨t, ht⟩ := ih s.length (length_rest_lt _ _ s) s rfl
            exact ⟨'&' :: t, .ampersand (fun e he hpre => hlater ⟨e, he, hpre⟩) ht⟩
        · by_cases hentity : ∃ e ∈ ENTITIES, e.1 <+: s
          · obtain ⟨⟨n, g⟩, hin, s, rfl⟩ := hentity
            obtain ⟨t, ht⟩ := ih s.length (length_rest_lt _ _ s) s rfl
            exact ⟨g :: t, .entity hin ht⟩
          · exact ⟨'&' :: t, .char (fun _ => ⟨hamp, fun e he hpre => hentity ⟨e, he, hpre⟩⟩) ht⟩
      · exact ⟨c :: t, .char (fun h => absurd h hc) ht⟩

/-! ## The replacements one after the other -/

section

variable {w s n : List Char} {c g : Char}

/-- `s.replace("&" + n, g)` -/
def pass (n : List Char) (g : Char) (s : List Char) : List Char :=
  Text.replaceFrom ('&' :: n) [g] 0 s

/-- What is not at an entity stays. -/
lemma pass_cons (h : c = '&' → ¬ n <+: s) : pass n g (c :: s) = c :: pass n g s := by
  unfold pass
  have hnot : ¬ ('&' :: n).isPrefixOf (c :: s) := by
    intro hpre
    obtain ⟨hc, hpre⟩ := List.cons_prefix_cons.1 (List.isPrefixOf_iff_prefix.1 hpre)
    exact h hc.symm hpre
  rw [Text.replaceFrom, if_neg hnot]

/-- A part without an ampersand is passed as it is. -/
lemma pass_append (h : '&' ∉ w) : pass n g (w ++ s) = w ++ pass n g s := by
  induction w with
  | nil => rfl
  | cons c w ih =>
    have hc : c ≠ '&' := (List.ne_of_not_mem_cons h).symm
    rw [List.cons_append, pass_cons fun heq => absurd heq hc,
      ih (List.not_mem_of_not_mem_cons h)]
    rfl

/-- An entity is replaced. -/
lemma pass_entity : pass n g ('&' :: (n ++ s)) = g :: pass n g s :=
  Text.replaceFrom_append (List.cons_ne_nil _ _)

/-- What a pass starts with, without what it puts in, was there before. -/
lemma prefix_of_prefix_pass (hg : g ∉ w) (h : w <+: pass n g s) : w <+: s := by
  induction w generalizing s with
  | nil => exact List.nil_prefix
  | cons c w ih =>
    cases s with
    | nil => exact absurd (List.prefix_nil.1 h) (List.cons_ne_nil _ _)
    | cons d s =>
      by_cases hentity : d = '&' ∧ n <+: s
      · obtain ⟨rfl, s, rfl⟩ := hentity
        rw [pass_entity] at h
        exact absurd (List.cons_prefix_cons.1 h).1.symm (List.ne_of_not_mem_cons hg)
      · rw [pass_cons fun hd hpre => hentity ⟨hd, hpre⟩] at h
        obtain ⟨rfl, hpre⟩ := List.cons_prefix_cons.1 h
        exact List.cons_prefix_cons.2 ⟨rfl, ih (List.not_mem_of_not_mem_cons hg) hpre⟩

/-- Another entity stays. -/
lemma pass_keep (hw : '&' ∉ w) (h : ¬ n <+: w ++ s) :
    pass n g ('&' :: (w ++ s)) = '&' :: (w ++ pass n g s) := by
  rw [pass_cons fun _ => h, pass_append hw]

/-- The replacements of a list, one after the other. -/
def passes (es : List (List Char × Char)) (s : List Char) : List Char :=
  es.foldl (fun s e => pass e.1 e.2 s) s

variable {es : List (List Char × Char)}

/-- What is no ampersand stays in all of them. -/
lemma passes_cons (h : c ≠ '&') : passes es (c :: s) = c :: passes es s := by
  unfold passes
  induction es generalizing s with
  | nil => rfl
  | cons e es ih =>
    rw [List.foldl_cons, pass_cons fun heq => absurd heq h, ih]
    rfl

/-- An ampersand that is at none of the entities stays. -/
lemma passes_ampersand (hfree : ∀ e ∈ es, ∀ e' ∈ es, e'.2 ∉ e.1) (h : ∀ e ∈ es, ¬ e.1 <+: s) :
    passes es ('&' :: s) = '&' :: passes es s := by
  unfold passes
  induction es generalizing s with
  | nil => rfl
  | cons e es ih =>
    rw [List.foldl_cons, pass_cons fun _ => h e List.mem_cons_self, ih]
    · rfl
    · intro e₁ h₁ e₂ h₂
      exact hfree e₁ (List.mem_cons_of_mem e h₁) e₂ (List.mem_cons_of_mem e h₂)
    · intro e' he' hpre
      refine h e' (List.mem_cons_of_mem e he') (prefix_of_prefix_pass ?_ hpre)
      exact hfree e' (List.mem_cons_of_mem e he') e List.mem_cons_self

/-- An entity is replaced in its own pass. -/
lemma passes_entity (hapart : es.Pairwise fun e e' => ∀ s, ¬ e.1 <+: e'.1 ++ s)
    (hfree : ∀ e ∈ es, '&' ∉ e.1) (hin : (n, g) ∈ es) (hg : g ≠ '&') :
    passes es ('&' :: (n ++ s)) = g :: passes es s := by
  induction es generalizing s with
  | nil => cases hin
  | cons e es ih =>
    obtain ⟨hfirst, hrest⟩ := List.pairwise_cons.1 hapart
    show passes es (pass e.1 e.2 ('&' :: (n ++ s))) = g :: passes es (pass e.1 e.2 s)
    rcases List.mem_cons.1 hin with rfl | hin
    · rw [pass_entity, passes_cons hg]
    · rw [pass_keep (hfree _ (List.mem_cons_of_mem e hin)) (hfirst _ hin s)]
      exact ih hrest (fun e' he' => hfree e' (List.mem_cons_of_mem e he')) hin

/-- `_clean_html_summary` replaces these. -/
def REPLACED : List (List Char × Char) :=
  (NBSP, ' ') :: (AMP, '&') :: LATER

/-- No entity begins another one later in the list. -/
lemma REPLACED_apart : REPLACED.Pairwise fun e e' => ∀ s, ¬ e.1 <+: e'.1 ++ s := by
  simp [REPLACED, LATER, NBSP, AMP]

/-- The replacements one after the other come to what the text stands for. -/
lemma Reads.passes_eq {s t : List Char} (h : Reads s t) : passes REPLACED s = t := by
  induction h with
  | nil => rfl
  | @entity n g s t hin _ ih =>
    have hmem : (n, g) ∈ REPLACED := by
      have hall : ∀ e ∈ ENTITIES, e ∈ REPLACED := by decide
      exact hall _ hin
    have hg : g ≠ '&' := by
      have hall : ∀ e ∈ ENTITIES, e.2 ≠ '&' := by decide
      exact hall _ hin
    rw [passes_entity REPLACED_apart (by decide) hmem hg, ih]
  | @later n g s t hin _ ih =>
    have hg : g ≠ '&' := by
      have hall : ∀ e ∈ LATER, e.2 ≠ '&' := by decide
      exact hall _ hin
    have hn : '&' ∉ n := by
      have hall : ∀ e ∈ LATER, '&' ∉ e.1 := by decide
      exact hall _ hin
    -- `&amp;` gives way to an ampersand in front of the name
    show passes LATER (pass AMP '&' (pass NBSP ' ' ('&' :: (AMP ++ (n ++ s))))) = _
    rw [pass_keep (by decide) (by simp [NBSP, AMP]), pass_entity, pass_append hn, pass_append hn]
    have hapart : LATER.Pairwise fun e e' => ∀ s, ¬ e.1 <+: e'.1 ++ s := REPLACED_apart.tail.tail
    rw [passes_entity hapart (by decide) hin hg, ← ih]
    rfl
  | @ampersand s t hnot _ ih =>
    show passes LATER (pass AMP '&' (pass NBSP ' ' ('&' :: (AMP ++ s)))) = _
    rw [pass_keep (by decide) (by simp [NBSP, AMP]), pass_entity, passes_ampersand (by decide), ← ih]
    · rfl
    · intro e he hpre
      have hall : ∀ e ∈ LATER, '&' ∉ e.1 ∧ ' ' ∉ e.1 := by decide
      obtain ⟨hamp, hspace⟩ := hall e he
      exact hnot e he (prefix_of_prefix_pass hspace (prefix_of_prefix_pass hamp hpre))
  | @char c s t hnot _ ih =>
    by_cases hc : c = '&'
    · subst hc
      obtain ⟨hamp, hentity⟩ := hnot rfl
      rw [passes_ampersand (by decide), ih]
      intro e he
      rcases List.mem_cons.1 he with rfl | he
      · exact hentity _ List.mem_cons_self
      · rcases List.mem_cons.1 he with rfl | he
        · exact hamp
        · exact hentity e (List.mem_cons_of_mem _ he)
    · rw [passes_cons hc, ih]

end

/-- A text stands for one text. -/
lemma Reads.unique {s t t' : List Char} (h : Reads s t) (h' : Reads s t') : t = t' :=
  h.passes_eq.symm.trans h'.passes_eq

/-! ## Parts of a text -/

/-- Nothing in the name of an entity. -/
def Outer (x : Char) : Prop :=
  ∀ e ∈ REPLACED, x ∉ e.1

instance (x : Char) : Decidable (Outer x) :=
  inferInstanceAs (Decidable (∀ e ∈ REPLACED, x ∉ e.1))

/-- The texts that stand for a character whose entity has the name. -/
def marks (n : List Char) (g : Char) : List (List Char) :=
  [[g], '&' :: n, '&' :: (AMP ++ n)]

def OPENERS : List (List Char) :=
  marks ['l', 't', ';'] '<'

def CLOSERS : List (List Char) :=
  marks ['g', 't', ';'] '>'

section

variable {a s r t A R T n p w : List Char} {x g : Char}

/-- A name ends before a character that is in no name. -/
lemma prefix_append_outer (hx : x ∉ w) (h : w <+: s ++ x :: r) : w <+: s := by
  induction w generalizing s with
  | nil => exact List.nil_prefix
  | cons c w ih =>
    cases s with
    | nil => exact absurd (List.cons_prefix_cons.1 h).1.symm (List.ne_of_not_mem_cons hx)
    | cons d s =>
      obtain ⟨rfl, hpre⟩ := List.cons_prefix_cons.1 h
      exact List.cons_prefix_cons.2 ⟨rfl, ih (List.not_mem_of_not_mem_cons hx) hpre⟩

/-- What is in no name is not in a later one. -/
lemma Outer.later (hx : Outer x) : ∀ e ∈ LATER, x ∉ e.1 := fun e he =>
  hx e (List.mem_cons_of_mem _ (List.mem_cons_of_mem _ he))

/-- No entity goes over a character that is in no name. -/
lemma Reads.append (ha : Reads a A) (hs : Reads (x :: s) R) (hx : Outer x) :
    Reads (a ++ x :: s) (A ++ R) := by
  induction ha with
  | nil => exact hs
  | entity hin _ ih =>
    rw [List.cons_append, List.append_assoc]
    exact .entity hin ih
  | later hin _ ih =>
    rw [List.cons_append, List.append_assoc, List.append_assoc]
    exact .later hin ih
  | ampersand hnot _ ih =>
    rw [List.cons_append, List.append_assoc]
    exact .ampersand (fun e he hpre => hnot e he (prefix_append_outer (hx.later e he) hpre)) ih
  | char hnot _ ih =>
    refine .char ?_ ih
    intro hc
    obtain ⟨hamp, hentity⟩ := hnot hc
    refine ⟨fun hpre => hamp (prefix_append_outer ?_ hpre), ?_⟩
    · exact hx (AMP, '&') (List.mem_cons_of_mem _ List.mem_cons_self)
    · intro e he hpre
      refine hentity e he (prefix_append_outer ?_ hpre)
      rcases List.mem_cons.1 he with rfl | he
      · exact hx _ List.mem_cons_self
      · exact hx.later e he

/-- What comes first in what a text stands for is what a first part stands for. -/
lemma Reads.split (h : Reads s (A ++ R)) : ∃ a r, s = a ++ r ∧ Reads a A ∧ Reads r R := by
  induction A generalizing s with
  | nil => exact ⟨[], s, rfl, .nil, h⟩
  | cons g A ih =>
    rw [List.cons_append] at h
    cases h with
    | entity hin hs =>
      obtain ⟨a, r, rfl, ha, hr⟩ := ih hs
      refine ⟨_, r, ?_, .entity hin ha, hr⟩
      rw [List.cons_append, List.append_assoc]
    | later hin hs =>
      obtain ⟨a, r, rfl, ha, hr⟩ := ih hs
      refine ⟨_, r, ?_, .later hin ha, hr⟩
      rw [List.cons_append, List.append_assoc, List.append_assoc]
    | ampersand hnot hs =>
      obtain ⟨a, r, rfl, ha, hr⟩ := ih hs
      refine ⟨_, r, ?_, .ampersand ?_ ha, hr⟩
      · rw [List.cons_append, List.append_assoc]
      · exact fun e he hpre => hnot e he (hpre.trans (List.prefix_append a r))
    | char hnot hs =>
      obtain ⟨a, r, rfl, ha, hr⟩ := ih hs
      refine ⟨_, r, rfl, .char ?_ ha, hr⟩
      intro hc
      obtain ⟨hamp, hentity⟩ := hnot hc
      exact ⟨fun hpre => hamp (hpre.trans (List.prefix_append a r)),
        fun e he hpre => hentity e he (hpre.trans (List.prefix_append a r))⟩

/-- A mark stands for its character. -/
lemma Reads.mark (hin : (n, g) ∈ LATER) (hp : p ∈ marks n g) (hs : Reads s t) :
    Reads (p ++ s) (g :: t) := by
  simp only [marks, List.mem_cons, List.not_mem_nil, or_false] at hp
  rcases hp with rfl | rfl | rfl
  · refine .char ?_ hs
    intro hg
    have hall : ∀ e ∈ LATER, e.2 ≠ '&' := by decide
    exact absurd hg (hall _ hin)
  · exact .entity (List.mem_cons_of_mem _ hin) hs
  · rw [List.cons_append, List.append_assoc]
    exact .later hin hs

/-- What stands for the character is one of its marks. -/
lemma Reads.of_mark (hin : (n, g) ∈ LATER) (h : Reads r (g :: T)) :
    ∃ p ∈ marks n g, ∃ s, r = p ++ s ∧ Reads s T := by
  have hunique : ∀ e ∈ LATER, ∀ e' ∈ ENTITIES, e'.2 = e.2 → e'.1 = e.1 := by decide
  have hne : ∀ e ∈ LATER, e.2 ≠ '&' := by decide
  generalize htext : g :: T = text at h
  cases h with
  | nil => cases htext
  | @entity n' _ s _ hin' hs =>
    cases htext
    obtain rfl : n' = n := hunique _ hin _ hin' rfl
    exact ⟨'&' :: n', by simp [marks], s, rfl, hs⟩
  | @later n' _ s _ hin' hs =>
    cases htext
    obtain rfl : n' = n := hunique _ hin _ (List.mem_cons_of_mem _ hin') rfl
    refine ⟨'&' :: (AMP ++ n'), by simp [marks], s, ?_, hs⟩
    rw [List.cons_append, List.append_assoc]
  | ampersand =>
    cases htext
    exact absurd rfl (hne _ hin)
  | @char _ s _ _ hs =>
    cases htext
    exact ⟨[g], by simp [marks], s, rfl, hs⟩

/-- A mark begins with a character that is in no name. -/
lemma exists_outer (hin : (n, g) ∈ LATER) (hp : p ∈ marks n g) :
    ∃ x p', p = x :: p' ∧ Outer x := by
  have hall : ∀ e ∈ LATER, Outer e.2 := by decide
  simp only [marks, List.mem_cons, List.not_mem_nil, or_false] at hp
  rcases hp with rfl | rfl | rfl
  · exact ⟨g, [], rfl, hall _ hin⟩
  · exact ⟨'&', n, rfl, by decide⟩
  · exact ⟨'&', AMP ++ n, rfl, by decide⟩

/-- A mark between two parts. -/
lemma Reads.append_mark (ha : Reads a A) (hin : (n, g) ∈ LATER) (hp : p ∈ marks n g)
    (hs : Reads s t) : Reads (a ++ (p ++ s)) (A ++ g :: t) := by
  obtain ⟨x, p', rfl, hx⟩ := exists_outer hin hp
  exact ha.append (hs.mark hin hp) hx

/-- A character that is read comes of a mark. -/
lemma Reads.split_mark (hin : (n, g) ∈ LATER) (h : Reads s (A ++ g :: T)) :
    ∃ a p r, s = a ++ (p ++ r) ∧ p ∈ marks n g ∧ Reads a A ∧ Reads r T := by
  obtain ⟨a, r, rfl, ha, hr⟩ := h.split
  obtain ⟨p, hp, rest, rfl, hrest⟩ := hr.of_mark hin
  exact ⟨a, p, rest, rfl, hp, ha, hrest⟩

/-- The character is in what the text stands for exactly if one of its marks is in the text. -/
lemma Reads.mem_iff (hin : (n, g) ∈ LATER) (h : Reads s t) : g ∈ t ↔ ∃ p ∈ marks n g, p <:+: s := by
  constructor
  · intro hg
    obtain ⟨A, T, rfl⟩ := List.append_of_mem hg
    obtain ⟨a, p, r, rfl, hp, _, _⟩ := h.split_mark hin
    refine ⟨p, hp, a, r, ?_⟩
    rw [List.append_assoc]
  · rintro ⟨p, hp, a, r, rfl⟩
    obtain ⟨A, hA⟩ := exists_reads a
    obtain ⟨T, hT⟩ := exists_reads r
    rw [List.append_assoc] at h
    rw [h.unique (hA.append_mark hin hp hT)]
    exact List.mem_append_right _ List.mem_cons_self

/-- Only the empty text stands for nothing. -/
lemma Reads.eq_nil_iff (h : Reads s t) : s = [] ↔ t = [] := by
  cases h with
  | nil => simp
  | entity => simp
  | later => simp
  | ampersand => simp
  | char => simp

end

/-! ## Tags that are shown -/

/-- How many characters are shown, a run of spaces being one and none at the start. -/
def width (shown : List Char) : Nat :=
  (Text.collapse true shown).length

/-- Within the first characters there is an opening mark and after it, with something between, the
first closing one. -/
def ShowsTag (limit : Nat) (s : List Char) : Prop :=
  ∃ a o b c rest shown, s = a ++ (o ++ (b ++ (c ++ rest))) ∧ o ∈ OPENERS ∧ c ∈ CLOSERS ∧ b ≠ [] ∧
    (∀ p ∈ CLOSERS, ¬ p <:+: b) ∧ Reads (a ++ (o ++ (b ++ (c ++ [])))) shown ∧ width shown ≤ limit

/-- The same of what the text stands for. -/
lemma Reads.showsTag_iff {s t : List Char} (h : Reads s t) (limit : Nat) :
    ShowsTag limit s ↔ ∃ A B C, t = A ++ '<' :: (B ++ '>' :: C) ∧ B ≠ [] ∧ '>' ∉ B ∧
      width (A ++ '<' :: (B ++ ['>'])) ≤ limit := by
  have hlt : (['l', 't', ';'], '<') ∈ LATER := by decide
  have hgt : (['g', 't', ';'], '>') ∈ LATER := by decide
  constructor
  · rintro ⟨a, o, b, c, rest, shown, rfl, ho, hc, hne, hclosed, hshown, hwidth⟩
    obtain ⟨A, hA⟩ := exists_reads a
    obtain ⟨B, hB⟩ := exists_reads b
    obtain ⟨C, hC⟩ := exists_reads rest
    have hall : Reads _ (A ++ '<' :: (B ++ '>' :: C)) :=
      hA.append_mark hlt ho (hB.append_mark hgt hc hC)
    have hpart : Reads _ (A ++ '<' :: (B ++ ['>'])) :=
      hA.append_mark hlt ho (hB.append_mark hgt hc .nil)
    refine ⟨A, B, C, h.unique hall, ?_, ?_, ?_⟩
    · exact fun hnil => hne (hB.eq_nil_iff.2 hnil)
    · intro hin
      obtain ⟨p, hp, hinfix⟩ := (hB.mem_iff hgt).1 hin
      exact hclosed p hp hinfix
    · rw [← hshown.unique hpart]
      exact hwidth
  · rintro ⟨A, B, C, rfl, hne, hnot, hwidth⟩
    obtain ⟨a, o, r, rfl, ho, hA, hr⟩ := h.split_mark hlt
    obtain ⟨b, c, rest, rfl, hc, hB, _⟩ := hr.split_mark hgt
    refine ⟨a, o, b, c, rest, _, rfl, ho, hc, ?_, ?_,
      hA.append_mark hlt ho (hB.append_mark hgt hc .nil), hwidth⟩
    · exact fun hnil => hne (hB.eq_nil_iff.1 hnil)
    · exact fun p hp hinfix => hnot ((hB.mem_iff hgt).2 ⟨p, hp, hinfix⟩)

end InstantBoard.Markup
