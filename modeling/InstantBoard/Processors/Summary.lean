import InstantBoard.Processors.Markup
import InstantBoard.Processors.Transformer
import Mathlib.Data.List.Chain

/-!
# Summaries

`_clean_html_summary` removes the tags before it decodes the entities, so a summary may show a tag
again. It does exactly if outside the tags of the text an opening mark, `<` or an entity for it, is
followed by a closing one within the first 200 characters (`free_of_markup_iff`). Its spaces and its
length are always as they should be.
-/

namespace InstantBoard.TransformerProcessor

open Markup Text

/-! ## Spaces -/

section

variable {after : Bool} {s A R X : List Char} {c : Char}

/-- A character that is no space stays. -/
lemma collapse_cons_of_not_space (h : isSpace c = false) :
    collapse after (c :: s) = c :: collapse false s := by
  rw [collapse, h]
  rfl

/-- The first space of a run stays as a blank. -/
lemma collapse_cons_of_space (h : isSpace c = true) :
    collapse after (c :: s) = if after then collapse true s else ' ' :: collapse true s := by
  rw [collapse, h]
  rfl

/-- A character that is no space stays, whatever is before it. -/
lemma collapse_append (h : isSpace c = false) :
    collapse after (A ++ c :: R) = collapse after A ++ c :: collapse false R := by
  induction A generalizing after with
  | nil => exact collapse_cons_of_not_space h
  | cons d A ih =>
    rw [List.cons_append]
    cases hd : isSpace d with
    | false =>
      rw [collapse_cons_of_not_space hd, collapse_cons_of_not_space hd, ih]
      rfl
    | true =>
      rw [collapse_cons_of_space hd, collapse_cons_of_space hd]
      cases after with
      | false => exact congrArg (' ' :: ·) ih
      | true => exact ih

/-- And it was there before. -/
lemma exists_of_collapse_eq (h : isSpace c = false) (hs : collapse after s = X ++ c :: R) :
    ∃ A T, s = A ++ c :: T ∧ collapse after A = X ∧ collapse false T = R := by
  induction s generalizing after X with
  | nil => exact absurd hs.symm (List.append_ne_nil_of_right_ne_nil X (List.cons_ne_nil c R))
  | cons d s ih =>
    cases hd : isSpace d with
    | false =>
      rw [collapse_cons_of_not_space hd] at hs
      cases X with
      | nil =>
        obtain ⟨rfl, rfl⟩ := List.cons.inj hs
        exact ⟨[], s, rfl, rfl, rfl⟩
      | cons x X =>
        obtain ⟨rfl, hrest⟩ := List.cons.inj hs
        obtain ⟨A, T, rfl, rfl, rfl⟩ := ih hrest
        exact ⟨d :: A, T, rfl, collapse_cons_of_not_space hd, rfl⟩
    | true =>
      rw [collapse_cons_of_space hd] at hs
      cases after with
      | true =>
        obtain ⟨A, T, rfl, rfl, rfl⟩ := ih hs
        exact ⟨d :: A, T, rfl, collapse_cons_of_space hd, rfl⟩
      | false =>
        cases X with
        | nil =>
          obtain ⟨rfl, -⟩ := List.cons.inj hs
          cases h
        | cons x X =>
          obtain ⟨rfl, hrest⟩ := List.cons.inj hs
          obtain ⟨A, T, rfl, rfl, rfl⟩ := ih hrest
          exact ⟨d :: A, T, rfl, collapse_cons_of_space hd, rfl⟩

/-- The characters that are no space stay. -/
lemma mem_collapse_iff (h : isSpace c = false) : c ∈ collapse after s ↔ c ∈ s := by
  constructor
  · intro hin
    obtain ⟨X, R, heq⟩ := List.append_of_mem hin
    obtain ⟨A, T, rfl, _, _⟩ := exists_of_collapse_eq h heq
    exact List.mem_append_right A List.mem_cons_self
  · intro hin
    obtain ⟨A, T, rfl⟩ := List.append_of_mem hin
    rw [collapse_append h]
    exact List.mem_append_right _ List.mem_cons_self

/-- Only nothing collapses to nothing. -/
lemma collapse_eq_nil_iff : collapse false s = [] ↔ s = [] := by
  cases s with
  | nil => simp [collapse]
  | cons d s =>
    cases hd : isSpace d with
    | false => simp [collapse_cons_of_not_space hd]
    | true => simp [collapse_cons_of_space hd]

/-- What is left at the start of a text whose spaces are run together. -/
lemma dropWhile_collapse : (collapse after s).dropWhile isSpace = collapse true s := by
  induction s generalizing after with
  | nil => rfl
  | cons d s ih =>
    cases hd : isSpace d with
    | false =>
      rw [collapse_cons_of_not_space hd, collapse_cons_of_not_space hd, List.dropWhile_cons, hd]
      rfl
    | true =>
      rw [collapse_cons_of_space hd, collapse_cons_of_space hd]
      cases after with
      | true => exact ih
      | false => exact ih

/-- No two spaces follow each other. -/
def Single (s : List Char) : Prop :=
  s.IsChain fun a b => isSpace a = true → isSpace b = false

/-- After a space what is left begins with no space. -/
lemma not_space_of_head? (h : c ∈ (collapse true s).head?) : isSpace c = false := by
  rw [← @dropWhile_collapse true] at h
  have hnot := List.head?_dropWhile_not isSpace (collapse true s)
  rw [Option.mem_def.1 h] at hnot
  simpa using hnot

/-- After collapsing no two spaces follow each other. -/
lemma single_collapse (after : Bool) (s : List Char) : Single (collapse after s) := by
  unfold Single
  induction s generalizing after with
  | nil => exact .nil
  | cons d s ih =>
    cases hd : isSpace d with
    | false =>
      rw [collapse_cons_of_not_space hd]
      apply List.isChain_cons.2
      refine ⟨fun c _ hspace => ?_, ih false⟩
      rw [hd] at hspace
      cases hspace
    | true =>
      rw [collapse_cons_of_space hd]
      cases after with
      | true => exact ih true
      | false =>
        apply List.isChain_cons.2
        exact ⟨fun c hc _ => not_space_of_head? hc, ih true⟩

/-- What is stripped at the end is spaces only. -/
lemma prefix_rdropWhile_iff (h : isSpace c = false) :
    X ++ [c] <+: s.rdropWhile isSpace ↔ X ++ [c] <+: s := by
  constructor
  · exact fun hpre => hpre.trans (List.rdropWhile_prefix _ _)
  · rintro ⟨R, rfl⟩
    induction R using List.reverseRecOn with
    | nil =>
      rw [List.append_nil, List.rdropWhile_concat_neg]
      · simp [h]
    | append_singleton R d ih =>
      rw [← List.append_assoc]
      by_cases hd : isSpace d = true
      · rw [List.rdropWhile_concat_pos _ _ _ hd]
        exact ih
      · rw [List.rdropWhile_concat_neg _ _ _ hd, List.append_assoc]
        exact List.prefix_append _ _

end

/-! ## The cut -/

/-- The first 200 characters and the ellipsis, if there are more. -/
def cut (s : List Char) : List Char :=
  if 200 < s.length then s.take 200 ++ ['.', '.', '.'] else s

/-- What is shown of a text. -/
def shown (s : List Char) : List Char :=
  cut ((collapse true s).rdropWhile isSpace)

/-- What is shown is what is left of the tags and entities. -/
lemma cleanHtmlSummary_toList (summary : String) : (cleanHtmlSummary summary).toList =
    shown (passes REPLACED (removeTags 0 summary.toList)) := by
  have hstrip : ∀ s : List Char, strip (String.ofList (collapse false s)) =
      String.ofList ((collapse true s).rdropWhile isSpace) := by
    intro s
    rw [strip, String.toList_ofList, dropWhile_collapse]
  unfold cleanHtmlSummary shown cut
  simp only [replace, hstrip, String.toList_ofList, String.length_ofList]
  change (if 200 < ((collapse true (passes REPLACED _)).rdropWhile isSpace).length then _
    else _ : String).toList = _
  split
  · rw [String.toList_append, String.toList_ofList]
    rfl
  · rw [String.toList_ofList]
    rfl

/-- A part at the start that does not end in the ellipsis is within the first 200 characters. -/
lemma prefix_cut_iff {X s : List Char} {c : Char} (hc : c ≠ '.') :
    X ++ [c] <+: cut s ↔ X ++ [c] <+: s ∧ (X ++ [c]).length ≤ 200 := by
  unfold cut
  split
  · next hlong =>
    have htaken : (s.take 200).length = 200 := List.length_take_of_le hlong.le
    constructor
    · intro hpre
      have hle : (X ++ [c]).length ≤ 200 := by
        by_contra hgt
        obtain ⟨R, hR⟩ := hpre
        obtain ⟨rest, htake, _⟩ | ⟨rest, hX, hdots⟩ := List.append_eq_append_iff.1 hR
        · rw [htake, List.length_append] at htaken
          omega
        · -- the last character is one of the ellipsis
          rcases List.eq_nil_or_concat rest with rfl | ⟨rest, d, rfl⟩
          · rw [hX, List.append_nil, htaken] at hgt
            exact hgt (Nat.le_refl 200)
          · rw [List.concat_eq_append, ← List.append_assoc] at hX
            obtain ⟨-, hd⟩ := List.append_inj' hX rfl
            cases hd
            have hin : c ∈ ['.', '.', '.'] := by
              rw [hdots]
              simp
            exact hc (by simpa using hin)
      have htake : X ++ [c] <+: s.take 200 :=
        List.prefix_of_prefix_length_le hpre (List.prefix_append _ _) (by rw [htaken]; exact hle)
      exact ⟨htake.trans (List.take_prefix _ _), hle⟩
    · intro ⟨hpre, hle⟩
      have htake : X ++ [c] <+: s.take 200 :=
        List.prefix_of_prefix_length_le hpre (List.take_prefix _ _) (by rw [htaken]; exact hle)
      exact htake.trans (List.prefix_append _ _)
  · next hshort =>
    constructor
    · intro hpre
      exact ⟨hpre, hpre.length_le.trans (Nat.le_of_not_lt hshort)⟩
    · exact fun h => h.1

/-! ## What is shown -/

/-- A tag lies within a text. -/
lemma hasTag_iff {s : List Char} : HasTag s ↔ ∃ A B, B ≠ [] ∧ '>' ∉ B ∧
    (A ++ '<' :: B) ++ ['>'] <+: s := by
  constructor
  · rintro ⟨A, _, rfl, B, C, rfl, hne, hB⟩
    refine ⟨A, B, hne, hB, C, ?_⟩
    simp
  · rintro ⟨A, B, hne, hB, C, rfl⟩
    refine ⟨A, '<' :: (B ++ '>' :: C), ?_, B, C, rfl, hne, hB⟩
    simp

/-- A tag is shown of a text exactly if there is one in it within the first 200 characters. -/
lemma hasTag_shown_iff (s : List Char) : HasTag (shown s) ↔
    ∃ A B C, s = A ++ '<' :: (B ++ '>' :: C) ∧ B ≠ [] ∧ '>' ∉ B ∧
      width (A ++ '<' :: (B ++ ['>'])) ≤ 200 := by
  have hlt : isSpace '<' = false := by decide
  have hgt : isSpace '>' = false := by decide
  have hshown : ∀ A B, (A ++ '<' :: B) ++ ['>'] <+: shown s ↔
      (A ++ '<' :: B) ++ ['>'] <+: collapse true s ∧ ((A ++ '<' :: B) ++ ['>']).length ≤ 200 := by
    intro A B
    unfold shown
    rw [prefix_cut_iff (by decide), prefix_rdropWhile_iff hgt]
  -- what the collapsed text has as far as the closing bracket
  have hpart : ∀ A B, collapse true (A ++ '<' :: (B ++ ['>'])) =
      (collapse true A ++ '<' :: collapse false B) ++ ['>'] := by
    intro A B
    rw [collapse_append hlt, collapse_append hgt, List.append_assoc]
    rfl
  rw [hasTag_iff]
  constructor
  · rintro ⟨X, Y, hne, hY, hpre⟩
    obtain ⟨⟨R, hR⟩, hle⟩ := (hshown X Y).1 hpre
    rw [List.append_assoc, List.append_assoc] at hR
    obtain ⟨A, T, rfl, rfl, hT⟩ := exists_of_collapse_eq hlt hR.symm
    obtain ⟨B, C, rfl, rfl, _⟩ := exists_of_collapse_eq hgt hT
    refine ⟨A, B, C, rfl, ?_, ?_, ?_⟩
    · exact fun hnil => hne (collapse_eq_nil_iff.2 hnil)
    · exact fun hin => hY ((mem_collapse_iff hgt).2 hin)
    · rw [width, hpart]
      exact hle
  · rintro ⟨A, B, C, rfl, hne, hB, hle⟩
    rw [width, hpart] at hle
    refine ⟨collapse true A, collapse false B, ?_, ?_, (hshown _ _).2 ⟨?_, hle⟩⟩
    · exact fun hnil => hne (collapse_eq_nil_iff.1 hnil)
    · exact fun hin => hB ((mem_collapse_iff hgt).1 hin)
    · refine ⟨collapse false C, ?_⟩
      rw [collapse_append hlt, collapse_append hgt]
      simp

/-- No space at an end or after another. -/
structure Tidy (s : List Char) : Prop where
  head : ∀ c ∈ s.head?, isSpace c = false
  last : ∀ c ∈ s.getLast?, isSpace c = false
  single : Single s

/-- A collapsed and stripped text is tidy. -/
lemma Tidy.stripped (s : List Char) : Tidy ((collapse true s).rdropWhile isSpace) := by
  obtain ⟨R, hR⟩ := List.rdropWhile_prefix isSpace (collapse true s)
  refine ⟨?_, ?_, ?_⟩
  · intro c hc
    have hhead : c ∈ (collapse true s).head? := by
      rw [← hR, List.head?_append, Option.mem_def.1 hc]
      rfl
    exact not_space_of_head? hhead
  · intro c hc
    obtain ⟨hne, hlast⟩ := List.mem_getLast?_eq_getLast hc
    have hnot := List.rdropWhile_last_not isSpace (collapse true s) hne
    rw [← hlast] at hnot
    simpa using hnot
  · have hsingle := single_collapse true s
    rw [← hR] at hsingle
    exact hsingle.left_of_append

/-- The ellipsis goes after any character. -/
lemma Tidy.cut {s : List Char} (h : Tidy s) : Tidy (cut s) := by
  unfold TransformerProcessor.cut
  split
  · next hlong =>
    refine ⟨?_, ?_, ?_⟩
    · intro c hc
      apply h.head
      cases s with
      | nil => cases hlong
      | cons d s => exact hc
    · intro c hc
      rw [List.getLast?_append] at hc
      cases hc
      decide
    · have htaken : Single (s.take 200) := by
        have hsingle := h.single
        rw [← List.take_append_drop 200 s] at hsingle
        exact hsingle.left_of_append
      have hdots : Single ['.', '.', '.'] := by
        unfold Single
        decide
      refine List.isChain_append.2 ⟨htaken, hdots, ?_⟩
      intro c _ d hd _
      cases hd
      decide
  · exact h

/-- What is cut has at most 200 characters and the ellipsis. -/
lemma length_cut_le (s : List Char) : (cut s).length ≤ 200 + 3 := by
  unfold cut
  split
  · rw [List.length_append]
    exact Nat.add_le_add_right (List.length_take_le 200 s) 3
  · next hshort => exact (Nat.le_of_not_lt hshort).trans (Nat.le_add_right 200 3)

/-- The spaces and the length are as they should be, whatever the text. -/
lemma cleanHtmlSummary_tidy (summary : String) :
    Tidy (cleanHtmlSummary summary).toList ∧ (cleanHtmlSummary summary).length ≤ 200 + 3 := by
  rw [← String.length_toList, cleanHtmlSummary_toList]
  exact ⟨(Tidy.stripped _).cut, length_cut_le _⟩

/-- A summary is free of markup and of needless spaces, and of at most 200 characters and an
ellipsis. -/
structure FreeOfMarkup (summary : String) : Prop where
  noTag : ¬ HasTag summary.toList
  tidy : Tidy summary.toList
  short : summary.length ≤ 200 + 3

/-- `_clean_html_summary` makes a text free of markup exactly if there is no opening mark outside the
tags of the text, `<`, `&lt;` or `&amp;lt;`, with a closing one after it, something being between the
two, within the first 200 characters. -/
theorem free_of_markup_iff (summary : String) : FreeOfMarkup (cleanHtmlSummary summary) ↔
    ¬ ∃ text, Outside summary.toList text ∧ ShowsTag 200 text := by
  obtain ⟨text, htext⟩ := exists_outside summary.toList
  obtain ⟨read, hread⟩ := exists_reads text
  have htag : HasTag (cleanHtmlSummary summary).toList ↔ ShowsTag 200 text := by
    rw [cleanHtmlSummary_toList, htext.removeTags_eq, hread.passes_eq, hasTag_shown_iff,
      hread.showsTag_iff]
  constructor
  · rintro h ⟨text', htext', hshows⟩
    rw [← htext'.removeTags_eq, htext.removeTags_eq] at hshows
    exact h.noTag (htag.2 hshows)
  · intro h
    obtain ⟨htidy, hshort⟩ := cleanHtmlSummary_tidy summary
    exact ⟨fun hin => h ⟨text, htext, htag.1 hin⟩, htidy, hshort⟩

/-- Entities for a tag become one. -/
theorem entities_become_tag : ¬ ∀ summary, FreeOfMarkup (cleanHtmlSummary summary) := by
  intro h
  have hclean : cleanHtmlSummary "&lt;b&gt;" = "<b>" := by decide +kernel
  apply (h "&lt;b&gt;").noTag
  rw [hclean]
  exact ⟨[], ['<', 'b', '>'], rfl, ['b'], [], rfl, by decide, by decide⟩

end InstantBoard.TransformerProcessor
