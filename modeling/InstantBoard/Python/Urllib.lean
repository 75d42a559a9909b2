import InstantBoard.Lib.QueryText
import InstantBoard.Lib.UrlText
import InstantBoard.Python.Stdlib
import InstantBoard.Python.Text

/-!
# The documented behaviour of `urllib.parse`

What `urlparse`, `urlunparse`, `parse_qs` and `urlencode` do with http and https URLs, over any way
of quoting and any rule for the network locations that `urlparse` refuses, and what `str.lower` does
around characters without a case.
-/

namespace InstantBoard

open QueryText UrlText

namespace Urllib

/-- A scheme, `://` and what follows. -/
def address (scheme : String) (rest : List Char) : String :=
  String.ofList (scheme.toList ++ ("://".toList ++ rest))

/-- `n.lower()`. -/
def lowered (py : Stdlib) (n : List Char) : List Char := (py.lower (String.ofList n)).toList

/-- The delimiters of a URL and white space: they have no case and end a word. -/
def Break (c : Char) : Prop := c ∈ ['/', '?', '#', ';'] ∨ Text.isSpace c = true

instance : DecidablePred Break := fun _ => inferInstanceAs (Decidable (_ ∨ _))

def SCHEMES : List String := ["http", "https"]

/-- What `urlparse` returns for the text behind the scheme, less the fragment. -/
def parsed (scheme : String) (rest : List Char) : ParseResult :=
  { scheme
    netloc := String.ofList (netloc rest)
    path := String.ofList (path (hier rest))
    params := String.ofList (params (hier rest))
    query := String.ofList (query rest) }

end Urllib

open Urllib

/-- `accepts` says for which network locations `urlparse` raises no `ValueError`. -/
structure Urllib (py : Stdlib) (Q : Quoting) (accepts : List Char → Bool) : Prop where
  /-- Tabs and line breaks are taken out before the text is split at the delimiters. -/
  urlparse : ∀ scheme ∈ SCHEMES, ∀ rest, py.urlparse (address scheme rest) =
    if accepts (netloc (clean rest)) then some (parsed scheme (clean rest)) else none
  urlunparse : ∀ scheme ∈ SCHEMES, ∀ n p ps q,
    (p = [] ∧ ps = [] ∨ ∃ rest, p = '/' :: rest) →
    py.urlunparse ⟨scheme, String.ofList n, String.ofList p, String.ofList ps, String.ofList q⟩ =
      address scheme (n ++ joinParams p ps ++ tail q)
  /-- Blank values are ignored. -/
  parse_qs : ∀ q, py.parseQs (String.ofList q) = group ((Q.pairs q).filter (·.2 ≠ ""))
  urlencode : ∀ d, py.urlencode d = String.ofList (Q.encode d)
  lower_eq_nil : ∀ n, lowered py n = [] ↔ n = []
  lower_lower : ∀ n, lowered py (lowered py n) = lowered py n
  lower_break : ∀ a c b, Break c → lowered py (a ++ c :: b) = lowered py a ++ c :: lowered py b
  of_mem_lower : ∀ n c, Break c → c ∈ lowered py n → c ∈ n
  accepts_lower : ∀ n, accepts n = true → accepts (lowered py n) = true

namespace Urllib

variable {py : Stdlib} {Q : Quoting} {accepts : List Char → Bool} {n n' rest : List Char}
variable {c d : Char}

/-! ## Letters -/

/-- The codes of the capital letters. -/
lemma isUpper_iff (c : Char) : c.isUpper = true ↔ 65 ≤ c.toNat ∧ c.toNat ≤ 90 := by
  show decide ('A'.val ≤ c.val ∧ c.val ≤ 'Z'.val) = true ↔ _
  rw [decide_eq_true_iff, UInt32.le_iff_toNat_le, UInt32.le_iff_toNat_le]
  rfl

/-- The codes of the small letters. -/
lemma isLower_iff (c : Char) : c.isLower = true ↔ 97 ≤ c.toNat ∧ c.toNat ≤ 122 := by
  show (decide ('a'.val ≤ c.val) && decide (c.val ≤ 'z'.val)) = true ↔ _
  rw [Bool.and_eq_true, decide_eq_true_iff, decide_eq_true_iff, UInt32.le_iff_toNat_le,
    UInt32.le_iff_toNat_le]
  rfl

/-- The codes of the digits. -/
lemma isDigit_iff (c : Char) : c.isDigit = true ↔ 48 ≤ c.toNat ∧ c.toNat ≤ 57 := by
  show (decide ('0'.val ≤ c.val) && decide (c.val ≤ '9'.val)) = true ↔ _
  rw [Bool.and_eq_true, decide_eq_true_iff, decide_eq_true_iff, UInt32.le_iff_toNat_le,
    UInt32.le_iff_toNat_le]
  rfl

/-- Letters and digits. -/
lemma isAlphanum_iff (c : Char) : c.isAlphanum = true ↔
    (c.isUpper = true ∨ c.isLower = true) ∨ c.isDigit = true := by
  show ((c.isUpper || c.isLower) || c.isDigit) = true ↔ _
  rw [Bool.or_eq_true, Bool.or_eq_true]

/-- What is no capital letter is not changed. -/
lemma toLower_of_not_isUpper (h : ¬ c.isUpper = true) : c.toLower = c := by
  apply dif_neg
  rintro ⟨h₁, h₂⟩
  exact h ((isUpper_iff c).2
    ⟨UInt32.le_iff_toNat_le.1 h₁, UInt32.le_iff_toNat_le.1 h₂⟩)

/-- A small letter comes 32 places later. -/
lemma toNat_toLower (h : c.isUpper = true) : c.toLower.toNat = c.toNat + 32 := by
  obtain ⟨h₁, h₂⟩ := (isUpper_iff c).1 h
  have hval : (c.val + 32).toNat = (c.val.toNat + 32) % 4294967296 := UInt32.toNat_add ..
  have hupper : c.val ≥ 'A'.val ∧ c.val ≤ 'Z'.val :=
    ⟨UInt32.le_iff_toNat_le.2 h₁, UInt32.le_iff_toNat_le.2 h₂⟩
  unfold Char.toLower
  rw [dif_pos hupper]
  refine hval.trans ?_
  show (c.toNat + 32) % 4294967296 = _
  omega

/-- No capital letter is left. -/
lemma not_isUpper_toLower (c : Char) : ¬ c.toLower.isUpper = true := by
  by_cases h : c.isUpper = true
  · have hc := (isUpper_iff c).1 h
    rw [isUpper_iff, toNat_toLower h]
    omega
  · rwa [toLower_of_not_isUpper h]

/-- Only a letter is changed by `Char.toLower`. -/
lemma eq_of_toLower_eq (hd : ¬ d.isLower = true) (h : c.toLower = d) : c = d := by
  by_cases hc : c.isUpper = true
  · have hrange := (isUpper_iff c).1 hc
    rw [← h, isLower_iff, toNat_toLower hc] at hd
    omega
  · rwa [toLower_of_not_isUpper hc] at h

/-- White space is no letter. -/
lemma not_isAlphanum_of_isSpace (h : Text.isSpace c = true) : ¬ c.isAlphanum = true := by
  rw [isAlphanum_iff, isUpper_iff, isLower_iff, isDigit_iff]
  simp only [Text.isSpace, Bool.or_eq_true, Bool.and_eq_true, decide_eq_true_eq,
    beq_iff_eq] at h
  omega

/-- The delimiters and white space are no letters. -/
lemma not_isAlphanum_of_break (h : Break c) : ¬ c.isAlphanum = true := by
  rcases h with hdelim | hspace
  · simp only [List.mem_cons, List.not_mem_nil, or_false] at hdelim
    rcases hdelim with rfl | rfl | rfl | rfl <;> decide
  · exact not_isAlphanum_of_isSpace hspace

/-! ## Lower case -/

/-- Lower-casing adds no delimiter. -/
lemma not_mem_lowered (lib : Urllib py Q accepts) (hc : Break c) (h : c ∉ n) : c ∉ lowered py n :=
  fun hmem => h (lib.of_mem_lower n c hc hmem)

/-- Lower-casing keeps the delimiters. -/
lemma mem_lowered (lib : Urllib py Q accepts) (hc : Break c) (h : c ∈ n) : c ∈ lowered py n := by
  obtain ⟨a, b, rfl⟩ := List.append_of_mem h
  rw [lib.lower_break a c b hc]
  simp

/-- Texts with the same lower case have the same delimiters. -/
lemma not_mem_of_lowered_eq (lib : Urllib py Q accepts) (hc : Break c)
    (h : lowered py n' = lowered py n) (hn : c ∉ n) : c ∉ n' := by
  intro hmem
  have hlow := lib.mem_lowered hc hmem
  rw [h] at hlow
  exact lib.not_mem_lowered hc hn hlow

/-- A text and the same text with a break behind it differ in lower case. -/
lemma lowered_append_break_ne (lib : Urllib py Q accepts) (hc : Break c) (n b : List Char) :
    lowered py (n ++ c :: b) ≠ lowered py n := by
  intro h
  have hlength := congrArg List.length h
  rw [lib.lower_break n c b hc, List.length_append, List.length_cons] at hlength
  omega

/-- White space is a delimiter. -/
lemma break_of_isSpace (h : Text.isSpace c = true) : Break c := Or.inr h

/-- The last word of a text is put in lower case by itself. -/
lemma lowered_last_word (lib : Urllib py Q accepts) (n : List Char) :
    ∃ a, lowered py n = a ++ lowered py (n.rtakeWhile fun c => !Text.isSpace c) := by
  have hsplit : n.rdropWhile (fun c => !Text.isSpace c) ++
      n.rtakeWhile (fun c => !Text.isSpace c) = n :=
    List.rdropWhile_append_rtakeWhile
  by_cases hnil : n.rdropWhile (fun c => !Text.isSpace c) = []
  · rw [hnil, List.nil_append] at hsplit
    exact ⟨[], by rw [hsplit, List.nil_append]⟩
  · have hspace := List.rdropWhile_last_not (fun c => !Text.isSpace c) n hnil
    have hlast := List.dropLast_append_getLast hnil
    generalize (n.rdropWhile fun c => !Text.isSpace c).getLast hnil = d at hspace hlast
    rw [← hlast, List.append_assoc] at hsplit
    refine ⟨lowered py (n.rdropWhile fun c => !Text.isSpace c).dropLast ++ [d], ?_⟩
    nth_rewrite 1 [← hsplit]
    rw [List.singleton_append, lib.lower_break _ d _ (break_of_isSpace (by simpa using hspace)),
      List.append_assoc]
    rfl

/-- White space at the end of a text is at the end of its lower case, and only that. -/
lemma isSpace_getLast_lowered (lib : Urllib py Q accepts) (hne : n ≠ [])
    (hlow : lowered py n ≠ []) :
    Text.isSpace ((lowered py n).getLast hlow) = Text.isSpace (n.getLast hne) := by
  cases hspace : Text.isSpace (n.getLast hne)
  · obtain ⟨a, ha⟩ := lib.lowered_last_word n
    have hword : n.rtakeWhile (fun c => !Text.isSpace c) ≠ [] := by
      intro hnil
      simpa [hspace] using List.rtakeWhile_eq_nil_iff.1 hnil hne
    have hword' := mt (lib.lower_eq_nil _).1 hword
    have hmem := List.getLast_mem hword'
    have hlast : (lowered py n).getLast hlow =
        (lowered py (n.rtakeWhile fun c => !Text.isSpace c)).getLast hword' := by
      simp only [ha]
      exact List.getLast_append_of_ne_nil _ hword'
    rw [hlast]
    by_contra hlast
    rw [Bool.not_eq_false] at hlast
    have hin := List.mem_rtakeWhile_imp (lib.of_mem_lower _ _ (break_of_isSpace hlast) hmem)
    rw [hlast] at hin
    exact absurd hin (by decide)
  · have hlast := List.dropLast_append_getLast hne
    generalize n.getLast hne = c at hspace hlast
    have hlowered : lowered py n = lowered py n.dropLast ++ [c] := by
      nth_rewrite 1 [← hlast]
      rw [lib.lower_break _ c [] (break_of_isSpace hspace), (lib.lower_eq_nil []).2 rfl]
    simp [hlowered, hspace]

/-- White space at the end stays when the text is put in lower case, and none comes. -/
lemma rdropWhile_lowered_eq_iff (lib : Urllib py Q accepts) (n : List Char) :
    (lowered py n).rdropWhile Text.isSpace = lowered py n ↔ n.rdropWhile Text.isSpace = n := by
  by_cases hne : n = []
  · rw [hne, (lib.lower_eq_nil []).2 rfl]
  · have hlow : lowered py n ≠ [] := mt (lib.lower_eq_nil n).1 hne
    rw [List.rdropWhile_eq_self_iff, List.rdropWhile_eq_self_iff]
    simp only [hne, hlow, ne_eq, not_false_eq_true, forall_true_left,
      lib.isSpace_getLast_lowered hne hlow]

end Urllib

end InstantBoard
