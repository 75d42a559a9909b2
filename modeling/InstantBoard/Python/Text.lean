import Mathlib.Data.List.DropRight
import Mathlib.Data.List.Infix
import Mathlib.Tactic.Lemma

/-!
# Python string operations

`str.strip`, `str.split` at a character and `str.replace` on character lists. `replace` goes left
to right without overlaps; `skip` counts the characters of a match that are still to be passed
over, so that the recursion is on the text.
-/

namespace InstantBoard.Text

/-- `str.isspace` of one character. -/
def isSpace (c : Char) : Bool :=
  let n := c.toNat
  (9 ≤ n && n ≤ 13) || (28 ≤ n && n ≤ 32) || n == 0x85 || n == 0xA0 || n == 0x1680 ||
    (0x2000 ≤ n && n ≤ 0x200A) || n == 0x2028 || n == 0x2029 || n == 0x202F || n == 0x205F ||
    n == 0x3000

/-- `s.strip()`. -/
def strip (s : String) : String :=
  String.ofList ((s.toList.dropWhile isSpace).rdropWhile isSpace)

/-- `s.split(sep)` for a one-character separator. -/
def split (s : String) (sep : Char) : List String :=
  (s.toList.splitOn sep).map String.ofList

/-- The loop of `str.replace(old, new)` for a nonempty `old`. -/
def replaceFrom (old new : List Char) : Nat → List Char → List Char
  | _, [] => []
  | skip + 1, _ :: s => replaceFrom old new skip s
  | 0, c :: s =>
    if old.isPrefixOf (c :: s) then new ++ replaceFrom old new (old.length - 1) s
    else c :: replaceFrom old new 0 s

/-- `s.replace(old, new)` for a nonempty `old`. -/
def replace (s old new : String) : String :=
  String.ofList (replaceFrom old.toList new.toList 0 s.toList)

/-- `s.startswith(t)`. -/
def startsWith (s t : String) : Bool :=
  t.toList.isPrefixOf s.toList

/-- `s.endswith(t)`. -/
def endsWith (s t : String) : Bool :=
  t.toList.isSuffixOf s.toList

/-- `sub in s`. -/
def contains (s sub : String) : Bool :=
  decide (sub.toList <:+: s.toList)

/-- `re.sub(r"<[^>]+>", "", s)`; `skip` counts the characters of a tag still to be passed over. -/
def removeTags : Nat → List Char → List Char
  | _, [] => []
  | skip + 1, _ :: s => removeTags skip s
  | 0, c :: s =>
    let body := s.takeWhile (· ≠ '>')
    if c = '<' ∧ body ≠ [] ∧ body.length < s.length then removeTags (body.length + 1) s
    else c :: removeTags 0 s

/-- `re.sub(r"\s+", " ", s)`; the flag says whether the last character was a space. -/
def collapse : Bool → List Char → List Char
  | _, [] => []
  | after, c :: s =>
    if isSpace c then if after then collapse true s else ' ' :: collapse true s
    else c :: collapse false s

/-- Passing over characters is dropping them. -/
lemma replaceFrom_skip (old new s : List Char) (skip : Nat) :
    replaceFrom old new skip s = replaceFrom old new 0 (s.drop skip) := by
  induction s generalizing skip with
  | nil => simp [replaceFrom]
  | cons c s ih =>
    cases skip with
    | zero => rfl
    | succ skip => simpa [replaceFrom] using ih skip

/-- A text without `old` is left as it is. -/
lemma replaceFrom_of_not_infix {old new s : List Char} (h : ¬ old <:+: s) :
    replaceFrom old new 0 s = s := by
  induction s with
  | nil => rfl
  | cons c s ih =>
    have hp : ¬ old.isPrefixOf (c :: s) := by
      intro hp
      exact h (List.isPrefixOf_iff_prefix.1 hp).isInfix
    have hs : ¬ old <:+: s := fun hi => h (hi.trans (List.suffix_cons c s).isInfix)
    rw [replaceFrom, if_neg hp, ih hs]

/-- One match at the start is replaced and the scan goes on after it. -/
lemma replaceFrom_append {old new s : List Char} (h : old ≠ []) :
    replaceFrom old new 0 (old ++ s) = new ++ replaceFrom old new 0 s := by
  cases old with
  | nil => exact absurd rfl h
  | cons c old =>
    have hp : (c :: old).isPrefixOf ((c :: old) ++ s) :=
      List.isPrefixOf_iff_prefix.2 (List.prefix_append _ _)
    rw [List.cons_append] at hp ⊢
    rw [replaceFrom, if_pos hp, replaceFrom_skip]
    simp

/-- Removing `old` from `old + s` gives `s` back when `s` does not contain it. -/
lemma replace_append {old s : String} (h : old ≠ "") (hs : ¬ old.toList <:+: s.toList) :
    replace (old ++ s) old "" = s := by
  have hne : old.toList ≠ [] := by simpa using h
  unfold replace
  rw [String.toList_append, replaceFrom_append hne, replaceFrom_of_not_infix hs]
  simp

end InstantBoard.Text
