import InstantBoard.Lib.Fallible
import InstantBoard.Lib.Table

/-!
# Columns and flushes

What PostgreSQL refuses when a session is flushed: values that do not fit their columns, and rows
that a constraint does not admit.
-/

namespace InstantBoard

/-- Texts that PostgreSQL stores. -/
def storable (s : String) : Bool :=
  s.toList.all (· ≠ Char.ofNat 0)

/-- `VARCHAR(n)`. PostgreSQL also takes a longer text whose characters from the `n`-th on are spaces,
and cuts them off; here it is refused. -/
def varchar (n : Nat) (s : String) : Bool :=
  decide (s.length ≤ n) && storable s

/-- What fits a column fits a wider one. -/
lemma varchar_mono {m n : Nat} {s : String} (hmn : m ≤ n) (h : varchar m s = true) :
    varchar n s = true := by
  unfold varchar at h ⊢
  obtain ⟨hlength, hstorable⟩ := Bool.and_eq_true_iff.1 h
  have hm : s.length ≤ m := of_decide_eq_true hlength
  exact Bool.and_eq_true_iff.2 ⟨decide_eq_true (Nat.le_trans hm hmn), hstorable⟩

/-- `INTEGER` -/
def int4 (n : Int) : Bool :=
  decide (-2147483648 ≤ n ∧ n ≤ 2147483647)

/-- What a statement raises. -/
inductive DbError where
  | multipleResultsFound
  | dataError
  | integrityError
deriving DecidableEq

/-- `Result.scalar_one_or_none` -/
def scalarOneOrNone {α : Type} (rows : List α) : Except DbError (Option α) :=
  (Table.scalarOneOrNone rows).mapError fun _ => .multipleResultsFound

section

variable {α : Type} {rows : List α}

/-- Where the general `scalar_one_or_none` answers so does this one. -/
lemma scalarOneOrNone_ok {o : Option α} (h : Table.scalarOneOrNone rows = .ok o) :
    scalarOneOrNone rows = .ok o :=
  Fallible.mapError_eq_ok.2 h

/-- One row is answered only where there is just that row. -/
lemma scalarOneOrNone_eq_some {row : α} (h : scalarOneOrNone rows = .ok (some row)) :
    rows = [row] :=
  Table.scalarOneOrNone_eq_some.1 (Fallible.mapError_eq_ok.1 h)

/-- No row is answered only where there is none. -/
lemma scalarOneOrNone_eq_none (h : scalarOneOrNone rows = .ok none) : rows = [] :=
  Table.scalarOneOrNone_eq_none.1 (Fallible.mapError_eq_ok.1 h)

/-- The only error is that there are several rows. -/
lemma scalarOneOrNone_eq_error {e : DbError} (h : scalarOneOrNone rows = .error e) :
    e = .multipleResultsFound := by
  unfold scalarOneOrNone at h
  cases hrows : Table.scalarOneOrNone rows with
  | ok o =>
    rw [hrows] at h
    cases h
  | error e' =>
    rw [hrows] at h
    cases h
    rfl

end

/-- A flush: values that do not fit their columns are refused first, then what the constraints do
not admit. -/
def flushRow {σ : Type} (fits : Bool) (admitted : Prop) [Decidable admitted] (db : σ) :
    Except DbError σ :=
  if fits = false then .error .dataError
  else if admitted then .ok db
  else .error .integrityError

/-- A flush succeeds exactly if the row fits and is admitted. -/
lemma flush_eq_ok {σ : Type} {fits : Bool} {admitted : Prop} [Decidable admitted] {db db' : σ} :
    flushRow fits admitted db = .ok db' ↔ fits = true ∧ admitted ∧ db' = db := by
  unfold flushRow
  split
  · simp_all
  · split
    · simp_all [eq_comm]
    · simp_all

/-- A row that fits and is admitted is flushed. -/
lemma flush_ok {σ : Type} {fits : Bool} {admitted : Prop} [Decidable admitted] {db : σ}
    (hfits : fits = true) (h : admitted) : flushRow fits admitted db = .ok db :=
  flush_eq_ok.2 ⟨hfits, h, rfl⟩

/-- What the constraints admit violates none. -/
lemma flush_ne_integrityError {σ : Type} {fits : Bool} {admitted : Prop} [Decidable admitted] {db : σ}
    (h : admitted) : flushRow fits admitted db ≠ .error .integrityError := by
  unfold flushRow
  split
  · exact fun h' => by cases h'
  · exact fun h' => by cases h'

end InstantBoard
