import Mathlib.Data.List.Nodup
import Mathlib.Tactic.Lemma
import Mathlib.Tactic.TypeStar

/-!
# Tables with unique keys

A table is the list of its rows. A unique constraint says that a key takes no value twice
(`Unique`); `replace` writes a row in the place of the one with the same primary key. A query that
expects at most one row (`scalarOneOrNone`) finds it under a unique key and raises where more than
one row matches.
-/

namespace Table

/-- `MultipleResultsFound`. -/
inductive MultipleResultsFound where
  | mk
deriving DecidableEq

variable {α κ κ' : Type*}

/-- `Result.scalar_one_or_none` on the rows a query selects. -/
def scalarOneOrNone : List α → Except MultipleResultsFound (Option α)
  | [] => .ok none
  | [row] => .ok (some row)
  | _ :: _ :: _ => .error .mk

/-- No value of the key occurs twice. -/
def Unique (key : α → κ) (l : List α) : Prop :=
  (l.map key).Nodup

instance [DecidableEq κ] (key : α → κ) (l : List α) : Decidable (Unique key l) :=
  inferInstanceAs (Decidable (List.Nodup _))

/-- No row has this value of the key. -/
def Free (key : α → κ) (k : κ) (l : List α) : Prop :=
  ∀ r ∈ l, key r ≠ k

/-- One row is answered exactly where there is just that row. -/
lemma scalarOneOrNone_eq_some {l : List α} {row : α} :
    scalarOneOrNone l = .ok (some row) ↔ l = [row] := by
  cases l with
  | nil => simp [scalarOneOrNone]
  | cons a l =>
    cases l with
    | nil => simp [scalarOneOrNone]
    | cons b l => simp [scalarOneOrNone]

/-- No row is answered exactly where there is none. -/
lemma scalarOneOrNone_eq_none {l : List α} : scalarOneOrNone l = .ok none ↔ l = [] := by
  cases l with
  | nil => simp [scalarOneOrNone]
  | cons a l =>
    cases l with
    | nil => simp [scalarOneOrNone]
    | cons b l => simp [scalarOneOrNone]

/-- The order of the rows does not matter to a query for one. -/
lemma scalarOneOrNone_perm {l l' : List α} (h : l.Perm l') :
    scalarOneOrNone l = scalarOneOrNone l' := by
  cases l with
  | nil => rw [List.nil_perm.1 h]
  | cons a l =>
    cases l with
    | nil => rw [List.singleton_perm.1 h]
    | cons b l =>
      cases l' with
      | nil => exact absurd h.length_eq (by simp)
      | cons a' l' =>
        cases l' with
        | nil => exact absurd h.length_eq (by simp)
        | cons b' l' => rfl

/-- In the empty table every key is unique. -/
lemma unique_nil {key : α → κ} : Unique key [] :=
  List.nodup_nil

/-- Rows with the same value of a unique key are the same row. -/
lemma Unique.eq_of_mem {key : α → κ} {l : List α} (h : Unique key l) {r r' : α} (hr : r ∈ l)
    (hr' : r' ∈ l) (hkey : key r = key r') : r = r' :=
  List.inj_on_of_nodup_map h hr hr' hkey

/-- A query by a unique key finds at most one row. -/
lemma Unique.scalarOneOrNone {key : α → κ} {l : List α} (h : Unique key l) {p : α → Bool} {k : κ}
    (hp : ∀ r ∈ l, p r = true → key r = k) :
    (∃ row ∈ l, p row = true ∧ Table.scalarOneOrNone (l.filter p) = .ok (some row)) ∨
      (∀ r ∈ l, p r = false) ∧ Table.scalarOneOrNone (l.filter p) = .ok none := by
  induction l with
  | nil => exact .inr ⟨fun r hr => absurd hr List.not_mem_nil, rfl⟩
  | cons a l ih =>
    obtain ⟨ha, hl⟩ := List.nodup_cons.1 h
    have hrest := ih hl (fun r hr => hp r (List.mem_cons_of_mem _ hr))
    cases hpa : p a with
    | true =>
      have hnone : l.filter p = [] := by
        apply List.filter_eq_nil_iff.2
        intro r hr hpr
        apply ha
        rw [hp a List.mem_cons_self hpa, ← hp r (List.mem_cons_of_mem _ hr) hpr]
        exact List.mem_map_of_mem hr
      left
      refine ⟨a, List.mem_cons_self, hpa, ?_⟩
      rw [List.filter_cons_of_pos hpa, hnone]
      rfl
    | false =>
      rw [List.filter_cons_of_neg (by simp [hpa])]
      rcases hrest with ⟨row, hrow, hprow, heq⟩ | ⟨hno, heq⟩
      · exact .inl ⟨row, List.mem_cons_of_mem _ hrow, hprow, heq⟩
      · right
        refine ⟨?_, heq⟩
        intro r hr
        rcases List.mem_cons.1 hr with rfl | hr
        · exact hpa
        · exact hno r hr

/-- A new row keeps a key unique when its value is free. -/
lemma Unique.append {key : α → κ} {l : List α} (h : Unique key l) {row : α}
    (free : Free key (key row) l) : Unique key (l ++ [row]) := by
  unfold Unique
  rw [List.map_append, List.map_singleton]
  apply List.Nodup.append h (List.nodup_singleton _)
  intro k hk hrow
  obtain ⟨r, hr, rfl⟩ := List.mem_map.1 hk
  exact free r hr (List.mem_singleton.1 hrow)

/-! ## Writing in place -/

variable [DecidableEq κ]

/-- The row takes the place of the one with its primary key. -/
def replace (id : α → κ) (row : α) (l : List α) : List α :=
  l.map fun r => if id r = id row then row else r

/-- What is in the table after the write. -/
lemma mem_replace {id : α → κ} {row r : α} {l : List α} :
    r ∈ replace id row l ↔ (r = row ∧ ∃ old ∈ l, id old = id row) ∨ r ∈ l ∧ id r ≠ id row := by
  unfold replace
  rw [List.mem_map]
  constructor
  · rintro ⟨old, hold, heq⟩
    split at heq
    · rename_i hid
      exact .inl ⟨heq.symm, old, hold, hid⟩
    · rename_i hid
      subst heq
      exact .inr ⟨hold, hid⟩
  · rintro (⟨rfl, old, hold, hid⟩ | ⟨hr, hid⟩)
    · exact ⟨old, hold, if_pos hid⟩
    · exact ⟨r, hr, if_neg hid⟩

/-- The primary keys stay what they were. -/
lemma map_replace (id : α → κ) (row : α) (l : List α) : (replace id row l).map id = l.map id := by
  unfold replace
  rw [List.map_map]
  apply List.map_congr_left
  intro r _
  show id (if id r = id row then row else r) = id r
  split
  · rename_i hid
    exact hid.symm
  · rfl

/-- Replacing a row by its id keeps the ids unique. -/
lemma Unique.replace_id {id : α → κ} {l : List α} (h : Unique id l) (row : α) :
    Unique id (replace id row l) := by
  unfold Unique
  rw [map_replace]
  exact h

/-- Another key stays unique when no other row has the new value. -/
lemma Unique.replace {id : α → κ} {key : α → κ'} {l : List α} (hid : Unique id l)
    (h : Unique key l) {row : α} (free : ∀ r ∈ l, id r ≠ id row → key r ≠ key row) :
    Unique key (replace id row l) := by
  induction l with
  | nil => exact unique_nil
  | cons a l ih =>
    obtain ⟨hia, hil⟩ := List.nodup_cons.1 hid
    obtain ⟨hka, hkl⟩ := List.nodup_cons.1 h
    have hrest := ih hil hkl (fun r hr => free r (List.mem_cons_of_mem _ hr))
    apply List.nodup_cons.2
    refine ⟨?_, hrest⟩
    intro hmem
    obtain ⟨r, hr, hkey⟩ := List.mem_map.1 hmem
    beta_reduce at hkey
    rcases mem_replace.1 hr with ⟨rfl, old, hold, hold'⟩ | ⟨hr, hne⟩
    · -- the row is written further down, so the head is left alone
      have hhead : id a ≠ id r := by
        intro heq
        apply hia
        rw [heq, ← hold']
        exact List.mem_map_of_mem hold
      rw [if_neg hhead] at hkey
      exact free a List.mem_cons_self hhead hkey.symm
    · split at hkey
      · exact free r (List.mem_cons_of_mem _ hr) hne hkey
      · apply hka
        rw [← hkey]
        exact List.mem_map_of_mem hr

end Table
