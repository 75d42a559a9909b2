import Mathlib.Data.List.Nodup
import Mathlib.Tactic.Lemma
import Mathlib.Tactic.TypeStar

/-!
# Keeping the first of each key

`add key kept a` appends `a` unless it has no key or there is one with its key, as a dictionary is
filled where no entry is written over. After any number of lists, what is kept for a key is the first
element with it in all of them (`find?_addAll`). `keep` appends what has no key too (`Distinct`).
-/

namespace FirstKept

variable {α κ : Type*} (key : α → Option κ)

/-- Some element has the key. -/
def Has (l : List α) (k : κ) : Prop :=
  ∃ a ∈ l, key a = some k

/-- No key is there twice, and each element has one. -/
structure Keyed (key : α → Option κ) (kept : List α) : Prop where
  some : ∀ a ∈ kept, ∃ k, key a = some k
  nodup : (kept.map key).Nodup

section

variable {key} {k : κ}

/-- A key is in two lists if it is in one of them. -/
lemma has_append {l₁ l₂ : List α} : Has key (l₁ ++ l₂) k ↔ Has key l₁ k ∨ Has key l₂ k := by
  unfold Has
  constructor
  · intro ⟨a, ha, hk⟩
    rcases List.mem_append.1 ha with ha | ha
    · exact .inl ⟨a, ha, hk⟩
    · exact .inr ⟨a, ha, hk⟩
  · rintro (⟨a, ha, hk⟩ | ⟨a, ha, hk⟩)
    · exact ⟨a, List.mem_append_left _ ha, hk⟩
    · exact ⟨a, List.mem_append_right _ ha, hk⟩

/-- The empty list is keyed. -/
lemma Keyed.nil : Keyed key [] where
  some := fun a ha => absurd ha (List.not_mem_nil (a := a))
  nodup := List.nodup_nil

end

variable [DecidableEq κ]

instance (l : List α) (k : κ) : Decidable (Has key l k) :=
  inferInstanceAs (Decidable (∃ a ∈ l, key a = some k))

def add (kept : List α) (a : α) : List α :=
  match key a with
  | none => kept
  | some k => if Has key kept k then kept else kept ++ [a]

def addAll (kept l : List α) : List α :=
  l.foldl (add key) kept

variable {key} {kept l : List α} {a : α} {k : κ}

/-- Without a key nothing is added. -/
lemma add_of_none (h : key a = none) : add key kept a = kept := by
  unfold add
  rw [h]

/-- What has a key that is kept is not added. -/
lemma add_of_has (h : key a = some k) (hk : Has key kept k) : add key kept a = kept := by
  unfold add
  rw [h]
  exact if_pos hk

/-- What has a new key is added last. -/
lemma add_of_not_has (h : key a = some k) (hk : ¬ Has key kept k) :
    add key kept a = kept ++ [a] := by
  unfold add
  rw [h]
  exact if_neg hk

/-- A list has a key if the key is found. -/
lemma has_iff_isSome : Has key l k ↔ (l.find? fun a => key a = some k).isSome := by
  rw [List.find?_isSome]
  simp only [Has, decide_eq_true_eq]

/-- What is kept for a key is the first with it. -/
lemma find?_add (kept : List α) (a : α) (k : κ) :
    (add key kept a).find? (fun a => key a = some k) =
      (kept ++ [a]).find? fun a => key a = some k := by
  cases h : key a with
  | none =>
    rw [add_of_none h, List.find?_append, List.find?_singleton, h]
    exact (Option.or_none).symm
  | some k' =>
    by_cases hk : Has key kept k'
    · rw [add_of_has h hk, List.find?_append, List.find?_singleton, h]
      by_cases heq : some k' = some k
      · cases heq
        obtain ⟨b, hb⟩ := Option.isSome_iff_exists.1 (has_iff_isSome.1 hk)
        rw [hb]
        rfl
      · rw [decide_eq_false heq]
        exact (Option.or_none).symm
    · rw [add_of_not_has h hk]

/-- The first with a key is found in what was kept, then in what is added. -/
lemma find?_addAll (kept l : List α) (k : κ) :
    (addAll key kept l).find? (fun a => key a = some k) =
      (kept ++ l).find? fun a => key a = some k := by
  unfold addAll
  induction l generalizing kept with
  | nil => rw [List.append_nil]; rfl
  | cons a l ih =>
    rw [List.foldl_cons, ih, List.find?_append, find?_add, ← List.find?_append, List.append_assoc]
    rfl

/-- Adding one keeps the list keyed. -/
lemma Keyed.add (h : Keyed key kept) (a : α) : Keyed key (add key kept a) := by
  cases hkey : key a with
  | none =>
    rw [add_of_none hkey]
    exact h
  | some k =>
    by_cases hk : Has key kept k
    · rw [add_of_has hkey hk]
      exact h
    · rw [add_of_not_has hkey hk]
      refine ⟨?_, ?_⟩
      · intro b hb
        rcases List.mem_append.1 hb with hb | hb
        · exact h.some b hb
        · cases List.mem_singleton.1 hb
          exact ⟨k, hkey⟩
      · rw [List.map_append]
        apply h.nodup.append (List.nodup_singleton _)
        intro k' hk' hin
        obtain ⟨b, hb, rfl⟩ := List.mem_map.1 hk'
        rw [List.mem_singleton, hkey] at hin
        exact hk ⟨b, hb, hin⟩

/-- Adding many keeps the list keyed. -/
lemma Keyed.addAll (h : Keyed key kept) (l : List α) : Keyed key (addAll key kept l) := by
  unfold FirstKept.addAll
  induction l generalizing kept with
  | nil => exact h
  | cons a l ih => exact ih (h.add a)

/-- What was kept is found under its key. -/
lemma Keyed.find?_eq (h : Keyed key kept) (ha : a ∈ kept) (hk : key a = Option.some k) :
    kept.find? (fun a => key a = Option.some k) = Option.some a := by
  induction kept with
  | nil => cases ha
  | cons b kept ih =>
    obtain ⟨hnot, hnodup⟩ := List.nodup_cons.1 h.nodup
    rw [List.find?_cons]
    rcases List.mem_cons.1 ha with rfl | ha
    · rw [decide_eq_true hk]
    · have hne : key b ≠ Option.some k := by
        intro hb
        apply hnot
        rw [hb, ← hk]
        exact List.mem_map_of_mem ha
      rw [decide_eq_false hne]
      exact ih ⟨fun c hc => h.some c (List.mem_cons_of_mem b hc), hnodup⟩ ha

/-! ## Elements without a key -/

/-- Appends `a` unless there is one with its key; without a key it is always appended. -/
def keep (key : α → Option κ) (kept : List α) (a : α) : List α :=
  match key a with
  | none => kept ++ [a]
  | some k => if Has key kept k then kept else kept ++ [a]

/-- What is kept of a list: for each key its first element, and whatever has none. -/
structure Distinct (key : α → Option κ) (l kept : List α) : Prop where
  sublist : kept.Sublist l
  nodup : (kept.filterMap key).Nodup
  first : ∀ k, (kept.find? fun a => key a = some k) = l.find? fun a => key a = some k
  keyless : (kept.filter fun a => key a = none) = l.filter fun a => key a = none

/-- Of nothing nothing is kept. -/
lemma Distinct.nil : Distinct key [] [] where
  sublist := .refl []
  nodup := List.nodup_nil
  first _ := rfl
  keyless := rfl

/-- One more element keeps the keys distinct. -/
lemma Distinct.keep (h : Distinct key l kept) (a : α) : Distinct key (l ++ [a]) (keep key kept a) := by
  unfold FirstKept.keep
  cases hkey : key a with
  | none =>
    refine ⟨h.sublist.append (.refl [a]), ?_, fun k => ?_, ?_⟩
    · rw [List.filterMap_append, List.filterMap_cons_none hkey, List.filterMap_nil, List.append_nil]
      exact h.nodup
    · rw [List.find?_append, List.find?_append, h.first]
    · rw [List.filter_append, List.filter_append, h.keyless]
  | some k =>
    dsimp only
    by_cases hk : Has key kept k
    · rw [if_pos hk]
      refine ⟨h.sublist.trans (List.sublist_append_left l [a]), h.nodup, fun k' => ?_, ?_⟩
      · rw [List.find?_append, h.first, List.find?_singleton, hkey]
        by_cases heq : some k = some k'
        · cases heq
          obtain ⟨b, hb⟩ := Option.isSome_iff_exists.1 (has_iff_isSome.1 hk)
          rw [h.first] at hb
          rw [hb]
          rfl
        · rw [decide_eq_false heq]
          exact Option.or_none.symm
      · rw [List.filter_append, h.keyless, List.filter_singleton, hkey]
        exact (List.append_nil _).symm
    · rw [if_neg hk]
      refine ⟨h.sublist.append (.refl [a]), ?_, fun k' => ?_, ?_⟩
      · rw [List.filterMap_append, List.filterMap_cons_some hkey, List.filterMap_nil]
        apply h.nodup.append (List.nodup_singleton k)
        intro k' hk' hin
        cases List.mem_singleton.1 hin
        obtain ⟨b, hb, hbk⟩ := List.mem_filterMap.1 hk'
        exact hk ⟨b, hb, hbk⟩
      · rw [List.find?_append, List.find?_append, h.first]
      · rw [List.filter_append, List.filter_append, h.keyless]

/-- More elements keep the keys distinct. -/
lemma Distinct.foldl (h : Distinct key l kept) (more : List α) :
    Distinct key (l ++ more) (more.foldl (FirstKept.keep key) kept) := by
  induction more generalizing l kept with
  | nil =>
    rw [List.append_nil]
    exact h
  | cons a more ih =>
    have hnext := ih (h.keep a)
    rw [List.append_assoc] at hnext
    exact hnext

end FirstKept
