import Mathlib.Tactic.Lemma
import Mathlib.Tactic.TypeStar

/-!
# Results of fallible code

When an `Except` made from another one is `ok`.
-/

namespace Fallible

variable {ε ε' α β : Type*}

/-- Changing the error keeps the results. -/
lemma mapError_eq_ok {f : ε → ε'} {x : Except ε α} {a : α} :
    x.mapError f = .ok a ↔ x = .ok a := by
  cases x with
  | error e => exact ⟨(fun h => by cases h), (fun h => by cases h)⟩
  | ok b =>
    constructor
    · intro h
      cases h
      rfl
    · intro h
      cases h
      rfl

/-- A result of `map` comes from a result. -/
lemma map_eq_ok {f : α → β} {x : Except ε α} {b : β} :
    x.map f = .ok b ↔ ∃ a, x = .ok a ∧ f a = b := by
  cases x with
  | error e => exact ⟨(fun h => by cases h), (fun ⟨_, h, _⟩ => by cases h)⟩
  | ok a =>
    constructor
    · intro h
      cases h
      exact ⟨a, rfl, rfl⟩
    · rintro ⟨a', h, rfl⟩
      cases h
      rfl

/-- A result of `bind` comes from a result of each part. -/
lemma bind_eq_ok {α β : Type _} {x : Except ε α} {k : α → Except ε β} {b : β} :
    x >>= k = .ok b ↔ ∃ a, x = .ok a ∧ k a = .ok b := by
  cases x with
  | error e => exact ⟨(fun h => by cases h), (fun ⟨_, h, _⟩ => by cases h)⟩
  | ok a =>
    constructor
    · exact fun h => ⟨a, rfl, h⟩
    · rintro ⟨a', h, hk⟩
      cases h
      exact hk

/-- A pair with a fixed first part. -/
lemma bind_pair {ε α β : Type _} (a : α) (x : Except ε β) :
    (do return (a, ← x) : Except ε (α × β)) = x.map fun b => (a, b) := by
  cases x with
  | error e => rfl
  | ok b => rfl

/-- The option of an answer is its result. -/
lemma toOption_eq_some {x : Except ε α} {a : α} : x.toOption = some a ↔ x = .ok a := by
  cases x with
  | error e => exact ⟨(fun h => by cases h), (fun h => by cases h)⟩
  | ok b =>
    constructor
    · intro h
      cases h
      rfl
    · intro h
      cases h
      rfl

/-- What a loop that gets through has made, it has made of the elements. -/
lemma exists_of_mem_mapM {ε α β : Type _} {f : α → Except ε β} {l : List α} {l' : List β}
    (h : l.mapM f = .ok l') {b : β} (hb : b ∈ l') : ∃ a ∈ l, f a = .ok b := by
  induction l generalizing l' with
  | nil =>
    cases h
    cases hb
  | cons a l ih =>
    rw [List.mapM_cons] at h
    cases ha : f a with
    | error e =>
      rw [ha] at h
      cases h
    | ok b' =>
      cases hl : l.mapM f with
      | error e =>
        rw [ha, hl] at h
        cases h
      | ok bs =>
        rw [ha, hl] at h
        cases h
        rcases List.mem_cons.1 hb with rfl | hb
        · exact ⟨a, List.mem_cons_self, ha⟩
        · obtain ⟨c, hc, hmade⟩ := ih hl hb
          exact ⟨c, List.mem_cons_of_mem a hc, hmade⟩

/-- A loop that gets through has made something of every element. -/
lemma map_eq_of_mapM {α β : Type _} {f : α → Option β} {l : List α} {l' : List β}
    (h : l.mapM f = some l') : l.map f = l'.map some := by
  induction l generalizing l' with
  | nil =>
    cases h
    rfl
  | cons a l ih =>
    rw [List.mapM_cons] at h
    obtain ⟨b, hb, h⟩ := Option.bind_eq_some_iff.1 h
    obtain ⟨bs, hbs, h⟩ := Option.bind_eq_some_iff.1 h
    cases h
    rw [List.map_cons, List.map_cons, hb, ih hbs]

/-- What is in the result of `mapM` comes from an element. -/
lemma exists_of_mem_map_mapM {α β : Type _} {f : α → Option β} {l : List α} {l' : List β}
    (h : l.mapM f = some l') {b : β} (hb : b ∈ l') : ∃ a ∈ l, f a = some b := by
  have hmem : some b ∈ l.map f := by
    rw [map_eq_of_mapM h]
    exact List.mem_map_of_mem hb
  exact List.mem_map.1 hmem

/-- What the results have of the elements, a loop that gets through carries over. -/
lemma map_of_mapM {α β γ : Type _} {f : α → Option β} {g : α → γ} {k : β → γ} {l : List α}
    {l' : List β} (h : l.mapM f = some l') (hf : ∀ a b, f a = some b → k b = g a) :
    l'.map k = l.map g := by
  have hmap := map_eq_of_mapM h
  clear h
  induction l generalizing l' with
  | nil =>
    obtain rfl : l' = [] := List.map_eq_nil_iff.1 hmap.symm
    rfl
  | cons a l ih =>
    cases l' with
    | nil => cases hmap
    | cons b l' =>
      rw [List.map_cons, List.map_cons] at hmap
      obtain ⟨hb, hrest⟩ := List.cons.inj hmap
      rw [List.map_cons, List.map_cons, hf a b hb, ih hrest]

end Fallible
