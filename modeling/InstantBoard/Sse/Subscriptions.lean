import Mathlib.Data.Finset.Basic
import Mathlib.Tactic.Lemma

/-!
# The subscription sets

`_subscriptions`, a dictionary from category to a set of client ids. The sets are objects: a
dispatch holds on to the one it looked up and reads it again later, when the dictionary may no
longer have it. So `index` maps a category to the identity of its set and `sets` gives the members
of each set object ever made. That no two categories share a set object is part of the type.
-/

namespace InstantBoard.Sse

/-- The dictionary and the set objects. -/
structure Subscriptions where
  index : String → Option Nat
  sets : Nat → Finset String
  next : Nat
  index_inj : ∀ {c c' s}, index c = some s → index c' = some s → c = c'
  index_lt : ∀ {c s}, index c = some s → s < next
  sets_empty : ∀ {s}, next ≤ s → sets s = ∅

namespace Subscriptions

/-- The empty dictionary. -/
def empty : Subscriptions where
  index := fun _ => none
  sets := fun _ => ∅
  next := 0
  index_inj := by simp
  index_lt := by simp
  sets_empty := by simp

/-- The members of `subscriptions.get(category, set())`. -/
def members (subs : Subscriptions) (category : String) : Finset String :=
  match subs.index category with
  | some s => subs.sets s
  | none => ∅

/-- Change the members of a set object that a category has. -/
def setMembers (subs : Subscriptions) (s : Nat) (members : Finset String) (h : s < subs.next) :
    Subscriptions :=
  { subs with
    sets := Function.update subs.sets s members
    sets_empty := by
      intro s' hs'
      rw [Function.update_of_ne (by omega)]
      exact subs.sets_empty hs' }

/-- A category gets a new set object. -/
def alloc (subs : Subscriptions) (category : String) (members : Finset String) : Subscriptions where
  index := Function.update subs.index category (some subs.next)
  sets := Function.update subs.sets subs.next members
  next := subs.next + 1
  index_inj := by
    intro c c' s hc hc'
    by_cases h : c = category <;> by_cases h' : c' = category
    · rw [h, h']
    · have hs : s = subs.next := by simpa [h, eq_comm] using hc
      have := subs.index_lt (by simpa [h'] using hc')
      omega
    · have hs : s = subs.next := by simpa [h', eq_comm] using hc'
      have := subs.index_lt (by simpa [h] using hc)
      omega
    · exact subs.index_inj (by simpa [h] using hc) (by simpa [h'] using hc')
  index_lt := by
    intro c s hc
    by_cases h : c = category
    · have hs : s = subs.next := by simpa [h, eq_comm] using hc
      omega
    · have := subs.index_lt (by simpa [h] using hc)
      omega
  sets_empty := by
    intro s hs
    rw [Function.update_of_ne (by omega)]
    exact subs.sets_empty (by omega)

/-- `del self._subscriptions[category]`. -/
def del (subs : Subscriptions) (category : String) : Subscriptions :=
  { subs with
    index := Function.update subs.index category none
    index_inj := by
      intro c c' s hc hc'
      by_cases h : c = category
      · simp [h] at hc
      · by_cases h' : c' = category
        · simp [h'] at hc'
        · exact subs.index_inj (by simpa [h] using hc) (by simpa [h'] using hc')
    index_lt := by
      intro c s hc
      by_cases h : c = category
      · simp [h] at hc
      · exact subs.index_lt (by simpa [h] using hc) }

/-- `subscriptions.setdefault(category, set()).add(client_id)`. -/
def add (clientId : String) (subs : Subscriptions) (category : String) : Subscriptions :=
  match h : subs.index category with
  | some s => subs.setMembers s (insert clientId (subs.sets s)) (subs.index_lt h)
  | none => subs.alloc category {clientId}

/-- The loop body of `unregister`: `discard`, and `del` of an emptied set. -/
def discard (clientId : String) (subs : Subscriptions) (category : String) : Subscriptions :=
  match h : subs.index category with
  | some s =>
    if subs.sets s = ∅ then subs
    else
      let left := (subs.sets s).erase clientId
      let subs := subs.setMembers s left (subs.index_lt h)
      if left = ∅ then subs.del category else subs
  | none => subs

/-- Adding a client concerns the members of that category only. -/
lemma members_add (clientId : String) (subs : Subscriptions) (category category' : String) :
    (subs.add clientId category).members category' =
      if category' = category then insert clientId (subs.members category)
      else subs.members category' := by
  unfold add
  split
  · rename_i s hs
    by_cases h : category' = category
    · subst h
      simp [members, setMembers, hs]
    · simp only [members, setMembers, if_neg h]
      cases hs' : subs.index category' with
      | none => rfl
      | some s' =>
        have hne : s' ≠ s := by
          rintro rfl
          exact h (subs.index_inj hs' hs)
        simp [hne]
  · rename_i hs
    by_cases h : category' = category
    · subst h
      simp [members, alloc, hs]
    · simp only [members, alloc, if_neg h, Function.update_of_ne h]
      cases hs' : subs.index category' with
      | none => rfl
      | some s' =>
        have hne : s' ≠ subs.next := by
          have := subs.index_lt hs'
          omega
        simp [hne]

/-- Discarding a client concerns the members of that category only. -/
lemma members_discard (clientId : String) (subs : Subscriptions) (category category' : String) :
    (subs.discard clientId category).members category' =
      if category' = category then (subs.members category).erase clientId
      else subs.members category' := by
  unfold discard
  split
  · rename_i s hs
    split
    · rename_i hempty
      by_cases h : category' = category
      · subst h
        simp [members, hs, hempty]
      · simp [h]
    · by_cases h : category' = category
      · subst h
        by_cases hleft : (subs.sets s).erase clientId = ∅
        · simp [members, del, setMembers, hs, hleft]
        · simp [members, setMembers, hs, hleft]
      · have hother : ∀ s', subs.index category' = some s' → s' ≠ s := by
          rintro s' hs' rfl
          exact h (subs.index_inj hs' hs)
        by_cases hleft : (subs.sets s).erase clientId = ∅
        · simp only [members, del, setMembers, hleft, if_true, if_neg h, Function.update_of_ne h]
          cases hs' : subs.index category' with
          | none => rfl
          | some s' => simp [hother s' hs']
        · simp only [members, setMembers, hleft, if_false, if_neg h]
          cases hs' : subs.index category' with
          | none => rfl
          | some s' => simp [hother s' hs']
  · rename_i hs
    by_cases h : category' = category
    · subst h
      simp [members, hs]
    · simp [h]

/-- Adding a client leaves the others where they are, in every set object. -/
lemma mem_sets_add {clientId other : String} (h : other ≠ clientId) (subs : Subscriptions)
    (category : String) (s : Nat) :
    other ∈ (subs.add clientId category).sets s ↔ other ∈ subs.sets s := by
  unfold add
  split
  · rename_i s' hs
    by_cases hss : s = s'
    · subst hss
      simp [setMembers, h]
    · simp [setMembers, hss]
  · by_cases hss : s = subs.next
    · subst hss
      simp [alloc, h, subs.sets_empty (le_refl _)]
    · simp [alloc, hss]

/-- Discarding a client leaves the others where they are, in every set object. -/
lemma mem_sets_discard {clientId other : String} (h : other ≠ clientId) (subs : Subscriptions)
    (category : String) (s : Nat) :
    other ∈ (subs.discard clientId category).sets s ↔ other ∈ subs.sets s := by
  unfold discard
  split
  · rename_i s' hs
    split
    · rfl
    · have key : other ∈ Function.update subs.sets s' ((subs.sets s').erase clientId) s ↔
          other ∈ subs.sets s := by
        by_cases hss : s = s'
        · subst hss
          simp [h]
        · simp [hss]
      dsimp only
      split <;> exact key
  · rfl

end Subscriptions

end InstantBoard.Sse
