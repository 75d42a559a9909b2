import Mathlib.Tactic.Lemma
import Mathlib.Tactic.TypeStar

/-!
# Keys with a time to live

A key-value store whose entries end at a moment: `get` answers an entry up to and including its
last millisecond, `set` writes one that lasts a whole number of seconds and refuses none at all.
The clock is given with each access, so that the store itself never changes as time passes;
`lasts_set` is what a writer can rely on later, `lasts_set_ne` what it leaves alone.
-/

namespace Expiring

/-- A value and the last millisecond it is served in. -/
structure Entry (ν : Type*) where
  value : ν
  deadline : Nat

/-- The entries by key. -/
abbrev Store (κ ν : Type*) := κ → Option (Entry ν)

variable {κ ν : Type*}

/-- The value of a key at the moment `now`. -/
def get (s : Store κ ν) (now : Nat) (k : κ) : Option ν :=
  match s k with
  | some e => if now ≤ e.deadline then some e.value else none
  | none => none

/-- The entry is served at every moment up to `t`. -/
def Lasts (s : Store κ ν) (k : κ) (t : Nat) : Prop :=
  ∃ e, s k = some e ∧ t ≤ e.deadline

/-- A key is read exactly while it lasts. -/
lemma get_isSome_iff {s : Store κ ν} {now : Nat} {k : κ} :
    (get s now k).isSome = true ↔ Lasts s k now := by
  unfold get Lasts
  cases s k with
  | none => simp
  | some e => by_cases h : now ≤ e.deadline <;> simp [h]

/-- What lasts until later lasts now. -/
lemma Lasts.mono {s : Store κ ν} {k : κ} {t u : Nat} (h : Lasts s k u) (htu : t ≤ u) :
    Lasts s k t := by
  obtain ⟨e, he, hu⟩ := h
  exact ⟨e, he, Nat.le_trans htu hu⟩

variable [DecidableEq κ]

/-- Writes an entry for `ttl` seconds; a time to live of zero is refused. -/
def set (s : Store κ ν) (now : Nat) (k : κ) (v : ν) (ttl : Nat) : Option (Store κ ν) :=
  if ttl = 0 then none
  else some fun k' => if k' = k then some ⟨v, now + 1000 * ttl⟩ else s k'

/-- Only a lifetime of 0 is refused. -/
lemma set_eq_none_iff {s : Store κ ν} {now : Nat} {k : κ} {v : ν} {ttl : Nat} :
    set s now k v ttl = none ↔ ttl = 0 := by
  simp [set]

/-- What was written lasts for its time to live. -/
lemma lasts_set {s s' : Store κ ν} {now : Nat} {k : κ} {v : ν} {ttl : Nat}
    (h : set s now k v ttl = some s') : Lasts s' k (now + 1000 * ttl) := by
  unfold set at h
  split at h
  · cases h
  · cases h
    exact ⟨⟨v, now + 1000 * ttl⟩, if_pos rfl, Nat.le_refl _⟩

/-- A write leaves the other keys alone. -/
lemma set_ne {s s' : Store κ ν} {now : Nat} {k k' : κ} {v : ν} {ttl : Nat}
    (h : set s now k v ttl = some s') (hk : k' ≠ k) : s' k' = s k' := by
  unfold set at h
  split at h
  · cases h
  · cases h
    exact if_neg hk

/-- Another key lasts as long after a write as before. -/
lemma lasts_set_ne {s s' : Store κ ν} {now t : Nat} {k k' : κ} {v : ν} {ttl : Nat}
    (h : set s now k v ttl = some s') (hk : k' ≠ k) : Lasts s' k' t ↔ Lasts s k' t := by
  unfold Lasts
  rw [set_ne h hk]

end Expiring
