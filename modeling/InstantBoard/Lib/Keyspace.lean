import Mathlib.Tactic.Lemma
import Mathlib.Tactic.TypeStar

/-!
# A keyspace with optional deadlines

The commands of a key-value server on one key: a value may have a deadline or none, `expire` gives
one to a value that is there, and `incr` keeps the deadline of the counter it finds and makes a
counter without one. A key whose deadline has passed is as good as absent. Every command is one
atomic function of the keyspace, the clock being given with it.
-/

namespace Keyspace

/-- A value and the last millisecond it is served in, if it has one. -/
structure Entry (ν : Type*) where
  value : ν
  deadline : Option Nat

/-- The entry is still served. -/
def Entry.live {ν : Type*} (e : Entry ν) (now : Nat) : Bool :=
  e.deadline.all (now ≤ ·)

abbrev Space (κ ν : Type*) := κ → Option (Entry ν)

variable {κ ν : Type*}

/-- The entry served under a key. -/
def find (s : Space κ ν) (now : Nat) (k : κ) : Option (Entry ν) :=
  (s k).filter (·.live now)

/-- The key is there. -/
def Holds (s : Space κ ν) (now : Nat) (k : κ) : Prop :=
  (find s now k).isSome = true

instance (s : Space κ ν) (now : Nat) (k : κ) : Decidable (Holds s now k) :=
  inferInstanceAs (Decidable (_ = true))

/-- An entry is found if it is there and live. -/
lemma find_eq_some {s : Space κ ν} {now : Nat} {k : κ} {e : Entry ν} :
    find s now k = some e ↔ s k = some e ∧ e.live now = true := by
  simp [find, Option.filter_eq_some_iff]

/-- An entry with a deadline is live until then. -/
lemma live_some {v : ν} {d now : Nat} : (Entry.mk v (some d)).live now = true ↔ now ≤ d := by
  simp [Entry.live]

/-- What is served was served before. -/
lemma Entry.live_mono {e : Entry ν} {now later : Nat} (h : e.live later = true)
    (hle : now ≤ later) : e.live now = true := by
  obtain ⟨v, d⟩ := e
  cases d with
  | none => rfl
  | some d => exact live_some.2 (Nat.le_trans hle (live_some.1 h))

/-- As time passes a key keeps its entry or loses it. -/
lemma find_later {s : Space κ ν} {now later : Nat} {k : κ} {e : Entry ν}
    (h : find s later k = some e) (hle : now ≤ later) : find s now k = some e := by
  obtain ⟨hk, hlive⟩ := find_eq_some.1 h
  exact find_eq_some.2 ⟨hk, Entry.live_mono hlive hle⟩

variable [DecidableEq κ]

/-- Puts one entry in place. -/
def put (s : Space κ ν) (k : κ) (e : Option (Entry ν)) : Space κ ν :=
  fun k' => if k' = k then e else s k'

/-- The key that is put. -/
@[simp] lemma put_same {s : Space κ ν} {k : κ} {e : Option (Entry ν)} : put s k e k = e :=
  if_pos rfl

/-- Putting a key leaves the others. -/
lemma put_ne {s : Space κ ν} {k k' : κ} {e : Option (Entry ν)} (h : k' ≠ k) :
    put s k e k' = s k' :=
  if_neg h

/-- `SET key value EX ttl` -/
def set (s : Space κ ν) (now : Nat) (k : κ) (v : ν) (ttl : Nat) : Space κ ν :=
  put s k (some ⟨v, some (now + 1000 * ttl)⟩)

/-- `DEL key` -/
def delete (s : Space κ ν) (k : κ) : Space κ ν :=
  put s k none

/-- `EXPIRE key ttl` -/
def expire (s : Space κ ν) (now : Nat) (k : κ) (ttl : Nat) : Space κ ν :=
  match find s now k with
  | some e => put s k (some { e with deadline := some (now + 1000 * ttl) })
  | none => s

/-- `INCR key`, with its answer. -/
def incr (s : Space κ Nat) (now : Nat) (k : κ) : Space κ Nat × Nat :=
  match find s now k with
  | some e => (put s k (some { e with value := e.value + 1 }), e.value + 1)
  | none => (put s k (some ⟨1, none⟩), 1)

/-- The key that is set, with its deadline. -/
lemma set_same {s : Space κ ν} {now : Nat} {k : κ} {v : ν} {ttl : Nat} :
    set s now k v ttl k = some ⟨v, some (now + 1000 * ttl)⟩ :=
  put_same

/-- Setting a key leaves the others. -/
lemma set_ne {s : Space κ ν} {now : Nat} {k k' : κ} {v : ν} {ttl : Nat} (h : k' ≠ k) :
    set s now k v ttl k' = s k' :=
  put_ne h

/-- Deleting a key leaves the others. -/
lemma delete_ne {s : Space κ ν} {k k' : κ} (h : k' ≠ k) : delete s k k' = s k' :=
  put_ne h

/-- The key that is deleted is gone. -/
lemma delete_same {s : Space κ ν} {k : κ} : delete s k k = none :=
  put_same

/-- `EXPIRE` leaves the other keys. -/
lemma expire_ne {s : Space κ ν} {now : Nat} {k k' : κ} {ttl : Nat} (h : k' ≠ k) :
    expire s now k ttl k' = s k' := by
  unfold expire
  cases find s now k with
  | none => rfl
  | some e => exact put_ne h

/-- `INCR` leaves the other keys. -/
lemma incr_ne {s : Space κ Nat} {now : Nat} {k k' : κ} (h : k' ≠ k) :
    (incr s now k).1 k' = s k' := by
  unfold incr
  cases find s now k with
  | none => exact put_ne h
  | some e => exact put_ne h

/-- A counter that is there is counted on, and keeps its deadline. -/
lemma incr_of_find {s : Space κ Nat} {now : Nat} {k : κ} {e : Entry Nat}
    (h : find s now k = some e) :
    incr s now k = (put s k (some { e with value := e.value + 1 }), e.value + 1) := by
  unfold incr
  rw [h]

/-- A counter that is not there is made, without a deadline. -/
lemma incr_of_not_holds {s : Space κ Nat} {now : Nat} {k : κ} (h : ¬ Holds s now k) :
    incr s now k = (put s k (some ⟨1, none⟩), 1) := by
  unfold incr
  rw [Option.not_isSome_iff_eq_none.1 h]

/-- An entry that `expire` finds has the new deadline and its old value. -/
lemma expire_of_find {s : Space κ ν} {now : Nat} {k : κ} {ttl : Nat} {e : Entry ν}
    (h : find s now k = some e) :
    expire s now k ttl = put s k (some { e with deadline := some (now + 1000 * ttl) }) := by
  unfold expire
  rw [h]

/-- `EXPIRE` on a key that is not there does nothing. -/
lemma expire_of_not_holds {s : Space κ ν} {now : Nat} {k : κ} {ttl : Nat} (h : ¬ Holds s now k) :
    expire s now k ttl = s := by
  unfold expire
  rw [Option.not_isSome_iff_eq_none.1 h]

/-! ## What is found after a command -/

/-- A live entry that is put is found. -/
lemma find_put {s : Space κ ν} {now : Nat} {k : κ} {e : Entry ν} (h : e.live now = true) :
    find (put s k (some e)) now k = some e :=
  find_eq_some.2 ⟨put_same, h⟩

/-- A counter counts on. -/
lemma find_incr_of_find {s : Space κ Nat} {now : Nat} {k : κ} {e : Entry Nat}
    (h : find s now k = some e) :
    find (incr s now k).1 now k = some { e with value := e.value + 1 } := by
  rw [incr_of_find h]
  exact find_put (find_eq_some.1 h).2

/-- A new counter starts at one. -/
lemma find_incr_of_not_holds {s : Space κ Nat} {now : Nat} {k : κ} (h : ¬ Holds s now k) :
    find (incr s now k).1 now k = some ⟨1, none⟩ := by
  rw [incr_of_not_holds h]
  exact find_put rfl

/-- A deadline changes no value. -/
lemma find_expire_value {s : Space κ ν} {now : Nat} {k : κ} {ttl : Nat} :
    (find (expire s now k ttl) now k).map (·.value) = (find s now k).map (·.value) := by
  cases h : find s now k with
  | none => rw [expire_of_not_holds (Option.not_isSome_iff_eq_none.2 h), h]
  | some e =>
    have hlive : (Entry.mk e.value (some (now + 1000 * ttl))).live now = true :=
      live_some.2 (Nat.le_add_right _ _)
    rw [expire_of_find h, find_put hlive]
    rfl

/-- A key that is deleted is not found. -/
lemma find_delete {s : Space κ ν} {now : Nat} {k : κ} : find (delete s k) now k = none := by
  unfold find
  rw [delete_same]
  rfl

end Keyspace
