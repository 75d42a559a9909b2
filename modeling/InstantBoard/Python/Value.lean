import Mathlib.Data.Rat.Defs
import Mathlib.Tactic.Lemma

/-!
# JSON values as Python objects

What `json.loads` returns and `json.dumps` takes. A dictionary is the list of its items in
insertion order. A float is its value together with the text `repr` prints for it.
-/

namespace InstantBoard

inductive Json where
  | null
  | bool (b : Bool)
  | int (i : Int)
  | float (value : ℚ) (text : String)
  | str (s : String)
  | arr (items : List Json)
  | obj (fields : List (String × Json))

/-- A `dict` with string keys. -/
abbrev Dict := List (String × Json)

/-- `bool(v)`. -/
def Json.truthy : Json → Bool
  | .null => false
  | .bool b => b
  | .int i => i != 0
  | .float v _ => v != 0
  | .str s => s != ""
  | .arr items => !items.isEmpty
  | .obj fields => !fields.isEmpty

/-- `v or w`. -/
def Json.or (v w : Json) : Json :=
  if v.truthy then v else w

/-- `type(v).__name__`. -/
def Json.typeName : Json → String
  | .null => "NoneType"
  | .bool _ => "bool"
  | .int _ => "int"
  | .float _ _ => "float"
  | .str _ => "str"
  | .arr _ => "list"
  | .obj _ => "dict"

/-- `v == s` for a string `s`. -/
def Json.isStr : Json → String → Bool
  | .str t, s => t == s
  | _, _ => false

/-- Comparing a string with a string. -/
@[simp] lemma Json.isStr_str (s t : String) : (Json.str t).isStr s = (t == s) := rfl

/-- What compares equal to a string is it. -/
lemma Json.eq_str_of_isStr {v : Json} {s : String} (h : v.isStr s = true) : v = .str s := by
  cases v with
  | str t =>
    rw [Json.isStr_str, beq_iff_eq] at h
    rw [h]
  | null => cases h
  | bool b => cases h
  | int i => cases h
  | float v text => cases h
  | arr items => cases h
  | obj fields => cases h

mutual

/-- Equality of values as they are stored; Python's `==` also has `1 == True`. -/
def Json.decEq : (a b : Json) → Decidable (a = b)
  | .null, b => match b with
    | .null => isTrue rfl
    | .bool _ | .int _ | .float _ _ | .str _ | .arr _ | .obj _ => isFalse nofun
  | .bool a, b => match b with
    | .bool b => decidable_of_iff (a = b) (by simp)
    | .null | .int _ | .float _ _ | .str _ | .arr _ | .obj _ => isFalse nofun
  | .int a, b => match b with
    | .int b => decidable_of_iff (a = b) (by simp)
    | .null | .bool _ | .float _ _ | .str _ | .arr _ | .obj _ => isFalse nofun
  | .float v t, b => match b with
    | .float v' t' => decidable_of_iff (v = v' ∧ t = t') (by simp)
    | .null | .bool _ | .int _ | .str _ | .arr _ | .obj _ => isFalse nofun
  | .str a, b => match b with
    | .str b => decidable_of_iff (a = b) (by simp)
    | .null | .bool _ | .int _ | .float _ _ | .arr _ | .obj _ => isFalse nofun
  | .arr a, b => match b with
    | .arr b => match Json.decEqList a b with
      | isTrue h => isTrue (congrArg Json.arr h)
      | isFalse h => isFalse fun e => h (Json.arr.inj e)
    | .null | .bool _ | .int _ | .float _ _ | .str _ | .obj _ => isFalse nofun
  | .obj a, b => match b with
    | .obj b => match Json.decEqFields a b with
      | isTrue h => isTrue (congrArg Json.obj h)
      | isFalse h => isFalse fun e => h (Json.obj.inj e)
    | .null | .bool _ | .int _ | .float _ _ | .str _ | .arr _ => isFalse nofun

def Json.decEqList : (a b : List Json) → Decidable (a = b)
  | [], [] => isTrue rfl
  | [], _ :: _ => isFalse nofun
  | _ :: _, [] => isFalse nofun
  | x :: xs, y :: ys => match Json.decEq x y, Json.decEqList xs ys with
    | isTrue h, isTrue h' => isTrue (by rw [h, h'])
    | isFalse h, _ => isFalse fun e => h (List.cons.inj e).1
    | _, isFalse h => isFalse fun e => h (List.cons.inj e).2

def Json.decEqFields : (a b : List (String × Json)) → Decidable (a = b)
  | [], [] => isTrue rfl
  | [], _ :: _ => isFalse nofun
  | _ :: _, [] => isFalse nofun
  | (k, x) :: xs, (l, y) :: ys => match instDecidableEqString k l, Json.decEq x y, Json.decEqFields xs ys with
    | isTrue hk, isTrue h, isTrue h' => isTrue (by rw [hk, h, h'])
    | isFalse h, _, _ => isFalse fun e => h (Prod.mk.inj (List.cons.inj e).1).1
    | _, isFalse h, _ => isFalse fun e => h (Prod.mk.inj (List.cons.inj e).1).2
    | _, _, isFalse h => isFalse fun e => h (List.cons.inj e).2

end

instance : DecidableEq Json := Json.decEq

/-- `d.get(key)`. -/
def Dict.get? (d : Dict) (key : String) : Option Json :=
  d.lookup key

/-- `d.get(key, default)`. -/
def Dict.getD (d : Dict) (key : String) (default : Json) : Json :=
  (d.get? key).getD default

/-- `d[key] = value`: in place when the key is there, at the end otherwise. -/
def Dict.set : Dict → String → Json → Dict
  | [], key, value => [(key, value)]
  | (k, v) :: d, key, value => if k = key then (k, value) :: d else (k, v) :: Dict.set d key value

/-- The first entry of a key counts. -/
lemma Dict.get?_cons (k : String) (v : Json) (d : Dict) (key : String) :
    Dict.get? ((k, v) :: d) key = if key = k then some v else Dict.get? d key := by
  unfold Dict.get?
  rw [List.lookup_cons]
  by_cases h : key = k
  · simp [h]
  · rw [beq_false_of_ne h, if_neg h]

/-- Reading after writing. -/
lemma Dict.get?_set (d : Dict) (key key' : String) (value : Json) :
    (d.set key value).get? key' = if key' = key then some value else d.get? key' := by
  induction d with
  | nil => simp [Dict.set, Dict.get?_cons]
  | cons kv d ih =>
    obtain ⟨k, v⟩ := kv
    unfold Dict.set
    by_cases hk : k = key
    · simp only [hk, if_true, Dict.get?_cons]
      by_cases h : key' = key <;> simp [h]
    · simp only [hk, if_false, Dict.get?_cons, ih]
      by_cases h : key' = k
      · have : ¬ k = key := hk
        simp [h, this]
      · simp [h]

/-- Reading a key after one is set. -/
lemma Dict.getD_set (d : Dict) (key key' : String) (value default : Json) :
    (d.set key value).getD key' default = if key' = key then value else d.getD key' default := by
  unfold Dict.getD
  rw [Dict.get?_set]
  split
  · rfl
  · rfl

end InstantBoard
