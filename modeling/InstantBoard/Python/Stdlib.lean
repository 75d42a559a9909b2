import InstantBoard.Lib.Calendar
import InstantBoard.Python.Text
import InstantBoard.Python.Value

/-!
# The standard library as the pipeline uses it

`Stdlib` collects the library functions that rest on tables and grammars not spelled out here
(case mapping, MD5, URL and date parsing); every result about the pipeline is for any choice of
them. What is left is spelled out: the text of a value in an f-string, the exceptions of a method
call on a value of the wrong type, and `datetime` up to its ISO text.
-/

namespace InstantBoard

/-- The exceptions the pipeline meets, with their messages. -/
inductive PyError where
  | attributeError (message : String)
  | typeError (message : String)
  | valueError (message : String)
  | overflowError (message : String)
  deriving DecidableEq

/-- `str(e)`. -/
def PyError.message : PyError → String
  | .attributeError m => m
  | .typeError m => m
  | .valueError m => m
  | .overflowError m => m

/-- A `datetime`: the microseconds of its UTC time since the start of year 1 (its own fields when
it is naive), whether it has an offset, and its `isoformat()`. -/
structure Moment where
  micros : Int
  aware : Bool
  iso : String
  deriving DecidableEq

/-- What `urllib.parse.urlparse` returns. -/
structure ParseResult where
  scheme : String
  netloc : String
  path : String
  params : String
  query : String

/-- The library functions. `none` is a `ValueError`. -/
structure Stdlib where
  /-- `s.lower()` -/
  lower : String → String
  /-- `repr(s)` -/
  reprStr : String → String
  /-- `hashlib.md5(s.encode("utf-8")).hexdigest()` -/
  md5 : String → String
  urlparse : String → Option ParseResult
  parseQs : String → List (String × List String)
  /-- `urlencode(query, doseq=True)` -/
  urlencode : List (String × List String) → String
  /-- `urlunparse` with an empty fragment -/
  urlunparse : ParseResult → String
  /-- `datetime.strptime(text, format)` -/
  strptime : String → String → Option Moment
  fromisoformat : String → Option Moment

namespace Json

mutual

/-- `repr(v)`. -/
def repr (py : Stdlib) : Json → String
  | .null => "None"
  | .bool b => if b then "True" else "False"
  | .int i => toString i
  | .float _ text => text
  | .str s => py.reprStr s
  | .arr items => "[" ++ ", ".intercalate (reprItems py items) ++ "]"
  | .obj fields => "\x7b" ++ ", ".intercalate (reprFields py fields) ++ "\x7d"

def reprItems (py : Stdlib) : List Json → List String
  | [] => []
  | v :: items => repr py v :: reprItems py items

def reprFields (py : Stdlib) : List (String × Json) → List String
  | [] => []
  | (k, v) :: fields => (py.reprStr k ++ ": " ++ repr py v) :: reprFields py fields

end

/-- The text of a value in an f-string. -/
def format (py : Stdlib) : Json → String
  | .str s => s
  | v => v.repr py

/-- `v.name`, for an attribute only strings have. -/
def strAttr (name : String) : Json → Except PyError String
  | .str s => .ok s
  | v => .error (.attributeError ("'" ++ v.typeName ++ "' object has no attribute '" ++ name ++ "'"))

/-- `v.get`, an attribute only dictionaries have. -/
def dictGet : Json → Except PyError Dict
  | .obj fields => .ok fields
  | v => .error (.attributeError ("'" ++ v.typeName ++ "' object has no attribute 'get'"))

/-- The text `re.sub` is given. -/
def subText : Json → Except PyError String
  | .str s => .ok s
  | v => .error (.typeError ("expected string or bytes-like object, got '" ++ v.typeName ++ "'"))

/-- `len(v)`. -/
def len : Json → Except PyError Nat
  | .str s => .ok s.length
  | .arr items => .ok items.length
  | .obj fields => .ok fields.length
  | v => .error (.typeError ("object of type '" ++ v.typeName ++ "' has no len()"))

/-- `v > n` for an `int` literal `n`. -/
def greater (v : Json) (n : Int) : Except PyError Bool :=
  match v with
  | .bool b => .ok (decide (n < b.toInt))
  | .int i => .ok (decide (n < i))
  | .float x _ => .ok (decide ((n : ℚ) < x))
  | v => .error (.typeError
      ("'>' not supported between instances of '" ++ v.typeName ++ "' and 'int'"))

/-- Whether a value is a string. -/
def isText : Json → Bool
  | .str _ => true
  | _ => false

end Json

namespace Moment

def microsPerDay : Nat := 86400000000

/-- `datetime.max`: the first microsecond after year 9999. -/
def maxMicros : Nat := 3652059 * microsPerDay

/-- The month and the day of a day of the year, from the lengths of the months left. -/
def monthDay : List Nat → Nat → Nat → Nat × Nat
  | [], month, day => (month, day + 1)
  | len :: lens, month, day => if day < len then (month, day + 1) else monthDay lens (month + 1) (day - len)

/-- The date of the day `n` days after 0001-01-01. -/
def civil (n : Nat) : Nat × Nat × Nat :=
  let n400 := n / 146097
  let n := n % 146097
  -- the last day of a cycle belongs to its last year
  let n100 := min (n / 36524) 3
  let n := n - n100 * 36524
  let n4 := n / 1461
  let n := n % 1461
  let n1 := min (n / 365) 3
  let n := n - n1 * 365
  let leap := n1 == 3 && (n4 != 24 || n100 == 3)
  (n400 * 400 + n100 * 100 + n4 * 4 + n1 + 1,
    monthDay [31, if leap then 29 else 28, 31, 30, 31, 30, 31, 31, 30, 31, 30, 31] 1 n)

/-- `isoformat()` of the UTC time `micros` microseconds after the start of year 1. -/
def utcIso (micros : Nat) : String :=
  let (year, month, day) := civil (micros / microsPerDay)
  let us := micros % microsPerDay
  String.ofList
    (Decimal.pad 4 year ++ '-' :: Decimal.pad 2 month ++ '-' :: Decimal.pad 2 day ++
      'T' :: Decimal.pad 2 (us / 3600000000) ++ ':' :: Decimal.pad 2 (us / 60000000 % 60) ++
      ':' :: Decimal.pad 2 (us / 1000000 % 60) ++ Calendar.fraction (us % 1000000) ++
      "+00:00".toList)

/-- `m.astimezone(UTC).isoformat()`; a naive `m` has been given the zone UTC before. -/
def astimezoneIso (m : Moment) : Except PyError String :=
  if 0 ≤ m.micros ∧ m.micros < maxMicros then .ok (utcIso m.micros.toNat)
  else .error (.overflowError "date value out of range")

example : utcIso (739852 * microsPerDay + 36004500000) = "2026-08-25T10:00:04.500000+00:00" := by
  decide

end Moment

end InstantBoard
