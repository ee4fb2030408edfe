import AuthGate.Number.Decimal
import AuthGate.Text.Units

/-!
Untyped values, as request bodies, token payloads, log contexts and database rows hold them.
The fields of an object are kept in the order in which they are listed: keys that are array
indices first, ascending, then the others as they were first written.
-/

namespace AuthGate

/-- Texts are well-formed Unicode. This is a restriction: none of them holds half a pair of code
units alone, and where JSON escapes one it is read as U+FFFD and not kept. A half is a value of its
own, which only the taking of one code unit of a text gives. -/
inductive Value where
  | undefined
  | null
  | bool (b : Bool)
  | num (n : Number)
  | str (s : String)
  | half (unit : UInt16)
  | date (ms : Number)
  | arr (items : List Value)
  | obj (fields : List (String × Value))
deriving Repr, Inhabited

abbrev Record := List (String × Value)

/-- The index that a key spells, if it is the decimal numeral of a number below 2^32 - 1. -/
def arrayIndex? (key : String) : Option Nat :=
  let n := digitsValue key.toList
  if Nat.toDigits 10 n = key.toList ∧ n < 4294967295 then some n else none

namespace Record

def get (r : Record) (key : String) : Value := (r.lookup key).getD .undefined

def has (r : Record) (key : String) : Bool := (r.lookup key).isSome

def keys (r : Record) : List String := r.map (·.1)

def replace (key : String) (v : Value) : Record → Record
  | [] => []
  | (k, w) :: r => if k = key then (k, v) :: r else (k, w) :: replace key v r

/-- Puts an index key before the first key that is no smaller index. -/
def insertIndex (i : Nat) (key : String) (v : Value) : Record → Record
  | [] => [(key, v)]
  | (k, w) :: r =>
    match arrayIndex? k with
    | some j => if j < i then (k, w) :: insertIndex i key v r else (key, v) :: (k, w) :: r
    | none => (key, v) :: (k, w) :: r

def set (r : Record) (key : String) (v : Value) : Record :=
  if r.has key then replace key v r
  else match arrayIndex? key with
    | some i => insertIndex i key v r
    | none => r ++ [(key, v)]

/-- Plain assignment: the key `__proto__` names no field, so assigning to it leaves none. -/
def assign (r : Record) (key : String) (v : Value) : Record :=
  if key = "__proto__" then r else r.set key v

def ofList (l : List (String × Value)) : Record := l.foldl (fun r p => set r p.1 p.2) []

def merge (r s : Record) : Record := s.foldl (fun r p => set r p.1 p.2) r

end Record

namespace Value

def ofNat (n : Nat) : Value := .num (.ofNat n)

def record (l : List (String × Value)) : Value := .obj (Record.ofList l)

def texts (l : List String) : Value := .arr (l.map .str)

def field (v : Value) (key : String) : Value :=
  match v with
  | .obj r => Record.get r key
  | _ => .undefined

def ofUnit (u : UInt16) : Value :=
  if Text.isHalf u then .half u else .str (String.singleton (Char.ofNat u.toNat))

/-- What a value holds under keys: the fields of an object, and the items of a list and code units
of a text under their indices. -/
def entries : Value → Record
  | .obj r => r
  | .arr items => items.mapIdx fun i v => (toString i, v)
  | .str s => (Text.units s).mapIdx fun i u => (toString i, ofUnit u)
  | _ => []

def asText : Value → String
  | .str s => s
  | _ => ""

/-- Whether two values are the same. Dates, lists and objects are the same as nothing else. -/
def same : Value → Value → Bool
  | .undefined, .undefined => true
  | .null, .null => true
  | .bool a, .bool b => a = b
  | .num m, .num n => m = n || m.isZero && n.isZero
  | .str s, .str t => s = t
  | .half u, .half v => u = v
  | _, _ => false

/-- A value as a member of a set or a key of a map, where a zero has no sign. -/
def asMember : Value → Value
  | .num .negZero => .num .zero
  | v => v

def isText : Value → Bool
  | .str _ => true
  | _ => false

/-- Values that are told apart by where they are held and not by what they hold. -/
def isCompound : Value → Bool
  | .date _ | .arr _ | .obj _ => true
  | _ => false

def isUndefined : Value → Bool
  | .undefined => true
  | _ => false

def isNull : Value → Bool
  | .null => true
  | _ => false

def isAbsent (v : Value) : Bool := v.isUndefined || v.isNull

/-- Absence, zero, not-a-number and the empty text count as false. -/
def truthy : Value → Bool
  | .undefined | .null => false
  | .bool b => b
  | .num n => !n.isBlank
  | .str s => s ≠ ""
  | .half _ | .date _ | .arr _ | .obj _ => true

end Value

end AuthGate
