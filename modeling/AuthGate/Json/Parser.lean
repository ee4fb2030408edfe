import AuthGate.Text.Utf8
import AuthGate.Value

/-!
Reading JSON text. Every function takes the rest of the text and returns what it read and what is
left. A later member with the key of an earlier one replaces its value in place.
-/

namespace AuthGate.Json

def isBlank (c : Char) : Bool := c = ' ' || c = '\t' || c = '\n' || c = '\r'

def skip : List Char → List Char
  | [] => []
  | c :: cs => if isBlank c then skip cs else c :: cs

def hexValue (c : Char) : Option Nat :=
  if c.isDigit then some (c.toNat - '0'.toNat)
  else if 'a' ≤ c ∧ c ≤ 'f' then some (c.toNat - 'a'.toNat + 10)
  else if 'A' ≤ c ∧ c ≤ 'F' then some (c.toNat - 'A'.toNat + 10)
  else none

def unit : List Char → Option (Nat × List Char)
  | a :: b :: c :: d :: r =>
    match hexValue a, hexValue b, hexValue c, hexValue d with
    | some a, some b, some c, some d => some (4096 * a + 256 * b + 16 * c + d, r)
    | _, _, _, _ => none
  | _ => none

/-- A code point from one or two `\u` units; half a pair alone is the replacement character. -/
def joinUnits (hi : Nat) (r : List Char) : Char × List Char :=
  if 0xD800 ≤ hi ∧ hi ≤ 0xDBFF then
    match r with
    | '\\' :: 'u' :: r' =>
      match unit r' with
      | some (lo, r'') =>
        if 0xDC00 ≤ lo ∧ lo ≤ 0xDFFF then
          (Char.ofNat (0x10000 + (hi - 0xD800) * 1024 + (lo - 0xDC00)), r'')
        else (Text.replacementChar, r)
      | none => (Text.replacementChar, r)
    | _ => (Text.replacementChar, r)
  else if 0xDC00 ≤ hi ∧ hi ≤ 0xDFFF then (Text.replacementChar, r)
  else (Char.ofNat hi, r)

def shortEscape : Char → Option Char
  | '"' => some '"'
  | '\\' => some '\\'
  | '/' => some '/'
  | 'b' => some '\x08'
  | 'f' => some '\x0c'
  | 'n' => some '\n'
  | 'r' => some '\r'
  | 't' => some '\t'
  | _ => none

def string (fuel : Nat) (seen : List Char) (cs : List Char) : Option (String × List Char) :=
  match fuel with
  | 0 => none
  | fuel + 1 =>
    match cs with
    | [] => none
    | '"' :: r => some (.ofList seen.reverse, r)
    | '\\' :: 'u' :: r =>
      match unit r with
      | some (u, r') =>
        let (c, r'') := joinUnits u r'
        string fuel (c :: seen) r''
      | none => none
    | '\\' :: e :: r =>
      match shortEscape e with
      | some c => string fuel (c :: seen) r
      | none => none
    | c :: r => if c.toNat < 32 ∨ c = '\\' then none else string fuel (c :: seen) r

def digits (cs : List Char) : List Char × List Char :=
  (cs.takeWhile Char.isDigit, cs.dropWhile Char.isDigit)

def exponent : List Char → Option (Int × List Char)
  | '+' :: r => unsigned 1 r
  | '-' :: r => unsigned (-1) r
  | r => unsigned 1 r
where
  unsigned (sign : Int) (r : List Char) : Option (Int × List Char) :=
    let (ds, r') := digits r
    if ds.isEmpty then none else some (sign * digitsValue ds, r')

def fraction : List Char → Option (List Char × List Char)
  | '.' :: r =>
    let (ds, r') := digits r
    if ds.isEmpty then none else some (ds, r')
  | r => some ([], r)

def scale : List Char → Option (Int × List Char)
  | 'e' :: r | 'E' :: r => exponent r
  | r => some (0, r)

def magnitude (negative : Bool) (cs : List Char) : Option (Number × List Char) := do
  let (whole, r) := digits cs
  if whole.isEmpty ∨ (1 < whole.length ∧ whole.head? = some '0') then none
  let (frac, r) ← fraction r
  let (e, r) ← scale r
  some (.ofDecimal negative (whole ++ frac) (e - frac.length), r)

def numeral : List Char → Option (Number × List Char)
  | '-' :: r => magnitude true r
  | r => magnitude false r

mutual

def value (fuel : Nat) (cs : List Char) : Option (Value × List Char) :=
  match fuel with
  | 0 => none
  | fuel + 1 =>
    match skip cs with
    | 'n' :: 'u' :: 'l' :: 'l' :: r => some (.null, r)
    | 't' :: 'r' :: 'u' :: 'e' :: r => some (.bool true, r)
    | 'f' :: 'a' :: 'l' :: 's' :: 'e' :: r => some (.bool false, r)
    | '"' :: r => (string fuel [] r).map fun (s, r) => (.str s, r)
    | '[' :: r =>
      match skip r with
      | ']' :: r' => some (.arr [], r')
      | r' => (items fuel [] r').map fun (vs, r) => (.arr vs, r)
    | '\x7b' :: r =>
      match skip r with
      | '\x7d' :: r' => some (.obj [], r')
      | r' => (members fuel [] r').map fun (fs, r) => (.obj fs, r)
    | r => (numeral r).map fun (n, r) => (.num n, r)

def items (fuel : Nat) (seen : List Value) (cs : List Char) : Option (List Value × List Char) :=
  match fuel with
  | 0 => none
  | fuel + 1 =>
    match value fuel cs with
    | some (v, r) =>
      match skip r with
      | ',' :: r' => items fuel (v :: seen) r'
      | ']' :: r' => some ((v :: seen).reverse, r')
      | _ => none
    | none => none

def members (fuel : Nat) (seen : Record) (cs : List Char) : Option (Record × List Char) :=
  match fuel with
  | 0 => none
  | fuel + 1 =>
    match skip cs with
    | '"' :: r =>
      match string fuel [] r with
      | some (k, r) =>
        match skip r with
        | ':' :: r =>
          match value fuel r with
          | some (v, r) =>
            match skip r with
            | ',' :: r' => members fuel (seen.set k v) r'
            | '\x7d' :: r' => some (seen.set k v, r')
            | _ => none
          | none => none
        | _ => none
      | none => none
    | _ => none

end

/-- The value of a whole text. An escape that is half a pair of code units alone is read as U+FFFD,
so texts are well-formed and no value that is read holds a `half`. Of two steps at least one consumes
a character, so twice the length bounds the steps. -/
def parse? (cs : List Char) : Option Value :=
  match value (2 * cs.length + 2) cs with
  | some (v, r) => if (skip r).isEmpty then some v else none
  | none => none

end AuthGate.Json
