import AuthGate.Calendar
import AuthGate.Value

/-!
JSON text of values, without blanks. Undefined fields are left out and undefined items are
`null`; numbers that are not finite are `null`, dates are their ISO instants. Half a pair of code
units is escaped where it stands alone.
-/

namespace AuthGate.Json

def hexDigit (n : Nat) : Char := (Nat.toDigits 16 n).headD '0'

def hex4 (n : Nat) : List Char :=
  [hexDigit (n / 4096 % 16), hexDigit (n / 256 % 16), hexDigit (n / 16 % 16), hexDigit (n % 16)]

def escape (c : Char) : List Char :=
  if c = '"' then ['\\', '"']
  else if c = '\\' then ['\\', '\\']
  else if c = '\x08' then ['\\', 'b']
  else if c = '\x0c' then ['\\', 'f']
  else if c = '\n' then ['\\', 'n']
  else if c = '\r' then ['\\', 'r']
  else if c = '\t' then ['\\', 't']
  else if c.toNat < 32 then '\\' :: 'u' :: hex4 c.toNat
  else [c]

def quote (s : List Char) : List Char := '"' :: (s.flatMap escape ++ ['"'])

def escapeUnit (u : UInt16) : List Char :=
  if Text.isHalf u then '\\' :: 'u' :: hex4 u.toNat else escape (Char.ofNat u.toNat)

def escapeUnits : List UInt16 → List Char
  | [] => []
  | u :: v :: r =>
    if Text.isHigh u && Text.isLow v then Text.joinHalves u v :: escapeUnits r
    else escapeUnit u ++ escapeUnits (v :: r)
  | [u] => escapeUnit u

def quoteUnits (us : List UInt16) : List Char := '"' :: (escapeUnits us ++ ['"'])

def number (n : Number) : List Char :=
  match n with
  | .nan | .infinite _ => "null".toList
  | n => n.chars

def separated : List (List Char) → List Char
  | [] => []
  | [t] => t
  | t :: u :: r => t ++ ',' :: separated (u :: r)

def object (members : List (String × List Char)) : List Char :=
  '\x7b' :: (separated (members.map fun m => quote m.1.toList ++ ':' :: m.2) ++ ['\x7d'])

mutual

def print? : Value → Option (List Char)
  | .undefined => none
  | .null => some "null".toList
  | .bool b => some (if b then "true".toList else "false".toList)
  | .num n => some (number n)
  | .str s => some (quote s.toList)
  | .half u => some (quoteUnits [u])
  | .date ms => some (((Calendar.iso? ms).map fun s => quote s.toList).getD "null".toList)
  | .arr items => some ('[' :: (separated (printItems items) ++ [']']))
  | .obj fields => some (object (printFields fields))

def printItems : List Value → List (List Char)
  | [] => []
  | v :: vs => (print? v).getD "null".toList :: printItems vs

def printFields : List (String × Value) → List (String × List Char)
  | [] => []
  | (k, v) :: r =>
    match print? v with
    | some t => (k, t) :: printFields r
    | none => printFields r

end

def print (v : Value) : List Char := (print? v).getD "null".toList

def text (v : Value) : String := .ofList (print v)

end AuthGate.Json
