import AuthGate.Json.Parser
import AuthGate.Text.Blank
import AuthGate.Value.Text

/-!
The numbers that values count as. A text counts as the numeral that it holds between blanks: a
decimal one, in which either side of the point may be missing, or an unsigned one of base 2, 8 or
16. A text of blanks counts as zero and any other as no number.
-/

namespace AuthGate

namespace Number

def splitDecimal (cs : List Char) : List Char × List Char × List Char :=
  let (whole, r) := Json.digits cs
  match r with
  | '.' :: r => (whole, Json.digits r)
  | r => (whole, [], r)

def decimal? (negative : Bool) (cs : List Char) : Option Number :=
  if cs = "Infinity".toList then some (.infinite negative)
  else
    let (whole, frac, r) := splitDecimal cs
    let scaled (e : Int) : Number :=
      ofDecimal negative (whole ++ frac) (e - frac.length)
    if whole.isEmpty && frac.isEmpty then none
    else match r with
      | [] => some (scaled 0)
      | 'e' :: r | 'E' :: r =>
        match Json.exponent r with
        | some (e, []) => some (scaled e)
        | _ => none
      | _ => none

def digit? (base : Nat) (c : Char) : Option Nat := (Json.hexValue c).filter (· < base)

def inBase? (base : Nat) (cs : List Char) : Option Number :=
  if cs.isEmpty then none
  else (cs.mapM (digit? base)).map fun ds => ofNat (ds.foldl (fun n d => base * n + d) 0)

def numeral? : List Char → Option Number
  | [] => some zero
  | '0' :: 'x' :: r | '0' :: 'X' :: r => inBase? 16 r
  | '0' :: 'o' :: r | '0' :: 'O' :: r => inBase? 8 r
  | '0' :: 'b' :: r | '0' :: 'B' :: r => inBase? 2 r
  | '+' :: r => decimal? false r
  | '-' :: r => decimal? true r
  | r => decimal? false r

def ofText (s : String) : Number := (numeral? (Text.trim s.toList)).getD .nan

end Number

/-- The number that a value counts as: that of its text if it is a list or an object. -/
def Value.number? : Value → Option Number
  | .undefined => some .nan
  | .null => some .zero
  | .bool b => some (if b then .ofNat 1 else .zero)
  | .num n => some n
  | .date ms => some ms
  | v => v.text?.map Number.ofText

end AuthGate
