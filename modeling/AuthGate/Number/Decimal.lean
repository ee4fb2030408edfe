import AuthGate.Number

/-!
Decimal text of numbers: the fewest digits that read back as the same number, written
positionally below 10^21 and down to 10^-6, and with an exponent elsewhere.
-/

namespace AuthGate

def digitsValue (ds : List Char) : Nat := ds.foldl (fun n c => 10 * n + (c.toNat - '0'.toNat)) 0

namespace Number

def log10 (q : Rat) : Int :=
  let k : Int := (Nat.toDigits 10 q.num.natAbs).length - (Nat.toDigits 10 q.den).length
  if power 10 k ≤ q then k else k - 1

/-- The multiple of `10 ^ g` that reads back as `q`; of two, the nearer, and at a tie the even one. -/
def multipleFor (q : Rat) (g : Int) : Option Nat :=
  let step := power 10 g
  let lo := (q / step).floor
  let back (c : Int) : Bool := ofRat (c * step) = .finite q
  match back lo, back (lo + 1) with
  | true, true => some (nearest (q / step)).toNat
  | true, false => some lo.toNat
  | false, true => some (lo + 1).toNat
  | false, false => none

/-- Significant digits and the exponent of the last one. Seventeen digits always suffice. -/
def shortest (q : Rat) : Nat × Int :=
  let k := log10 q + 1
  ((List.range 18).findSome? fun (n : Nat) => (multipleFor q (k - n)).map fun m => (m, k - n)).getD
    ((q / power 10 (k - 17)).floor.toNat, k - 17)

def layout (ds : List Char) (g : Int) : List Char :=
  let point := ds.length + g
  if 0 ≤ g ∧ point ≤ 21 then ds ++ List.replicate g.toNat '0'
  else if 0 < point ∧ point ≤ 21 then
    ds.take point.toNat ++ '.' :: ds.drop point.toNat
  else if -6 < point ∧ point ≤ 0 then
    '0' :: '.' :: (List.replicate (-point).toNat '0' ++ ds)
  else
    let e := point - 1
    ds.take 1 ++ (if ds.length ≤ 1 then [] else '.' :: ds.drop 1) ++
      'e' :: (if e < 0 then '-' else '+') :: Nat.toDigits 10 e.natAbs

def magnitudeText (q : Rat) : List Char :=
  if q.den = 1 ∧ q.num.natAbs ≤ maxSafe then Nat.toDigits 10 q.num.natAbs
  else
    let (m, g) := shortest q
    layout (Nat.toDigits 10 m) g

def chars : Number → List Char
  | .nan => "NaN".toList
  | .infinite s => if s then "-Infinity".toList else "Infinity".toList
  | .negZero => ['0']
  | .finite q => if q < 0 then '-' :: magnitudeText (-q) else magnitudeText q

def text (x : Number) : String := .ofList x.chars

/-- The number nearest to the value of digits times `10 ^ exponent`. Values far outside the range of
numbers are decided by the count of the digits that are left without zeros in front. -/
def ofDecimal (negative : Bool) (digits : List Char) (exponent : Int) : Number :=
  let digits := digits.dropWhile (· = '0')
  let size := digits.length + exponent
  let zero : Number := if negative then .negZero else .finite 0
  if digits.isEmpty then zero
  else if 400 < size then .infinite negative
  else if size < -400 then zero
  else ofRat ((if negative then -1 else 1) * digitsValue digits * power 10 exponent)

end Number

end AuthGate
