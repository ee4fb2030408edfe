/-!
Binary64 numbers. A finite number is held as the rational it denotes, so comparison and
rounding are exact; `Number.ofRat` is the only place where a value is rounded.
-/

namespace AuthGate

inductive Number where
  | nan
  | infinite (negative : Bool)
  | negZero
  | finite (value : Rat)
deriving DecidableEq, Repr, Inhabited

namespace Number

def power (base : Nat) : Int → Rat
  | .ofNat k => (base.pow k : Nat)
  | .negSucc k => mkRat 1 (base.pow (k + 1))

def nearest (q : Rat) : Int :=
  let f := q.floor
  let r := q - f
  if r < 1 / 2 then f else if 1 / 2 < r then f + 1 else if f % 2 = 0 then f else f + 1

def log2 (q : Rat) : Int :=
  let k : Int := q.num.natAbs.log2 - q.den.log2
  if power 2 k ≤ q then k else k - 1

def spacing (q : Rat) : Rat :=
  power 2 (max (log2 q - 52) (-1074))

/-- The number nearest to a rational: 53 significant bits, exponents from -1074 to 1023. -/
def ofRat (q : Rat) : Number :=
  if q = 0 then .finite 0 else
  let a := if q < 0 then -q else q
  let r := nearest (a / spacing a) * spacing a
  if power 2 1024 ≤ r then .infinite (q < 0)
  else if r = 0 ∧ q < 0 then .negZero
  else .finite (if q < 0 then -r else r)

def ofInt (n : Int) : Number := ofRat n

def ofNat (n : Nat) : Number := ofInt n

def zero : Number := .finite 0

def toRat? : Number → Option Rat
  | .finite q => some q
  | .negZero => some 0
  | _ => none

def isNaN : Number → Bool
  | .nan => true
  | _ => false

def isZero : Number → Bool
  | .negZero => true
  | .finite q => q = 0
  | _ => false

def isBlank (x : Number) : Bool := x.isNaN || x.isZero

def lt : Number → Number → Bool
  | .nan, _ => false
  | _, .nan => false
  | .infinite s, .infinite t => s && !t
  | .infinite s, _ => s
  | _, .infinite t => !t
  | x, y => (x.toRat?.getD 0) < (y.toRat?.getD 0)

def le : Number → Number → Bool
  | .nan, _ => false
  | _, .nan => false
  | x, y => !lt y x

def add : Number → Number → Number
  | .nan, _ => .nan
  | _, .nan => .nan
  | .infinite s, .infinite t => if s = t then .infinite s else .nan
  | .infinite s, _ => .infinite s
  | _, .infinite t => .infinite t
  | .negZero, y => y
  | x, .negZero => x
  | .finite p, .finite q => ofRat (p + q)

def sub : Number → Number → Number
  | x, .nan => add x .nan
  | x, .infinite t => add x (.infinite !t)
  | x, .negZero => add x (.finite 0)
  | x, .finite q => add x (if q = 0 then .negZero else .finite (-q))

def floor : Number → Number
  | .finite q => .finite q.floor
  | x => x

def seconds : Number → Number
  | .finite q => floor (if q = 0 then .finite 0 else ofRat (q / 1000))
  | x => x

def isInteger : Number → Bool
  | .finite q => q.den = 1
  | .negZero => true
  | _ => false

def maxSafe : Nat := 9007199254740991

def isSafeInteger (x : Number) : Bool :=
  x.isInteger && (match x.toRat? with
    | some q => decide (q.num.natAbs ≤ maxSafe)
    | none => false)

def isPositiveInteger (x : Number) : Bool := x.isInteger && lt zero x

def positiveSafe? : Number → Option Nat
  | .finite q => if q.den = 1 ∧ 0 < q.num ∧ q.num ≤ maxSafe then some q.num.toNat else none
  | _ => none

end Number

end AuthGate
