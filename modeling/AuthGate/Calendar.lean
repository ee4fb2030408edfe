import AuthGate.Number.Decimal

/-!
Instants of the proleptic Gregorian calendar in UTC. Times are milliseconds since 1970; those
further than 8.64e15 from it are no instants.
-/

namespace AuthGate.Calendar

structure Day where
  year : Int
  month : Nat
  day : Nat
deriving DecidableEq, Repr

/-- The calendar day with the given number of days since 1970-01-01. Eras of 400 years have 146097
days, and the year is counted from March so that the leap day comes last. -/
def dayOf (days : Int) : Day :=
  let z := days + 719468
  let era := z.fdiv 146097
  let doe := (z - era * 146097).toNat
  let yoe := (doe - doe / 1460 + doe / 36524 - doe / 146096) / 365
  let doy := doe - (365 * yoe + yoe / 4 - yoe / 100)
  let mp := (5 * doy + 2) / 153
  let month := if mp < 10 then mp + 3 else mp - 9
  { year := yoe + era * 400 + (if month ≤ 2 then 1 else 0)
    month := month
    day := doy - (153 * mp + 2) / 5 + 1 }

def padded (width n : Nat) : List Char := (Nat.toDigits 10 n).leftpad width '0'

/-- Four digits, or a sign and six outside the years 0 to 9999. -/
def yearText (y : Int) : List Char :=
  if 0 ≤ y ∧ y ≤ 9999 then padded 4 y.toNat
  else (if y < 0 then '-' else '+') :: padded 6 y.natAbs

def instant? (ms : Number) : Option Int :=
  match ms.toRat? with
  | some q =>
    let t := if q < 0 then -(-q).floor else q.floor
    if t.natAbs ≤ 8640000000000000 then some t else none
  | none => none

def iso (t : Int) : List Char :=
  let d := dayOf (t.fdiv 86400000)
  let ms := (t.fmod 86400000).toNat
  yearText d.year ++ '-' :: padded 2 d.month ++ '-' :: padded 2 d.day ++
    'T' :: padded 2 (ms / 3600000) ++ ':' :: padded 2 (ms / 60000 % 60) ++
    ':' :: padded 2 (ms / 1000 % 60) ++ '.' :: padded 3 (ms % 1000) ++ ['Z']

def iso? (ms : Number) : Option String := (instant? ms).map fun t => .ofList (iso t)

end AuthGate.Calendar
