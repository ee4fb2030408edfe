import AuthGate.Calendar
import AuthGate.Text.Utf8
import AuthGate.Value

/-!
Plain text of values. A list is its items joined by commas, with nothing for absent ones; an object
has no text of its own and shows a placeholder; a date is its day and time in UTC. An object with a
field `toString` cannot be shown at all, and neither can a list that holds one.
-/

namespace AuthGate.Value

def dayNames : List String := ["Thu", "Fri", "Sat", "Sun", "Mon", "Tue", "Wed"]

def monthNames : List String :=
  ["Jan", "Feb", "Mar", "Apr", "May", "Jun", "Jul", "Aug", "Sep", "Oct", "Nov", "Dec"]

def dateText (ms : Number) : String :=
  match Calendar.instant? ms with
  | none => "Invalid Date"
  | some t =>
    let days := t.fdiv 86400000
    let d := Calendar.dayOf days
    let s := (t.fmod 86400000).toNat / 1000
    let two (n : Nat) : String := .ofList (Calendar.padded 2 n)
    let year := (if d.year < 0 then "-" else "") ++ String.ofList (Calendar.padded 4 d.year.natAbs)
    dayNames.getD (days.fmod 7).toNat "" ++ " " ++ monthNames.getD (d.month - 1) "" ++ " " ++
      two d.day ++ " " ++ year ++ " " ++ two (s / 3600) ++ ":" ++ two (s / 60 % 60) ++ ":" ++
      two (s % 60) ++ " GMT+0000 (Coordinated Universal Time)"

mutual

def text? : Value → Option String
  | .undefined => some "undefined"
  | .null => some "null"
  | .bool b => some (if b then "true" else "false")
  | .num n => some n.text
  | .str s => some s
  | .half _ => some (String.singleton Text.replacementChar)
  | .date ms => some (dateText ms)
  | .arr items => (itemTexts? items).map (",".intercalate ·)
  | .obj fields => if Record.has fields "toString" then none else some "[object Object]"

def itemTexts? : List Value → Option (List String)
  | [] => some []
  | v :: vs =>
    match (match v with
      | .undefined | .null => some ""
      | v => text? v), itemTexts? vs with
    | some t, some ts => some (t :: ts)
    | _, _ => none

end

end AuthGate.Value
