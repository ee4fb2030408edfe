import AuthGate.Failure
import AuthGate.Log.Redaction

/-!
Objects that descend from others. In a redacted object `__proto__` is no field: its value, if it is
an object, a list or a date, is the parent of the object, which has all that the parent has except
what it has under the same name itself. An object that descends from a date is asked for the text
of a date when it is written, and has none.
-/

namespace AuthGate.Log

/-- The failure of an object to answer as the date that it descends from. It is asked for its number
or else for its text, whichever has not been replaced; `own` are the names that have been. -/
def dateFault? (own : List String) : Option Failure :=
  if "toJSON" ∈ own then none
  else if "valueOf" ∈ own ∧ "toString" ∈ own then some .noText
  else some (.typeError "this is not a Date object.")

mutual

/-- What keeps an object with this ancestor from being written; `own` are the names of what stands
between the two. -/
def ancestorFault? (own : List String) : Value → Option Failure
  | .date _ => dateFault? own
  | .obj fields => parentFault? (fields.map (·.1) ++ own) fields
  | _ => none

def parentFault? (own : List String) : List (String × Value) → Option Failure
  | [] => none
  | (k, v) :: r => if k = "__proto__" then ancestorFault? own v else parentFault? own r

end

mutual

/-- What keeps a value from being written after it is redacted: the first fault in the order of the
text. -/
def fault? : Value → Option Failure
  | .arr items => itemsFault? items
  | .obj fields => (parentFault? (fields.map (·.1)) fields).or (fieldsFault? fields)
  | _ => none

def itemsFault? : List Value → Option Failure
  | [] => none
  | v :: vs => (fault? v).or (itemsFault? vs)

def fieldsFault? : List (String × Value) → Option Failure
  | [] => none
  | (k, v) :: r =>
    if k = "__proto__" ∨ isPersonal k then fieldsFault? r else (fault? v).or (fieldsFault? r)

end

end AuthGate.Log
