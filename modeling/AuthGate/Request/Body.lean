import AuthGate.Failure
import AuthGate.Request.Email

namespace AuthGate

namespace Form

inductive Problem where
  | missing
  | unknown
  | notText
  | tooLong (limit : Nat)
  | tooShort (limit : Nat)
  | notEmail
  | notObject
deriving DecidableEq, Repr

def Problem.text : Problem → String
  | missing => "Field required"
  | unknown => "Unknown field"
  | notText => "Expected string"
  | tooLong n => s!"Must be at most {n} characters"
  | tooShort n => s!"Must be at least {n} characters"
  | notEmail => "Invalid format, expected email"
  | notObject => "Expected object"

/-- A text field, whose length is counted in characters. -/
structure Field where
  name : String
  atLeast : Nat
  atMost : Nat
  isEmail : Bool
deriving DecidableEq, Repr

namespace Field

def textProblems (f : Field) (s : String) : List Problem :=
  (if f.atMost < s.length then [.tooLong f.atMost] else []) ++
    (if s.length < f.atLeast then [.tooShort f.atLeast] else []) ++
    (if f.isEmail && !Email.isAddress s.toList then [.notEmail] else [])

/-- Bodies are read from JSON, so they hold no `half`, which would be a text of one character. -/
def problems (f : Field) : Value → List Problem
  | .undefined => []
  | .str s => f.textProblems s
  | _ => [.notText]

end Field

def missing (form : List Field) (body : Record) : List (String × Problem) :=
  (form.filter fun f => (body.get f.name).isUndefined).map fun f => (f.name, .missing)

def unknown (form : List Field) (body : Record) : List (String × Problem) :=
  (body.filter fun p => !(form.any fun f => f.name = p.1)).map fun p => (p.1, .unknown)

def wrong (form : List Field) (body : Record) : List (String × Problem) :=
  form.flatMap fun f => (f.problems (body.get f.name)).map fun p => (f.name, p)

def faults (form : List Field) (body : Record) : List (String × Problem) :=
  missing form body ++ unknown form body ++ wrong form body

/-- Of two problems of one field, the later is told. -/
def details (faults : List (String × Problem)) : Record :=
  faults.foldl (fun r p => Record.assign r p.1 (.str p.2.text)) []

def refuse (faults : List (String × Problem)) : Failure :=
  .validation "Validation error." (.obj (details faults))

/-- The fields of an object; a date is an object without fields. -/
def fields? : Value → Option Record
  | .obj r => some r
  | .date _ => some []
  | _ => none

def check (form : List Field) (body : Value) : Except Failure Record :=
  match fields? body with
  | none => .error (refuse [("body", .notObject)])
  | some r => if (faults form r).isEmpty then .ok r else .error (refuse (faults form r))

end Form

structure Login where
  email : String
  password : String
deriving DecidableEq, Repr

def loginForm : List Form.Field :=
  [⟨"email", 0, 320, true⟩, ⟨"password", 1, 1024, false⟩]

def refreshForm : List Form.Field := [⟨"refresh_token", 1, 8192, false⟩]

def Login.ofBody (body : Value) : Except Failure Login :=
  (Form.check loginForm body).map fun r =>
    { email := (r.get "email").asText, password := (r.get "password").asText }

def presentedToken (body : Value) : Except Failure String :=
  (Form.check refreshForm body).map fun r => (r.get "refresh_token").asText

end AuthGate
