import AuthGate.Value.Numeric

/-!
Why an operation fails. A failure is an error with a name and a message, or a bare value that was
raised in place of one. Values of an unexpected kind make the operations that use them fail; those
failures are here too.
-/

namespace AuthGate

inductive TokenFault where
  | invalidToken
  | invalidSignature
  | expired
  | audienceMismatch
  | unlisted (code : Value)
deriving Repr

namespace TokenFault

def code : TokenFault → Value
  | invalidToken => .str "INVALID_TOKEN"
  | invalidSignature => .str "INVALID_SIGNATURE"
  | expired => .str "EXPIRED_TOKEN"
  | audienceMismatch => .str "AUDIENCE_MISMATCH"
  | unlisted v => v

def listed : List TokenFault := [invalidToken, invalidSignature, expired, audienceMismatch]

def ofCode (v : Value) : TokenFault := (listed.find? (·.code.same v)).getD (unlisted v)

end TokenFault

inductive AuthFault where
  | missingToken
  | unknownPrincipal
  | inactivePrincipal
  | revokedToken
  | token (fault : TokenFault)
deriving Repr

namespace AuthFault

def code : AuthFault → Value
  | missingToken => .str "MISSING_TOKEN"
  | unknownPrincipal => .str "UNKNOWN_PRINCIPAL"
  | inactivePrincipal => .str "INACTIVE_PRINCIPAL"
  | revokedToken => .str "REVOKED_TOKEN"
  | token f => f.code

def own : List AuthFault := [missingToken, unknownPrincipal, inactivePrincipal, revokedToken]

def ofCode (v : Value) : AuthFault := (own.find? (·.code.same v)).getD (token (.ofCode v))

end AuthFault

inductive Failure where
  | token (fault : TokenFault) (message : String) (cause : Option Failure)
  | auth (fault : AuthFault) (message : String) (cause : Option Failure)
  | invalidCredentials (message : String)
  | inactivePrincipal (principalId : Value) (message : String)
  | permissionDenied (permission : Value) (message : String)
  | notFound (message : String)
  | badRequest (message : String)
  | validation (message : String) (details : Value)
  | wrongKind (message : String)
  | other (name message : String)
  | bare (value : Value)
deriving Repr, Inhabited

namespace Failure

def error (message : String) : Failure := other "Error" message

def rangeError (message : String) : Failure := other "RangeError" message

def typeError (message : String) : Failure := other "TypeError" message

/-- A value without text was used where its text is needed. -/
def noText : Failure := typeError "Cannot convert object to primitive value"

def unreadable (absent key : String) : Failure :=
  typeError s!"Cannot read properties of {absent} (reading '{key}')"

end Failure

namespace Value

def text (v : Value) : Except Failure String :=
  match v.text? with
  | some t => .ok t
  | none => .error .noText

def number (v : Value) : Except Failure Number :=
  match v.number? with
  | some n => .ok n
  | none => .error .noText

def read (v : Value) (key : String) : Except Failure Value :=
  match v with
  | .undefined => .error (.unreadable "undefined" key)
  | .null => .error (.unreadable "null" key)
  | v => .ok (v.field key)

/-- The text that a value is, for an operation on texts alone; `called` is what the value is called
where it is used. -/
def textFor (operation called : String) (v : Value) : Except Failure String :=
  match v with
  | .str s => .ok s
  | .undefined => .error (.unreadable "undefined" operation)
  | .null => .error (.unreadable "null" operation)
  | _ => .error (.typeError s!"{called}.{operation} is not a function")

/-- What an object of a wrong kind is called: after its maker, if that is an object with a name. -/
def objectKind (r : Record) : Except Failure String := do
  let maker := r.get "constructor"
  if !r.has "constructor" then return "an instance of Object"
  if !maker.truthy then return "[Object]"
  match maker with
  | .obj m =>
    if Record.has m "name" then return "an instance of " ++ (← (Record.get m "name").text)
    else return "[Object]"
  | .arr _ | .date _ => return "[Object]"
  | v => throw (.typeError ("Cannot use 'in' operator to search for 'name' in " ++ (← v.text)))

def kind : Value → Except Failure String
  | .undefined => .ok "undefined"
  | .null => .ok "null"
  | .bool b => .ok ("type boolean (" ++ (if b then "true" else "false") ++ ")")
  | .num n => .ok ("type number (" ++ (if n = .negZero then "-0" else n.text) ++ ")")
  | .str s => .ok ("type string ('" ++ s ++ "')")
  | .half _ => .ok ("type string ('" ++ String.singleton Text.replacementChar ++ "')")
  | .date _ => .ok "an instance of FakeDate"
  | .arr _ => .ok "an instance of Array"
  | .obj r => objectKind r

end Value

namespace Failure

def notOfKind (argument expected : String) (v : Value) : Failure :=
  match v.kind with
  | .ok k => wrongKind
      s!"The {argument} must be of type string or an instance of {expected}. Received {k}"
  | .error f => f

def wrongCredentials : Failure := invalidCredentials "Invalid credentials."

def inactive (principalId : Value) : Failure := inactivePrincipal principalId "Inactive user."

/-- A permission that has no text cannot be named in a message. -/
def denied (permission : Value) : Failure :=
  match permission.text? with
  | some t => permissionDenied permission s!"Insufficient permissions. Required permission: {t}"
  | none => noText

def name : Failure → String
  | token .. => "TokenError"
  | auth .. => "AuthError"
  | invalidCredentials _ => "InvalidCredentialsError"
  | inactivePrincipal .. => "InactivePrincipalError"
  | permissionDenied .. => "PermissionDeniedError"
  | notFound _ => "NotFoundError"
  | badRequest _ => "BadRequestError"
  | validation .. => "ValidationError"
  | wrongKind _ => "TypeError"
  | other n _ => n
  | bare _ => "thrown"

def message : Failure → String
  | token _ m _ | auth _ m _ => m
  | invalidCredentials m | notFound m | badRequest m => m
  | inactivePrincipal _ m | permissionDenied _ m => m
  | validation m _ => m
  | wrongKind m | other _ m => m
  | bare v => v.text?.getD ""

/-- Where a failure was raised is not part of the model; this stands for the text that tells it. -/
@[irreducible]
def stack (_ : Failure) : String := "<stack>"

def code : Failure → Value
  | token f _ _ => f.code
  | auth f _ _ => f.code
  | wrongKind _ => .str "ERR_INVALID_ARG_TYPE"
  | _ => .undefined

def cause? : Failure → Option Failure
  | token _ _ c | auth _ _ c => c
  | _ => none

def reason (f : Failure) : String :=
  match f with
  | bare _ => "Unknown error"
  | f => f.message

/-- The same failure as an error: the text of a bare value becomes the message of one. -/
def asError : Failure → Except Failure Failure
  | bare v => v.text.map error
  | f => .ok f

end Failure

end AuthGate
