import AuthGate.Json.Printer
import AuthGate.Moment

namespace AuthGate

structure Response where
  status : Nat
  body : String
deriving DecidableEq, Repr

def requestId (n : Nat) : String :=
  "00000000-0000-4000-8000-" ++ String.ofList ((Nat.toDigits 16 n).leftpad 12 '0')

def idOr (fresh : String) (id : Value) : Value := if id.truthy then id else .str fresh

inductive ErrorCode where
  | validation
  | invalidToken
  | invalidCredentials
  | inactiveUser
  | authentication
  | authorization
  | notFound
  | internal
  | unavailable
deriving DecidableEq, Repr

def ErrorCode.label : ErrorCode → String
  | validation => "VALIDATION_ERROR"
  | invalidToken => "INVALID_TOKEN"
  | invalidCredentials => "INVALID_CREDENTIALS"
  | inactiveUser => "INACTIVE_USER"
  | authentication => "AUTHENTICATION_ERROR"
  | authorization => "AUTHORIZATION_ERROR"
  | notFound => "NOT_FOUND"
  | internal => "INTERNAL_ERROR"
  | unavailable => "SERVICE_UNAVAILABLE"

namespace Response

def headers : List (String × String) :=
  [("Content-Type", "application/json"), ("Cache-Control", "no-store")]

def successBody (m : Moment) (requestId data : Value) : Except Failure String :=
  match Calendar.iso? m.wall with
  | some time =>
    .ok (Json.text (.obj [("request_id", requestId), ("timestamp", .str time), ("data", data)]))
  | none => .error (.rangeError "Invalid time value")

/-- Details that are empty text, zero or absent are left out. -/
def errorBody (code requestId message details : Value) : String :=
  Json.text (.obj [("error", .obj
    [("code", code), ("message", message), ("request_id", requestId),
      ("details", if details.truthy then details else .undefined)])])

def success (m : Moment) (requestId data : Value) : Except Failure Response :=
  (successBody m requestId data).map fun body => { status := 200, body }

def error (status : Nat) (code : ErrorCode) (requestId : Value) (message : String)
    (details : Value) : Response :=
  { status, body := errorBody (.str code.label) requestId (.str message) details }

def internalMessage : String := "Internal server error"

def unavailableMessage : String := "Service temporarily unavailable"

def databaseMessage : String := "Database connection failed"

def plain (status : Nat) (code : ErrorCode) (requestId : Value) (message : String) : Response :=
  error status code requestId message .undefined

def notFound (requestId : Value) (message : String) : Response :=
  plain 404 .notFound requestId message

def unavailable (requestId : Value) (message : String) : Response :=
  plain 503 .unavailable requestId message

end Response

end AuthGate
