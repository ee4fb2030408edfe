import AuthGate.Response
import AuthGate.Service.Program

namespace AuthGate.Failure

open Program

def connectionPatterns : List String :=
  ["econnrefused", "etimedout", "enotfound", "connection terminated", "connection refused",
    "connect timeout"]

def occursIn (pattern : List Char) : List Char → Bool
  | [] => pattern.isEmpty
  | c :: r => pattern.isPrefixOf (c :: r) || occursIn pattern r

def isConnectionLoss (message : String) : Bool :=
  connectionPatterns.any fun p => occursIn p.toList (Text.lower message).toList

def unhandled (requestId : Value) (f : Failure) : Log.Entry :=
  .note (.str Log.error) (.str "Unhandled error")
    (.obj [("request_id", requestId), ("error_name", .str f.name),
      ("error_message", .str f.message), ("stack", .str f.stack)])

def internal (m : Moment) (requestId : Value) (fresh : String) (f : Failure) :
    Program Response := do
  log m (unhandled requestId f)
  return .error 500 .internal (idOr fresh requestId) Response.internalMessage
    (if m.development then .obj [("error", .str f.message)] else .undefined)

def respondOther (m : Moment) (requestId : Value) (fresh : String) (f : Failure) :
    Program Response :=
  if isConnectionLoss f.message then
    return .unavailable (idOr fresh requestId) Response.databaseMessage
  else internal m requestId fresh f

def respondError (m : Moment) (requestId : Value) (fresh : String) (f : Failure) :
    Program Response :=
  let id := idOr fresh requestId
  match f with
  | token fault _ _ =>
    return .error 400 .invalidToken id "Invalid JWT." (.obj [("reason", fault.code)])
  | invalidCredentials message => return .plain 400 .invalidCredentials id message
  | inactivePrincipal _ message => return .plain 400 .inactiveUser id message
  | auth _ message _ => return .plain 401 .authentication id message
  | permissionDenied _ message => return .plain 403 .authorization id message
  | notFound message => return .notFound id message
  | validation message details => return .error 400 .validation id message details
  | badRequest message => return .plain 400 .validation id message
  | f => respondOther m requestId fresh f

def respond (m : Moment) (requestId : Value) (fresh : String) (f : Failure) : Program Response := do
  respondError m requestId fresh (← done f.asError)

end AuthGate.Failure
