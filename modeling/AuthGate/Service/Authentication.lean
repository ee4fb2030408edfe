import AuthGate.Request.Header
import AuthGate.Service.Program
import AuthGate.Settings

/-!
Authentication of requests by the header `Authorization: <scheme> <token>`. A request without the
header, or with another scheme, is anonymous; what is wrong with a credential is only logged.
-/

namespace AuthGate

structure Credentials where
  scheme : String
  token : String
  claims : Token.AccessClaims
deriving DecidableEq, Repr

inductive Authentication where
  | anonymous
  | authenticated (credentials : Credentials) (principal : Principal)
  | rejected (f : Failure)
deriving Repr

namespace Authentication

open Program

def failedMessage : String := "Authentication failed"

def reject (m : Moment) (requestId : Value) (fault : AuthFault) (reason : String)
    (cause : Failure) : Program Authentication := do
  log m (.authentication requestId .undefined (.bool false) fault.code (.str reason))
  return .rejected (.auth fault failedMessage (some cause))

def words (headers : Value) : Except Failure (List String) := do
  let header ← Header.find headers (.str "authorization")
  if header.isAbsent then return []
  let text ← header.textFor "trim" "getHeader(...)?"
  return (Text.words text.toList).map String.ofList

def checkUser (m : Moment) (requestId : Value) (credentials : Credentials) :
    Option User → Program Authentication
  | none =>
    let reason := s!"User {credentials.claims.id} not found"
    reject m requestId .unknownPrincipal reason (.error reason)
  | some u =>
    if u.status = .confirmed then do
      log m (.authentication requestId u.id (.bool true) .undefined .undefined)
      return .authenticated credentials u.principal
    else do
      let id ← done u.id.text
      let reason := s!"User {id} has status {u.status.label}"
      reject m requestId .inactivePrincipal reason (.error reason)

def checkToken (t : Token.Issuer) (m : Moment) (requestId : Value) (scheme token : String) :
    Program Authentication :=
  match t.codec.decodeAccess m token with
  | .ok claims => do
    let user ← ask (.findById claims.id)
    checkUser m requestId { scheme, token, claims } user
  | .error f =>
    match f with
    | .token fault message _ => reject m requestId (.token fault) message f
    | f => raise f

def checkCredential (t : Token.Issuer) (schemePrefix : String) (m : Moment) (requestId : Value)
    (scheme : String) : List String → Program Authentication
  | [] =>
    let reason := "Authorization header has no token"
    reject m requestId .missingToken reason (.error reason)
  | [token] => checkToken t m requestId scheme token
  | _ =>
    let reason := s!"Authorization header must be in format: {schemePrefix} <token>"
    reject m requestId (.token .invalidToken) reason (.error reason)

def check (t : Token.Issuer) (schemePrefix : Value) (m : Moment) (requestId headers : Value) :
    Program Authentication := do
  match ← done (words headers) with
  | [] => return .anonymous
  | scheme :: rest =>
    let schemePrefix ← done (schemePrefix.textFor "toLowerCase" "this.options.schemePrefix")
    if Text.lower scheme ≠ Text.lower schemePrefix then return .anonymous
    else checkCredential t schemePrefix m requestId scheme rest

def principal : Authentication → Except Failure Principal
  | anonymous => .error (.auth .missingToken "Authentication required" none)
  | authenticated _ p => .ok p
  | rejected f => .error f

end Authentication

end AuthGate
