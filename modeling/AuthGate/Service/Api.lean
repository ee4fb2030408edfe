import AuthGate.Request.Body
import AuthGate.Request.Content
import AuthGate.Service.Authorization
import AuthGate.Service.Refusal
import AuthGate.Service.Session

namespace AuthGate

inductive Endpoint where
  | health
  | login
  | refresh
  | logout
  | me
  | permissionsOf (userId : String)
deriving DecidableEq, Repr

namespace Endpoint

def userSegment? (path : List Char) : Option String :=
  match Text.splitAt '/' path with
  | [[], users, id, permissions] =>
    if users = "users".toList ∧ permissions = "permissions".toList ∧ id ≠ [] then some (.ofList id)
    else none
  | _ => none

def find? (method path : String) : Option Endpoint :=
  if method = "GET" ∧ path = "/" then some health
  else if method = "POST" ∧ path = "/tokens" then some login
  else if method = "PUT" ∧ path = "/tokens" then some refresh
  else if method = "DELETE" ∧ path = "/tokens" then some logout
  else if method = "GET" ∧ path = "/users/me" then some me
  else if method = "GET" then (userSegment? path.toList).map permissionsOf
  else none

def methods : List String := ["GET", "POST", "PUT", "DELETE"]

/-- A path has to be read only where the method is one of an endpoint. -/
def ofRequest (r : Request) : Except Failure (Option Endpoint) :=
  match r.method with
  | .str method => if method ∈ methods then r.path.text.map (find? method) else .ok none
  | _ => .ok none

end Endpoint

structure Api where
  tokens : Token.Issuer
  schemePrefix : Value
deriving Repr

namespace Api

open Program

def readPermission : String := "user:read"

def succeed (m : Moment) (requestId : String) (data : Record) : Program Response :=
  done (Response.success m (.str requestId) (.obj data))

def pairFields (p : Token.Pair) : Record :=
  [("access_token", .str p.access), ("refresh_token", .str p.refresh)]

def health (m : Moment) (requestId : String) : Program Response := do
  if ← ask .checkHealth then succeed m requestId [("status", .str "healthy")]
  else return .unavailable (.str requestId) Response.databaseMessage

def login (api : Api) (m : Moment) (requestId : String) (r : Request) : Program Response := do
  let body ← done r.content
  let form ← done (Login.ofBody body)
  let pair ← Session.login api.tokens m (.str requestId) (.str form.email) (.str form.password)
  succeed m requestId (pairFields pair)

def refresh (api : Api) (m : Moment) (requestId : String) (r : Request) : Program Response := do
  let body ← done r.content
  let token ← done (presentedToken body)
  let pair ← Session.refresh api.tokens m (.str requestId) token
  succeed m requestId (pairFields pair)

def logout (api : Api) (m : Moment) (requestId : String) (r : Request) : Program Response := do
  let body ← done r.content
  let token ← done (presentedToken body)
  let revoked ← Session.logout api.tokens m token
  succeed m requestId [("revoked", .bool revoked)]

def me (m : Moment) (requestId : String) (p : Principal) : Program Response := do
  let access ← Authorization.describe (some p.id)
  succeed m requestId (("user", p.toValue) :: access.fields)

def permissionsOf (m : Moment) (requestId userId : String) (p : Principal) : Program Response := do
  Authorization.requirePermission m (.str requestId) (some p.id) (.str readPermission)
  match ← ask (.findById userId) with
  | none => raise (.notFound "User not found")
  | some u =>
    let access ← Authorization.describe (some u.id)
    succeed m requestId (("user_id", u.id) :: access.fields)

def authenticate (api : Api) (m : Moment) (requestId : String) (r : Request) :
    Program Principal := do
  let a ← Authentication.check api.tokens api.schemePrefix m (.str requestId) r.headers
  done a.principal

def settle (m : Moment) (requestId : String) (endpoint : Program Response) : Program Response := do
  match ← endpoint.attempt with
  | .ok response => return response
  | .error f => Failure.respond m (.str requestId) requestId f

def serve (m : Moment) (requestId : String) (principal : Program Principal)
    (endpoint : Principal → Program Response) : Program (Value × Response) := do
  match ← principal.attempt with
  | .error f => return (.undefined, ← Failure.respond m (.str requestId) requestId f)
  | .ok p => return (p.id, ← settle m requestId (endpoint p))

def servePublic (m : Moment) (requestId : String) (endpoint : Program Response) :
    Program (Value × Response) := do
  return (.undefined, ← settle m requestId endpoint)

def answer (api : Api) (m : Moment) (requestId : String) (r : Request) :
    Program (Value × Response) :=
  match Endpoint.ofRequest r with
  | .error f => servePublic m requestId (raise f)
  | .ok none => return (.undefined, .notFound (.str requestId) "Route not found")
  | .ok (some .health) => servePublic m requestId (health m requestId)
  | .ok (some .login) => servePublic m requestId (api.login m requestId r)
  | .ok (some .refresh) => servePublic m requestId (api.refresh m requestId r)
  | .ok (some .logout) => servePublic m requestId (api.logout m requestId r)
  | .ok (some .me) => serve m requestId (api.authenticate m requestId r) (me m requestId)
  | .ok (some (.permissionsOf userId)) =>
    serve m requestId (api.authenticate m requestId r) (permissionsOf m requestId userId)

/-- Answers a request and logs it last. The wall clock stands still, so no time passes. -/
def handle (api : Api) (m : Moment) (requestId : String) (r : Request) : Program Response := do
  let (userId, response) ← api.answer m requestId r
  log m (.request (.str requestId) userId r.method r.path (.ofNat response.status)
    (.num (m.wall.sub m.wall)))
  return response

end Api

end AuthGate
