import AuthGate.Password.Bcrypt
import AuthGate.Service.Authentication

/-!
Login, refresh and logout. Every pair of tokens comes with a new record; a refresh uses up the
record of the token presented, and a token whose record is used up takes all records of its user
with it.
-/

namespace AuthGate.Session

open Program

def belongs (password stored : Value) : Except Failure Bool :=
  if password.isAbsent || stored.isAbsent then .error (.error "data and hash arguments required")
  else match password, stored with
    | .str p, .str h => .ok (Password.accepts p h)
    | _, _ => .error (.error "data and hash must be strings")

def noHash : Value := .str ""

/-- The three refusals look alike; what was wrong is only logged. -/
def refuse {α : Type} (m : Moment) (requestId userId code : Value) (reason : String) :
    Program α := do
  log m (.authentication requestId userId (.bool false) code (.str reason))
  raise .wrongCredentials

def login (t : Token.Issuer) (m : Moment) (requestId email password : Value) :
    Program Token.Pair := do
  match ← ask (.findByEmail email) with
  | none =>
    let _ ← done (belongs password noHash)
    refuse m requestId .undefined .undefined "Login with unknown email"
  | some u =>
    if !(← done (belongs password u.passwordHash)) then
      refuse m requestId u.id .undefined "Login with wrong password"
    else if u.status ≠ .confirmed then
      refuse m requestId u.id AuthFault.inactivePrincipal.code
        s!"Login refused for status {u.status.label}"
    else
      let tokenId ← ask (.issue u.id)
      log m (.authentication requestId u.id (.bool true) .undefined .undefined)
      done (t.createPair m u.id tokenId)

/-- A token whose record is not live any more: all records of the user are revoked. -/
def reuse {α : Type} (m : Moment) (requestId : Value) (tokenId : Nat) (userId : Value) :
    Program α := do
  let count ← ask (.revokeAllFor userId)
  log m (.security requestId userId (.str "REFRESH_TOKEN_REUSE") (.str "HIGH")
    (.obj [("token_id", .ofNat tokenId), ("revoked_count", .ofNat count)]))
  raise (.auth .revokedToken Authentication.failedMessage none)

def refreshFor (t : Token.Issuer) (m : Moment) (requestId : Value)
    (claims : Token.RefreshClaims) : Option User → Program Token.Pair
  | none => do
    log m (.authentication requestId .undefined (.bool false) AuthFault.unknownPrincipal.code
      (.str s!"Refresh for missing user {claims.id}"))
    raise (.auth .unknownPrincipal Authentication.failedMessage none)
  | some u =>
    if u.status ≠ .confirmed then do
      log m (.authentication requestId u.id (.bool false) AuthFault.inactivePrincipal.code
        (.str s!"Refresh refused for status {u.status.label}"))
      raise (.inactive u.id)
    else do
      match ← ask (.rotate claims.tokenId u.id) with
      | none => reuse m requestId claims.tokenId u.id
      | some tokenId =>
        log m (.authentication requestId u.id (.bool true) .undefined .undefined)
        done (t.createPair m u.id tokenId)

def refresh (t : Token.Issuer) (m : Moment) (requestId : Value) (token : String) :
    Program Token.Pair := do
  let claims ← done (t.codec.decodeRefresh m token)
  let user ← ask (.findById claims.id)
  refreshFor t m requestId claims user

def logout (t : Token.Issuer) (m : Moment) (token : String) : Program Bool := do
  let claims ← done (t.codec.decodeRefresh m token)
  ask (.revoke claims.tokenId claims.id)

end AuthGate.Session
