import AuthGate.Text.Blank
import AuthGate.Token.Pair

/-!
Settings, read from named variables of the environment. A variable that is empty counts as one that
is not set. Variables are meant to be texts; others are passed on as they are.
-/

namespace AuthGate

abbrev Environment := Record

/-- The integer at the start of a text: blanks and a sign may stand before its digits, and anything
after them. -/
def leadingInteger (s : List Char) : Number :=
  match Text.trimStart s with
  | '+' :: r => read false r
  | '-' :: r => read true r
  | r => read false r
where
  read (negative : Bool) (r : List Char) : Number :=
    let ds := r.takeWhile Char.isDigit
    if ds.isEmpty then .nan
    else .ofDecimal negative ds 0

namespace Environment

def valueOr (env : Environment) (name fallback : String) : Value :=
  let v := Record.get env name
  if v.truthy then v else .str fallback

def integerOr (env : Environment) (name fallback : String) : Except Failure Number :=
  (env.valueOr name fallback).text.map fun s => leadingInteger s.toList

def isDevelopment (env : Environment) : Bool :=
  (Record.get env "NODE_ENV").same (.str "development")

end Environment

structure Settings where
  dbHost : Value
  dbPort : Number
  dbName : Value
  dbUser : Value
  dbPassword : Value
  dbSsl : Bool
  secret : Value
  issuer : Value
  accessLifetime : Number
  refreshLifetime : Number
  schemePrefix : Value
  nodeEnv : Value
deriving Repr

namespace Settings

def load (env : Environment) : Except Failure Settings := do
  let dbPort ← env.integerOr "DB_PORT" "5432"
  let accessLifetime ← env.integerOr "TOKENS_ACCESS_LIFETIME_SECONDS" "3600"
  let refreshLifetime ← env.integerOr "TOKENS_REFRESH_LIFETIME_SECONDS" "2592000"
  return {
    dbHost := env.valueOr "DB_HOST" ""
    dbPort
    dbName := env.valueOr "DB_NAME" ""
    dbUser := env.valueOr "DB_USER" ""
    dbPassword := env.valueOr "DB_PASSWORD" ""
    dbSsl := (Record.get env "DB_SSL").same (.str "true")
    secret := env.valueOr "TOKENS_SECRET_KEY" ""
    issuer := env.valueOr "TOKENS_ISSUER" "wishlist-backend"
    accessLifetime
    refreshLifetime
    schemePrefix := env.valueOr "AUTH_SCHEME_PREFIX" "Bearer"
    nodeEnv := env.valueOr "NODE_ENV" "development" }

def fields (s : Settings) : Record :=
  [("dbHost", s.dbHost), ("dbPort", .num s.dbPort), ("dbName", s.dbName), ("dbUser", s.dbUser),
    ("dbPassword", s.dbPassword), ("dbSsl", .bool s.dbSsl), ("tokensSecretKey", s.secret),
    ("tokensIssuer", s.issuer), ("tokensAccessLifetimeSeconds", .num s.accessLifetime),
    ("tokensRefreshLifetimeSeconds", .num s.refreshLifetime),
    ("authSchemePrefix", s.schemePrefix), ("nodeEnv", s.nodeEnv)]

def required : List String := ["dbHost", "dbName", "dbUser", "tokensSecretKey"]

def check (r : Record) : Except Failure Unit := do
  let missing := required.filter fun name => !(r.get name).truthy
  if !missing.isEmpty then
    throw (.error ("Missing required environment variables: " ++ ", ".intercalate missing))
  if (Token.lifetime? (r.get "tokensAccessLifetimeSeconds")).isNone then
    throw (.error "TOKENS_ACCESS_LIFETIME_SECONDS must be a positive integer")
  if (Token.lifetime? (r.get "tokensRefreshLifetimeSeconds")).isNone then
    throw (.error "TOKENS_REFRESH_LIFETIME_SECONDS must be a positive integer")
  let schemePrefix ← (r.get "authSchemePrefix").text
  if schemePrefix.toList.any Text.isBlank then
    throw (.error "AUTH_SCHEME_PREFIX must be a single word")

def validate (s : Settings) : Except Failure Unit := check s.fields

def auth (s : Settings) : AuthSettings :=
  { secret := s.secret
    issuer := s.issuer
    accessLifetime := .num s.accessLifetime
    refreshLifetime := .num s.refreshLifetime
    schemePrefix := s.schemePrefix }

end Settings

end AuthGate
