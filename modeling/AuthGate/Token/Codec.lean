import AuthGate.Digest.Hmac
import AuthGate.Json.Parser
import AuthGate.Json.Printer
import AuthGate.Moment
import AuthGate.Text.Base64
import AuthGate.Text.Utf8
import AuthGate.Token.Jwk

/-!
Signed tokens. A token is `header.payload.signature`, where the first two segments are the base64url
of JSON texts and the third that of the keyed digest of the two before it.
-/

namespace AuthGate.Token

inductive Algorithm where
  | hs256
  | hs384
  | hs512
deriving DecidableEq, Repr

namespace Algorithm

def name : Algorithm → String
  | hs256 => "HS256"
  | hs384 => "HS384"
  | hs512 => "HS512"

def all : List Algorithm := [hs256, hs384, hs512]

def ofName? (n : String) : Option Algorithm := all.find? (·.name = n)

def hash : Algorithm → Digest.Hash
  | hs256 => .sha256
  | hs384 => .sha384
  | hs512 => .sha512

end Algorithm

/-- The secret is meant to be a text, and the algorithm to be given by its name. Others, such as a
private key or a list of one name, make a codec that can sign nothing and accepts no header. A text
is always a shared secret, also one that spells a key in PEM form. An empty or absent issuer is not
compared when a token is read. -/
structure Codec where
  secret : Value
  issuer : Value
  algorithm : Algorithm
  isNamed : Bool
  secret_truthy : secret.truthy = true
deriving Repr

namespace Codec

def algorithmOf (v : Value) : Except Failure Algorithm := do
  let name ← v.text
  match Algorithm.ofName? name with
  | some a => return a
  | none => throw (.error s!"Unsupported token algorithm: {name}")

def make? (secret issuer algorithm : Value) : Except Failure Codec :=
  let given := if algorithm.isAbsent then .str Algorithm.hs256.name else algorithm
  if h : secret.truthy = true then
    (algorithmOf given).map fun a =>
      { secret, issuer, algorithm := a, isNamed := given.isText, secret_truthy := h }
  else .error (.error "Token secret key must not be empty")

def isKeyed (c : Codec) : Bool := c.secret.isText

def mac (c : Codec) (signed : List Char) : List UInt8 :=
  Digest.hmac c.algorithm.hash (Text.utf8 c.secret.asText.toList) (Text.utf8 signed)

def signature (c : Codec) (signed : List Char) : List Char := Text.Base64.encodeUrl (c.mac signed)

def segment (v : Value) : List Char := Text.Base64.encodeUrl (Text.utf8 (Json.print v))

def header (c : Codec) : Value := .obj [("alg", .str c.algorithm.name), ("typ", .str "JWT")]

def sign (c : Codec) (payload : Record) : String :=
  let signed := segment c.header ++ '.' :: segment (.obj payload)
  .ofList (signed ++ '.' :: c.signature signed)

/-- Names that every object answers to; as names of claims they find no check that can be run. -/
def reservedNames : List String :=
  ["constructor", "toString", "valueOf", "hasOwnProperty", "isPrototypeOf", "propertyIsEnumerable",
    "toLocaleString", "__proto__", "__defineGetter__", "__defineSetter__", "__lookupGetter__",
    "__lookupSetter__"]

def checkClaim (name : String) (v : Value) : Except Failure Unit :=
  if name = "iat" ∨ name = "exp" ∨ name = "nbf" then
    match v with
    | .num _ => .ok ()
    | _ => .error (.error s!"\"{name}\" should be a number of seconds")
  else if name ∈ reservedNames then .error (.typeError "validator.isValid is not a function")
  else .ok ()

def checkClaims : Record → Except Failure Unit
  | [] => .ok ()
  | (k, v) :: r =>
    match checkClaim k v with
    | .ok () => checkClaims r
    | .error f => .error f

def payload (c : Codec) (data : Record) (audience issuedAt expiresAt : Value) : Record :=
  Record.merge data
    [("aud", audience), ("iat", issuedAt), ("exp", expiresAt), ("iss", c.issuer)]

/-- A token for an audience. The time of issue is the wall clock's if the given one is zero. -/
def encode (c : Codec) (wall : Number) (data : Record) (audience issuedAt expiresAt : Value) :
    Except Failure String :=
  let claims := c.payload data audience issuedAt expiresAt
  if !c.isKeyed && !Jwk.isPrivateKey c.secret then
    .error (.error "secretOrPrivateKey is not valid key material")
  else if !c.isNamed then .error (.typeError "header.alg.startsWith is not a function")
  else if !c.isKeyed then
    .error (.error s!"secretOrPrivateKey must be a symmetric key when using {c.algorithm.name}")
  else match checkClaims claims with
    | .error f => .error f
    | .ok () => .ok (c.sign
        (if issuedAt.truthy then claims else claims.set "iat" (.num wall.seconds)))

end Codec

end AuthGate.Token
