import AuthGate.Text.Split
import AuthGate.Token.Codec

/-!
Reading tokens. `Codec.inspect` makes the checks in their order: form, signature, start, expiry and
issuer. `Codec.verify` then says of a refused token whether it is expired, unauthentic or invalid.
-/

namespace AuthGate.Token

inductive Objection where
  | empty
  | notThreeSegments
  | illFormed
  | unreadablePayload
  | unsigned
  | unusableKey
  | otherAlgorithm
  | wrongSignature
  | nullPayload
  | startNoNumber
  | notStarted
  | expiryNoNumber
  | expired
  | otherIssuer (expected : String)
  /-- Another issuer than those expected, which have no text. -/
  | otherThanUntold
deriving DecidableEq, Repr

namespace Objection

def name : Objection → String
  | unreadablePayload => "SyntaxError"
  | nullPayload | otherThanUntold => "TypeError"
  | notStarted => "NotBeforeError"
  | expired => "TokenExpiredError"
  | _ => "JsonWebTokenError"

def message : Objection → String
  | empty => "jwt must be provided"
  | notThreeSegments => "jwt malformed"
  | illFormed => "invalid token"
  | unreadablePayload => "invalid JSON"
  | unsigned => "jwt signature is required"
  | unusableKey => "secretOrPublicKey is not valid key material"
  | otherAlgorithm => "invalid algorithm"
  | wrongSignature => "invalid signature"
  | nullPayload => "Cannot read properties of null (reading 'nbf')"
  | startNoNumber => "invalid nbf value"
  | notStarted => "jwt not active"
  | expiryNoNumber => "invalid exp value"
  | expired => "jwt expired"
  | otherIssuer i => s!"jwt issuer invalid. expected: {i}"
  | otherThanUntold => Failure.noText.message

def failure (o : Objection) : Failure := .other o.name o.message

end Objection

structure Segments where
  header : List Char
  payload : List Char
  signature : List Char
deriving DecidableEq, Repr

namespace Segments

def ofToken? (token : String) : Option Segments :=
  match Text.splitAt '.' token.toList with
  | [h, p, s] => some ⟨h, p, s⟩
  | _ => none

def signed (t : Segments) : List Char := t.header ++ '.' :: t.payload

def isWellFormed (t : Segments) : Bool :=
  !t.header.isEmpty && !t.payload.isEmpty &&
    (t.header ++ t.payload ++ t.signature).all Text.Base64.isUrlChar

def readHeader (t : Segments) : Option Value :=
  match Json.parse? (Text.ofLatin1 (Text.Base64.decode t.header)) with
  | some v => if v.truthy then some v else none
  | none => none

/-- A payload that is a text is opened once more if it holds an object or a list. -/
def openText : Value → Value
  | .str s =>
    match Json.parse? s.toList with
    | some (.obj r) => .obj r
    | some (.arr l) => .arr l
    | _ => .str s
  | v => v

def readPayload (t : Segments) (header : Value) : Except Objection Value :=
  let text := Text.ofUtf8 (Text.Base64.decode t.payload)
  if header.field "typ" matches .str "JWT" then
    match Json.parse? text with
    | some v => .ok (openText v)
    | none => .error .unreadablePayload
  else .ok (openText (.str (.ofList text)))

end Segments

def checkStart (payload : Value) (now : Number) : Except Objection Unit :=
  match payload.field "nbf" with
  | .undefined => .ok ()
  | .num n => if now.lt n then .error .notStarted else .ok ()
  | _ => .error .startNoNumber

def checkExpiry (payload : Value) (now : Number) : Except Objection Unit :=
  match payload.field "exp" with
  | .undefined => .ok ()
  | .num n => if n.le now then .error .expired else .ok ()
  | _ => .error .expiryNoNumber

/-- One issuer is accepted, or any of a list; anything else that is expected accepts all. -/
def acceptsIssuer (expected issuer : Value) : Bool :=
  match expected with
  | .str "" => true
  | .str _ => expected.same issuer
  | .arr l => l.any (·.same issuer)
  | _ => true

def checkIssuer (payload expected : Value) : Except Objection Unit :=
  if acceptsIssuer expected (payload.field "iss") then .ok ()
  else match expected.text? with
    | some t => .error (.otherIssuer t)
    | none => .error .otherThanUntold

def textOf (token : Value) : Except Failure String := token.textFor "split" "token"

namespace Codec

def inspect (c : Codec) (now : Number) (token : String) : Except Objection Value := do
  if token = "" then throw .empty
  let some t := Segments.ofToken? token | throw .notThreeSegments
  if !t.isWellFormed then throw .illFormed
  let some header := t.readHeader | throw .illFormed
  let payload ← t.readPayload header
  if t.signature.isEmpty then throw .unsigned
  if !c.isKeyed then throw .unusableKey
  if !(c.isNamed && (header.field "alg").same (.str c.algorithm.name)) then throw .otherAlgorithm
  if t.signature ≠ c.signature t.signed then throw .wrongSignature
  if payload.isNull then throw .nullPayload
  checkStart payload now
  checkExpiry payload now
  checkIssuer payload c.issuer
  return payload

/-- Seconds that are zero or no number stand for the wall clock. -/
def now (clock : Clock) (wall : Number) : Except Failure Number :=
  clock.seconds.map fun s => if s.isBlank then wall.seconds else s

/-- The bytes of the signature are those of the digest. A token that has not three segments is not
judged by its signature, and without a key no other can be. -/
def isAuthentic (c : Codec) (token : String) : Except Failure Bool :=
  match Segments.ofToken? token with
  | some t =>
    if c.isKeyed then .ok (Text.Base64.decode t.signature = c.mac t.signed)
    else .error (.notOfKind "\"key\" argument"
      "ArrayBuffer, Buffer, TypedArray, DataView, KeyObject, or CryptoKey" c.secret)
  | none => .ok true

def refusal (c : Codec) (token : String) (cause : Failure) : Failure :=
  match c.isAuthentic token with
  | .error f => f
  | .ok true => .token .invalidToken s!"Invalid token: {cause.reason}" (some cause)
  | .ok false => .token .invalidSignature "Invalid token signature" (some cause)

def verify (c : Codec) (clock : Clock) (wall : Number) (token : String) : Except Failure Value :=
  match now clock wall with
  | .error cause => .error (c.refusal token cause)
  | .ok s =>
    match c.inspect s token with
    | .error .expired =>
      .error (.token .expired "Token has expired" (some Objection.expired.failure))
    | .error o => .error (c.refusal token o.failure)
    | .ok (.str _) => .error (.token .invalidToken "Invalid token: payload is not an object" none)
    | .ok v => .ok v

end Codec

end AuthGate.Token
