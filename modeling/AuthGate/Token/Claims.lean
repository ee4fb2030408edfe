import AuthGate.Token.Verification

namespace AuthGate.Token

structure AccessClaims where
  id : String
  iat : Number
  exp : Number
deriving DecidableEq, Repr

structure RefreshClaims extends AccessClaims where
  tokenId : Nat
deriving DecidableEq, Repr

inductive Claims where
  | access (claims : AccessClaims)
  | refresh (claims : RefreshClaims)
deriving DecidableEq, Repr

def accessAudience : String := "access"

def refreshAudience : String := "refresh"

def malformed : Failure := .token .invalidToken "Invalid token: malformed claims" none

def AccessClaims.ofPayload (payload : Value) : Except Failure AccessClaims :=
  match payload.field "id", payload.field "iat", payload.field "exp" with
  | .str id, .num iat, .num exp => if id = "" then .error malformed else .ok { id, iat, exp }
  | _, _, _ => .error malformed

def RefreshClaims.ofPayload (payload : Value) : Except Failure RefreshClaims :=
  match AccessClaims.ofPayload payload, payload.field "token_id" with
  | .ok base, .num n =>
    match n.positiveSafe? with
    | some tokenId => .ok { base with tokenId }
    | none => .error malformed
  | .ok _, _ => .error malformed
  | .error f, _ => .error f

namespace Codec

def payloadFor (c : Codec) (m : Moment) (token : String) (audience : Value) :
    Except Failure Value := do
  let p ← c.verify m.clock m.wall token
  if (p.field "aud").same audience then return p
  let expected ← audience.text
  throw (.token .audienceMismatch s!"Token audience mismatch: expected {expected}" none)

def decodeAccess (c : Codec) (m : Moment) (token : String) : Except Failure AccessClaims :=
  (c.payloadFor m token (.str accessAudience)).bind AccessClaims.ofPayload

def decodeRefresh (c : Codec) (m : Moment) (token : String) : Except Failure RefreshClaims :=
  (c.payloadFor m token (.str refreshAudience)).bind RefreshClaims.ofPayload

def decode (c : Codec) (m : Moment) (token : String) (audience : Value) :
    Except Failure (Option Claims) :=
  if audience.same (.str accessAudience) then (c.decodeAccess m token).map (some ∘ .access)
  else if audience.same (.str refreshAudience) then
    (c.decodeRefresh m token).map (some ∘ .refresh)
  else ((c.payloadFor m token audience).bind AccessClaims.ofPayload).map fun _ => none

end Codec

end AuthGate.Token
