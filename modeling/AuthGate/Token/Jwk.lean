import AuthGate.Text.Base64
import AuthGate.Value

/-!
Private keys in their JSON form. Such a key has a public part that others may know, so it is no
secret that two sides share; but it is a key, unlike other objects.
-/

namespace AuthGate.Token.Jwk

structure Curve where
  prime : Nat
  a : Nat
  b : Nat
deriving DecidableEq, Repr

namespace Curve

def contains (c : Curve) (x y : Nat) : Bool :=
  x < c.prime && y < c.prime && y * y % c.prime = (x * x * x + c.a * x + c.b) % c.prime

def withMinusThree (prime b : Nat) : Curve := { prime, a := prime - 3, b }

def p256 : Curve :=
  withMinusThree
    (Nat.pow 2 256 - Nat.pow 2 224 + Nat.pow 2 192 + Nat.pow 2 96 - 1)
    0x5ac635d8aa3a93e7b3ebbd55769886bc651d06b0cc53b0f63bce3c3e27d2604b

def p384 : Curve :=
  withMinusThree
    (Nat.pow 2 384 - Nat.pow 2 128 - Nat.pow 2 96 + Nat.pow 2 32 - 1)
    (0xb3312fa7e23ee7e4988e056be3f82d19 * Nat.pow 2 256 +
      0x181d9c6efe8141120314088f5013875ac656398d8a2ed19d2a85c8edd3ec2aef)

def p521 : Curve :=
  withMinusThree
    (Nat.pow 2 521 - 1)
    (0x51 * Nat.pow 2 512 +
      0x953eb9618e1c9a1f929a21a0b68540eea2da725b99b315f3b8b489918ef109e1 * Nat.pow 2 256 +
      0x56193951ec7e937b1652c0bd3bb1bf073573df883d2c34f1ef451fd46b503f00)

def secp256k1 : Curve := { prime := Nat.pow 2 256 - Nat.pow 2 32 - 977, a := 0, b := 7 }

def named? : String → Option Curve
  | "P-256" => some p256
  | "P-384" => some p384
  | "P-521" => some p521
  | "secp256k1" => some secp256k1
  | _ => none

end Curve

def member? (key : Value) (name : String) : Option (List UInt8) :=
  match key.field name with
  | .str s => some (Text.Base64.decode s.toList)
  | _ => none

def magnitude (bs : List UInt8) : Nat := bs.foldl (fun n b => 256 * n + b.toNat) 0

def hasPoint (key : Value) (curve : String) : Bool :=
  match Curve.named? curve, member? key "x", member? key "y", member? key "d" with
  | some c, some x, some y, some _ => c.contains (magnitude x) (magnitude y)
  | _, _, _, _ => false

def privateLength? : String → Option Nat
  | "Ed25519" | "X25519" => some 32
  | "X448" => some 56
  | "Ed448" => some 57
  | _ => none

def hasOctets (key : Value) (kind : String) : Bool :=
  match privateLength? kind, member? key "x", member? key "d" with
  | some n, some _, some d => d.length = n
  | _, _, _ => false

def rsaMembers : List String := ["n", "e", "d", "p", "q", "dp", "dq", "qi"]

def isKey (key : Value) : Bool :=
  match key.field "kty", key.field "crv" with
  | .str "EC", .str curve => hasPoint key curve
  | .str "OKP", .str kind => hasOctets key kind
  | .str "RSA", _ => rsaMembers.all fun name => (member? key name).isSome
  | _, _ => false

def isPrivateKey (secret : Value) : Bool :=
  (secret.field "format").same (.str "jwk") && isKey (secret.field "key")

end AuthGate.Token.Jwk
