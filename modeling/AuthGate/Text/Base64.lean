import AuthGate.Text.Units

/-!
Base64. Writing uses the URL-safe alphabet without padding, or the standard one with it. Reading
accepts both alphabets, ends at the first padding character, skips every other one and drops a
sextet that is left alone.
-/

namespace AuthGate.Text.Base64

def urlAlphabet : List Char :=
  "ABCDEFGHIJKLMNOPQRSTUVWXYZabcdefghijklmnopqrstuvwxyz0123456789-_".toList

def standardAlphabet : List Char :=
  "ABCDEFGHIJKLMNOPQRSTUVWXYZabcdefghijklmnopqrstuvwxyz0123456789+/".toList

def isUrlChar (c : Char) : Bool := c.isAlphanum || c = '-' || c = '_'

def sextets : List UInt8 → List Nat
  | [] => []
  | [a] => [a.toNat / 4, a.toNat % 4 * 16]
  | [a, b] => [a.toNat / 4, a.toNat % 4 * 16 + b.toNat / 16, b.toNat % 16 * 4]
  | a :: b :: c :: r =>
    a.toNat / 4 :: (a.toNat % 4 * 16 + b.toNat / 16) :: (b.toNat % 16 * 4 + c.toNat / 64) ::
      c.toNat % 64 :: sextets r

def encodeWith (alphabet : List Char) (bs : List UInt8) : List Char :=
  (sextets bs).map fun n => alphabet.getD n 'A'

def encodeUrl (bs : List UInt8) : List Char := encodeWith urlAlphabet bs

def encodeStandard (bs : List UInt8) : List Char :=
  encodeWith standardAlphabet bs ++ List.replicate ((3 - bs.length % 3) % 3) '='

def sextet? (u : UInt16) : Option Nat :=
  let n := u.toNat % 256
  if 65 ≤ n ∧ n ≤ 90 then some (n - 65)
  else if 97 ≤ n ∧ n ≤ 122 then some (n - 71)
  else if 48 ≤ n ∧ n ≤ 57 then some (n + 4)
  else if n = 43 ∨ n = 45 then some 62
  else if n = 47 ∨ n = 95 then some 63
  else none

def bytes : List Nat → List UInt8
  | a :: b :: c :: d :: r =>
    (a * 4 + b / 16).toUInt8 :: (b % 16 * 16 + c / 4).toUInt8 :: (c % 4 * 64 + d).toUInt8 :: bytes r
  | [a, b, c] => [(a * 4 + b / 16).toUInt8, (b % 16 * 16 + c / 4).toUInt8]
  | [a, b] => [(a * 4 + b / 16).toUInt8]
  | _ => []

def isPadding (u : UInt16) : Bool := u.toNat % 256 = 61

/-- Reads by the low bytes of the UTF-16 units. -/
def decode (s : List Char) : List UInt8 :=
  bytes (((s.flatMap unitsOf).takeWhile fun u => !isPadding u).filterMap sextet?)

end AuthGate.Text.Base64
