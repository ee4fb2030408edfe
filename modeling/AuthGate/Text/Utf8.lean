/-!
UTF-8. Decoding never fails: each longest part of the bytes that could begin a character but does
not go on as one is read as U+FFFD.
-/

namespace AuthGate.Text

def utf8 (s : List Char) : List UInt8 := s.flatMap String.utf8EncodeChar

/-- A character that has begun: its bits so far, the bytes it lacks and the range of the next. -/
structure Pending where
  bits : Nat
  owed : Nat
  low : UInt8
  high : UInt8
deriving DecidableEq, Repr

def replacementChar : Char := Char.ofNat 0xFFFD

def leadByte (b : UInt8) : List Char × Option Pending :=
  let n := b.toNat
  if b < 0x80 then ([Char.ofNat n], none)
  else if b < 0xC2 then ([replacementChar], none)
  else if b < 0xE0 then ([], some ⟨n % 32, 1, 0x80, 0xBF⟩)
  else if b = 0xE0 then ([], some ⟨0, 2, 0xA0, 0xBF⟩)
  else if b = 0xED then ([], some ⟨13, 2, 0x80, 0x9F⟩)
  else if b < 0xF0 then ([], some ⟨n % 16, 2, 0x80, 0xBF⟩)
  else if b = 0xF0 then ([], some ⟨0, 3, 0x90, 0xBF⟩)
  else if b < 0xF4 then ([], some ⟨n % 8, 3, 0x80, 0xBF⟩)
  else if b = 0xF4 then ([], some ⟨4, 3, 0x80, 0x8F⟩)
  else ([replacementChar], none)

def nextByte : Option Pending → UInt8 → List Char × Option Pending
  | none, b => leadByte b
  | some p, b =>
    if p.low ≤ b ∧ b ≤ p.high then
      let bits := p.bits * 64 + b.toNat % 64
      if p.owed ≤ 1 then ([Char.ofNat bits], none)
      else ([], some ⟨bits, p.owed - 1, 0x80, 0xBF⟩)
    else
      -- The byte is no continuation: what had begun is replaced, and the byte begins anew.
      let (out, q) := leadByte b
      (replacementChar :: out, q)

def decodeFrom : Option Pending → List UInt8 → List Char
  | none, [] => []
  | some _, [] => [replacementChar]
  | p, b :: bs =>
    let (out, q) := nextByte p b
    out ++ decodeFrom q bs

def ofUtf8 (bs : List UInt8) : List Char := decodeFrom none bs

def ofLatin1 (bs : List UInt8) : List Char := bs.map fun b => Char.ofNat b.toNat

end AuthGate.Text
