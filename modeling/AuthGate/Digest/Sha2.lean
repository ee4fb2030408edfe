/-!
The SHA-2 family over 32-bit and 64-bit words. A `Family` holds what its members differ in: the word
operations, the rotation amounts and the constants. The 32-bit constants are the upper halves of the
64-bit ones.
-/

namespace AuthGate.Digest

/-- Fractional parts of the cube roots of the first eighty primes. -/
def cubeRoots : List UInt64 := [
  0x428A2F98D728AE22, 0x7137449123EF65CD, 0xB5C0FBCFEC4D3B2F, 0xE9B5DBA58189DBBC,
  0x3956C25BF348B538, 0x59F111F1B605D019, 0x923F82A4AF194F9B, 0xAB1C5ED5DA6D8118,
  0xD807AA98A3030242, 0x12835B0145706FBE, 0x243185BE4EE4B28C, 0x550C7DC3D5FFB4E2,
  0x72BE5D74F27B896F, 0x80DEB1FE3B1696B1, 0x9BDC06A725C71235, 0xC19BF174CF692694,
  0xE49B69C19EF14AD2, 0xEFBE4786384F25E3, 0x0FC19DC68B8CD5B5, 0x240CA1CC77AC9C65,
  0x2DE92C6F592B0275, 0x4A7484AA6EA6E483, 0x5CB0A9DCBD41FBD4, 0x76F988DA831153B5,
  0x983E5152EE66DFAB, 0xA831C66D2DB43210, 0xB00327C898FB213F, 0xBF597FC7BEEF0EE4,
  0xC6E00BF33DA88FC2, 0xD5A79147930AA725, 0x06CA6351E003826F, 0x142929670A0E6E70,
  0x27B70A8546D22FFC, 0x2E1B21385C26C926, 0x4D2C6DFC5AC42AED, 0x53380D139D95B3DF,
  0x650A73548BAF63DE, 0x766A0ABB3C77B2A8, 0x81C2C92E47EDAEE6, 0x92722C851482353B,
  0xA2BFE8A14CF10364, 0xA81A664BBC423001, 0xC24B8B70D0F89791, 0xC76C51A30654BE30,
  0xD192E819D6EF5218, 0xD69906245565A910, 0xF40E35855771202A, 0x106AA07032BBD1B8,
  0x19A4C116B8D2D0C8, 0x1E376C085141AB53, 0x2748774CDF8EEB99, 0x34B0BCB5E19B48A8,
  0x391C0CB3C5C95A63, 0x4ED8AA4AE3418ACB, 0x5B9CCA4F7763E373, 0x682E6FF3D6B2B8A3,
  0x748F82EE5DEFB2FC, 0x78A5636F43172F60, 0x84C87814A1F0AB72, 0x8CC702081A6439EC,
  0x90BEFFFA23631E28, 0xA4506CEBDE82BDE9, 0xBEF9A3F7B2C67915, 0xC67178F2E372532B,
  0xCA273ECEEA26619C, 0xD186B8C721C0C207, 0xEADA7DD6CDE0EB1E, 0xF57D4F7FEE6ED178,
  0x06F067AA72176FBA, 0x0A637DC5A2C898A6, 0x113F9804BEF90DAE, 0x1B710B35131C471B,
  0x28DB77F523047D84, 0x32CAAB7B40C72493, 0x3C9EBE0A15C9BEBC, 0x431D67C49C100D4C,
  0x4CC5D4BECB3E42B6, 0x597F299CFC657E2A, 0x5FCB6FAB3AD6FAEC, 0x6C44198C4A475817]

/-- Fractional parts of the square roots of the first sixteen primes. -/
def squareRoots : List UInt64 := [
  0x6A09E667F3BCC908, 0xBB67AE8584CAA73B, 0x3C6EF372FE94F82B, 0xA54FF53A5F1D36F1,
  0x510E527FADE682D1, 0x9B05688C2B3E6C1F, 0x1F83D9ABFB41BD6B, 0x5BE0CD19137E2179,
  0xCBBB9D5DC1059ED8, 0x629A292A367CD507, 0x9159015A3070DD17, 0x152FECD8F70E5939,
  0x67332667FFC00B31, 0x8EB44A8768581511, 0xDB0C2E0D64F98FA7, 0x47B5481DBEFA4FA4]

structure Chain (W : Type) where
  a : W
  b : W
  c : W
  d : W
  e : W
  f : W
  g : W
  h : W
deriving DecidableEq, Repr

structure Family (W : Type) where
  wordBytes : Nat
  add : W → W → W
  xor : W → W → W
  and : W → W → W
  not : W → W
  rotr : W → Nat → W
  shr : W → Nat → W
  ofNat : Nat → W
  toNat : W → Nat
  roundConstants : List W
  /-- Rotations of the two sums over `a` and `e`. -/
  sumA : Nat × Nat × Nat
  sumE : Nat × Nat × Nat
  /-- Two rotations and a shift for each of the two schedule functions. -/
  early : Nat × Nat × Nat
  late : Nat × Nat × Nat

namespace Family

variable {W : Type} (F : Family W)

def rotations (r : Nat × Nat × Nat) (x : W) : W :=
  F.xor (F.xor (F.rotr x r.1) (F.rotr x r.2.1)) (F.rotr x r.2.2)

def mix (r : Nat × Nat × Nat) (x : W) : W :=
  F.xor (F.xor (F.rotr x r.1) (F.rotr x r.2.1)) (F.shr x r.2.2)

def choose (x y z : W) : W := F.xor (F.and x y) (F.and (F.not x) z)

def majority (x y z : W) : W := F.xor (F.xor (F.and x y) (F.and x z)) (F.and y z)

def wordOf (bs : List UInt8) : W := F.ofNat (bs.foldl (fun n b => n * 256 + b.toNat) 0)

def bytesOf (x : W) : List UInt8 :=
  (List.range F.wordBytes).map fun i => (F.toNat x >>> (8 * (F.wordBytes - 1 - i))).toUInt8

def blockBytes : Nat := 16 * F.wordBytes

def padded (m : List UInt8) : List UInt8 :=
  let tail := 2 * F.wordBytes
  let zeros := (F.blockBytes - (m.length + 1 + tail) % F.blockBytes) % F.blockBytes
  m ++ 0x80 :: (List.replicate zeros 0 ++
    (List.range tail).map fun i => ((8 * m.length) >>> (8 * (tail - 1 - i))).toUInt8)

def cut {α : Type} (k : Nat) : Nat → List α → List (List α)
  | 0, _ => []
  | n + 1, l => l.take k :: cut k n (l.drop k)

def pieces {α : Type} (k : Nat) (l : List α) : List (List α) := cut k (l.length / k) l

def extend (w : Array W) : Array W :=
  let back (i : Nat) : W := w.getD (w.size - i) (F.ofNat 0)
  w.push (F.add (F.add (F.mix F.late (back 2)) (back 7)) (F.add (F.mix F.early (back 15)) (back 16)))

def schedule (block : List UInt8) : List W :=
  let first := ((pieces F.wordBytes block).map F.wordOf).toArray
  ((List.range (F.roundConstants.length - 16)).foldl (fun w _ => F.extend w) first).toList

def round (s : Chain W) (kw : W × W) : Chain W :=
  let t1 := F.add (F.add (F.add s.h (F.rotations F.sumE s.e)) (F.choose s.e s.f s.g))
    (F.add kw.1 kw.2)
  let t2 := F.add (F.rotations F.sumA s.a) (F.majority s.a s.b s.c)
  ⟨F.add t1 t2, s.a, s.b, s.c, F.add s.d t1, s.e, s.f, s.g⟩

def compress (s : Chain W) (block : List UInt8) : Chain W :=
  let t := (F.roundConstants.zip (F.schedule block)).foldl F.round s
  ⟨F.add s.a t.a, F.add s.b t.b, F.add s.c t.c, F.add s.d t.d,
    F.add s.e t.e, F.add s.f t.f, F.add s.g t.g, F.add s.h t.h⟩

def words (s : Chain W) : List W := [s.a, s.b, s.c, s.d, s.e, s.f, s.g, s.h]

def digest (start : Chain W) (size : Nat) (m : List UInt8) : List UInt8 :=
  let s := (pieces F.blockBytes (F.padded m)).foldl F.compress start
  ((words s).take size).flatMap F.bytesOf

end Family

def family32 : Family UInt32 where
  wordBytes := 4
  add := (· + ·)
  xor := (· ^^^ ·)
  and := (· &&& ·)
  not := (~~~ ·)
  rotr x n := (x >>> n.toUInt32) ||| (x <<< (32 - n).toUInt32)
  shr x n := x >>> n.toUInt32
  ofNat := Nat.toUInt32
  toNat := UInt32.toNat
  roundConstants := (cubeRoots.take 64).map fun (k : UInt64) => (k >>> 32).toUInt32
  sumA := (2, 13, 22)
  sumE := (6, 11, 25)
  early := (7, 18, 3)
  late := (17, 19, 10)

def family64 : Family UInt64 where
  wordBytes := 8
  add := (· + ·)
  xor := (· ^^^ ·)
  and := (· &&& ·)
  not := (~~~ ·)
  rotr x n := (x >>> n.toUInt64) ||| (x <<< (64 - n).toUInt64)
  shr x n := x >>> n.toUInt64
  ofNat := Nat.toUInt64
  toNat := UInt64.toNat
  roundConstants := cubeRoots
  sumA := (28, 34, 39)
  sumE := (14, 18, 41)
  early := (1, 8, 7)
  late := (19, 61, 6)

def chainOf {W : Type} (zero : W) (ws : List W) : Chain W :=
  let word (i : Nat) : W := ws.getD i zero
  ⟨word 0, word 1, word 2, word 3, word 4, word 5, word 6, word 7⟩

inductive Hash where
  | sha256
  | sha384
  | sha512
deriving DecidableEq, Repr

namespace Hash

def size : Hash → Nat
  | sha256 => 32
  | sha384 => 48
  | sha512 => 64

def blockSize : Hash → Nat
  | sha256 => 64
  | sha384 => 128
  | sha512 => 128

def digest : Hash → List UInt8 → List UInt8
  | sha256 => family32.digest (chainOf 0 (squareRoots.map fun (r : UInt64) => (r >>> 32).toUInt32)) 8
  | sha384 => family64.digest (chainOf 0 (squareRoots.drop 8)) 6
  | sha512 => family64.digest (chainOf 0 squareRoots) 8

end Hash

end AuthGate.Digest
