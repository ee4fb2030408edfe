import AuthGate.Password.Pi

namespace AuthGate.Password

abbrev Boxes := Array UInt32

namespace Boxes

def size : Nat := 1042

def initial : Boxes := piWords size

def word (s : Boxes) (i : Nat) : UInt32 := s.getD i 0

def scramble (s : Boxes) (x : UInt32) : UInt32 :=
  let a := s.word (18 + (x >>> 24).toNat)
  let b := s.word (274 + ((x >>> 16) &&& 0xff).toNat)
  let c := s.word (530 + ((x >>> 8) &&& 0xff).toNat)
  let d := s.word (786 + (x &&& 0xff).toNat)
  ((a + b) ^^^ c) + d

/-- Two of the sixteen rounds at a time, from subkey `i` on. -/
def rounds (s : Boxes) : Nat → Nat → UInt32 → UInt32 → UInt32 × UInt32
  | 0, _, l, r => (l, r)
  | n + 1, i, l, r =>
    let r := r ^^^ (s.scramble l ^^^ s.word i)
    let l := l ^^^ (s.scramble r ^^^ s.word (i + 1))
    rounds s n (i + 2) l r

def encipher (s : Boxes) (l r : UInt32) : UInt32 × UInt32 :=
  let (l, r) := s.rounds 8 1 (l ^^^ s.word 0) r
  (r ^^^ s.word 17, l)

/-- The word at place `i` of the bytes repeated without end. -/
def cyclicWord (bs : Array UInt8) (i : Nat) : UInt32 :=
  (List.range 4).foldl (fun w k => (w <<< 8) ||| (bs.getD ((4 * i + k) % bs.size) 0).toUInt32) 0

structure Chaining where
  boxes : Boxes
  left : UInt32
  right : UInt32

def Chaining.step (salt : Array UInt32) (c : Chaining) (n : Nat) : Chaining :=
  let l := c.left ^^^ salt.getD (2 * n % 4) 0
  let r := c.right ^^^ salt.getD ((2 * n + 1) % 4) 0
  let (l, r) := c.boxes.encipher l r
  match c with
  | ⟨s, _, _⟩ => ⟨(s.setIfInBounds (2 * n) l).setIfInBounds (2 * n + 1) r, l, r⟩

def chain (salt : Array UInt32) : Nat → Nat → Chaining → Chaining
  | 0, _, c => c
  | k + 1, n, c => chain salt k (n + 1) (c.step salt n)

def mixKey (key : Array UInt32) : Nat → Nat → Boxes → Boxes
  | 0, _, s => s
  | k + 1, i, s =>
    let w := s.word i ^^^ key.getD i 0
    mixKey key k (i + 1) (s.setIfInBounds i w)

def expand (s : Boxes) (salt key : Array UInt32) : Boxes :=
  (chain salt 521 0 ⟨mixKey key 18 0 s, 0, 0⟩).boxes

end Boxes

end AuthGate.Password
