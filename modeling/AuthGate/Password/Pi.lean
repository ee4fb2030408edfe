/-!
Binary digits of pi. The arcus tangent of `1 / x` is summed in units of `2 ^ -bits`, and
pi = 16 arctan (1/5) - 4 arctan (1/239).
-/

namespace AuthGate.Password

structure Series where
  power : Nat
  odd : Nat
  sum : Int

def Series.step (x : Nat) (s : Series) : Series :=
  { power := s.power / (x * x)
    odd := s.odd + 2
    sum := if s.odd % 4 = 1 then s.sum + s.power / s.odd else s.sum - s.power / s.odd }

def arctanInverse (bits x : Nat) : Int :=
  let terms := bits / (2 * x.log2) + 1
  ((List.range terms).foldl (fun (s : Series) _ => s.step x) ⟨(1 <<< bits) / x, 1, 0⟩).sum

/-- The first `count` words of 32 bits after the point. Rounding errors stay below the spare bits. -/
def piWords (count : Nat) : Array UInt32 :=
  let spare := 64
  let bits := 32 * count + spare
  let fraction := (16 * arctanInverse bits 5 - 4 * arctanInverse bits 239).toNat % (1 <<< bits)
  ((List.range count).map fun i => (fraction >>> (bits - 32 * (i + 1))).toUInt32).toArray

end AuthGate.Password
