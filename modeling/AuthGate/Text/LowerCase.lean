import AuthGate.Text.CaseData

/-!
Lower case of any text. Every character is mapped on its own, except that a capital sigma becomes a
final sigma where it ends a word: a cased character stands before it and none after it, looking
through case-ignorable characters on both sides.
-/

namespace AuthGate.Text

def inRanges (n : Nat) : List (Nat × Nat) → Bool
  | [] => false
  | (a, b) :: r => if n < a then false else n ≤ b || inRanges n r

def isCased (c : Char) : Bool := inRanges c.toNat casedRanges

def isCaseIgnorable (c : Char) : Bool := inRanges c.toNat caseIgnorableRanges

def lowerPoint (n : Nat) : List (Nat × Nat × Nat × Int) → Nat
  | [] => n
  | (first, last, step, shift) :: r =>
    if n < first then n
    else if n ≤ last then
      if (n - first) % step = 0 then (n + shift).toNat else lowerPoint n r
    else lowerPoint n r

/-- The capital I with a dot is the only character whose lower case has two. -/
def lowerChar (c : Char) : List Char :=
  if c.toNat = 0x130 then ['i', Char.ofNat 0x307] else [Char.ofNat (lowerPoint c.toNat caseRuns)]

def capitalSigma : Char := Char.ofNat 0x3A3

def startsCased : List Char → Bool
  | [] => false
  | c :: r => if isCaseIgnorable c then startsCased r else isCased c

/-- Here `cased` says whether the last character before the text that is not case-ignorable has case. -/
def lowerAfter (cased : Bool) : List Char → List Char
  | [] => []
  | c :: r =>
    let here :=
      if c = capitalSigma then
        [if cased && !startsCased r then Char.ofNat 0x3C2 else Char.ofNat 0x3C3]
      else lowerChar c
    here ++ lowerAfter (if isCaseIgnorable c then cased else isCased c) r

def lower (s : String) : String := .ofList (lowerAfter false s.toList)

end AuthGate.Text
