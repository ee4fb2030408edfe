namespace AuthGate.Text

def isBlank (c : Char) : Bool :=
  let n := c.toNat
  (9 ≤ n && n ≤ 13) || n = 32 || n = 0xA0 || n = 0x1680 || (0x2000 ≤ n && n ≤ 0x200A)
    || n = 0x2028 || n = 0x2029 || n = 0x202F || n = 0x205F || n = 0x3000 || n = 0xFEFF

def trimStart (s : List Char) : List Char := s.dropWhile isBlank

def trim (s : List Char) : List Char := (trimStart (trimStart s).reverse).reverse

def wordsAfter (word : List Char) : List Char → List (List Char)
  | [] => if word.isEmpty then [] else [word.reverse]
  | c :: r =>
    if isBlank c then
      if word.isEmpty then wordsAfter [] r else word.reverse :: wordsAfter [] r
    else wordsAfter (c :: word) r

def words (s : List Char) : List (List Char) := wordsAfter [] s

end AuthGate.Text
