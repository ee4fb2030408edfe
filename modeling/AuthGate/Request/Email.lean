import AuthGate.Text.Split

namespace AuthGate.Email

def isWordChar (c : Char) : Bool := c.isAlphanum || "!#$%&'*+/=?^_\x60\x7b|\x7d~-".toList.contains c

def isWord (s : List Char) : Bool := !s.isEmpty && s.all isWordChar

def isLabel (s : List Char) : Bool :=
  s.all (fun c => c.isAlphanum || c = '-') &&
    (s.head?.any Char.isAlphanum) && (s.getLast?.any Char.isAlphanum)

def isAddress (s : List Char) : Bool :=
  match Text.splitAt '@' s with
  | [words, host] =>
    (Text.splitAt '.' words).all isWord &&
      1 < (Text.splitAt '.' host).length && (Text.splitAt '.' host).all isLabel
  | _ => false

end AuthGate.Email
