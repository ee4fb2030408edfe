import AuthGate.Failure
import AuthGate.Text.LowerCase

/-!
Request headers. Names are compared in lower case; a header that is given several times counts as
its values joined by commas.
-/

namespace AuthGate.Header

/-- What is found under a name: the first value there that is not undefined. -/
def lookup (wanted : String) (headers : Record) : Value :=
  ((headers.find? fun h => Text.lower h.1 = wanted && !h.2.isUndefined).map (·.2)).getD .undefined

def joined (v : Value) : Except Failure Value :=
  match v with
  | .arr _ => v.text.map .str
  | v => .ok v

def find (headers name : Value) : Except Failure Value :=
  if headers.truthy then do
    let name ← name.textFor "toLowerCase" "name"
    joined (lookup (Text.lower name) headers.entries)
  else .ok .undefined

end AuthGate.Header
