import AuthGate.Password.Blowfish
import AuthGate.Text.Base64
import AuthGate.Text.Utf8

/-!
Password hashes of the form `$2b$CC$` followed by 22 characters of salt and 31 of digest, where `CC`
is the binary logarithm of the number of rounds. A password matches a stored hash if hashing it with
the stored version, cost and salt gives the stored text again.
-/

namespace AuthGate.Password

def alphabet : List Char :=
  "./ABCDEFGHIJKLMNOPQRSTUVWXYZabcdefghijklmnopqrstuvwxyz0123456789".toList

inductive Version where
  | plain
  | a
  | b
deriving DecidableEq, Repr

namespace Version

def label : Version → List Char
  | plain => ['2']
  | a => ['2', 'a']
  | b => ['2', 'b']

/-- The bytes that enter the key. A zero byte ends them except in the plain version; version `b` reads
at most 72 bytes and the zero, and the others count the bytes modulo 256. -/
def keyBytes (v : Version) (password : List UInt8) : List UInt8 :=
  let ended := password ++ [0]
  match v with
  | plain => ended.take (max 1 (password.length % 256))
  | a => ended.take (max 1 (ended.length % 256))
  | b => ended.take (min 72 password.length + 1)

end Version

structure Stored where
  version : Version
  cost : Nat
  salt : List UInt8
deriving DecidableEq, Repr

def digit? (c : Char) : Option Nat := if c.isDigit then some (c.toNat - '0'.toNat) else none

def saltOf? (cs : List Char) : Option (List UInt8) :=
  (cs.mapM fun c => alphabet.idxOf? c).map fun ns => Text.Base64.bytes ns

/-- Version, cost and salt of a stored hash. The cost has two digits, is at least 4 and leaves the
number of rounds below 2^31. -/
def Stored.ofText? (s : List Char) : Option Stored := do
  let (version, r) ← match s with
    | '$' :: '2' :: '$' :: r => some (.plain, r)
    | '$' :: '2' :: 'a' :: '$' :: r => some (.a, r)
    | '$' :: '2' :: 'b' :: '$' :: r => some (.b, r)
    | _ => none
  match r with
  | t :: u :: '$' :: r =>
    let cost := 10 * (← digit? t) + (← digit? u)
    if cost < 4 ∨ 30 < cost ∨ r.length ≠ 53 then none
    else some { version, cost, salt := ← saltOf? (r.take 22) }
  | _ => none

def repeated {α : Type} : Nat → (α → α) → α → α
  | 0, _, x => x
  | n + 1, f, x => repeated n f (f x)

def keyWords (bs : List UInt8) : Array UInt32 :=
  ((List.range 18).map (Boxes.cyclicWord bs.toArray)).toArray

def plaintext : List (UInt32 × UInt32) :=
  [(0x4F727068, 0x65616E42), (0x65686F6C, 0x64657253), (0x63727944, 0x6F756274)]

def wordBytes (w : UInt32) : List UInt8 :=
  [(w >>> 24).toUInt8, (w >>> 16).toUInt8, (w >>> 8).toUInt8, w.toUInt8]

def schedule (st : Stored) (password : List UInt8) : Boxes :=
  let key := keyWords (st.version.keyBytes password)
  let saltKey := keyWords st.salt
  let none : Array UInt32 := #[0, 0, 0, 0]
  repeated (1 <<< st.cost) (fun s => (s.expand none key).expand none saltKey)
    (Boxes.initial.expand saltKey key)

def digest (st : Stored) (password : List UInt8) : List UInt8 :=
  let s := schedule st password
  (plaintext.flatMap fun p =>
    let (l, r) := repeated 64 (fun q : UInt32 × UInt32 => s.encipher q.1 q.2) p
    wordBytes l ++ wordBytes r).take 23

def render (st : Stored) (password : List UInt8) : List Char :=
  '$' :: st.version.label ++ '$' :: Char.ofNat (48 + st.cost / 10) :: Char.ofNat (48 + st.cost % 10) ::
    '$' :: (Text.Base64.encodeWith alphabet st.salt ++
      Text.Base64.encodeWith alphabet (digest st password))

/-- A null character ends the stored text. -/
def accepts (password stored : String) : Bool :=
  let text := stored.toList.takeWhile (· ≠ '\x00')
  match Stored.ofText? text with
  | some st => render st (Text.utf8 password.toList) = text
  | none => false

end AuthGate.Password
