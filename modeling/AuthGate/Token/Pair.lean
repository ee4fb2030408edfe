import AuthGate.Token.Claims

namespace AuthGate

structure AuthSettings where
  secret : Value
  issuer : Value
  accessLifetime : Value
  refreshLifetime : Value
  schemePrefix : Value
deriving Repr

namespace Token

structure Issuer where
  codec : Codec
  accessLifetime : Value
  refreshLifetime : Value
deriving Repr

structure Pair where
  access : String
  refresh : String
deriving DecidableEq, Repr

def lifetime? : Value → Option Number
  | .num n => if n.isPositiveInteger then some n else none
  | _ => none

namespace Issuer

def make? (s : AuthSettings) : Except Failure Issuer :=
  (Codec.make? s.secret s.issuer .undefined).map fun codec =>
    { codec, accessLifetime := s.accessLifetime, refreshLifetime := s.refreshLifetime }

def badLifetime (lifetime : Value) : Except Failure Failure := do
  let given ← lifetime.text
  return .rangeError s!"Token lifetime must be a positive integer, got {given}"

/-- A token for an audience. Where no lifetime is given, that of access tokens counts. -/
def create (t : Issuer) (m : Moment) (data : Record) (audience lifetime : Value) :
    Except Failure String := do
  let lifetime := if lifetime.isUndefined then t.accessLifetime else lifetime
  let some seconds := lifetime? lifetime | throw (← badLifetime lifetime)
  let now ← m.clock.seconds
  t.codec.encode m.wall data audience (.num now) (.num (now.add seconds))

def createPair (t : Issuer) (m : Moment) (principalId tokenId : Value) : Except Failure Pair := do
  let access ← t.create m [("id", principalId)] (.str accessAudience) .undefined
  let refresh ← t.create m [("id", principalId), ("token_id", tokenId)] (.str refreshAudience)
    t.refreshLifetime
  return { access, refresh }

end Issuer

end Token

end AuthGate
