import AuthGate.Failure

namespace AuthGate

inductive Clock where
  | reads (ms : Number)
  | raises (f : Failure)
deriving Repr, Inhabited

namespace Clock

def ms : Clock → Except Failure Number
  | reads n => .ok n
  | raises f => .error f

def seconds (c : Clock) : Except Failure Number := c.ms.map Number.seconds

end Clock

structure Moment where
  clock : Clock
  wall : Number
  development : Bool
deriving Repr, Inhabited

end AuthGate
