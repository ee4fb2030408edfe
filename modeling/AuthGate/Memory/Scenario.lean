import AuthGate.Memory.Store
import AuthGate.Service.Api

namespace AuthGate

structure Scenario where
  api : Api
  memory : Memory
  clock : Clock
  wall : Number
  environment : Environment
  requests : Nat
deriving Repr

namespace Scenario

inductive Step where
  | setClock (clock : Clock)
  | setWall (ms : Number)
  | setEnvironment (env : Environment)
  | setUsers (users : List User)
  | setGrants (grants : Memory.Grants.All)
  | setHealth (healthy : Bool)
  | setFailure (label : String) (message : Option String)
  | createCode (data : Record) (audience lifetime : Value)
  | createPair (principalId tokenId : Value)
  | decodeCode (token audience : Value)
  | login (email password requestId : Value)
  | refresh (token requestId : Value)
  | logout (token : Value)
  | authenticate (headers requestId : Value)
  | getPermissions (principalId : Option Value)
  | describeAccess (principalId : Option Value)
  | hasPermission (principalId : Option Value) (permission : Value)
  | requirePermission (principalId : Option Value) (permission requestId : Value)
  | request (r : Request)
deriving Repr

inductive Answer where
  | nothing
  | code (token : String)
  | pair (p : Token.Pair)
  | claims (c : Option Token.Claims)
  | flag (b : Bool)
  | names (l : List Value)
  | access (a : Access)
  | authentication (a : Authentication)
  | response (r : Response)
deriving Repr

structure Report where
  result : Except Failure Answer
  lines : List Log.Line
  calls : List Call
  live : List Nat

def moment (s : Scenario) : Moment :=
  { clock := s.clock, wall := s.wall, development := s.environment.isDevelopment }

def program (s : Scenario) (requestId : String) : Step → Program Answer
  | .createCode data audience lifetime => do
    let c ← .done (s.api.tokens.create s.moment data audience lifetime)
    return .code c
  | .createPair id tokenId => do
    let p ← .done (s.api.tokens.createPair s.moment id tokenId)
    return .pair p
  | .decodeCode token audience => do
    let token ← .done (Token.textOf token)
    let c ← .done (s.api.tokens.codec.decode s.moment token audience)
    return .claims c
  | .login email password r => return .pair (← Session.login s.api.tokens s.moment r email password)
  | .refresh token r => do
    let token ← .done (Token.textOf token)
    return .pair (← Session.refresh s.api.tokens s.moment r token)
  | .logout token => do
    let token ← .done (Token.textOf token)
    return .flag (← Session.logout s.api.tokens s.moment token)
  | .authenticate headers r => do
    return .authentication
      (← Authentication.check s.api.tokens s.api.schemePrefix s.moment r headers)
  | .getPermissions p => return .names (← Authorization.permissionsOf p)
  | .describeAccess p => return .access (← Authorization.describe p)
  | .hasPermission p permission => return .flag (← Authorization.hasPermission p permission)
  | .requirePermission p permission r => do
    Authorization.requirePermission s.moment r p permission
    return .nothing
  | .request r => return .response (← s.api.handle s.moment requestId r)
  | _ => return .nothing

def adjust (s : Scenario) : Step → Scenario
  | .setClock clock => { s with clock }
  | .setWall ms => { s with wall := ms }
  | .setEnvironment environment => { s with environment }
  | .setUsers users => { s with memory := { s.memory with users } }
  | .setGrants grants => { s with memory := { s.memory with grants } }
  | .setHealth healthy => { s with memory := { s.memory with healthy } }
  | .setFailure label message =>
    let others := s.memory.failures.filter (·.1 ≠ label)
    { s with memory := { s.memory with
        failures := match message with
          | some m => (label, m) :: others
          | none => others } }
  | .request _ => { s with requests := s.requests + 1 }
  | _ => s

def step (s : Scenario) (t : Step) : Report × Scenario :=
  let s := s.adjust t
  let start := { s.memory with journal := [] }
  let o := (s.program (AuthGate.requestId s.requests) t).run Memory.stores start
  ({ result := o.result
     lines := o.lines
     calls := o.state.journal.reverse
     live := o.state.live },
    { s with memory := o.state })

def run (s : Scenario) : List Step → List Report
  | [] => []
  | t :: ts =>
    let (r, s') := s.step t
    r :: run s' ts

end Scenario

end AuthGate
