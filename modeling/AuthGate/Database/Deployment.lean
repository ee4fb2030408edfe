import AuthGate.Database.Repository
import AuthGate.Service.Api

/-!
The service as it is deployed: over a database, and with everything built from the environment when
it is first needed. The HTTP interface is kept once its settings were valid; the pool is kept until
it is reset.
-/

namespace AuthGate

structure Deployment where
  database : Database
  api : Option Api
  requests : Nat

namespace Deployment

def start (env : Environment) (wall : Number) : Deployment where
  database :=
    { environment := env
      wall := wall
      pool := none
      created := 0
      outcomes := []
      connectFailure := none
      trace := [] }
  api := none
  requests := 0

def buildApi (env : Environment) : Except Failure Api := do
  let s ← Settings.load env
  s.validate
  let tokens ← Token.Issuer.make? s.auth
  return { tokens, schemePrefix := s.schemePrefix }

inductive Step where
  | setEnvironment (env : Environment)
  | setWall (ms : Number)
  | getPool
  | resetPool
  | poolError (message : String)
  | query (q : Query)
  | transaction (queries : List Query) (failure : Option Failure)
  | isPoolHealthy
  | findById (id : Value)
  | findByEmail (email : Value)
  | findGroupsFor (id : Value)
  | findRolesFor (id : Value)
  | findPermissionsFor (id : Value)
  | issue (userId : Value)
  | rotate (tokenId userId : Value)
  | revoke (tokenId userId : Value)
  | revokeAllFor (userId : Value)
  | handle (r : Request)
deriving Repr

/-- The outcomes of the queries of one step, and whether its connection fails. -/
structure Script where
  outcomes : List (Except Failure Rows)
  connectFailure : Option Failure

inductive Answer where
  | value (v : Value)
  | response (r : Response)
deriving Repr

structure Report where
  result : Except Failure Answer
  lines : List Log.Line
  trace : List Database.Event

def rowLists (l : List Rows) : Value := .arr (l.map .arr)

def optional : Option Record → Value
  | some r => .obj r
  | none => .null

def unanswered (x : Database.Action Unit) : Database.Action Value := do
  x
  return .undefined

def action : Step → Database.Action Value
  | .setEnvironment env => unanswered (.change fun db => { db with environment := env })
  | .setWall ms => unanswered (.change fun db => { db with wall := ms })
  | .getPool => unanswered Database.ensurePool
  | .resetPool => unanswered Database.reset
  | .poolError message => unanswered (Database.idleFailure message)
  | .query q => .arr <$> Database.query q
  | .transaction qs failure => rowLists <$> Database.transaction (.queries failure qs [])
  | .isPoolHealthy => .bool <$> Database.isHealthy
  | .findById id => optional <$> Database.userById id
  | .findByEmail email => optional <$> Database.userByEmail email
  | .findGroupsFor id => .arr <$> Database.groupsOf id
  | .findRolesFor id => .arr <$> Database.rolesOf id
  | .findPermissionsFor id => .arr <$> Database.permissionsOf id
  | .issue userId => Database.issue userId
  | .rotate tokenId userId => (·.getD .null) <$> Database.rotate tokenId userId
  | .revoke tokenId userId => .bool <$> Database.revoke tokenId userId
  | .revokeAllFor userId => .ofNat <$> Database.revokeAllFor userId
  | .handle _ => return .undefined

def moment (d : Deployment) : Moment :=
  { clock := .reads d.database.wall
    wall := d.database.wall
    development := d.database.environment.isDevelopment }

def currentApi (d : Deployment) : Except Failure Api :=
  match d.api with
  | some api => .ok api
  | none => buildApi d.database.environment

def handle (d : Deployment) (r : Request) : Program.Outcome Deployment Response :=
  match d.currentApi with
  | .error f => ⟨.error f, [], d⟩
  | .ok api =>
    let n := d.requests + 1
    let o := (api.handle d.moment (requestId n) r).run Database.stores d.database
    ⟨o.result, o.lines, { database := o.state, api := some api, requests := n }⟩

def act (d : Deployment) (a : Database.Action Value) : Program.Outcome Deployment Answer :=
  let o := a d.database
  ⟨o.result.map .value, o.lines, { d with database := o.state }⟩

def perform (d : Deployment) : Step → Program.Outcome Deployment Answer
  | .handle r =>
    let o := d.handle r
    ⟨o.result.map .response, o.lines, o.state⟩
  | t => d.act (action t)

/-- Outcomes that a step leaves over are dropped. -/
def step (d : Deployment) (script : Script) (t : Step) : Report × Deployment :=
  let d := { d with database := { d.database with
    outcomes := script.outcomes, connectFailure := script.connectFailure, trace := [] } }
  let o := d.perform t
  (⟨o.result, o.lines, o.state.database.trace.reverse⟩, o.state)

def run (d : Deployment) : List (Script × Step) → List Report
  | [] => []
  | (script, t) :: ts =>
    let (r, d') := d.step script t
    r :: run d' ts

end Deployment

end AuthGate
