import AuthGate.Service.Program
import AuthGate.Settings

/-!
A pool of database connections. The pool is made when it is first needed, from the settings of that
moment. The outcomes of its queries are given in advance, and everything that is asked of it is
recorded.
-/

namespace AuthGate

abbrev Rows := List Value

structure Query where
  text : String
  parameters : Value
deriving Repr

structure PoolConfig where
  host : Value
  port : Number
  database : Value
  user : Value
  password : Value
  ssl : Bool
deriving Repr

namespace PoolConfig

def ofSettings (s : Settings) : PoolConfig :=
  { host := s.dbHost
    port := s.dbPort
    database := s.dbName
    user := s.dbUser
    password := s.dbPassword
    ssl := s.dbSsl }

def fields (c : PoolConfig) : Record :=
  [("host", c.host), ("port", .num c.port), ("database", c.database), ("user", c.user),
    ("password", c.password), ("min", .ofNat 2), ("max", .ofNat 10),
    ("idleTimeoutMillis", .ofNat 30000), ("connectionTimeoutMillis", .ofNat 5000),
    ("ssl", if c.ssl then .obj [("rejectUnauthorized", .bool false)] else .undefined)]

end PoolConfig

namespace Database

inductive Event where
  | newPool (config : PoolConfig)
  | onError
  | query (q : Query)
  | connect
  | clientQuery (q : Query)
  | release
deriving Repr

end Database

structure Database where
  environment : Environment
  wall : Number
  pool : Option PoolConfig
  created : Nat
  /-- Outcomes of the queries to come; after them every query finds no rows. -/
  outcomes : List (Except Failure Rows)
  connectFailure : Option Failure
  /-- What was asked of the pool, last event first. -/
  trace : List Database.Event

namespace Database

/-- Something done with the database: it ends in a result or a failure and may write log lines. -/
def Action (α : Type) := Database → Program.Outcome Database α

namespace Action

variable {α β : Type}

def ofResult (r : Except Failure α) : Action α := fun db => ⟨r, [], db⟩

def raise (f : Failure) : Action α := ofResult (.error f)

def bind (x : Action α) (f : α → Action β) : Action β := fun db =>
  let o := x db
  match o.result with
  | .ok a =>
    let o' := f a o.state
    { o' with lines := o.lines ++ o'.lines }
  | .error e => ⟨.error e, o.lines, o.state⟩

instance : Monad Action where
  pure a := ofResult (.ok a)
  bind := bind

def change (f : Database → Database) : Action Unit := fun db => ⟨.ok (), [], f db⟩

def attempt (x : Action α) : Action (Except Failure α) := fun db =>
  let o := x db
  ⟨.ok o.result, o.lines, o.state⟩

def log (e : Log.Entry) : Action Unit := fun db =>
  match e.write db.wall with
  | .ok l => ⟨.ok (), [l], db⟩
  | .error f => ⟨.error f, [], db⟩

def each : List (Action Unit) → Action Unit
  | [] => pure ()
  | x :: xs => do
    x
    each xs

end Action

def record (e : Event) (db : Database) : Database := { db with trace := e :: db.trace }

def ensurePool : Action Unit := fun db =>
  match db.pool with
  | some _ => ⟨.ok (), [], db⟩
  | none =>
    match Settings.load db.environment with
    | .error f => ⟨.error f, [], db⟩
    | .ok s =>
      let config := PoolConfig.ofSettings s
      let db := (db.record (.newPool config)).record .onError
      ⟨.ok (), [], { db with pool := some config, created := db.created + 1 }⟩

def nextOutcome : Action Rows := fun db =>
  match db.outcomes with
  | [] => ⟨.ok [], [], db⟩
  | r :: rs => ⟨r, [], { db with outcomes := rs }⟩

def mark (e : Event) : Action Unit := .change (record e)

def query (q : Query) : Action Rows := do
  ensurePool
  mark (.query q)
  nextOutcome

def clientQuery (q : Query) : Action Rows := do
  mark (.clientQuery q)
  nextOutcome

def connection : Action Unit := fun db =>
  match db.connectFailure with
  | some f => ⟨.error f, [], db⟩
  | none => ⟨.ok (), [], db⟩

def connect : Action Unit := do
  ensurePool
  mark .connect
  connection

def reset : Action Unit := .change fun db => { db with pool := none }

def logged (message query operation : String) : Action Unit :=
  .log (.database .undefined (.str message) (.str query) (.str operation))

/-- An idle connection fails: the handler of every pool made so far logs it. -/
def idleFailure (message : String) : Action Unit := fun db =>
  Action.each (List.replicate db.created (logged message "Pool error" "POOL_ERROR")) db

def healthQuery : Query := ⟨"SELECT 1 as health_check", .undefined⟩

def isHealthyAnswer : Rows → Except Failure Bool
  | [row] => (row.read "health_check").map (·.same (.ofNat 1))
  | _ => .ok false

def probe : Action Bool := do
  let rows ← query healthQuery
  .ofResult (isHealthyAnswer rows)

def isHealthy : Action Bool := do
  match ← probe.attempt with
  | .ok b => return b
  | .error f =>
    logged f.reason healthQuery.text "HEALTH_CHECK"
    return false

end Database

end AuthGate
