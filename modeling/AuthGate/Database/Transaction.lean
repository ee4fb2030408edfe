import AuthGate.Database.Pool

/-!
Transactions. The work of a transaction is a sequence of queries, each of which may depend on the
rows of those before it, and ends in a result or a failure. It runs on one connection between BEGIN
and COMMIT, or ROLLBACK after any failure, and the connection is released in either case.
-/

namespace AuthGate.Database

inductive Work (α : Type) where
  | done (result : Except Failure α)
  | send (q : Query) (next : Except Failure Rows → Work α)

namespace Work

variable {α : Type}

def query (q : Query) (next : Rows → Work α) : Work α :=
  .send q fun
    | .ok rows => next rows
    | .error f => .done (.error f)

def queries (failure : Option Failure) : List Query → List Rows → Work (List Rows)
  | [], seen =>
    match failure with
    | some f => .done (.error f)
    | none => .done (.ok seen.reverse)
  | q :: qs, seen => query q fun rows => queries failure qs (rows :: seen)

def run : Work α → Action α
  | .done r => .ofResult r
  | .send q next => do
    let r ← (clientQuery q).attempt
    (next r).run

end Work

variable {α : Type}

def command (text : String) : Action Rows := clientQuery ⟨text, .undefined⟩

def committed (w : Work α) : Action α := do
  let _ ← command "BEGIN"
  let a ← w.run
  let _ ← command "COMMIT"
  return a

/-- A rollback that fails is only logged; the failure that led to it stands. -/
def rollback (cause : Failure) : Action α := do
  match ← (command "ROLLBACK").attempt with
  | .ok _ => .raise cause
  | .error f =>
    logged f.reason "ROLLBACK" "ROLLBACK"
    .raise cause

def committedOrRolledBack (w : Work α) : Action α := do
  match ← (committed w).attempt with
  | .ok a => return a
  | .error f => rollback f

def transaction (w : Work α) : Action α := do
  connect
  let r ← (committedOrRolledBack w).attempt
  mark .release
  .ofResult r

end AuthGate.Database
