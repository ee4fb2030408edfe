import AuthGate.Account.Grant
import AuthGate.Log.Entry

/-!
Programs over the stores. A program ends in a result or a failure, writes log lines, and calls the
stores; it learns of a call only its answer. What a call does is left to whoever runs the program,
so that one program can be run over different stores, or in steps between those of others.
-/

namespace AuthGate

inductive Call where
  | findByEmail (email : Value)
  | findById (id : String)
  | issue (userId : Value)
  | rotate (tokenId : Nat) (userId : Value)
  | revoke (tokenId : Nat) (userId : String)
  | revokeAllFor (userId : Value)
  | findGroupsFor (userId : Value)
  | findRolesFor (groupId : Value)
  | findPermissionsFor (roleId : Value)
  | checkHealth
deriving Repr

/-- A new record is known by whatever id its store gives it; a rotation that is refused has none.
Groups, roles and permissions come as their store holds them. -/
abbrev Call.Answer : Call → Type
  | findByEmail _ => Option User
  | findById _ => Option User
  | issue _ => Value
  | rotate _ _ => Option Value
  | revoke _ _ => Bool
  | revokeAllFor _ => Nat
  | findGroupsFor _ => List GrantRow
  | findRolesFor _ => List GrantRow
  | findPermissionsFor _ => List GrantRow
  | checkHealth => Bool

inductive Program (α : Type) where
  | done (result : Except Failure α)
  | write (line : Log.Line) (next : Program α)
  | call (c : Call) (next : Except Failure c.Answer → Program α)

namespace Program

variable {α β σ : Type}

def raise (f : Failure) : Program α := done (.error f)

def bind : Program α → (α → Program β) → Program β
  | done (.ok a), f => f a
  | done (.error e), _ => done (.error e)
  | write l n, f => write l (bind n f)
  | call c n, f => call c fun r => bind (n r) f

instance : Monad Program where
  pure a := done (.ok a)
  bind := bind

def attempt : Program α → Program (Except Failure α)
  | done r => done (.ok r)
  | write l n => write l n.attempt
  | call c n => call c fun r => (n r).attempt

def ask (c : Call) : Program c.Answer := call c done

def log (m : Moment) (e : Log.Entry) : Program Unit :=
  match e.write m.wall with
  | .ok l => write l (done (.ok ()))
  | .error f => raise f

/-- Runs programs in turn, each to its end. One that cannot be started ends this at once. -/
def attemptAll : List (Except Failure (Program α)) → Program (List (Except Failure α))
  | [] => done (.ok [])
  | .error f :: _ => raise f
  | .ok p :: ps => do
    let r ← p.attempt
    let rs ← attemptAll ps
    return r :: rs

def firstFailure : List (Except Failure α) → Except Failure (List α)
  | [] => .ok []
  | .ok a :: rs => (firstFailure rs).map (a :: ·)
  | .error f :: _ => .error f

/-- Runs all programs before the first failure among them counts. Calls are taken to settle in the
order in which they are issued, so the first failure of the list is the first in time as well. -/
def all (ps : List (Except Failure (Program α))) : Program (List α) := do
  let rs ← attemptAll ps
  done (firstFailure rs)

structure Outcome (σ α : Type) where
  result : Except Failure α
  lines : List Log.Line
  state : σ

abbrev Stores (σ : Type) := (c : Call) → σ → Outcome σ c.Answer

def run (stores : Stores σ) : Program α → σ → Outcome σ α
  | done r, s => ⟨r, [], s⟩
  | write l n, s =>
    let o := run stores n s
    { o with lines := l :: o.lines }
  | call c n, s =>
    let a := stores c s
    let o := run stores (n a.result) a.state
    { o with lines := a.lines ++ o.lines }

end Program

end AuthGate
