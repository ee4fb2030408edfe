import AuthGate.Service.Program

/-!
Stores in memory. Refresh records are kept in the order of issue and are numbered from one; a record
that was revoked stays. A call may be told to fail, and then has no other effect.
-/

namespace AuthGate

namespace Call

def name : Call → String
  | findByEmail _ => "findByEmail"
  | findById _ => "findById"
  | issue _ => "issue"
  | rotate _ _ => "rotate"
  | revoke _ _ => "revoke"
  | revokeAllFor _ => "revokeAllFor"
  | findGroupsFor _ => "findGroupsFor"
  | findRolesFor _ => "findRolesFor"
  | findPermissionsFor _ => "findPermissionsFor"
  | checkHealth => "checkHealth"

def arguments : Call → List Value
  | findByEmail e => [e]
  | findById i => [.str i]
  | issue u => [u]
  | rotate t u => [.ofNat t, u]
  | revoke t u => [.ofNat t, .str u]
  | revokeAllFor u => [u]
  | findGroupsFor u => [u]
  | findRolesFor g => [g]
  | findPermissionsFor r => [r]
  | checkHealth => []

/-- The name of the call with its first argument, if that has a text. -/
def label? (c : Call) : Option String :=
  match c.arguments with
  | [] => some c.name
  | v :: _ => v.text?.map fun t => c.name ++ ":" ++ t

end Call

namespace Memory

structure RefreshRecord where
  userId : Value
  live : Bool
deriving Repr

abbrev Grants := Record

structure Grants.All where
  userGroups : Grants
  groupRoles : Grants
  rolePermissions : Grants
deriving Repr

def Grants.rows (key : String) (items : List Value) : List GrantRow :=
  items.mapIdx fun i v => { value := v, place := some (key, i) }

/-- A grant that is in no list stands for itself. -/
def Grants.of (g : Grants) (id : Value) : Except Failure (List GrantRow) :=
  id.text.map fun key =>
    match Record.get g key with
    | .arr items => rows key items
    | v => if v.isAbsent then [] else rows key [v]

def Grants.groupsOf (g : Grants) (id : Value) : Except Failure (List GrantRow) := do
  let key ← id.text
  match Record.get g key with
  | .arr items => return rows key items
  | v => if v.isAbsent then return [] else throw (.typeError "groups.map is not a function")

end Memory

structure Memory where
  users : List User
  grants : Memory.Grants.All
  records : List Memory.RefreshRecord
  healthy : Bool
  /-- Messages of the failures that are set, by the name or the label of a call. -/
  failures : List (String × String)
  journal : List Call
deriving Repr

namespace Memory

def numbered (s : Memory) : List (Nat × RefreshRecord) :=
  (s.records.zipIdx 1).map Prod.swap

def live (s : Memory) : List Nat := (s.numbered.filter (·.2.live)).map (·.1)

def isLive (s : Memory) (tokenId : Nat) (userId : Value) : Bool :=
  s.numbered.any fun p => p.1 = tokenId && p.2.live && p.2.userId.same userId

def revokeRecord (s : Memory) (tokenId : Nat) : Memory :=
  { s with records := s.numbered.map fun p =>
      if p.1 = tokenId then { p.2 with live := false } else p.2 }

def issueFor (s : Memory) (userId : Value) : Nat × Memory :=
  (s.records.length + 1, { s with records := s.records ++ [⟨userId, true⟩] })

def revokeAll (s : Memory) (userId : Value) : Nat × Memory :=
  ((s.records.filter fun r => r.live && r.userId.same userId).length,
    { s with records := s.records.map fun r =>
        if r.userId.same userId then { r with live := false } else r })

/-- An email is read only if there is a user to compare it with. -/
def userByEmail (s : Memory) (email : Value) : Except Failure (Option User) :=
  if s.users.isEmpty then .ok none
  else (User.normalEmail email).map fun e => s.users.find? (·.email.same (.str e))

def perform : (c : Call) → Memory → Except Failure c.Answer × Memory
  | .findByEmail email, s => (s.userByEmail email, s)
  | .findById id, s => (.ok (s.users.find? (·.id.same (.str id))), s)
  | .issue userId, s => (.ok (.ofNat (s.issueFor userId).1), (s.issueFor userId).2)
  | .rotate tokenId userId, s =>
    if s.isLive tokenId userId then
      let (id, s') := (s.revokeRecord tokenId).issueFor userId
      (.ok (some (.ofNat id)), s')
    else (.ok none, s)
  | .revoke tokenId userId, s =>
    if s.isLive tokenId (.str userId) then (.ok true, s.revokeRecord tokenId) else (.ok false, s)
  | .revokeAllFor userId, s => (.ok (s.revokeAll userId).1, (s.revokeAll userId).2)
  | .findGroupsFor userId, s => (s.grants.userGroups.groupsOf userId, s)
  | .findRolesFor groupId, s => (s.grants.groupRoles.of groupId, s)
  | .findPermissionsFor roleId, s => (s.grants.rolePermissions.of roleId, s)
  | .checkHealth, s => (.ok s.healthy, s)

/-- A call that is not told to fail by its name needs a label, and without one it fails. -/
def failureOf? (s : Memory) (c : Call) : Option Failure :=
  match s.failures.lookup c.name, c.label? with
  | some message, _ => some (.error message)
  | none, some label => (s.failures.lookup label).map .error
  | none, none => some .noText

def stores : Program.Stores Memory := fun c s =>
  let s := { s with journal := c :: s.journal }
  match s.failureOf? c with
  | some f => ⟨.error f, [], s⟩
  | none => ⟨(perform c s).1, [], (perform c s).2⟩

end Memory

end AuthGate
