import AuthGate.Service.Program

/-!
Authorization. The permissions of a principal are those of the roles of its groups. They are looked
up level by level on every request, and each role is asked for its permissions once.
-/

namespace AuthGate

structure Access where
  groups : List Value
  roles : List Value
  permissions : List Value
deriving Repr

namespace Access

def empty : Access := ⟨[], [], []⟩

/-- A role that comes again stays where it is in the list and takes the later name. -/
def putRole (roles : List Grant) (r : Grant) : List Grant :=
  if roles.any (Grant.agree (·.id) r) then
    roles.map fun q => if Grant.agree (·.id) r q then r else q
  else roles ++ [r]

def distinctRoles (roles : List Grant) : List Grant := roles.foldl putRole []

def putName (named : List Grant) (g : Grant) : List Grant :=
  if named.any (Grant.agree (·.name) g) then named else named ++ [g]

def distinctNames (grants : List Grant) : List Value :=
  (grants.foldl putName []).map (·.name.asMember)

def keyed (name : Value) : Except Failure (String × Value) := name.text.map fun t => (t, name)

/-- Names in the order of their texts, and an undefined one last. A name alone needs no text. -/
def sortNames (names : List Value) : Except Failure (List Value) :=
  let named := names.filter fun v => !v.isUndefined
  let rest := names.filter Value.isUndefined
  if named.length ≤ 1 then .ok (named ++ rest)
  else
    (named.mapM keyed).map fun l =>
      (l.mergeSort fun a b => Text.unitsLE a.1 b.1).map (·.2) ++ rest

def sorted (a : Access) : Except Failure Access := do
  let groups ← sortNames a.groups
  let roles ← sortNames a.roles
  let permissions ← sortNames a.permissions
  return { groups, roles, permissions }

def fields (a : Access) : Record :=
  [("groups", .arr a.groups), ("roles", .arr a.roles), ("permissions", .arr a.permissions)]

end Access

namespace Authorization

open Program

def rolesOf (group : GrantRow) : Except Failure (Program (List GrantRow)) :=
  (group.read "id").map fun g => ask (.findRolesFor g.id)

def resolve : Option Value → Program Access
  | none => pure .empty
  | some id => do
    let groups ← ask (.findGroupsFor id)
    let granted ← all (groups.map rolesOf)
    let roles ← done (granted.flatten.mapM (·.read "id"))
    let roles := Access.distinctRoles roles
    let permissions ← all (roles.map fun r => .ok (ask (.findPermissionsFor r.id.asMember)))
    let permissions ← done (permissions.flatten.mapM (·.read "name"))
    return {
      groups := Access.distinctNames (groups.map (·.grant))
      roles := Access.distinctNames roles
      permissions := Access.distinctNames permissions }

def permissionsOf (principalId : Option Value) : Program (List Value) := do
  let a ← resolve principalId
  return a.permissions

def describe (principalId : Option Value) : Program Access := do
  let a ← resolve principalId
  done a.sorted

def hasPermission (principalId : Option Value) (permission : Value) : Program Bool := do
  let ps ← permissionsOf principalId
  return ps.any (·.same permission)

def requirePermission (m : Moment) (requestId : Value) (principalId : Option Value)
    (permission : Value) : Program Unit := do
  let granted ← hasPermission principalId permission
  log m (.authorization requestId (principalId.getD .undefined) (.bool granted) permission)
  if granted then return () else raise (.denied permission)

end Authorization

end AuthGate
