import AuthGate.Database.Transaction
import AuthGate.Json.Parser

namespace AuthGate.Database

def isUuid (s : String) : Bool :=
  let groups := Text.splitAt '-' s.toList
  groups.map List.length = [8, 4, 4, 4, 12] && groups.all (·.all fun c => (Json.hexValue c).isSome)

def userColumns : String :=
  "id, email, first_name, last_name, password_hash, status, created_at, updated_at"

def userBy (column : String) (key : Value) : Query :=
  ⟨"SELECT " ++ userColumns ++ " FROM users WHERE " ++ column ++ " = $1", .arr [key]⟩

def firstUser : Rows → Except Failure (Option Record)
  | [] => .ok none
  | row :: _ => (userFields row).map some

def fetchUser (q : Query) : Action (Option Record) := do
  let rows ← query q
  .ofResult (firstUser rows)

def userById (id : Value) : Action (Option Record) := do
  let text ← .ofResult id.text
  if isUuid text then fetchUser (userBy "id" id) else return none

def userByEmail (email : Value) : Action (Option Record) := do
  let normal ← .ofResult (User.normalEmail email)
  fetchUser (userBy "email" (.str normal))

def groupsQuery (userId : Value) : Query :=
  ⟨"SELECT g.id, g.name, g.description FROM groups g " ++
    "INNER JOIN user_groups ug ON ug.group_id = g.id WHERE ug.user_id = $1 ORDER BY g.name ASC",
    .arr [userId]⟩

def rolesQuery (groupId : Value) : Query :=
  ⟨"SELECT r.id, r.name, r.description FROM roles r " ++
    "INNER JOIN group_roles gr ON gr.role_id = r.id WHERE gr.group_id = $1 ORDER BY r.name ASC",
    .arr [groupId]⟩

def permissionsQuery (roleId : Value) : Query :=
  ⟨"SELECT p.id, p.name, p.title FROM permissions p " ++
    "INNER JOIN role_permissions rp ON rp.permission_id = p.id WHERE rp.role_id = $1 ORDER BY p.name ASC",
    .arr [roleId]⟩

def grants (note : String) (q : Query) : Action (List Value) := do
  let rows ← query q
  .ofResult (rows.mapM fun row => (grantFields note row).map .obj)

def groupsOf (userId : Value) : Action (List Value) := grants "description" (groupsQuery userId)

def rolesOf (groupId : Value) : Action (List Value) := grants "description" (rolesQuery groupId)

def permissionsOf (roleId : Value) : Action (List Value) := grants "title" (permissionsQuery roleId)

def revokeQuery (tokenId userId : Value) : Query :=
  ⟨"UPDATE refresh_tokens SET revoked_at = NOW() " ++
    "WHERE id = $1 AND user_id = $2 AND revoked_at IS NULL RETURNING id",
    .arr [tokenId, userId]⟩

def issueQuery (userId : Value) : Query :=
  ⟨"INSERT INTO refresh_tokens (user_id) VALUES ($1) RETURNING id", .arr [userId]⟩

def revokeAllQuery (userId : Value) : Query :=
  ⟨"UPDATE refresh_tokens SET revoked_at = NOW() " ++
    "WHERE user_id = $1 AND revoked_at IS NULL RETURNING id",
    .arr [userId]⟩

def firstId (rows : Rows) : Except Failure Value := (rows.headD .undefined).read "id"

def issue (userId : Value) : Action Value := do
  let rows ← query (issueQuery userId)
  .ofResult (firstId rows)

def rotation (tokenId userId : Value) : Work (Option Value) :=
  .query (revokeQuery tokenId userId) fun revoked =>
    if revoked.isEmpty then .done (.ok none)
    else .query (issueQuery userId) fun rows =>
      .done ((firstId rows).map fun id => if id.isNull then none else some id)

def rotate (tokenId userId : Value) : Action (Option Value) :=
  transaction (rotation tokenId userId)

def revoke (tokenId userId : Value) : Action Bool := do
  let rows ← query (revokeQuery tokenId userId)
  return !rows.isEmpty

def revokeAllFor (userId : Value) : Action Nat := List.length <$> query (revokeAllQuery userId)

/-- Every query makes its rows anew. -/
def freshRows (rows : Action (List Value)) : Action (List GrantRow) :=
  (List.map fun v => { value := v, place := none }) <$> rows

def answer : (c : Call) → Action c.Answer
  | .findByEmail email => (·.map User.ofRow) <$> userByEmail email
  | .findById id => (·.map User.ofRow) <$> userById (.str id)
  | .issue userId => issue userId
  | .rotate tokenId userId => rotate (.ofNat tokenId) userId
  | .revoke tokenId userId => revoke (.ofNat tokenId) (.str userId)
  | .revokeAllFor userId => revokeAllFor userId
  | .findGroupsFor userId => freshRows (groupsOf userId)
  | .findRolesFor groupId => freshRows (rolesOf groupId)
  | .findPermissionsFor roleId => freshRows (permissionsOf roleId)
  | .checkHealth => isHealthy

def stores : Program.Stores Database := answer

end AuthGate.Database
