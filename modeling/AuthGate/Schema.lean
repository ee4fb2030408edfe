import AuthGate.Value

namespace AuthGate.Schema

inductive Default where
  | none
  | text (s : String)
  | call (expression : String)
deriving DecidableEq, Repr

structure Column where
  name : String
  type : String
  notNull : Bool
  primaryKey : Bool
  unique : Bool
  default : Default
  check : Option String
  references : Option String
deriving DecidableEq, Repr

inductive Change where
  | createExtension (name : String)
  | createTable (name : String) (serialKey : Bool) (columns : List Column)
  | createIndex (table column : String)
  | createNamedIndex (table : String) (columns : List String) (name : String)
  | dropTable (name : String)
  | dropExtension (name : String)
deriving DecidableEq, Repr

namespace Column

def plain (name type : String) : Column := ⟨name, type, false, false, false, .none, none, none⟩

def required (name type : String) : Column := { plain name type with notNull := true }

def withDefault (c : Column) (d : Default) : Column := { c with default := d }

def onlyOnce (c : Column) : Column := { c with unique := true }

def key : Column :=
  { plain "id" "uuid" with primaryKey := true, default := .call "uuid_generate_v4()" }

def stamp (name : String) : Column := (required name "timestamp").withDefault (.call "NOW()")

def reference (name table : String) : Column :=
  { required name "uuid" with references := some (table ++ "(id)") }

def joinKey (name table : String) : Column := { reference name table with primaryKey := true }

def flag (name : String) (b : Bool) : List (String × Value) := if b then [(name, .bool true)] else []

def options (c : Column) : Record :=
  [("type", .str c.type)] ++ flag "notNull" c.notNull ++ flag "primaryKey" c.primaryKey ++
    flag "unique" c.unique ++
    (match c.default with
      | .none => []
      | .text s => [("default", .str s)]
      | .call e => [("default", .obj [("func", .str e)])]) ++
    (match c.check with
      | some e => [("check", .str e)]
      | none => []) ++
    (match c.references with
      | some r => [("references", .str r), ("onDelete", .str "CASCADE")]
      | none => [])

end Column

def users : List Column :=
  [.key, (Column.required "email" "varchar(320)").onlyOnce,
    (Column.required "first_name" "varchar(255)").withDefault (.text ""),
    (Column.required "last_name" "varchar(255)").withDefault (.text ""),
    .required "password_hash" "varchar(255)",
    { (Column.required "status" "varchar(20)").withDefault (.text "UNCONFIRMED") with
      check := some "status IN ('UNCONFIRMED', 'CONFIRMED', 'ARCHIVED')" },
    .stamp "created_at", .stamp "updated_at"]

def named (note : Column) : List Column :=
  [.key, (Column.required "name" "varchar(150)").onlyOnce, note]

def joined (left leftTable right rightTable : String) : List Column :=
  [.joinKey left leftTable, .joinKey right rightTable]

def refreshTokens : List Column :=
  [.reference "user_id" "users", .stamp "created_at", .plain "revoked_at" "timestamp"]

def up : List Change :=
  [.createExtension "uuid-ossp",
    .createTable "users" false users,
    .createTable "groups" false (named (.plain "description" "text")),
    .createTable "roles" false (named (.plain "description" "text")),
    .createTable "permissions" false (named (.plain "title" "varchar(255)")),
    .createTable "user_groups" false (joined "user_id" "users" "group_id" "groups"),
    .createTable "group_roles" false (joined "group_id" "groups" "role_id" "roles"),
    .createTable "role_permissions" false
      (joined "role_id" "roles" "permission_id" "permissions"),
    .createIndex "group_roles" "role_id",
    .createIndex "role_permissions" "permission_id",
    .createTable "refresh_tokens" true refreshTokens,
    .createNamedIndex "refresh_tokens" ["user_id", "revoked_at"] "idx_refresh_tokens_user_revoked"]

def down : List Change :=
  (["refresh_tokens", "role_permissions", "group_roles", "user_groups", "permissions", "roles",
    "groups", "users"].map .dropTable) ++ [.dropExtension "uuid-ossp"]

namespace Change

def describe : Change → List Value
  | createExtension name =>
    [.str "createExtension", .str name, .obj [("ifNotExists", .bool true)]]
  | createTable name serialKey columns =>
    [.str "createTable", .str name,
      .obj ((if serialKey then [("id", .str "id")] else []) ++
        columns.map fun c => (c.name, .obj c.options))]
  | createIndex table column => [.str "createIndex", .str table, .str column]
  | createNamedIndex table columns name =>
    [.str "createIndex", .str table, .texts columns, .obj [("name", .str name)]]
  | dropTable name => [.str "dropTable", .str name, .obj [("cascade", .bool true)]]
  | dropExtension name => [.str "dropExtension", .str name, .obj [("ifExists", .bool true)]]

end Change

end AuthGate.Schema
