import AuthGate.Failure
import AuthGate.Text.Blank
import AuthGate.Text.LowerCase

/-!
Users and the principals they become. A row of storage is first brought into the shape of a user; a
status that is not known is taken for archived, so that it never authenticates.
-/

namespace AuthGate

inductive Status where
  | unconfirmed
  | confirmed
  | archived
deriving DecidableEq, Repr

namespace Status

def label : Status → String
  | unconfirmed => "UNCONFIRMED"
  | confirmed => "CONFIRMED"
  | archived => "ARCHIVED"

def all : List Status := [unconfirmed, confirmed, archived]

def ofLabel? (l : String) : Option Status := all.find? (·.label = l)

def ofValue (v : Value) : Status :=
  match v with
  | .str l => (ofLabel? l).getD archived
  | _ => archived

end Status

structure User where
  id : Value
  email : Value
  passwordHash : Value
  status : Status
  firstName : Value
  lastName : Value
  createdAt : Value
  updatedAt : Value
deriving Repr

structure Principal where
  id : Value
  email : Value
  status : Status
deriving Repr

def userFields (row : Value) : Except Failure Record := do
  let id ← row.read "id"
  return [("id", id), ("email", row.field "email"), ("first_name", row.field "first_name"),
    ("last_name", row.field "last_name"), ("password_hash", row.field "password_hash"),
    ("status", .str (Status.ofValue (row.field "status")).label),
    ("created_at", row.field "created_at"), ("updated_at", row.field "updated_at")]

def principalFields (user : Value) : Except Failure Record := do
  let id ← user.read "id"
  return [("id", id), ("email", user.field "email"), ("status", user.field "status")]

def User.ofRow (row : Record) : User :=
  { id := row.get "id"
    email := row.get "email"
    passwordHash := row.get "password_hash"
    status := Status.ofValue (row.get "status")
    firstName := row.get "first_name"
    lastName := row.get "last_name"
    createdAt := row.get "created_at"
    updatedAt := row.get "updated_at" }

def User.normalEmail (email : Value) : Except Failure String :=
  (email.textFor "trim" "email").map fun s => Text.lower (.ofList (Text.trim s.toList))

def User.principal (u : User) : Principal := { id := u.id, email := u.email, status := u.status }

def Principal.toValue (p : Principal) : Value :=
  .obj [("id", p.id), ("email", p.email), ("status", .str p.status.label)]

end AuthGate
