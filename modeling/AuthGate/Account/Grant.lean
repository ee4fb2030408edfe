import AuthGate.Account.User

namespace AuthGate

/-- A list of a store, by the text of the id that it is kept under, and an index in the list. -/
abbrev Place := String × Nat

/-- A group, role or permission as its store holds it. Rows that are made anew whenever they are
asked for have no place. -/
structure GrantRow where
  value : Value
  place : Option Place
deriving Repr

structure Grant where
  id : Value
  name : Value
  place : Option Place
deriving Repr

def grantFields (note : String) (row : Value) : Except Failure Record := do
  let id ← row.read "id"
  let v := row.field note
  return [("id", id), ("name", row.field "name"), (note, if v.truthy then v else .undefined)]

def GrantRow.grant (row : GrantRow) : Grant :=
  { id := row.value.field "id", name := row.value.field "name", place := row.place }

def GrantRow.read (field : String) (row : GrantRow) : Except Failure Grant :=
  (row.value.read field).map fun _ => row.grant

/-- Whether two grants have the same id or name. Dates, lists and objects are the same only if they
are held in one place. -/
def Grant.agree (part : Grant → Value) (g h : Grant) : Bool :=
  (part g).same (part h) ||
    (part g).isCompound && (part h).isCompound && g.place.isSome && g.place = h.place

end AuthGate
