import AuthGate.Failure
import AuthGate.Text.Base64

/-!
Requests and what their bodies hold. A body is the JSON text of a value, or the base64 text of one.
-/

namespace AuthGate

structure Request where
  headers : Value
  method : Value
  path : Value
  body : Value
  isBase64 : Bool
deriving Repr

namespace Request

def byteOf (v : Value) : Except Failure UInt8 := do
  let n ← v.number
  match n.toRat? with
  | some q =>
    let whole : Int := if q < 0 then -(-q).floor else q.floor
    return (whole % 256).toNat.toUInt8
  | none => return 0

def bytesOf (items : List Value) : Except Failure (Option (List UInt8)) :=
  (items.mapM byteOf).map some

def memoryLimit : Nat := 100000000000

/-- The bytes of an object with a length, under the indices below it. A missing item would be a zero
byte, with which no text of a body can be read; an invalid or negative length leaves no items. -/
def itemBytes (r : Record) (length : Number) : Except Failure (Option (List UInt8)) :=
  if Number.le (.ofNat memoryLimit) length then
    .error (.rangeError "Array buffer allocation failed")
  else
    let count := (length.toRat?.getD 0).floor.toNat
    let items := r.filter fun p => (arrayIndex? p.1).any (· < count)
    (bytesOf (items.map (·.2))).map (·.filter (·.length = count))

def byteSources : String := "Buffer, ArrayBuffer, or Array or an Array-like Object"

/-- The bytes of an object: none if it stands for an empty text, its items if it has a length, or
else the data of a buffer that was written as an object. -/
def objectBytes (r : Record) : Except Failure (Option (List UInt8)) :=
  let standsFor := r.get "valueOf"
  if standsFor.truthy then .error (.typeError "value.valueOf is not a function")
  else if standsFor.isText then .ok (some [])
  else match r.get "length" with
    | .undefined =>
      match r.get "type", r.get "data" with
      | .str "Buffer", .arr l => bytesOf l
      | _, _ => .error (.notOfKind "first argument" byteSources (.obj r))
    | .num n => itemBytes r n
    | _ => .ok (some [])

def bodyBytes : Value → Except Failure (Option (List UInt8))
  | .str s => .ok (some (Text.Base64.decode s.toList))
  | .date ms => .ok (some (Text.Base64.decode (Value.dateText ms).toList))
  | .arr l => bytesOf l
  | .obj r => objectBytes r
  | v => .error (.notOfKind "first argument" byteSources v)

def bodyText (r : Request) : Except Failure (Option (List Char)) :=
  if r.isBase64 then (bodyBytes r.body).map (·.map Text.ofUtf8)
  else .ok (r.body.text?.map String.toList)

def content (r : Request) : Except Failure Value := do
  if !r.body.truthy then throw (.badRequest "Request body is required")
  match (← r.bodyText).bind Json.parse? with
  | some v => return v
  | none => throw (.badRequest "Invalid JSON in request body")

end Request

end AuthGate
