import AuthGate.Json.Printer
import AuthGate.Log.Ancestry
import AuthGate.Moment

/-!
Log lines. An entry is written as one JSON object with its time, its level and what it is about;
errors go to one stream and everything else to the other. What an entry tells is taken as it comes:
only reasons and queries, which are redacted, have to be texts.
-/

namespace AuthGate.Log

inductive Stream where
  | out
  | err
deriving DecidableEq, Repr

structure Line where
  stream : Stream
  text : String
deriving DecidableEq, Repr

def info : String := "INFO"

def warn : String := "WARN"

def error : String := "ERROR"

def streamFor (level : Value) : Stream := if level.same (.str error) then .err else .out

inductive Entry where
  | request (requestId userId method path status latency : Value)
  | authentication (requestId userId success code reason : Value)
  | authorization (requestId userId success permission : Value)
  | database (requestId message query operation : Value)
  | security (requestId userId violation severity context : Value)
  | note (level message context : Value)
deriving Repr

def preview (s : String) : List UInt16 :=
  let us := Text.units s
  if 200 < us.length then us.take 200 ++ Text.units "..." else us

def redacted (v : Value) : Except Failure String := (v.textFor "replace" "value").map redactText

namespace Entry

/-- The fields of a note may be overwritten by those of its context. -/
def noteFields (time : String) (level message : Value) (context : Record) : Record :=
  Record.merge [("timestamp", .str time), ("level", level), ("message", message)]
    (redactFields context)

/-- Only what a note takes from its context is redacted, so nothing else can have a fault. -/
def noteFault? (context : Record) : Option Failure :=
  fieldsFault? (Record.merge
    [("timestamp", .undefined), ("level", .undefined), ("message", .undefined)] context)

def statusLevel (status : Number) : String :=
  if Number.le (.ofNat 500) status then error
  else if Number.le (.ofNat 400) status then warn else info

def outcomeLevel (success : Value) : String := if success.truthy then info else warn

def opening (time level kind : String) (requestId : Value) : Record :=
  [("timestamp", .str time), ("level", .str level), ("log_type", .str kind),
    ("request_id", requestId)]

def written (level : Value) (members : List (String × List Char)) : Line :=
  { stream := streamFor level, text := .ofList (Json.object members) }

def faultless (fault : Option Failure) : Except Failure Unit :=
  match fault with
  | some f => .error f
  | none => .ok ()

def stamp (wall : Number) : Except Failure String :=
  match Calendar.iso? wall with
  | some time => .ok time
  | none => .error (.rangeError "Invalid time value")

def write (wall : Number) : Entry → Except Failure Line
  | request requestId userId method path status latency => do
    let time ← stamp wall
    let level := statusLevel (← status.number)
    return written (.str level) (Json.printFields (opening time level "API_REQUEST" requestId ++
      [("user_id", userId), ("method", method), ("path", path), ("status_code", status),
        ("latency_ms", latency)]))
  | authentication requestId userId success code reason => do
    let time ← stamp wall
    let level := outcomeLevel success
    let reason ← match reason with
      | .undefined => pure .undefined
      | v => (redacted v).map .str
    return written (.str level) (Json.printFields (opening time level "AUTHENTICATION" requestId ++
      [("user_id", userId), ("success", success), ("code", code), ("reason", reason)]))
  | authorization requestId userId success permission => do
    let time ← stamp wall
    let level := outcomeLevel success
    return written (.str level) (Json.printFields (opening time level "AUTHORIZATION" requestId ++
      [("user_id", userId), ("success", success), ("permission", permission)]))
  | database requestId message query operation => do
    let query ← redacted query
    let time ← stamp wall
    return written (.str error)
      (Json.printFields (opening time error "DATABASE_ERROR" requestId ++
          [("error_message", message)]) ++
        ("query_preview", Json.quoteUnits (preview query)) ::
        Json.printFields [("operation", operation)])
  | security requestId userId violation severity context => do
    let time ← stamp wall
    if context.isAbsent then throw (.typeError "Cannot convert undefined or null to object")
    faultless (fault? (.obj context.entries))
    return written (.str error)
      (Json.printFields (opening time error "SECURITY_VIOLATION" requestId ++
        [("user_id", userId), ("violation_type", violation), ("severity", severity),
          ("context", .obj (redactFields context.entries))]))
  | note level message context => do
    let time ← stamp wall
    let context := if context.truthy then context.entries else []
    faultless (noteFault? context)
    let fields := noteFields time level message context
    return written (fields.get "level") (Json.printFields fields)

end Entry

end AuthGate.Log
