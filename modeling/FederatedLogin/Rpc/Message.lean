import FederatedLogin.Json.Record
import FederatedLogin.Json.Render

/-! # JSON-RPC messages

Requests and responses of JSON-RPC 2.0. A response is read leniently: what it lacks is absent, and a
peer's ways of saying "nothing" do not count as a result.
-/

namespace FederatedLogin.Rpc

def version : String := "2.0"

structure Request where
  method : String
  params : Json
  id : Int

/-- A request by the method that serves sessions and objects alike. -/
def Request.call (params : Json) (id : Int) : Request := ⟨"call", params, id⟩

def Request.toJson (r : Request) : Json :=
  .ofMembers [("jsonrpc", .string version), ("method", .string r.method), ("params", r.params),
    ("id", .int r.id)]

/-- The text of a request. Its own members come in a fixed order. -/
def Request.text (r : Request) : String :=
  .ofList <|
    "\x7b\"jsonrpc\":".toList ++ Json.stringChars version ++
    ",\"method\":".toList ++ Json.stringChars r.method ++
    ",\"params\":".toList ++ r.params.chars ++
    ",\"id\":".toList ++ Text.intDigits r.id ++ ['}']

structure ErrorObject where
  code : Int
  message : String
  data : Option Json

namespace ErrorObject

def dataText? (e : ErrorObject) (key : String) : Option String :=
  (e.data.bind (·.member? key)).bind Json.string?

def ofOutline? (depth : Nat) (o : Json.Outline) : Option ErrorObject := do
  let r ← (← o.record? ["code", "message", "data"] []).mapM? (·.toJson? depth)
  return {
    code := ← Json.plainInt? r "code"
    message := ← Json.plainText? r "message"
    data := (r.get? "data").bind Json.optionalValue }

def ofBytes? (s : Json.Bytes) : Option ErrorObject :=
  (Json.Outline.ofBytes? s).bind (ofOutline? (Json.maxDepth - 1))

end ErrorObject

structure Response where
  version : Option String
  id : Option Json
  result : Option Json
  error : Option ErrorObject

namespace Response

/-- Whether a result says something: not null, `false` or empty. -/
def isUsable : Json → Bool
  | .null | .bool false | .object [] | .array [] => false
  | .string s => !s.isEmpty
  | _ => true

def usableResult? (r : Response) : Option Json := r.result.filter isUsable

/-- Reads the field of an error, which may be missing or null. -/
def errorField? (depth : Nat) : Option Json.Outline → Option (Option ErrorObject)
  | none | some .null => some none
  | some o => (ErrorObject.ofOutline? depth o).map some

def ofBytes? (s : Json.Bytes) : Option Response := do
  let r ← (← Json.Outline.ofBytes? s).record? ["jsonrpc", "id", "result", "error"] []
  let error ← errorField? (Json.maxDepth - 2) (r.get? "error")
  let others : Record Json.Outline := ⟨r.fields.filter (·.1 != "error")⟩
  let values ← others.mapM? (·.toJson? (Json.maxDepth - 1))
  return {
    version := ← values.read? "jsonrpc" Json.optionalText?
    id := (values.get? "id").bind Json.optionalValue
    result := (values.get? "result").bind Json.optionalValue
    error }

end Response

end FederatedLogin.Rpc
