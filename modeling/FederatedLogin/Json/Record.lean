import FederatedLogin.Json.Read
import FederatedLogin.Record

/-! # Records in JSON

A record is written as an object with a member for each field, or as an array of its fields in
order. Fields may be missing, but no field may be given twice or in excess, and null is not a text,
a number or a flag.
-/

namespace FederatedLogin.Json

/-- The least and the greatest whole number of 64 bits with a sign. -/
def minInt64 : Int := Int64.minValue.toInt

def maxInt64 : Int := Int64.maxValue.toInt

/-! ## Optional fields -/

def optionalText? : Json → Option (Option String)
  | .null => some none
  | .string s => some (some s)
  | _ => none

def optionalFlag? : Json → Option (Option Bool)
  | .null => some none
  | .bool b => some (some b)
  | _ => none

def optionalInt? : Json → Option (Option Int)
  | .null => some none
  | .number (.int n) => some (some n)
  | _ => none

def optionalValue : Json → Option Json
  | .null => none
  | v => some v

/-! ## Plain fields -/

/-- A text, which is empty where the field is missing. -/
def plainText? (r : Record Json) (name : String) : Option String :=
  match r.get? name with
  | none => some ""
  | some v => v.string?

/-- A whole number of 64 bits, which is zero where the field is missing. -/
def plainInt? (r : Record Json) (name : String) : Option Int :=
  match r.get? name with
  | none => some 0
  | some v => v.int?.filter fun n => minInt64 ≤ n && n ≤ maxInt64

/-! ## Choices -/

/-- The name of a choice, written as a text or as an object with null under the name. -/
def choiceName? : Json → Option String
  | .string name => some name
  | .object [(name, .null)] => some name
  | _ => none

/-! ## Records -/

def record? (names : List String) : Json → Option (Record Json)
  | .object members => Record.ofMembers? names [] members
  | .array items => if items.length ≤ names.length then some (.ofItems names items) else none
  | _ => none

/-- An outline read as a record, whose fields keep their outlines. -/
def Outline.record? (names : List String) (aliases : List (String × String)) :
    Outline → Option (Record Outline)
  | .object members => do
    Record.ofMembers? names aliases (← members.mapM fun (k, v) => do return (← decodeString? k, v))
  | .array items => if items.length ≤ names.length then some (.ofItems names items) else none
  | _ => none

/-- A text read as a record of untyped values. The record itself is one level of nesting. -/
def recordOfBytes? (names : List String) (aliases : List (String × String)) (s : Bytes) :
    Option (Record Json) := do
  let r ← (← Outline.ofBytes? s).record? names aliases
  r.mapM? (·.toJson? (maxDepth - 1))

end FederatedLogin.Json
