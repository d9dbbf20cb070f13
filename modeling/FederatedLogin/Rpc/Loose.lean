import FederatedLogin.Json.Record

/-! # Loose values

Fields that a peer fills with values of varying type: ids that arrive as doubles or with a label,
flags and texts that are `false` when unset. A loose value is read without failing and coerced when
it is used.
-/

namespace FederatedLogin.Rpc

inductive Loose where
  | integer (value : Int)
  | double (value : Binary64)
  | flag (value : Bool)
  | text (value : String)
  | null
  | other (value : Json)

namespace Loose

def isInt64 (n : Int) : Bool := Json.minInt64 ≤ n && n ≤ Json.maxInt64

def ofJson : Json → Loose
  | .null => .null
  | .bool b => .flag b
  | .number (.int n) => if isInt64 n then .integer n else .double (.ofInt n)
  | .number (.float x) => .double x
  | .string s => .text s
  | v => .other v

/-! ## Reading by alternatives -/

def integer? : Json → Option Loose
  | .number (.int n) => if isInt64 n then some (.integer n) else none
  | _ => none

def double? : Json → Option Loose
  | .number (.int n) => some (.double (.ofInt n))
  | .number (.float x) => some (.double x)
  | _ => none

def flag? : Json → Option Loose
  | .bool b => some (.flag b)
  | _ => none

def text? : Json → Option Loose
  | .string s => some (.text s)
  | _ => none

def null? : Json → Option Loose
  | .null => some .null
  | _ => none

/-- The alternatives of a loose value, in the order in which they are tried. -/
def alternatives : List (Json → Option Loose) :=
  [integer?, double?, flag?, text?, null?, fun v => some (.other v)]

/-- The first alternative that takes a value. -/
def read? (v : Json) : Option Loose := alternatives.findSome? (· v)

/-! ## Coercions -/

/-- A whole double as a number of 64 bits. One out of range becomes the nearest limit. -/
def idOfDouble? (x : Binary64) : Option Int :=
  x.toInt?.map fun n => max Json.minInt64 (min Json.maxInt64 n)

/-- The id a value stands for: a whole number, or that of the first item of an array. -/
def idOfJson? : Json → Option Int
  | .number (.int n) => if isInt64 n then some n else idOfDouble? (.ofInt n)
  | .number (.float x) => idOfDouble? x
  | .array (first :: _) => idOfJson? first
  | _ => none

def id? : Loose → Option Int
  | .integer n => some n
  | .double x => idOfDouble? x
  | .other v => match v with
    | .array _ => idOfJson? v
    | _ => none
  | _ => none

/-- Only the literal `true` sets a flag. -/
def isSet : Loose → Bool
  | .flag b => b
  | _ => false

/-- The ids in an array. Items that stand for none are passed over. -/
def ids : Loose → List Int
  | .other (.array items) => items.filterMap idOfJson?
  | _ => []

def nonEmptyText? : Loose → Option String
  | .text s => if s.isEmpty then none else some s
  | _ => none

end Loose

/-- A loose field of a record, which is null where it is missing. -/
def looseField (r : Record Json) (name : String) : Loose :=
  ((r.get? name).map Loose.ofJson).getD .null

end FederatedLogin.Rpc
