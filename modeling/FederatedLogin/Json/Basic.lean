import FederatedLogin.Number.Binary64

/-! # JSON values

Untyped values. The members of an object are kept in the order of their keys and each key occurs
once, so that a value has one representation.
-/

namespace FederatedLogin

/-- A number: a whole number of 64 bits, with or without a sign, or a double. -/
inductive Json.Number where
  | int (value : Int)
  | float (value : Binary64)
  deriving DecidableEq

inductive Json where
  | null
  | bool (value : Bool)
  | number (value : Json.Number)
  | string (value : String)
  | array (items : List Json)
  | object (members : List (String × Json))

namespace Json

/-- Sets a member of an object, at its place in the order of keys. -/
def insertMember (key : String) (value : α) : List (String × α) → List (String × α)
  | [] => [(key, value)]
  | (k, v) :: ms =>
    if key < k then (key, value) :: (k, v) :: ms
    else if key = k then (key, value) :: ms
    else (k, v) :: insertMember key value ms

/-- An object of the given members, the last of those with one key. -/
def ofMembers (members : List (String × Json)) : Json :=
  .object (members.foldl (fun ms (k, v) => insertMember k v ms) [])

def int (n : Int) : Json := .number (.int n)

def ofText? : Option String → Json
  | some s => .string s
  | none => .null

def member? (key : String) : Json → Option Json
  | .object members => members.lookup key
  | _ => none

def string? : Json → Option String
  | .string s => some s
  | _ => none

def bool? : Json → Option Bool
  | .bool b => some b
  | _ => none

def int? : Json → Option Int
  | .number (.int n) => some n
  | _ => none

end Json

end FederatedLogin
