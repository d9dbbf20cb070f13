import FederatedLogin.Json.Basic

/-! # Written JSON

The compact text of a value: no spaces, members in the order of their keys, and characters outside
ASCII as themselves.
-/

namespace FederatedLogin.Json

/-- A character within a string. Quotes, backslashes and control characters are escaped. -/
def escapeChar (c : Char) : List Char :=
  if c == '"' then ['\\', '"']
  else if c == '\\' then ['\\', '\\']
  else if c == '\n' then ['\\', 'n']
  else if c == '\r' then ['\\', 'r']
  else if c == '\t' then ['\\', 't']
  else if c == '\x08' then ['\\', 'b']
  else if c == '\x0c' then ['\\', 'f']
  else if c.toNat < 0x20 then ['\\', 'u'] ++ Text.hexDigits 4 c.toNat
  else [c]

def stringChars (s : String) : List Char := '"' :: s.toList.flatMap escapeChar ++ ['"']

/-- How doubles are written: in positional notation when the decimal point falls at most
`leadingZeros` places before the first digit and at most `wholeDigits` places after it. -/
structure DoubleFormat where
  leadingZeros : Nat
  wholeDigits : Nat

def doubleFormat : DoubleFormat := ⟨4, 16⟩

/-- A double in the fewest digits that read back. A whole number in positional notation ends in a
zero after the point, and an exponent has its sign. -/
def doubleChars (x : Binary64) : List Char :=
  let (digits, k) := x.shortestDecimal
  let ds := Text.natDigits digits
  let point := (ds.length : Int) + k
  let zeros (n : Int) : List Char := List.replicate n.toNat '0'
  let magnitude : List Char :=
    if x.isZero then ['0', '.', '0']
    else if 0 ≤ k ∧ point ≤ doubleFormat.wholeDigits then ds ++ zeros k ++ ['.', '0']
    else if 0 < point ∧ point ≤ doubleFormat.wholeDigits then
      ds.take point.toNat ++ '.' :: ds.drop point.toNat
    else if -(doubleFormat.leadingZeros : Int) ≤ point ∧ point ≤ 0 then
      ['0', '.'] ++ zeros (-point) ++ ds
    else
      ds.take 1 ++ (if ds.length = 1 then [] else '.' :: ds.drop 1) ++
        'e' :: (if 0 < point then ['+'] else []) ++ Text.intDigits (point - 1)
  if x.negative then '-' :: magnitude else magnitude

def Number.chars : Number → List Char
  | .int n => Text.intDigits n
  | .float x => doubleChars x

mutual

def chars : Json → List Char
  | .null => "null".toList
  | .bool true => "true".toList
  | .bool false => "false".toList
  | .number n => n.chars
  | .string s => stringChars s
  | .array items => '[' :: itemsChars items ++ [']']
  | .object members => '{' :: membersChars members ++ ['}']

def itemsChars : List Json → List Char
  | [] => []
  | [v] => chars v
  | v :: vs => chars v ++ ',' :: itemsChars vs

def membersChars : List (String × Json) → List Char
  | [] => []
  | [(k, v)] => stringChars k ++ ':' :: chars v
  | (k, v) :: ms => stringChars k ++ ':' :: chars v ++ ',' :: membersChars ms

end

def render (v : Json) : String := .ofList v.chars

end FederatedLogin.Json
