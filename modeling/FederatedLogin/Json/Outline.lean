import FederatedLogin.Json.Basic

/-! # Outlines of JSON texts

The first half of reading: a text is checked against the grammar, while its strings and numbers stay
as they are written. The value of a member that nobody asks for is judged by its outline alone, so
it may nest without limit and hold ill-formed characters or numbers out of reach.
-/

namespace FederatedLogin.Json

abbrev Bytes := List UInt8

structure NumberLiteral where
  negative : Bool
  whole : List Nat
  fraction : Option (List Nat)
  /-- The sign of the exponent, true for minus, and its digits. -/
  exponent : Option (Bool × List Nat)

inductive Outline where
  | null
  | bool (value : Bool)
  | number (literal : NumberLiteral)
  | string (escaped : Bytes)
  | array (items : List Outline)
  | object (members : List (Bytes × Outline))

namespace Outline

def ascii (c : Char) : UInt8 := c.toNat.toUInt8

def isSpace (b : UInt8) : Bool :=
  b == ascii ' ' || b == ascii '\n' || b == ascii '\t' || b == ascii '\r'

def isDigit (b : UInt8) : Bool := ascii '0' ≤ b && b ≤ ascii '9'

def isHexDigit (b : UInt8) : Bool := (Text.hexValue? (Char.ofNat b.toNat)).isSome

def isSimpleEscape (b : UInt8) : Bool :=
  ['"', '\\', '/', 'b', 'f', 'n', 'r', 't'].any (ascii · == b)

def skipSpace (s : Bytes) : Bytes := s.dropWhile isSpace

/-- Reads a string up to its closing quote. `seen` holds what has been passed, in reverse. -/
def string? (seen : Bytes) : Bytes → Option (Bytes × Bytes)
  | [] => none
  | c :: s =>
    if c == ascii '"' then some (seen.reverse, s)
    else if c < 0x20 then none
    else if c == ascii '\\' then
      match s with
      | [] => none
      | e :: s =>
        if e == ascii 'u' then
          match s with
          | h₁ :: h₂ :: h₃ :: h₄ :: s =>
            if [h₁, h₂, h₃, h₄].all isHexDigit then
              string? (h₄ :: h₃ :: h₂ :: h₁ :: e :: c :: seen) s
            else none
          | _ => none
        else if isSimpleEscape e then string? (e :: c :: seen) s
        else none
    else string? (c :: seen) s

def digits (s : Bytes) : List Nat × Bytes :=
  ((s.takeWhile isDigit).map (·.toNat - 0x30), s.dropWhile isDigit)

def digits? (s : Bytes) : Option (List Nat × Bytes) :=
  match digits s with
  | ([], _) => none
  | found => some found

def fraction? : Bytes → Option (Option (List Nat) × Bytes)
  | c :: s =>
    if c == ascii '.' then (digits? s).map fun (ds, s) => (some ds, s) else some (none, c :: s)
  | [] => some (none, [])

def exponent? : Bytes → Option (Option (Bool × List Nat) × Bytes)
  | c :: s =>
    if c == ascii 'e' || c == ascii 'E' then
      let (minus, s) : Bool × Bytes :=
        match s with
        | d :: t => if d == ascii '-' then (true, t) else (false, if d == ascii '+' then t else s)
        | [] => (false, [])
      (digits? s).map fun (ds, s) => (some (minus, ds), s)
    else some (none, c :: s)
  | [] => some (none, [])

/-- Reads a number without its sign. A zero at the front stands alone. -/
def magnitude? (negative : Bool) (s : Bytes) : Option (NumberLiteral × Bytes) := do
  let (whole, s) ← digits? s
  if whole.head? = some 0 ∧ whole.length ≠ 1 then none
  let (fraction, s) ← fraction? s
  let (exponent, s) ← exponent? s
  return (⟨negative, whole, fraction, exponent⟩, s)

def afterWord? (word : String) (s : Bytes) : Option Bytes :=
  let w := word.toList.map ascii
  if w.isPrefixOf s then some (s.drop w.length) else none

mutual

/-- Reads a value. The first argument bounds the number of steps. -/
def value? : Nat → Bytes → Option (Outline × Bytes)
  | 0, _ => none
  | n + 1, s =>
    match skipSpace s with
    | [] => none
    | c :: s =>
      if c == ascii '"' then (string? [] s).map fun (t, s) => (.string t, s)
      else if c == ascii '[' then
        match skipSpace s with
        | [] => none
        | d :: t => if d == ascii ']' then some (.array [], t) else items? n [] (d :: t)
      else if c == ascii '{' then
        match skipSpace s with
        | [] => none
        | d :: t => if d == ascii '}' then some (.object [], t) else members? n [] (d :: t)
      else if c == ascii '-' then (magnitude? true s).map fun (l, s) => (.number l, s)
      else if isDigit c then (magnitude? false (c :: s)).map fun (l, s) => (.number l, s)
      else if c == ascii 'n' then (afterWord? "ull" s).map (.null, ·)
      else if c == ascii 't' then (afterWord? "rue" s).map (.bool true, ·)
      else if c == ascii 'f' then (afterWord? "alse" s).map (.bool false, ·)
      else none

def items? : Nat → List Outline → Bytes → Option (Outline × Bytes)
  | 0, _, _ => none
  | n + 1, seen, s => do
    let (item, s) ← value? n s
    match skipSpace s with
    | [] => none
    | c :: s =>
      if c == ascii ',' then items? n (item :: seen) s
      else if c == ascii ']' then some (.array (item :: seen).reverse, s)
      else none

def members? : Nat → List (Bytes × Outline) → Bytes → Option (Outline × Bytes)
  | 0, _, _ => none
  | n + 1, seen, s => do
    let quote :: s := skipSpace s | none
    if quote != ascii '"' then none
    let (key, s) ← string? [] s
    let colon :: s := skipSpace s | none
    if colon != ascii ':' then none
    let (item, s) ← value? n s
    match skipSpace s with
    | [] => none
    | c :: s =>
      if c == ascii ',' then members? n ((key, item) :: seen) s
      else if c == ascii '}' then some (.object ((key, item) :: seen).reverse, s)
      else none

end

/-- The outline of a text that holds one value and nothing else. Every other step takes a byte, so
twice their number is steps enough. -/
def ofBytes? (s : Bytes) : Option Outline :=
  match value? (2 * s.length + 2) s with
  | some (v, rest) => if (skipSpace rest).isEmpty then some v else none
  | none => none

end Outline

end FederatedLogin.Json
