import FederatedLogin.Toml.Scalar
import FederatedLogin.Toml.Tree

/-! # TOML documents

Reading a document: lines that define keys or open tables, with blanks and comments between them.
-/

namespace FederatedLogin.Toml

/-- Arrays and inline tables nest to a lesser depth than this, and dotted keys have fewer parts. -/
def depthLimit : Nat := 80

/-- What follows a line's end after spaces and perhaps a comment. -/
def afterLine? (s : List Char) : Option (List Char) :=
  let s := match skipSpace s with
    | '#' :: t => t.dropWhile isPrintable
    | t => t
  match s with
  | [] => some []
  | s => afterNewline? s

def skipLines : Nat → List Char → List Char
  | 0, s => s
  | n + 1, s =>
    match skipSpace s with
    | '#' :: t => skipLines n (t.dropWhile isPrintable)
    | t =>
      match afterNewline? t with
      | some u => skipLines n u
      | none => t

/-! ## Keys -/

def isBareKeyChar (c : Char) : Bool := Text.isAsciiAlphanumeric c || c == '-' || c == '_'

def simpleKey? : Reader String
  | '"' :: s => basic? (s.length + 1) [] s
  | '\'' :: s => literal? [] s
  | s =>
    let key := s.takeWhile isBareKeyChar
    if key.isEmpty then none else some (.ofList key, s.dropWhile isBareKeyChar)

/-- Reads a key of one part or more, with dots between them. The result is the path and the last
part. -/
def key? : Nat → (path : List String) → Reader (List String × String)
  | 0, _, _ => none
  | n + 1, path, s => do
    let (part, s) ← simpleKey? (skipSpace s)
    match skipSpace s with
    | '.' :: t => key? n (path ++ [part]) t
    | t => if depthLimit ≤ path.length + 1 then none else some ((path, part), t)

def dottedKey? : Reader (List String × String) := fun s => key? (s.length + 1) [] s

/-! ## Values -/

def word? (word : String) (v : Value) : Reader Value := fun s =>
  if word.toList.isPrefixOf s then some (v, s.drop word.length) else none

def number? : Reader Value := fun s =>
  match datetime? s with
  | some (d, s) => some (.datetime d, s)
  | none =>
    match float? s with
    | some (f, s) => some (.float f, s)
    | none => (integer? s).map fun (n, s) => (.integer n, s)

mutual

/-- Reads a value nested at most `depth` levels. The first argument bounds the number of steps. -/
def value? : Nat → (depth : Nat) → Reader Value
  | 0, _, _ => none
  | _, _, [] => none
  | n + 1, depth, c :: s =>
    if c == '"' || c == '\'' then (string? (c :: s)).map fun (t, s) => (.string t, s)
    else if c == '[' then if depth = 0 then none else items? n (depth - 1) [] s
    else if c == '{' then if depth = 0 then none else firstPair? n (depth - 1) s
    else if c == '+' || c == '-' || Text.isDigit c || c == 'i' || c == 'n' then number? (c :: s)
    else if c == 't' then word? "true" (.boolean true) (c :: s)
    else if c == 'f' then word? "false" (.boolean false) (c :: s)
    else none

def items? : Nat → (depth : Nat) → (seen : List Value) → Reader Value
  | 0, _, _, _ => none
  | n + 1, depth, seen, s =>
    match skipLines (s.length + 1) s with
    | ']' :: t => some (.array seen.reverse, t)
    | s => do
      let (item, s) ← value? n depth s
      match skipLines (s.length + 1) s with
      | ',' :: t => items? n depth (item :: seen) t
      | ']' :: t => some (.array (item :: seen).reverse, t)
      | _ => none

def firstPair? : Nat → (depth : Nat) → Reader Value
  | 0, _, _ => none
  | n + 1, depth, s =>
    match skipSpace s with
    | '}' :: t => some (.table [], t)
    | s => pairs? n depth [] s

def pairs? : Nat → (depth : Nat) → Entries → Reader Value
  | 0, _, _, _ => none
  | n + 1, depth, entries, s => do
    let ((path, key), s) ← dottedKey? s
    let (v, s) ← value? n depth (skipSpace (← after? '=' s))
    let entries ← entries.define path key v
    match skipSpace s with
    | ',' :: t => pairs? n depth entries t
    | '}' :: t => some (.table (entriesValues entries), t)
    | _ => none

end

/-! ## Lines -/

def line? (d : Draft) : Reader Draft
  | '[' :: '[' :: s => do
    let ((path, key), s) ← dottedKey? s
    return (← d.openElement path key, ← after? ']' (← after? ']' s))
  | '[' :: s => do
    let ((path, key), s) ← dottedKey? s
    return (← d.openTable path key, ← after? ']' s)
  | s => do
    let ((path, key), s) ← dottedKey? s
    let (v, s) ← value? (2 * s.length + 2) (depthLimit - 1) (skipSpace (← after? '=' s))
    return (← d.define path key v, s)

def lines? : Nat → Draft → List Char → Option Draft
  | 0, _, _ => none
  | n + 1, d, s =>
    match skipSpace s with
    | [] => some d
    | c :: t =>
      if c == '#' || c == '\n' || c == '\r' then do lines? n d (← afterLine? (c :: t))
      else do
        let (d, s) ← line? d (c :: t)
        lines? n d (← afterLine? s)

/-- Reads a document. A byte order mark at its start is passed over. -/
def parse? (text : String) : Option Value := do
  let s := text.toList
  let s := if s.head? == some '\uFEFF' then s.drop 1 else s
  (← lines? (s.length + 1) .empty s).finish

end FederatedLogin.Toml
