import FederatedLogin.Number.Binary64
import FederatedLogin.Toml.Value

/-! # TOML scalars

The lexical part of TOML: strings, numbers, dates and times. Each reader takes its form from the
start of a text and returns what follows it.
-/

namespace FederatedLogin.Toml

/-- A reader takes something from the start of a text. -/
abbrev Reader (α : Type) := List Char → Option (α × List Char)

def isSpace (c : Char) : Bool := c == ' ' || c == '\t'

def skipSpace (s : List Char) : List Char := s.dropWhile isSpace

/-- What follows a line break, which is a line feed with or without a carriage return. -/
def afterNewline? : List Char → Option (List Char)
  | '\n' :: s => some s
  | '\r' :: '\n' :: s => some s
  | _ => none

def isPrintable (c : Char) : Bool := c == '\t' || (0x20 ≤ c.toNat && c.toNat != 0x7F)

/-! ## Strings -/

def charOfCode? (n : Nat) : Option Char :=
  if n < 0xD800 ∨ (0xE000 ≤ n ∧ n < 0x110000) then some (.ofNat n) else none

def codePoint? (width : Nat) : Reader Char := fun s => do
  let digits := s.take width
  if digits.length ≠ width then none
  let values ← digits.mapM Text.hexValue?
  let c ← charOfCode? (values.foldl (fun n d => n * 16 + d) 0)
  return (c, s.drop width)

def simpleEscape? (c : Char) : Option Char :=
  [('b', '\x08'), ('t', '\t'), ('n', '\n'), ('f', '\x0c'), ('r', '\r'), ('"', '"'),
    ('\\', '\\')].lookup c

def escape? : Reader Char
  | 'u' :: s => codePoint? 4 s
  | 'U' :: s => codePoint? 8 s
  | c :: s => (simpleEscape? c).map (·, s)
  | [] => none

/-- The rest after a backslash that ends a line: spaces to the end of the line, and then every space
and line break. -/
def afterLineEnd? (s : List Char) : Option (List Char) :=
  (afterNewline? (skipSpace s)).map fun s =>
    skipBreaks s.length s
where
  skipBreaks : Nat → List Char → List Char
    | 0, s => s
    | n + 1, s =>
      match afterNewline? (skipSpace s) with
      | some s => skipBreaks n s
      | none => skipSpace s

/-- Reads a string in quotes up to the closing one. The first argument bounds the number of steps,
and `seen` holds what has been read, in reverse. -/
def basic? : Nat → (seen : List Char) → Reader String
  | 0, _, _ => none
  | _, _, [] => none
  | n + 1, seen, c :: s =>
    if c == '"' then some (.ofList seen.reverse, s)
    else if c == '\\' then do
      let (e, s) ← escape? s
      basic? n (e :: seen) s
    else if isPrintable c then basic? n (c :: seen) s
    else none

/-- Reads a string in apostrophes, which has no escapes. -/
def literal? : (seen : List Char) → Reader String
  | _, [] => none
  | seen, c :: s =>
    if c == '\'' then some (.ofList seen.reverse, s)
    else if isPrintable c then literal? (c :: seen) s
    else none

/-- Closes a string of several lines at three quotes, to which up to two more may be joined as part
of the string. -/
def closing? (q : Char) (seen : List Char) (s : List Char) : Option (String × List Char) :=
  let quotes := s.takeWhile (· == q)
  if quotes.length < 3 then none
  else
    let extra := min 2 (quotes.length - 3)
    some (.ofList (List.replicate extra q ++ seen).reverse, s.drop (extra + 3))

/-- Reads a string of several lines up to its closing quotes. Line breaks become line feeds. -/
def multiline? (q : Char) (escapes : Bool) : Nat → (seen : List Char) → Reader String
  | 0, _, _ => none
  | _, _, [] => none
  | n + 1, seen, c :: s =>
    match closing? q seen (c :: s) with
    | some found => some found
    | none =>
      if escapes && c == '\\' then
        match afterLineEnd? s with
        | some s => multiline? q escapes n seen s
        | none => do
          let (e, s) ← escape? s
          multiline? q escapes n (e :: seen) s
      else
        match afterNewline? (c :: s) with
        | some s => multiline? q escapes n ('\n' :: seen) s
        | none => if isPrintable c then multiline? q escapes n (c :: seen) s else none

/-- Reads a string of any kind. A line break right after three opening quotes is dropped. -/
def string? : Reader String
  | '"' :: '"' :: '"' :: s => multiline? '"' true (s.length + 1) [] ((afterNewline? s).getD s)
  | '\'' :: '\'' :: '\'' :: s => multiline? '\'' false (s.length + 1) [] ((afterNewline? s).getD s)
  | '"' :: s => basic? (s.length + 1) [] s
  | '\'' :: s => literal? [] s
  | _ => none

/-! ## Numbers -/

/-- Reads digits of a base, among which single underscores may stand. -/
def digits? (isDigit : Char → Bool) : Reader (List Char)
  | [] => none
  | c :: s =>
    if !isDigit c then none
    else match s with
      | '_' :: t => (digits? isDigit t).map fun (ds, s) => (c :: ds, s)
      | t =>
        match digits? isDigit t with
        | some (ds, s) => some (c :: ds, s)
        | none =>
          match t with
          | d :: _ => if isDigit d then none else some ([c], t)
          | [] => some ([c], t)

/-- Reads decimal digits of which the first is zero only if it stands alone. -/
def wholeDigits? : Reader (List Char)
  | '0' :: s => some (['0'], s)
  | s => digits? Text.isDigit s

def splitSign : List Char → Bool × List Char
  | '-' :: s => (true, s)
  | '+' :: s => (false, s)
  | s => (false, s)

def maxInteger : Int := Int64.maxValue.toInt

def minInteger : Int := Int64.minValue.toInt

def inRange? (n : Int) : Option Int := if minInteger ≤ n ∧ n ≤ maxInteger then some n else none

def based? (base : Nat) : Reader Int := fun s => do
  let isDigit (c : Char) : Bool := (Text.hexValue? c).any (· < base)
  let (ds, s) ← digits? isDigit s
  let n := ds.foldl (fun n c => n * base + (Text.hexValue? c).getD 0) 0
  return (← inRange? n, s)

def integer? : Reader Int
  | '0' :: 'x' :: s => based? 16 s
  | '0' :: 'o' :: s => based? 8 s
  | '0' :: 'b' :: s => based? 2 s
  | s => do
    let (minus, s) := splitSign s
    let (ds, s) ← wholeDigits? s
    let n : Int := Text.digitsValue ds
    return (← inRange? (if minus then -n else n), s)

def fraction? : Reader (List Char)
  | '.' :: s => digits? Text.isDigit s
  | s => some ([], s)

def exponent? : Reader (Option Int)
  | c :: s =>
    if c == 'e' || c == 'E' then do
      let (minus, s) := splitSign s
      let (ds, s) ← digits? Text.isDigit s
      let n : Int := Text.digitsValue ds
      return (some (if minus then -n else n), s)
    else some (none, c :: s)
  | [] => some (none, [])

def overflows (digits : List Char) (e : Int) : Bool :=
  let significant := digits.dropWhile (· == '0')
  let place := significant.length + e
  !significant.isEmpty && -400 < place &&
    (400 < place || !(Binary64.ofDecimal (Text.digitsValue significant) e).isFinite)

/-- Reads a double: with a fraction, an exponent or both, or one of the words for what is no finite
number. A positive number that is greater than every double is refused. -/
def float? : Reader String := fun s => do
  let (minus, t) := splitSign s
  let literal (rest : List Char) : String := .ofList (s.take (s.length - rest.length))
  match t with
  | 'i' :: 'n' :: 'f' :: rest | 'n' :: 'a' :: 'n' :: rest => return (literal rest, rest)
  | _ =>
    let (whole, afterWhole) ← wholeDigits? t
    let (frac, afterFrac) ← fraction? afterWhole
    let (e, rest) ← exponent? afterFrac
    if frac.isEmpty ∧ e.isNone then none
    if !minus && overflows (whole ++ frac) (e.getD 0 - frac.length) then none
    return (literal rest, rest)

/-! ## Dates and times -/

def fixed? (width least greatest : Nat) : Reader Nat := fun s =>
  let ds := s.take width
  let n := Text.digitsValue ds
  if ds.length = width ∧ ds.all Text.isDigit ∧ least ≤ n ∧ n ≤ greatest then some (n, s.drop width)
  else none

def daysInMonth (year month : Nat) : Nat :=
  if month = 2 then
    if year % 4 = 0 ∧ (year % 100 ≠ 0 ∨ year % 400 = 0) then 29 else 28
  else if month = 4 ∨ month = 6 ∨ month = 9 ∨ month = 11 then 30
  else 31

def after? (c : Char) : List Char → Option (List Char)
  | d :: s => if d == c then some s else none
  | [] => none

def afterDate? (s : List Char) : Option (List Char) := do
  let (year, s) ← fixed? 4 0 9999 s
  let (month, s) ← fixed? 2 1 12 (← after? '-' s)
  let (_, s) ← fixed? 2 1 (daysInMonth year month) (← after? '-' s)
  return s

def afterTime? (s : List Char) : Option (List Char) := do
  let (_, s) ← fixed? 2 0 23 s
  let (_, s) ← fixed? 2 0 59 (← after? ':' s)
  let (_, s) ← fixed? 2 0 60 (← after? ':' s)
  match s with
  | '.' :: t =>
    if (t.takeWhile Text.isDigit).isEmpty then none else some (t.dropWhile Text.isDigit)
  | _ => some s

def afterOffset? : List Char → Option (List Char)
  | 'Z' :: s | 'z' :: s => some s
  | '+' :: s | '-' :: s => do
    let (_, s) ← fixed? 2 0 23 s
    let (_, s) ← fixed? 2 0 59 (← after? ':' s)
    return s
  | s => some s

def datetime? : Reader String := fun s => do
  let rest ←
    match afterDate? s with
    | none => afterTime? s
    | some t =>
      match t with
      | c :: u =>
        if c == 'T' || c == 't' || c == ' ' then
          match afterTime? u with
          | some v => afterOffset? v
          | none => some t
        else some t
      | [] => some t
  return (.ofList (s.take (s.length - rest.length)), rest)

end FederatedLogin.Toml
