import FederatedLogin.Text.Ascii

/-! # Tables of code points

Sets and maps of code points in a short notation. A row is a hexadecimal number, a range such as
`300-34E`, or every second number of one as in `100-12E/2`. What the row is mapped to may follow:
after `=` the same numbers for all of it, joined by `+`; after `>` numbers that grow with those of
the row.
-/

namespace FederatedLogin.Text

/-- Every `step`-th code point from `first` to `last`, with what they are mapped to. -/
structure Row where
  first : Nat
  last : Nat
  step : Nat
  target : List Nat
  /-- Whether the target grows with the code point, from that of the first one. -/
  grows : Bool

namespace Row

def contains (r : Row) (n : Nat) : Bool :=
  r.first ≤ n && n ≤ r.last && (n - r.first) % r.step == 0

def apply (r : Row) (n : Nat) : List Nat :=
  if r.grows then r.target.map (· + (n - r.first)) else r.target

def numbers? (separator : Char) (s : List Char) : Option (List Nat) :=
  (splitAt separator s).mapM (number? 16)

def ofText? (s : List Char) : Option Row := do
  let isSign (c : Char) : Bool := c == '=' || c == '>'
  let sign := s.dropWhile (!isSign ·)
  let target ← if sign.isEmpty then some [] else numbers? '+' (sign.drop 1)
  let grows := sign.head? == some '>'
  match ← (splitAt '/' (s.takeWhile (!isSign ·))).mapM (numbers? '-') with
  | [[n]] => return ⟨n, n, 1, target, grows⟩
  | [[first, last]] => return ⟨first, last, 1, target, grows⟩
  | [[first, last], [step]] => return ⟨first, last, step, target, grows⟩
  | _ => none

end Row

def rows (lines : List String) : List Row :=
  lines.flatMap fun line => (splitAt ' ' line.toList).filterMap Row.ofText?

def inRows (table : List Row) (c : Char) : Bool := table.any (·.contains c.toNat)

def lookUp? (table : List Row) (c : Char) : Option (List Nat) :=
  (table.find? (·.contains c.toNat)).map (·.apply c.toNat)

end FederatedLogin.Text
