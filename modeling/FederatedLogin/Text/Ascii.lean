/-! # ASCII text

Comparison that ignores the case of ASCII letters alone, plain substring search, and the ASCII
letters and digits that names are made of.
-/

namespace FederatedLogin.Text

def isLowerLetter (c : Char) : Bool := 'a' ≤ c && c ≤ 'z'

def isDigit (c : Char) : Bool := '0' ≤ c && c ≤ '9'

def isLowerAlphanumeric (c : Char) : Bool := isLowerLetter c || isDigit c

def isAsciiAlphanumeric (c : Char) : Bool := isLowerAlphanumeric c || ('A' ≤ c && c ≤ 'Z')

/-- The text with its ASCII capitals in lower case; every other character stays. -/
def foldAscii (s : String) : List Char := s.toList.map Char.toLower

/-- Equality up to the case of ASCII letters. -/
def sameIgnoringCase (a b : String) : Bool := foldAscii a == foldAscii b

def occursIn [BEq α] (part : List α) : List α → Bool
  | [] => part.isEmpty
  | c :: s => part.isPrefixOf (c :: s) || occursIn part s

def contains (s part : String) : Bool := occursIn part.toList s.toList

/-- The part of a text before the first `c`, or all of it. -/
def before (c : Char) (s : String) : String := .ofList (s.toList.takeWhile (· != c))

/-- The pieces of a list between the elements equal to `sep`. -/
def splitAt [BEq α] (sep : α) : List α → List (List α)
  | [] => [[]]
  | c :: s =>
    if c == sep then [] :: splitAt sep s
    else match splitAt sep s with
      | [] => [[c]]
      | piece :: pieces => (c :: piece) :: pieces

def hexDigit (n : Nat) : Char := .ofNat (if n < 10 then 0x30 + n else 0x57 + n)

/-- The last `width` hexadecimal digits of a number. -/
def hexDigits : (width : Nat) → Nat → List Char
  | 0, _ => []
  | width + 1, n => hexDigits width (n / 16) ++ [hexDigit (n % 16)]

def hexValue? (c : Char) : Option Nat :=
  if isDigit c then some (c.toNat - 0x30)
  else if 'a' ≤ c && c ≤ 'f' then some (c.toNat - 0x57)
  else if 'A' ≤ c && c ≤ 'F' then some (c.toNat - 0x37)
  else none

def number? (base : Nat) (s : List Char) : Option Nat :=
  s.foldlM (fun n c => do
    let d ← hexValue? c
    if d < base then some (n * base + d) else none) 0

end FederatedLogin.Text
