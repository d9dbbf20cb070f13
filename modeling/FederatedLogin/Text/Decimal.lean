import FederatedLogin.Text.Ascii

/-! # Decimal numerals

Whole numbers in decimal, with an optional sign when read. What is written reads back as the same
number.
-/

namespace FederatedLogin.Text

def digitChar (n : Nat) : Char := .ofNat (0x30 + n)

def natDigits (n : Nat) : List Char :=
  if n < 10 then [digitChar n] else natDigits (n / 10) ++ [digitChar (n % 10)]
termination_by n
decreasing_by omega

/-- The digits of a number, after a minus sign if it is negative. -/
def intDigits : Int → List Char
  | .ofNat n => natDigits n
  | .negSucc n => '-' :: natDigits (n + 1)

def decimal (n : Int) : String := .ofList (intDigits n)

/-- The value of a list of digits, the most significant first. -/
def digitsValue (s : List Char) : Nat := s.foldl (fun n c => n * 10 + (c.toNat - 0x30)) 0

def nat? (s : List Char) : Option Nat :=
  if !s.isEmpty && s.all isDigit then some (digitsValue s) else none

/-- Reads digits after a plus sign or none. -/
def unsigned? : List Char → Option Nat
  | '+' :: s => nat? s
  | s => nat? s

def signed? : List Char → Option Int
  | '-' :: s => (nat? s).map fun n => -(n : Int)
  | s => (unsigned? s).map Int.ofNat

end FederatedLogin.Text
