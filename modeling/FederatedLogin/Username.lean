import FederatedLogin.Text.Ascii
import FederatedLogin.Text.Lowercase

/-! # Usernames

Local usernames: at most 64 lower-case ASCII letters, digits, dots, underscores and dashes, with a
letter first, a letter or digit last, and no reserved name. A login that leaves nothing usable is
replaced by a generated name.
-/

namespace FederatedLogin.Username

def maxLength : Nat := 64

/-- Names that address a group in a chat or belong to the system. -/
def reserved : List String :=
  ["all", "channel", "here", "everyone", "system", "root", "noreply", "no-reply"]

def isReserved (name : String) : Bool := reserved.contains (Text.lower name)

def isPunctuation (c : Char) : Bool := c == '.' || c == '_' || c == '-'

/-- Keeps the characters a username may hold and puts a dash in the place of any other. -/
def mask (c : Char) : Char := if Text.isAsciiAlphanumeric c || isPunctuation c then c else '-'

/-- Puts a `u` in front of a name that does not start with a letter. -/
def startWithLetter : List Char → List Char
  | [] => ['u']
  | c :: s => if Text.isLowerLetter c then c :: s else 'u' :: c :: s

/-- The username made from a login: lower-cased, masked, without punctuation at its ends, started
with a letter and cut to the greatest length. There is none if nothing is left or the name is
reserved. -/
def clean (raw : String) : Option String :=
  match Text.stripWhile isPunctuation ((Text.lower (Text.trim raw)).toList.map mask) with
  | [] => none
  | core =>
    let name := String.ofList <|
      Text.dropEndWhile isPunctuation ((startWithLetter core).take maxLength)
    if isReserved name then none else some name

/-- The generated name with the given serial number: `u` and eleven hexadecimal digits. -/
def generated (serial : Nat) : String := .ofList ('u' :: Text.hexDigits 11 serial)

end FederatedLogin.Username
