import FederatedLogin.Domain.Composition
import FederatedLogin.Domain.Direction
import FederatedLogin.Domain.Joining
import FederatedLogin.Domain.Mapping
import FederatedLogin.Domain.Punycode

/-! # Domain names

Which texts are domain names in URLs. A name may hold characters of any script, or its labels in the
form that is encoded in ASCII. Empty labels and labels with any hyphens are allowed.
-/

namespace FederatedLogin.Domain

open Text

def isForbidden (c : Char) : Bool :=
  c.toNat ≤ 0x20 || c.toNat == 0x7F || "%#/:<>?@[\\]^|".toList.contains c

def isAscii (s : List Char) : Bool := s.all (·.toNat < 0x80)

/-- The greatest length of a label that is not in ASCII. -/
def maxLength : Nat := 1000

/-- The greatest length of an encoded label. -/
def maxEncodedLength : Nat := 2000

/-- The label that an encoded one stands for. It needs the encoding, and is in the normal form
already. -/
def decodeLabel? (s : List Char) : Option (List Char) := do
  if !isAscii s || maxEncodedLength < s.length || s.getLast?.all (· == '-') then none
  let label ← Punycode.decode? s
  if label.all isSettled && normalize label == label then some label else none

/-- What a label stands for, which is encoded if it starts with `xn--`. -/
def readLabel? : List Char → Option (List Char)
  | 'x' :: 'n' :: '-' :: '-' :: s => decodeLabel? s
  | s => some s

def isLabel (s : List Char) : Bool :=
  !s.any isForbidden && !s.head?.any isMark && areJoinersPlaced [] s &&
    (isAscii s || s.length ≤ maxLength)

/-- The normal form of a name, in which encoded labels stay as they are. -/
def normalForm? (s : List Char) : Option (List Char) := do
  let name := normalize (← s.mapM mapChar?).flatten
  let labels ← (splitAt '.' name).mapM readLabel?
  if labels.all isLabel && areDirected labels then some name else none

end FederatedLogin.Domain
