import FederatedLogin.Domain.MappingTable

/-! # Mapped characters

What the characters of a domain name stand for. Some are left out, some make the name invalid, and
ASCII capitals are put in lower case.
-/

namespace FederatedLogin.Domain

/-- What a character stands for, or `none` if no name may hold it. -/
def mapChar? (c : Char) : Option (List Char) :=
  if c.toNat < 0x80 then some [c.toLower]
  else if Text.inRows disallowed c then none
  else if Text.inRows ignored c then some []
  else match Text.lookUp? mapped c with
    | some target => some (target.map .ofNat)
    | none => some [c]

def isSettled (c : Char) : Bool := mapChar? c == some [c]

end FederatedLogin.Domain
