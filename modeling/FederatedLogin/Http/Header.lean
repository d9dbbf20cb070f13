import FederatedLogin.Text.Ascii

/-! # HTTP headers

The headers of a request. Names are compared without regard to the case of ASCII letters, and of
repeated headers the first counts.
-/

namespace FederatedLogin.Http

/-- Headers in the order in which they came, with their values as bytes. -/
abbrev Headers := List (String × List UInt8)

/-- Whether a byte of a header value can be read as text: visible ASCII, a space or a tab. -/
def isReadableByte (b : UInt8) : Bool := (0x20 ≤ b && b < 0x7F) || b == 0x09

def isHeaderByte (b : UInt8) : Bool := (0x20 ≤ b && b != 0x7F) || b == 0x09

def isHeaderValue (s : String) : Bool := s.toUTF8.toList.all isHeaderByte

/-- The value of the first header with a name, if it can be read. -/
def Headers.text? (headers : Headers) (name : String) : Option String :=
  match headers.find? fun (n, _) => Text.sameIgnoringCase n name with
  | some (_, value) =>
    if value.all isReadableByte then some (.ofList (value.map fun b => .ofNat b.toNat)) else none
  | none => none

end FederatedLogin.Http
