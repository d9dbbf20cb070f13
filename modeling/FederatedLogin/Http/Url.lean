import FederatedLogin.Domain.Name
import FederatedLogin.Text.Blank
import FederatedLogin.Text.Decimal

/-! # Absolute URLs

Which texts are absolute URLs, and with which scheme. The schemes of the web require a host that is
a domain or a numeric address; other schemes may go without.
-/

namespace FederatedLogin.Http.Url

/-- Schemes whose URLs name a host, after any number of slashes of either kind. -/
def hostSchemes : List String := ["http", "https", "ws", "wss", "ftp"]

def isIgnored (c : Char) : Bool := c == '\t' || c == '\n' || c == '\r'

/-- The text without control characters and spaces at its ends and without line breaks and tabs. -/
def tidy (s : String) : List Char :=
  (Text.stripWhile (fun c => c.toNat ≤ 0x20) s.toList).filter (!isIgnored ·)

def isSchemeChar (c : Char) : Bool :=
  Text.isAsciiAlphanumeric c || c == '+' || c == '-' || c == '.'

def splitScheme? (s : List Char) : Option (String × List Char) :=
  let scheme := s.takeWhile isSchemeChar
  match scheme, s.dropWhile isSchemeChar with
  | c :: _, ':' :: rest =>
    if Text.isDigit c || !Text.isAsciiAlphanumeric c then none
    else some (.ofList (scheme.map Char.toLower), rest)
  | _, _ => none

/-! ## Numeric addresses -/

/-- A part of a numeric address: hexadecimal after `0x`, octal after `0`, else decimal. -/
def addressPart? : List Char → Option Nat
  | [] => none
  | '0' :: 'x' :: s | '0' :: 'X' :: s => Text.number? 16 s
  | ['0'] => some 0
  | '0' :: s => Text.number? 8 s
  | s => Text.number? 10 s

/-- The parts of a host, without an empty one after a final dot. -/
def hostParts (host : List Char) : List (List Char) :=
  let parts := Text.splitAt '.' host
  if 1 < parts.length ∧ parts.getLast? = some [] then parts.dropLast else parts

def endsInNumber (host : List Char) : Bool :=
  match (hostParts host).getLast? with
  | some part => (!part.isEmpty && part.all Text.isDigit) || (addressPart? part).isSome
  | none => false

/-- Four bytes, of which the last part may hold several. -/
def isAddress4 (host : List Char) : Bool :=
  match (hostParts host).mapM addressPart? with
  | some parts =>
    match parts.reverse with
    | last :: others =>
      others.length ≤ 3 && others.all (· ≤ 255) && last < Nat.pow 256 (4 - others.length)
    | [] => false
  | none => false

/-- Four decimal bytes without leading zeros. -/
def isDottedQuad (s : List Char) : Bool :=
  let parts := Text.splitAt '.' s
  parts.length == 4 && parts.all fun p =>
    match Text.nat? p with
    | some n => n ≤ 255 && (p.length == 1 || p.head? != some '0')
    | none => false

/-- The number of 16-bit groups in a list of pieces, the last of which may be a dotted quad. -/
def groups? : List (List Char) → Option Nat
  | [] => some 0
  | [p] => if isDottedQuad p then some 2 else group p
  | p :: ps => do return (← group p) + (← groups? ps)
where
  group (p : List Char) : Option Nat :=
    if 1 ≤ p.length ∧ p.length ≤ 4 ∧ p.all (Text.hexValue? · |>.isSome) then some 1 else none

def splitDoubleColon? : List Char → Option (List Char × List Char)
  | ':' :: ':' :: s => some ([], s)
  | c :: s => (splitDoubleColon? s).map fun (l, r) => (c :: l, r)
  | [] => none

def pieces (s : List Char) : List (List Char) := if s.isEmpty then [] else Text.splitAt ':' s

/-- Eight groups, or fewer where a double colon stands for the zeros between. -/
def isAddress6 (s : List Char) : Bool :=
  match splitDoubleColon? s with
  | none => groups? (pieces s) == some 8
  | some (left, right) =>
    match groups? (pieces left), groups? (pieces right) with
    | some l, some r => l + r ≤ 7 && !left.contains '.'
    | _, _ => false

/-! ## Hosts -/

/-- The bytes of a text in which `%` and two digits stand for a byte. -/
def percentDecode : List Char → List UInt8
  | '%' :: a :: b :: s =>
    match Text.hexValue? a, Text.hexValue? b with
    | some h, some l => (h * 16 + l).toUInt8 :: percentDecode s
    | _, _ => 0x25 :: percentDecode (a :: b :: s)
  | c :: s => (String.singleton c).toUTF8.toList ++ percentDecode s
  | [] => []

def isForbiddenInHost (c : Char) : Bool :=
  c.toNat == 0 || isIgnored c || " #/:<>?@[\\]^|".toList.contains c

def isBracketed (host : List Char) : Bool :=
  host.getLast? == some ']' && isAddress6 (host.drop 1).dropLast

def isWebHost (host : List Char) : Bool :=
  if host.head? == some '[' then isBracketed host
  else match String.fromUTF8? ⟨(percentDecode host).toArray⟩ with
    | some text =>
      match Domain.normalForm? text.toList with
      | some name => !name.isEmpty && (!endsInNumber name || isAddress4 name)
      | none => false
    | none => false

def isOpaqueHost (host : List Char) : Bool :=
  if host.head? == some '[' then isBracketed host else !host.any isForbiddenInHost

/-- Splits a host from what follows it, which starts with a colon outside brackets if it is not
empty. -/
def splitPort : (bracketed : Bool) → List Char → List Char × List Char
  | _, [] => ([], [])
  | bracketed, c :: s =>
    if c == ':' && !bracketed then ([], c :: s)
    else
      let bracketed := if c == '[' then true else if c == ']' then false else bracketed
      let (host, port) := splitPort bracketed s
      (c :: host, port)

/-- Whether a text is a port behind a colon, if it is not empty. A backslash ends the port. -/
def isPort : List Char → Bool
  | [] => true
  | _ :: s =>
    let digits := s.takeWhile Text.isDigit
    (s.drop digits.length).head?.all (· == '\\') && Text.digitsValue digits ≤ 65535

/-- What stands before the last `@`, if there is one, and what follows it. -/
def splitUserInfo (s : List Char) : Option (List Char) × List Char :=
  let host := (s.reverse.takeWhile (· != '@')).reverse
  if s.contains '@' then (some (s.take (s.length - host.length - 1)), host) else (none, s)

/-- Whether a scheme that leaves the form of hosts open allows none behind some user information,
with `rest` after the authority. No user information may be given but for a colon. -/
def allowsNoHost (userInfo : Option (List Char)) (rest : List Char) : Bool :=
  match userInfo with
  | none | some [':'] => true
  | some info => info.isEmpty && rest.isEmpty

def isAuthority (web : Bool) (s : List Char) : Bool :=
  let ends (c : Char) : Bool := c == '/' || c == '?' || c == '#' || (web && c == '\\')
  let (userInfo, hostAndPort) := splitUserInfo (s.takeWhile (!ends ·))
  let (host, port) := splitPort false hostAndPort
  if host.isEmpty then !web && port.isEmpty && allowsNoHost userInfo (s.dropWhile (!ends ·))
  else (if web then isWebHost host else isOpaqueHost host) && isPort port

def isFileRest : List Char → Bool
  | a :: b :: s =>
    let slash (c : Char) : Bool := c == '/' || c == '\\'
    if slash a && slash b then
      let host := s.takeWhile fun c => !slash c && c != '?' && c != '#'
      let isDrive := match host with
        | [d, m] => Text.isLowerLetter d.toLower && (m == ':' || m == '|')
        | _ => false
      host.isEmpty || isDrive || isWebHost host
    else true
  | _ => true

def scheme? (s : String) : Option String := do
  let (scheme, rest) ← splitScheme? (tidy s)
  let valid :=
    if hostSchemes.contains scheme then
      isAuthority true (rest.dropWhile fun c => c == '/' || c == '\\')
    else if scheme == "file" then isFileRest rest
    else match rest with
      | '/' :: '/' :: rest => isAuthority false rest
      | _ => true
  if valid then some scheme else none

def isValid (s : String) : Bool := (scheme? s).isSome

/-- Whether a text is an absolute URL of HTTP, over TLS or not. -/
def isWeb (s : String) : Bool := scheme? s == some "http" || scheme? s == some "https"

end FederatedLogin.Http.Url
