import FederatedLogin.Json.Outline

/-! # Reading JSON values

The second half of reading: strings are decoded, numbers are evaluated and nesting is limited. A
number that fits 64 bits is kept exactly; any other is a double, evaluated by one rounding of its
digits and one of each scaling by a power of ten.
-/

namespace FederatedLogin.Json

def maxDepth : Nat := 127

/-! ## Numbers -/

def maxUnsigned : Nat := UInt64.size - 1

/-- Appends digits to a number as long as it fits 64 bits, and returns those left over. -/
def appendDigits (n : Nat) : List Nat → Nat × List Nat
  | [] => (n, [])
  | d :: ds => if n * 10 + d ≤ maxUnsigned then appendDigits (n * 10 + d) ds else (n, d :: ds)

/-- The double `x * 10 ^ e`, scaled by at most `10 ^ 308` at a time. There is none where it exceeds
every double. -/
def scaleByTen? (x : Binary64) (e : Int) : Option Binary64 :=
  if 0 ≤ e then
    if e ≤ 308 then
      let y := x.mul (.powerOfTen e.toNat)
      if y.isFinite then some y else none
    else if x.isZero then some x else none
  else if -308 ≤ e then some (x.div (.powerOfTen (-e).toNat))
  else if x.isZero then some x
  else scaleByTen? (x.div (.powerOfTen 308)) (e + 308)
termination_by (-e).toNat
decreasing_by omega

/-- Exponents are kept within 32 bits. -/
def clampExponent (e : Int) : Int := max Int32.minValue.toInt (min Int32.maxValue.toInt e)

def natOfDigits (ds : List Nat) : Nat := ds.foldl (fun n d => n * 10 + d) 0

/-- The value of a literal with a fraction, an exponent or more than 64 bits. Digits of the whole
part that do not fit count as zeros, and those of the fraction are dropped. -/
def NumberLiteral.double? (l : NumberLiteral) : Option Binary64 := do
  let (whole, more) := appendDigits 0 l.whole
  let fraction := l.fraction.getD []
  let (digits, dropped) := appendDigits whole fraction
  let e : Int := (more.length : Int) - (fraction.length - dropped.length)
  let magnitude ←
    match l.exponent with
    | none => scaleByTen? (.ofInt digits) e
    | some (minus, ds) =>
      let n := natOfDigits ds
      if Nat.pow 2 31 ≤ n then
        if digits ≠ 0 ∧ !minus then none else some (.ofInt 0)
      else scaleByTen? (.ofInt digits) (clampExponent (if minus then e - n else e + n))
  return if l.negative then magnitude.neg else magnitude

/-- The value of a literal. Minus zero is a double, which alone has a zero with a sign. -/
def NumberLiteral.number? (l : NumberLiteral) : Option Number :=
  match l.fraction, l.exponent, appendDigits 0 l.whole with
  | none, none, (n, []) =>
    if !l.negative then some (.int n)
    else if 0 < n ∧ n ≤ Nat.pow 2 63 then some (.int (-n))
    else some (.float (Binary64.ofInt n).neg)
  | _, _, _ => l.double?.map .float

/-! ## Strings -/

def utf8 (c : Char) : Bytes := (String.singleton c).toUTF8.toList

def unescapeSimple (b : UInt8) : UInt8 :=
  if b == Outline.ascii 'b' then 0x08
  else if b == Outline.ascii 'f' then 0x0C
  else if b == Outline.ascii 'n' then 0x0A
  else if b == Outline.ascii 'r' then 0x0D
  else if b == Outline.ascii 't' then 0x09
  else b

def unitOf (digits : Bytes) : Nat :=
  digits.foldl (fun n b => n * 16 + (Text.hexValue? (Char.ofNat b.toNat)).getD 0) 0

/-- Replaces the escapes of a string. An escaped character beyond 16 bits is a pair of surrogates,
and neither half may stand alone. `seen` holds what has been produced, in reverse. -/
def unescape? (seen : Bytes) : Bytes → Option Bytes
  | [] => some seen.reverse
  | c :: s =>
    if c != Outline.ascii '\\' then unescape? (c :: seen) s
    else
      match s with
      | [] => none
      | e :: s =>
        if e != Outline.ascii 'u' then unescape? (unescapeSimple e :: seen) s
        else
          match s with
          | h₁ :: h₂ :: h₃ :: h₄ :: s =>
            let high := unitOf [h₁, h₂, h₃, h₄]
            if 0xDC00 ≤ high ∧ high < 0xE000 then none
            else if high < 0xD800 ∨ 0xE000 ≤ high then
              unescape? ((utf8 (.ofNat high)).reverse ++ seen) s
            else
              match s with
              | b :: u :: l₁ :: l₂ :: l₃ :: l₄ :: s =>
                let low := unitOf [l₁, l₂, l₃, l₄]
                if b == Outline.ascii '\\' ∧ u == Outline.ascii 'u' ∧ 0xDC00 ≤ low ∧
                    low < 0xE000 then
                  let c := Char.ofNat (0x10000 + (high - 0xD800) * 0x400 + (low - 0xDC00))
                  unescape? ((utf8 c).reverse ++ seen) s
                else none
              | _ => none
          | _ => none

/-- The text of a string: well-formed UTF-8 after its escapes have been replaced. -/
def decodeString? (escaped : Bytes) : Option String := do
  let bytes ← unescape? [] escaped
  String.fromUTF8? ⟨bytes.toArray⟩

/-! ## Values -/

/-- The value of an outline, with arrays and objects nested at most to the given depth. -/
def Outline.toJson? : Nat → Outline → Option Json
  | _, .null => some .null
  | _, .bool b => some (.bool b)
  | _, .number l => l.number?.map .number
  | _, .string t => (decodeString? t).map .string
  | 0, .array _ | 0, .object _ => none
  | n + 1, .array items => (items.mapM (toJson? n)).map .array
  | n + 1, .object members =>
    (members.mapM fun (k, v) => do return (← decodeString? k, ← toJson? n v)).map ofMembers

def ofBytes? (s : Bytes) : Option Json := (Outline.ofBytes? s).bind (·.toJson? maxDepth)

def ofText (s : String) : Option Json := ofBytes? s.toUTF8.toList

end FederatedLogin.Json
