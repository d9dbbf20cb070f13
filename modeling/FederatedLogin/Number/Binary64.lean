import FederatedLogin.Text.Decimal

/-! # Finite doubles

The finite values of the 64-bit binary format, as a sign, a significand and a power of two. All
arithmetic is exact on whole numbers and rounds once, to the nearest value and to the even one of
two.
-/

namespace FederatedLogin

/-- The value `significand * 2 ^ exponent`, negated if `negative` holds. -/
structure Binary64 where
  negative : Bool
  significand : Nat
  exponent : Int
  deriving DecidableEq

namespace Binary64

def leastExponent : Int := -1074

def greatestExponent : Int := 971

/-- The nearest whole number to `num / den`, and the even one of two. -/
def roundHalfEven (num den : Nat) : Nat :=
  let q := num / den
  let r := num % den
  if 2 * r < den then q else if den < 2 * r then q + 1 else q + q % 2

/-- The greatest `k` with `2 ^ k ≤ num / den`. -/
def floorLog2 (num den : Nat) : Int :=
  let k : Int := (num.log2 : Int) - den.log2
  if den * Nat.pow 2 k.toNat ≤ num * Nat.pow 2 (-k).toNat then k else k - 1

/-- The value nearest to `num / den`. Its exponent exceeds the greatest one where that quotient is
out of the format's reach. -/
def round (negative : Bool) (num den : Nat) : Binary64 :=
  if num = 0 then ⟨negative, 0, leastExponent⟩
  else
    let e := max (floorLog2 num den - 52) leastExponent
    let m := roundHalfEven (num * Nat.pow 2 (-e).toNat) (den * Nat.pow 2 e.toNat)
    if m = Nat.pow 2 53 then ⟨negative, Nat.pow 2 52, e + 1⟩ else ⟨negative, m, e⟩

def isFinite (x : Binary64) : Bool := x.exponent ≤ greatestExponent

def ofInt (n : Int) : Binary64 := round (n < 0) n.natAbs 1

def isZero (x : Binary64) : Bool := x.significand = 0

def neg (x : Binary64) : Binary64 := { x with negative := !x.negative }

def ratio (x : Binary64) : Nat × Nat :=
  (x.significand * Nat.pow 2 x.exponent.toNat, Nat.pow 2 (-x.exponent).toNat)

def mul (x y : Binary64) : Binary64 :=
  round (x.negative ^^ y.negative) (x.ratio.1 * y.ratio.1) (x.ratio.2 * y.ratio.2)

def div (x y : Binary64) : Binary64 :=
  round (x.negative ^^ y.negative) (x.ratio.1 * y.ratio.2) (x.ratio.2 * y.ratio.1)

def powerOfTen (n : Nat) : Binary64 := round false (Nat.pow 10 n) 1

def toInt? (x : Binary64) : Option Int :=
  let (num, den) := x.ratio
  if num % den = 0 then
    some (if x.negative then -((num / den : Nat) : Int) else ((num / den : Nat) : Int))
  else none

def toBits (x : Binary64) : Nat :=
  (if x.negative then Nat.pow 2 63 else 0) +
    (if x.significand < Nat.pow 2 52 then x.significand
     else (x.exponent + 1075).toNat * Nat.pow 2 52 + (x.significand - Nat.pow 2 52))

/-- The greatest `k` with `10 ^ k ≤ num / den`. -/
def floorLog10 (num den : Nat) : Int :=
  if den ≤ num then ((Text.natDigits (num / den)).length : Int) - 1
  else
    let j := (Text.natDigits (den / num)).length
    if den ≤ num * Nat.pow 10 (j - 1) then 1 - (j : Int) else -(j : Int)

def ofDecimal (digits : Nat) (k : Int) : Binary64 :=
  round false (digits * Nat.pow 10 k.toNat) (Nat.pow 10 (-k).toNat)

/-- Of the two neighbours of the magnitude with `count` decimal digits, the nearer one that reads
back. -/
def digitsReadingBack? (x : Binary64) (count : Nat) : Option (Nat × Int) :=
  let (num, den) := x.ratio
  let k := floorLog10 num den - count + 1
  let num := num * Nat.pow 10 (-k).toNat
  let den := den * Nat.pow 10 k.toNat
  let low := num / den
  let readsBack (d : Nat) : Bool := ofDecimal d k == { x with negative := false }
  let nearer := roundHalfEven num den
  if readsBack nearer then some (nearer, k)
  else if readsBack low then some (low, k)
  else if readsBack (low + 1) then some (low + 1, k)
  else none

/-- Moves the zeros at the end of a number into the power of ten. -/
def dropZeros (digits : Nat) (k : Int) : Nat × Int :=
  if digits = 0 ∨ digits % 10 ≠ 0 then (digits, k) else dropZeros (digits / 10) (k + 1)
termination_by digits
decreasing_by omega

/-- The fewest decimal digits, with a power of ten, that read back as the magnitude. -/
def shortestDecimal (x : Binary64) : Nat × Int :=
  if x.isZero then (0, 0)
  else
    let (digits, k) := ((List.range 17).findSome? fun n => x.digitsReadingBack? (n + 1)).getD (0, 0)
    dropZeros digits k

end Binary64

end FederatedLogin
