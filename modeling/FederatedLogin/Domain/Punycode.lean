import FederatedLogin.Text.Ascii

/-! # Punycode

The encoding of labels in ASCII. The ASCII characters of a label come first. Then each number says
how far the next character lies behind the last one, in the order of code points and of places in
the label, and is written in digits whose weights adapt to the numbers before it.
-/

namespace FederatedLogin.Domain.Punycode

def digit? (c : Char) : Option Nat :=
  if Text.isLowerLetter c.toLower then some (c.toLower.toNat - 0x61)
  else if Text.isDigit c then some (c.toNat - 0x30 + 26)
  else none

/-- The least digit that is followed by another one, at a place in a number that goes up in steps of
36. -/
def threshold (bias place : Nat) : Nat := min 26 (max 1 (place - bias))

/-- Scales a number down to the range in which the bias is read off. -/
def scale (delta place : Nat) : Nat :=
  if 455 < delta then scale (delta / 35) (place + 36) else place + 36 * delta / (delta + 38)
termination_by delta
decreasing_by omega

/-- The bias after a number, for a label that has come to `length` characters. -/
def adapt (delta length : Nat) (isFirst : Bool) : Nat :=
  let delta := if isFirst then delta / 700 else delta / 2
  scale (delta + delta / length) 0

structure Progress where
  label : List Char
  /-- The code point of the last character that was inserted. -/
  point : Nat
  /-- The place after that character. -/
  place : Nat
  bias : Nat

def Progress.start (basic : List Char) : Progress := ⟨basic, 0x80, 0, 72⟩

/-- Inserts the character that is reached from the start of the label in `n` steps, each to the
next place or behind the last one to the next code point. -/
def Progress.insert? (p : Progress) (n : Nat) : Option Progress :=
  let length := p.label.length + 1
  let point := p.point + n / length
  let place := n % length
  if point.isValidChar then
    some ⟨p.label.insertIdx place (.ofNat point), point, place + 1,
      adapt (n - p.place) length (p.place == 0)⟩
  else none

def read? (p : Progress) (n weight place : Nat) : List Char → Option (List Char)
  | [] => if place == 36 then some p.label else none
  | c :: s => do
    let digit ← digit? c
    let n := n + digit * weight
    let t := threshold p.bias place
    if t ≤ digit then read? p n (weight * (36 - t)) (place + 36) s
    else do
      let p ← p.insert? n
      read? p p.place 1 36 s

/-- The label for an encoded one. Its ASCII characters stand before the last hyphen. -/
def decode? (s : List Char) : Option (List Char) :=
  let digits := (s.reverse.takeWhile (· != '-')).reverse
  let basic := s.take (s.length - digits.length - 1)
  if basic.isEmpty then read? (.start []) 0 1 36 s else read? (.start basic) 0 1 36 digits

end FederatedLogin.Domain.Punycode
