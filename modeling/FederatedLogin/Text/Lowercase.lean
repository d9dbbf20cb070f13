import FederatedLogin.Text.Blank
import FederatedLogin.Text.CaseTables

/-! # Lower case

The full lower-case mapping. It goes character by character but for the capital sigma, whose form
depends on whether it ends a word.
-/

namespace FederatedLogin.Text

def CaseRange.contains (r : CaseRange) (n : Nat) : Bool :=
  r.first ≤ n && n ≤ r.last && (n - r.first) % r.step == 0

def CaseRange.apply (r : CaseRange) (n : Nat) : Nat := (n + r.shift : Int).toNat

def capitalSigma : Char := 'Σ'

/-- The lower-case form of a character on its own. Only the capital I with a dot has one of two
characters: the plain letter and a combining dot. -/
def lowerChar (c : Char) : List Char :=
  if c.toNat < 0x80 then [c.toLower]
  else if c == 'İ' then ['i', '\u0307']
  else match lowerRanges.find? (·.contains c.toNat) with
    | some r => [.ofNat (r.apply c.toNat)]
    | none => [c]

def isCased (c : Char) : Bool := inRanges casedRanges c

def isCaseIgnorable (c : Char) : Bool := inRanges caseIgnorableRanges c

def startsCased (s : List Char) : Bool :=
  (s.dropWhile isCaseIgnorable).head?.any isCased

/-- Lower-cases a text of which `before`, in reverse, has been passed already. A capital sigma takes
its final form after a cased letter and before none, with case-ignorable characters skipped. -/
def lowerAfter (before : List Char) : List Char → List Char
  | [] => []
  | c :: rest =>
    (if c == capitalSigma then
      [if startsCased before && !startsCased rest then 'ς' else 'σ']
    else lowerChar c) ++ lowerAfter (c :: before) rest

def lowerChars (s : List Char) : List Char := lowerAfter [] s

def lower (s : String) : String := .ofList (lowerChars s.toList)

end FederatedLogin.Text
