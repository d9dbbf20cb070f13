/-! # Blank characters

The property `White_Space`, and what is defined by it: trimming a text, testing it for blankness and
splitting it into words. A trimmed text neither starts nor ends with a blank.
-/

namespace FederatedLogin.Text

/-- The code points with the property `White_Space`, as inclusive ranges. -/
def blankRanges : List (Nat × Nat) :=
  [(0x09, 0x0D), (0x20, 0x20), (0x85, 0x85), (0xA0, 0xA0), (0x1680, 0x1680), (0x2000, 0x200A),
   (0x2028, 0x2029), (0x202F, 0x202F), (0x205F, 0x205F), (0x3000, 0x3000)]

def inRanges (ranges : List (Nat × Nat)) (c : Char) : Bool :=
  ranges.any fun (first, last) => first ≤ c.toNat && c.toNat ≤ last

def isBlank (c : Char) : Bool := inRanges blankRanges c

/-- Drops the longest end of a list that satisfies `p` throughout. -/
def dropEndWhile (p : α → Bool) (s : List α) : List α := (s.reverse.dropWhile p).reverse

/-- Drops the longest start and the longest end that satisfy `p` throughout. -/
def stripWhile (p : α → Bool) (s : List α) : List α := dropEndWhile p (s.dropWhile p)

def trim (s : String) : String := .ofList (stripWhile isBlank s.toList)

/-- A text of blanks alone, such as the empty one. -/
def isAllBlank (s : String) : Bool := s.toList.all isBlank

/-- The maximal runs of characters that do not satisfy `p`, in order. -/
def runsBetween (p : α → Bool) : List α → List (List α)
  | [] => []
  | c :: s =>
    if p c then runsBetween p s
    else match s, runsBetween p s with
      | d :: _, run :: runs => if p d then [c] :: run :: runs else (c :: run) :: runs
      | _, runs => [c] :: runs

def words (s : String) : List String := (runsBetween isBlank s.toList).map .ofList

end FederatedLogin.Text
