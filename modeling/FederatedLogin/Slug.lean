import FederatedLogin.Text.Ascii
import FederatedLogin.Text.Lowercase

/-! # Slugs

The team name of an organization: words of lower-case ASCII letters and digits, joined by single
dashes. A name that holds no such character has the empty slug.
-/

namespace FederatedLogin.Slug

def isWordChar (c : Char) : Bool := Text.isLowerAlphanumeric c

def isSeparator (c : Char) : Bool := c == '-' || c == '_' || Text.isBlank c

/-- The words of a lower-cased text, joined by dashes. `started` holds once a word has begun, and
`parted` when a separator has followed its last character; characters of neither kind vanish. -/
def join : (started parted : Bool) → List Char → List Char
  | _, _, [] => []
  | started, parted, c :: s =>
    if isWordChar c then
      if started && parted then '-' :: c :: join true false s else c :: join true false s
    else join started (parted || isSeparator c) s

def ofName (name : String) : String := .ofList (join false false (Text.lowerChars name.toList))

end FederatedLogin.Slug
