import FederatedLogin.Config.Environment

/-! # Text for terminals

Escape sequences that set text off, and how they are taken out of a text again. Output that does not
go to a terminal is plain unless the environment asks for colours.
-/

namespace FederatedLogin.CommandLine.Terminal

/-! ## Styles -/

def escape : Char := '\x1b'

/-- A text that is set off, by the sequence that turns a style on and the one that ends it. -/
def styled (code text : String) : String :=
  code ++ text ++ .ofList [escape, '[', '0', 'm']

def boldCode : String := .ofList [escape, '[', '1', 'm']

def underlineCode : String := .ofList [escape, '[', '4', 'm']

def bold (text : String) : String := styled boldCode text

def boldUnderlined (text : String) : String := styled (boldCode ++ underlineCode) text

/-! ## Plain text -/

inductive Part where
  | escape
  /-- After an escape and characters that choose among further sequences. -/
  | intermediate
  /-- Behind `[`, up to a letter. -/
  | control
  /-- The head of a string for the device. -/
  | deviceHead
  /-- A string that goes on to an escape or a string terminator. -/
  | string
  /-- A command to the terminal, which a bell can end. -/
  | command
  deriving DecidableEq

/-- Whether the encoding of a character holds the byte of the string terminator. -/
def holdsTerminator (c : Char) : Bool := (String.singleton c).toUTF8.toList.contains 0x9C

def isFinal (first : Char) (c : Char) : Bool := first ≤ c && c ≤ '~'

/-- The part after a character of a sequence, or `none` at its end. -/
def Part.next (c : Char) : Part → Option Part
  | .escape =>
    if c == '[' then some .control
    else if c == ']' then some .command
    else if c == 'P' then some .deviceHead
    else if c == 'X' || c == '^' || c == '_' then some .string
    else if ' ' ≤ c && c ≤ '/' then some .intermediate
    else if isFinal '0' c then none else some .escape
  | .intermediate => if isFinal '0' c then none else some .intermediate
  | .control => if isFinal '@' c then none else some .control
  | .deviceHead => if isFinal '@' c then some .string else some .deviceHead
  | .string => if holdsTerminator c then none else some .string
  | .command => if c == '\x07' then none else some .command

/-- Whether tabs and line ends within a part are text. -/
def Part.passesBlanks : Part → Bool
  | .escape | .intermediate | .control => true
  | _ => false

def isBlankControl (c : Char) : Bool := c == '\t' || c == '\n' || c == '\x0c' || c == '\r'

def isShown (c : Char) : Bool := isBlankControl c || (0x20 ≤ c.toNat && c.toNat != 0x7F)

/-- The characters of a text that are shown, outside of escape sequences. After a blank within a
sequence text is shown as well, and the sequence goes on behind the next character that is not. -/
def shown (inside : Option Part) (showing : Bool) : List Char → List Char
  | [] => []
  | c :: s =>
    if c == escape then shown (some .escape) false s
    else if c == '\x18' || c == '\x1a' then shown none false s
    else match inside with
      | none => if isShown c then c :: shown none false s else shown none false s
      | some part =>
        if showing then
          if isShown c then c :: shown (if c.toNat < 0x80 then inside else none) true s
          else shown inside false s
        else if isBlankControl c && part.passesBlanks then c :: shown inside true s
        else shown (part.next c) false s

def plain (s : String) : String := .ofList (shown none false s.toList)

/-! ## Colours -/

def noColourVariable : String := "NO_COLOR"

def forceColourVariable : String := "CLICOLOR_FORCE"

def isGiven (env : Config.Environment) (name : String) : Bool :=
  (env.lookup name).any (!·.isEmpty)

/-- Whether output that does not go to a terminal keeps its escape sequences. -/
def hasColour (env : Config.Environment) : Bool :=
  !isGiven env noColourVariable && isGiven env forceColourVariable

def output (env : Config.Environment) (text : String) : String :=
  if hasColour env then text else plain text

end FederatedLogin.CommandLine.Terminal
