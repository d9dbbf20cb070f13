import FederatedLogin.Config.Environment
import FederatedLogin.Text.Alphanumeric

/-! # Environment files

A file of assignments that are added to the environment. It never changes a variable that is set
already, and ends at its first malformed assignment. A value that no variable can have makes the
reading fail.
-/

namespace FederatedLogin.Config.EnvFile

/-! ## Statements -/

inductive Scan where
  | plain
  | blank
  | escape
  | weak
  | weakEscape
  | strong
  | strongEscape

def Scan.afterPlain (c : Char) : Scan :=
  if c == '\\' then .escape
  else if c == '"' then .weak
  else if c == '\'' then .strong
  else .plain

def Scan.next (c : Char) : Scan → Scan
  | .plain => if Text.isBlank c && c != '\n' && c != '\r' then .blank else afterPlain c
  | .blank => afterPlain c
  | .escape => .plain
  | .weak => if c == '\\' then .weakEscape else if c == '"' then .plain else .weak
  | .weakEscape => .weak
  | .strong => if c == '\\' then .strongEscape else if c == '\'' then .plain else .strong
  | .strongEscape => .strong

def Scan.isPlain : Scan → Bool
  | .plain => true
  | _ => false

def Scan.isBlank : Scan → Bool
  | .blank => true
  | _ => false

/-- A statement from its characters in reverse, without a carriage return at its end. -/
def statementOf : List Char → List Char
  | '\r' :: s => s.reverse
  | s => s.reverse

/-- The statements of a file. A statement ends with its line unless a quote is open, and a comment
starts with a `#` after a blank. `none` stands for a statement that the file breaks off. -/
def statements (scan : Scan) (inComment : Bool) (seen : List Char) :
    List Char → List (Option (List Char))
  | [] =>
    if inComment then [some seen.reverse]
    else if !scan.isPlain then [none]
    else if seen.isEmpty then [] else [some seen.reverse]
  | c :: s =>
    if inComment then
      if c == '\n' then some seen.reverse :: statements .plain false [] s
      else statements .plain true seen s
    else if c == '#' && (scan.isBlank || seen.all Text.isBlank) then statements .plain true seen s
    else
      let scan := scan.next c
      if c == '\n' && scan.isPlain then some (statementOf seen) :: statements .plain false [] s
      else statements scan false (c :: seen) s

/-! ## Values -/

/-- Where the reading of a value stands. In quotes that are weak, references are replaced. -/
inductive Place where
  | text (weak : Bool)
  | strong
  | escape (weak : Bool)
  /-- Within the name of a variable, held in reverse. -/
  | name (weak : Bool) (seen : List Char)
  | braced (weak : Bool) (seen : List Char)
  /-- Behind the value, where a comment may follow. -/
  | behind

def unescape? (c : Char) : Option Char :=
  if c == 'n' then some '\n'
  else if ['\\', '\'', '"', '$', ' '].contains c then some c
  else none

/-- What the end of a statement adds to the value. No quote or brace may be open. -/
def Place.finish (value : String → List Char) : Place → Option (List Char)
  | .behind | .text false | .escape false => some []
  | .name false seen => some (value (.ofList seen.reverse))
  | _ => none

/-- Reads a value, with `value` for those of variables. Names consist of letters and digits unless
they stand in braces. -/
def value? (value : String → List Char) : Place → List Char → Option (List Char)
  | place, [] => place.finish value
  | .behind, c :: s =>
    if c == ' ' || c == '\t' then value? value .behind s else if c == '#' then some [] else none
  | .escape weak, c :: s => do
    let c ← unescape? c
    return c :: (← value? value (.text weak) s)
  | .strong, c :: s =>
    if c == '\'' then value? value (.text false) s
    else (value? value .strong s).map (c :: ·)
  | .name weak seen, c :: s =>
    if Text.isAlphanumeric c then value? value (.name weak (c :: seen)) s
    else if c == '{' && seen.isEmpty then value? value (.braced weak []) s
    else
      let rest :=
        if c == '$' then value? value (.name weak []) s
        else (value? value (.text weak) s).map (c :: ·)
      rest.map (value (.ofList seen.reverse) ++ ·)
  | .braced weak seen, c :: s =>
    if c == '}' then
      (value? value (.text weak) s).map (value (.ofList seen.reverse) ++ ·)
    else value? value (.braced weak (c :: seen)) s
  | .text weak, c :: s =>
    if c == '$' then value? value (.name weak []) s
    else if c == '\\' then value? value (.escape weak) s
    else if c == '"' then value? value (.text !weak) s
    else if weak then (value? value (.text weak) s).map (c :: ·)
    else if c == '\'' then value? value .strong s
    else if c == ' ' || c == '\t' then value? value .behind s
    else (value? value (.text weak) s).map (c :: ·)

/-! ## Assignments -/

def skipBlank (s : List Char) : List Char := s.dropWhile Text.isBlank

def isKeyStart (c : Char) : Bool := Text.isLowerLetter c.toLower || c == '_'

def isKeyChar (c : Char) : Bool := Text.isAsciiAlphanumeric c || c == '_' || c == '.'

def key? (s : List Char) : Option (String × List Char) :=
  if s.head?.any isKeyStart then
    some (.ofList (s.takeWhile isKeyChar), skipBlank (s.dropWhile isKeyChar))
  else none

/-- Reads a key and the equals sign behind it. The word `export` may stand in front. -/
def target? (s : List Char) : Option (String × List Char) := do
  match ← key? s with
  | (key, '=' :: rest) => return (key, rest)
  | ("export", rest) =>
    match ← key? rest with
    | (key, '=' :: rest) => return (key, rest)
    | _ => none
  | _ => none

/-- Reads the assignment in a statement. A statement without one yields nothing. -/
def assignment? (value : String → List Char) (s : List Char) : Option (Option (String × String)) :=
  match skipBlank (Text.dropEndWhile Text.isBlank s) with
  | [] | '#' :: _ => some none
  | s => do
    let (key, rest) ← target? s
    match skipBlank rest with
    | [] | '#' :: _ => return some (key, "")
    | rest => return some (key, .ofList (← value? value (.text false) rest))

/-- The value of a variable, empty where it is not set. -/
def valueOf (env : Environment) (name : String) : List Char := ((env.lookup name).getD "").toList

/-- Sets a variable that is not set yet. A value cannot hold the character that ends it. -/
def add? (env : Environment) (key value : String) : Option Environment :=
  if (env.lookup key).isSome then some env
  else if value.toList.contains '\x00' then none
  else some (env ++ [(key, value)])

/-- Adds the assignments of statements up to the first that is malformed. -/
def addAll? (env : Environment) : List (Option (List Char)) → Option Environment
  | some statement :: rest =>
    match assignment? (valueOf env) statement with
    | some (some (key, value)) => do addAll? (← add? env key value) rest
    | some none => addAll? env rest
    | none => some env
  | _ => some env

/-- The environment with the assignments of a file, which may start with a byte order mark. -/
def extend? (env : Environment) (text : String) : Option Environment :=
  let chars := match text.toList with
    | '\uFEFF' :: s => s
    | s => s
  addAll? env (statements .plain false [] chars)

end FederatedLogin.Config.EnvFile
