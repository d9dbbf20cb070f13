import FederatedLogin.Config.Environment
import FederatedLogin.Config.Reading
import FederatedLogin.Toml.Parser

/-! # Configuration sources

Where layers come from and in which order they count: built-in defaults, a file, and the
environment. Sources are loaded by rising precedence, those of one precedence in the order given,
and the first that fails ends the loading.
-/

namespace FederatedLogin.Config

inductive Precedence where
  | defaults
  | file
  | environment
  deriving DecidableEq

def Precedence.rank : Precedence → Nat
  | .defaults => 10
  | .file => 20
  | .environment => 50

structure Source where
  precedence : Precedence
  layer : Except Error Layer

namespace Source

/-- Built-in defaults set nothing, since every field has its default when it is resolved. -/
def defaults : Source := ⟨.defaults, .ok {}⟩

inductive FileContent where
  | missing
  | directory
  | bytes (content : List UInt8)

/-- The layer in a file. A file that does not exist sets nothing. -/
def fileLayer (path : String) : FileContent → Except Error Layer
  | .missing => .ok {}
  | .directory => .error (.unreadable path)
  | .bytes content =>
    match String.fromUTF8? ⟨content.toArray⟩ with
    | none => .error (.unreadable path)
    | some text =>
      match (Toml.parse? text).bind Layer.read? with
      | some layer => .ok layer
      | none => .error (.parseFailed path)

def file (path : String) (content : FileContent) : Source := ⟨.file, fileLayer path content⟩

def environment (env : Environment) : Source := ⟨.environment, env.layer⟩

def sort (sources : List Source) : List Source :=
  sources.mergeSort fun a b => a.precedence.rank ≤ b.precedence.rank

def loadAll (sources : List Source) : Except Error Resolved := do
  let layers ← (sort sources).mapM (·.layer)
  (Layer.mergeAll layers).resolve

end Source

/-- The file that is read unless another is named. -/
def systemPath : String := "/etc/fedlink/server.toml"

def load (path : String) (content : Source.FileContent) (env : Environment) :
    Except Error Resolved :=
  Source.loadAll [.defaults, .file path content, .environment env]

end FederatedLogin.Config
