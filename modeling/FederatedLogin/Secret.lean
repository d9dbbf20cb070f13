import FederatedLogin.Text.Blank

/-! # Secrets

Passwords and tokens. Every written form of a secret is the same placeholder; its text is to be had
by `expose` alone.
-/

namespace FederatedLogin

structure Secret (α : Type) where
  expose : α
  deriving DecidableEq

namespace Secret

/-- What stands wherever a secret would be written. -/
def redacted : String := "[REDACTED]"

def display (_ : Secret α) : String := redacted

def debug (_ : Secret α) : String := "Secret(\"" ++ redacted ++ "\")"

def isBlank (s : Secret String) : Bool := Text.isAllBlank s.expose

end Secret

end FederatedLogin
