/-! # Version

The version of the server and what it tells about its build.
-/

namespace FederatedLogin.Version

def program : String := "fedlink-server"

def number : String := "0.1.0"

def info (platform : String) : String :=
  program ++ " version: " ++ number ++ "\nPlatform:               " ++ platform

end FederatedLogin.Version
