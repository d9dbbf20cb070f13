import FederatedLogin.CommandLine.Launch

/-! # The command line

Runs the program in the present directory. Files are read when the program asks for them, and
nothing listens on a socket.
-/

namespace FederatedLogin.CommandLine

def platform : String := "linux-x86_64"

/-- The file that has to be read for a command. -/
def configPath : Option Command → String
  | some (.serve (some path)) => path
  | _ => Config.systemPath

def knownVariables : List String :=
  [Terminal.noColourVariable, Terminal.forceColourVariable, configVariable,
    "FEDLINK_SERVER_HOST", "FEDLINK_SERVER_PORT", "FEDLINK_SERVER_LOG_LEVEL",
    "FEDLINK_SERVER_ODOO_BASE_URL", "FEDLINK_SERVER_ODOO_DB", "FEDLINK_SERVER_ODOO_JSONRPC_PATH",
    "FEDLINK_SERVER_ODOO_TIMEOUT_MS", "FEDLINK_SERVER_ODOO_SYNC_ORGANIZATIONS",
    "FEDLINK_SERVER_OIDC_ENABLED", "FEDLINK_SERVER_OIDC_DISCOVERY_ENDPOINT",
    "FEDLINK_SERVER_OIDC_AUTHORIZATION_ENDPOINT", "FEDLINK_SERVER_OIDC_TOKEN_ENDPOINT",
    "FEDLINK_SERVER_OIDC_USERINFO_ENDPOINT", "FEDLINK_SERVER_SESSION_COOKIE_NAME",
    "FEDLINK_SERVER_SESSION_COOKIE_SECURE"]

def readVariables : IO Config.Environment :=
  knownVariables.filterMapM fun name => return (← IO.getEnv name).map (name, ·)

def readContent (path : String) : IO Config.Source.FileContent := do
  try return .bytes (← IO.FS.readBinFile path).toList
  catch
    | .noFileOrDirectory .. => return .missing
    | _ => return .directory

end FederatedLogin.CommandLine

open FederatedLogin CommandLine in
def main (args : List String) : IO UInt32 := do
  let env ← readVariables
  let envFile ← readContent ".env"
  let settingWith (content : Config.Source.FileContent) : Setting :=
    ⟨platform, env, fun path => if path == ".env" then envFile else content⟩
  let path := configPath do Command.ofArgs? (← (settingWith .missing).fullEnv?) args
  let outcome := launch (settingWith (← readContent path)) args
  match outcome with
  | .aborted => IO.eprintln "error: a value in the environment file cannot be set"
  | .printed text => IO.print text
  | .misused => IO.eprintln "error: the arguments are not understood; try --help"
  | .misconfigured cause =>
    IO.eprintln ((outcome.error?.getD "") ++ "\n\nCaused by:\n    " ++ cause.message)
  | .ready _ => IO.eprintln (outcome.error?.getD "")
  return outcome.exitCode
