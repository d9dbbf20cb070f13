import FederatedLogin.CommandLine.Help
import FederatedLogin.Config.EnvFile
import FederatedLogin.Config.Sources

/-! # Launching the server

From arguments, environment and files to what the program does: it prints something, complains, or
is ready to serve.
-/

namespace FederatedLogin.CommandLine

inductive Launch where
  /-- The environment could not be completed. -/
  | aborted
  | printed (text : String)
  | misused
  | misconfigured (cause : Config.Error)
  | ready (config : Config.Resolved)

namespace Launch

def exitCode : Launch → UInt32
  | .aborted => 101
  | .printed _ => 0
  | .misused => 2
  | .misconfigured _ | .ready _ => 1

/-- The error of a run that ends in one. A server that is ready fails if it cannot listen. -/
def error? : Launch → Option String
  | .misconfigured _ => some "Error: failed to load configuration"
  | .ready config => some ("Error: failed to bind " ++ config.socketAddress)
  | _ => none

end Launch

structure Setting where
  platform : String
  env : Config.Environment
  files : String → Config.Source.FileContent

/-- The environment after the file `.env` has been read. -/
def Setting.fullEnv? (s : Setting) : Option Config.Environment :=
  match s.files ".env" with
  | .bytes content =>
    match String.fromUTF8? ⟨content.toArray⟩ with
    | some text => Config.EnvFile.extend? s.env text
    | none => some s.env
  | _ => some s.env

def execute (s : Setting) (env : Config.Environment) : Command → Launch
  | .version => .printed (Version.program ++ " " ++ Version.number ++ "\n")
  | .versionInfo => .printed (Version.info s.platform ++ "\n")
  | .help topic => .printed (helpOutput env topic)
  | .serve config =>
    let path := config.getD Config.systemPath
    match Config.load path (s.files path) env with
    | .ok config => .ready config
    | .error e => .misconfigured e

def launch (s : Setting) (args : List String) : Launch :=
  match s.fullEnv? with
  | none => .aborted
  | some env =>
    match Command.ofArgs? env args with
    | some command => execute s env command
    | none => .misused

end FederatedLogin.CommandLine
