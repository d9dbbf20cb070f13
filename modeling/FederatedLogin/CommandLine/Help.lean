import FederatedLogin.CommandLine.Command
import FederatedLogin.CommandLine.Terminal

/-! # Help

The texts that explain how the server is called. Headings and words that are typed as they stand
are set off.
-/

namespace FederatedLogin.CommandLine

open Terminal

def usage (words arguments : String) : String :=
  boldUnderlined "Usage:" ++ " " ++ bold words ++ arguments ++ "\n\n"

def heading (text : String) : String := boldUnderlined text ++ "\n"

/-- The column in which the explanations of the server's options start. -/
def optionColumn : Nat := 25

def indentLines (column : Nat) (text : String) : String :=
  .ofList (text.toList.flatMap fun c =>
    if c == '\n' then '\n' :: List.replicate column ' ' else [c])

def configInfo (env : Config.Environment) : String :=
  "[env: " ++ configVariable ++ "=" ++ (env.lookup configVariable).getD "" ++ "]"

def serverHelp (env : Config.Environment) : String :=
  "Federated login server\n\n" ++
  usage "fedlink-server" " [OPTIONS] [COMMAND]" ++
  heading "Commands:" ++
  "  " ++ bold "version" ++ "  Show version and build information\n" ++
  "  " ++ bold "help" ++ "     Print this message or the help of the given subcommand(s)\n\n" ++
  heading "Options:" ++
  "      " ++ bold "--config" ++ " <CONFIG>  " ++
  "Config file to load instead of /etc/fedlink/server.toml " ++
  indentLines optionColumn (configInfo env) ++ "\n" ++
  "  " ++ bold "-h" ++ ", " ++ bold "--help" ++ "             Print help\n" ++
  "  " ++ bold "-V" ++ ", " ++ bold "--version" ++ "          Print version\n"

def versionHelp : String :=
  "Show version and build information\n\n" ++
  usage "fedlink-server version" "" ++
  heading "Options:" ++
  "  " ++ bold "-h" ++ ", " ++ bold "--help" ++ "  Print help\n"

def helpHelp : String :=
  "Print this message or the help of the given subcommand(s)\n\n" ++
  usage "fedlink-server help" " [COMMAND]..." ++
  heading "Arguments:" ++
  "  [COMMAND]...  Print help for the subcommand(s)\n"

def helpText (env : Config.Environment) : Topic → String
  | .server => serverHelp env
  | .version => versionHelp
  | .help => helpHelp

def helpOutput (env : Config.Environment) (topic : Topic) : String :=
  Terminal.output env (helpText env topic)

end FederatedLogin.CommandLine
