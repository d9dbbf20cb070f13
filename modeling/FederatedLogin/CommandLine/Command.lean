import FederatedLogin.Config.Environment
import FederatedLogin.Version

/-! # Commands

What the arguments of the server ask for. The configuration file is named by an option, or else by
the environment, and its name is not empty. Help and the version are given as soon as they are asked
for.
-/

namespace FederatedLogin.CommandLine

inductive Topic where
  | server
  | version
  | help
  deriving DecidableEq

inductive Command where
  /-- To serve, with the configuration file that is named. -/
  | serve (config : Option String)
  | versionInfo
  | version
  | help (topic : Topic)
  deriving DecidableEq

/-- What is known of the option for the configuration file. -/
structure Progress where
  /-- The value, once it has been checked. -/
  config : Option String
  /-- An occurrence that has not been checked, with its value unless that is still to come. -/
  pending : Option (Option String)

namespace Progress

def start : Progress := ⟨none, none⟩

/-- Checks a pending occurrence: it needs a value and must be the only one. -/
def settle? (p : Progress) : Option Progress :=
  match p.pending with
  | none => some p
  | some none => none
  | some (some value) =>
    if value.isEmpty || p.config.isSome then none else some ⟨some value, none⟩

def awaitsValue (p : Progress) : Bool :=
  match p.pending with
  | some none => true
  | _ => false

end Progress

def configVariable : String := "FEDLINK_SERVER_CONFIG"

def configFile? (env : Config.Environment) (p : Progress) : Option (Option String) := do
  let p ← p.settle?
  match p.config.or (env.lookup configVariable) with
  | some value => if value.isEmpty then none else some (some value)
  | none => some none

def topic? : List String → Option Topic
  | [] => some .server
  | ["version"] => some .version
  | ["help"] => some .help
  | _ => none

/-- What a cluster of short options asks for, of which the first decides. -/
def shortFlag? (topic : Option Topic) (withVersion : Bool) (arg : List Char) : Option Command :=
  match arg with
  | '-' :: 'h' :: _ => topic.map .help
  | '-' :: 'V' :: _ => if withVersion then some .version else none
  | _ => none

/-- Reads the arguments of the command for version information, of which it has none of its own. -/
def versionArgs? : List String → Option Command
  | [] | ["--"] => some .versionInfo
  | "--help" :: _ => some (.help .version)
  | arg :: _ => shortFlag? (some .version) false arg.toList

def attachedValue? (arg : String) : Option String :=
  let option := "--config="
  if option.toList.isPrefixOf arg.toList then
    some (.ofList (arg.toList.drop option.length))
  else none

def isOption (arg : String) : Bool :=
  match arg.toList with
  | '-' :: _ :: _ => true
  | _ => false

/-- Reads the arguments of the server. There is no command where they are misused. -/
def read? (env : Config.Environment) (p : Progress) : List String → Option Command
  | [] => (configFile? env p).map .serve
  | arg :: rest =>
    if p.awaitsValue then
      if isOption arg then none else read? env { p with pending := some (some arg) } rest
    else if arg == "help" then (topic? rest).map .help
    else if arg == "version" then do
      match ← versionArgs? rest with
      | .versionInfo => (configFile? env p).map fun _ => .versionInfo
      | command => some command
    else if arg == "--" then
      if rest.isEmpty then (configFile? env p).map .serve else none
    else do
      let p ← p.settle?
      match attachedValue? arg with
      | some value => read? env (← { p with pending := some (some value) : Progress }.settle?) rest
      | none =>
        if arg == "--config" then read? env { p with pending := some none } rest
        else if arg == "--help" then some (.help .server)
        else if arg == "--version" then some .version
        else shortFlag? (some .server) true arg.toList

def Command.ofArgs? (env : Config.Environment) (args : List String) : Option Command :=
  read? env .start args

end FederatedLogin.CommandLine
