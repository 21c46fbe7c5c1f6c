import SearchRequest.Text.Alphanumeric
import SearchRequest.Workspace.Basic

/-!
# Arguments

What the arguments of the program ask for: options of the program, the name of a command, and options of the
command, which has none but the one for help. Options that are wrong count before a wish for help, and a wish
for help before everything else that may be wrong. No arguments at all ask for help, and so does a mark in
place of the name of a command.
-/

namespace SearchRequest

inductive Command where
  | body
  | msearch
  | render
  deriving DecidableEq, Repr

namespace Command

def all : List Command := [.body, .msearch, .render]

def name : Command → String
  | .body => "body"
  | .msearch => "msearch"
  | .render => "render"

def ofName? (name : String) : Option Command := all.find? fun c => c.name == name

end Command

/-- What the arguments ask for. -/
inductive Request where
  | help
  /-- Arguments that ask for nothing the program can do. -/
  | misuse
  /-- A configuration with a path that no file can have. -/
  | impossiblePath
  /-- A command with the configuration at a path, if one is given. -/
  | run (config : Option String) (command : Command)
  deriving DecidableEq, Repr

namespace Arguments

/-- The options of the program, and what follows them. -/
structure Options where
  help : Bool
  config : Option String
  others : List String

def configOption : String := "--config"

def helpOption : String := "--help"

def isOption (arg : String) : Bool := arg.front == '-' && 1 < arg.length

/-- The value behind the equals sign of the option for the configuration. -/
def joinedConfig? (arg : String) : Option String :=
  let start := (configOption ++ "=").toList
  if start.isPrefixOf arg.toList then some (String.ofList (arg.toList.drop start.length)) else none

/-- The options in front of the name of a command; of several configurations the last one counts. There are
none if an option is wrong. -/
def options? : List String → Options → Option Options
  | [], found => some found
  | [arg], found =>
    if arg == "--" then some found
    else if arg == helpOption then some { found with help := true }
    else match joinedConfig? arg with
      | some value => some { found with config := some value }
      | none => if isOption arg then none else some { found with others := [arg] }
  | arg :: next :: rest, found =>
    if arg == "--" then some { found with others := next :: rest }
    else if arg == helpOption then options? (next :: rest) { found with help := true }
    else if arg == configOption then options? rest { found with config := some next }
    else match joinedConfig? arg with
      | some value => options? (next :: rest) { found with config := some value }
      | none =>
        if isOption arg then none else some { found with others := arg :: next :: rest }

/-- Whether the arguments of a command ask for help, and how many others there are. There is no answer if an
option is wrong. -/
def commandOptions? : List String → Option (Bool × Nat)
  | [] => some (false, 0)
  | arg :: rest =>
    if arg == "--" then some (false, rest.length)
    else if arg == helpOption then (commandOptions? rest).map fun (_, n) => (true, n)
    else if isOption arg then none
    else (commandOptions? rest).map fun (help, n) => (help, n + 1)

def defaultConfig : String := "config/default.yml"

/-- Whether the path of a configuration is that of a directory. It is looked up as it is given, so an empty
path, or one that is too long as it stands, is none. -/
def namesDirectory (files : Workspace) (path : String) : Bool :=
  !path.isEmpty && path.utf8ByteSize ≤ Workspace.maxPathLength && files.isDirectory (.ofString path)

/-- Whether a word starts with neither a letter nor a number. -/
def isMark (word : String) : Bool := word.toList.head?.any (!Text.isAlphanumeric ·)

/-- What the name of a command and its arguments ask for. -/
def commandRequest (config : Option String) : List String → Request
  | [] => .misuse
  | name :: args =>
    match Command.ofName? name, commandOptions? args with
    | none, _ => if isMark name then .help else .misuse
    | some _, some (true, _) => .help
    | some command, some (false, 0) => .run config command
    | some _, _ => .misuse

end Arguments

/-- What arguments ask for among given files. -/
def Request.ofArguments (files : Workspace) (args : List String) : Request :=
  match Arguments.options? args ⟨false, none, []⟩ with
  | none => .misuse
  | some found =>
    let path := found.config.getD Arguments.defaultConfig
    if found.help || args.isEmpty then .help
    else if path.toList.contains '\x00' then .impossiblePath
    else if Arguments.namesDirectory files path then .misuse
    else Arguments.commandRequest found.config found.others

end SearchRequest
