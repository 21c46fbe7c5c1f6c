import SearchRequest.Command.Run
import Std.Time.DateTime.Timestamp

/-!
# The program

Runs a command on the real files. What the command may read is looked up first, the run itself is computed
from that, and the changes it makes are then carried out. Arguments are spelled out for the run; the name of a real
file is what its path spells.
-/

open SearchRequest

namespace SearchRequest.Program

def helpText : String :=
  "Usage: search-request [--config PATH] COMMAND\n\n" ++
    "Renders search requests from a YAML configuration.\n\n" ++
    "Commands:\n" ++
    "  body     One search body per line.\n" ++
    "  msearch  All requests as one multi-search batch.\n" ++
    "  render   The format that the configuration names.\n"

/-- What is at a path: a reading that is refused for its type is that of a directory, because the path is
looked up only below directories. -/
def look (path : FilePath) : IO (Option Entry) := do
  let .ok name := Text.plain path.text | return none
  try
    let bytes ← IO.FS.readBinFile name
    pure (some (.file bytes.toList))
  catch
    | .inappropriateType .. => pure (some .directory)
    | _ => pure none

/-- The workspace with everything that a path passes. -/
def lookAlong (w : Workspace) : List (Location × FilePath) → IO Workspace
  | [] => pure w
  | (l, path) :: rest => do
    match ← look path with
    | some (.file content) => pure (w.set l (.file content))
    | some .directory => lookAlong (w.set l .directory) rest
    | none => lookAlong w rest

def lookAt (w : Workspace) (path : FilePath) : IO Workspace := lookAlong w (Workspace.waypoints path)

/-- The workspace with everything that a command may come across. -/
def survey (request : Request) (environment : Option String) (now : Moment) (w : Workspace) :
    IO Workspace := do
  match request with
  | .run given command =>
    match Config.load w (Command.configPath given environment) with
    | .error _ => pure w
    | .ok settings =>
      let action := (command.work settings).action
      let w ← lookAt w (.ofString settings.output.path)
      let w ← lookAt w (Session.logDirectory settings.log.directory action)
      lookAt w ((Session.start w now).logFile settings.log.directory action)
  | _ => pure w

def carryOut (change : Location × Entry) : IO Unit := do
  let .ok path := Text.plain (Workspace.pathOf change.1).text | return
  match change.2 with
  | .directory =>
    try IO.FS.createDir path
    catch
      | .alreadyExists .. => pure ()
      | e => throw e
  | .file content => IO.FS.writeBinFile path ⟨content.toArray⟩

/-- The places of all configurations that may be read. -/
def configPaths (args : List String) (environment : Option String) : List FilePath :=
  let given := match Arguments.options? args ⟨false, none, []⟩ with
    | some found => found.config.toList
    | none => []
  (given ++ environment.toList ++ [Arguments.defaultConfig]).map .ofString

end SearchRequest.Program

open SearchRequest.Program in
def main (args : List String) : IO UInt32 := do
  let args := args.map Text.spell
  let environment := (← IO.getEnv "ESQUERYDSL_CONFIG").map Text.spell
  let seconds := (← Std.Time.Timestamp.now).toSecondsSinceUnixEpoch.val
  let now := Moment.ofUnixSeconds seconds.toNat
  let mut before := Workspace.empty
  for path in configPaths args environment do
    before ← lookAt before path
  let request := Request.ofArguments before args
  before ← survey request environment now before
  let outcome := Request.perform args environment (.start before now)
  (outcome.session.files.changesSince before).forM carryOut
  IO.print outcome.session.output
  IO.eprint outcome.session.messages
  if let .broken cause := outcome.ending then IO.eprintln (Text.shown cause.message)
  match request with
  | .help => IO.print helpText
  | .misuse => IO.eprint helpText
  | .impossiblePath | .run .. => pure ()
  pure outcome.exit.toUInt32
