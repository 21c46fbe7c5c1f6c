import SearchRequest.Command.Arguments
import SearchRequest.Config.Load
import SearchRequest.Output
import SearchRequest.Query.Batch

/-!
# Commands

Running a command: the configuration is loaded, the logger configured, all documents are rendered, and only
then is anything written. A failure is logged and ends the run with the word that the work was aborted. Some
failures nobody answers for: a path of a configuration that no file can have, a logger that cannot be
configured, scalars that their tags have no reading for, and collections that are followed into themselves. They
break the run off, and nothing is logged.
-/

namespace SearchRequest

/-- A failure that nobody answers for. -/
inductive Breakdown where
  | path (e : FileError)
  | load (e : LoadError)
  | logger (e : LoggerError)

namespace Breakdown

def message : Breakdown → String
  | .path e => e.message
  | .load e => e.message
  | .logger e => e.message

end Breakdown

/-- How a run ends. -/
inductive Ending where
  | done
  /-- After a failure that has been logged. -/
  | aborted
  | misused
  | broken (cause : Breakdown)

namespace Ending

def exit : Ending → Nat
  | .done => 0
  | .aborted | .broken _ => 1
  | .misused => 2

end Ending

/-- How a run ended, and what it changed. -/
structure Outcome where
  ending : Ending
  session : Session

namespace Outcome

def done (s : Session) : Outcome := ⟨.done, s⟩

def aborted (s : Session) : Outcome := ⟨.aborted, { s with messages := s.messages ++ "Aborted!\n" }⟩

def misused (s : Session) : Outcome := ⟨.misused, s⟩

def broken (cause : Breakdown) (s : Session) : Outcome := ⟨.broken cause, s⟩

def exit (o : Outcome) : Nat := o.ending.exit

end Outcome

/-- Why a command could not do its work. -/
inductive WorkError where
  | render (e : RenderError)
  | write (e : WriteError)

namespace WorkError

/-- The message that is logged for a failure. -/
def message : WorkError → String
  | .render (.query (.unknownOperator kind)) =>
    "Unsupported query type " ++ kind.display ++ " in configured queries"
  | .render e => "Render failed: " ++ e.message
  | .write e => "Render failed: " ++ e.message

end WorkError

namespace LoadError

/-- Whether a failure to load is reported, as every one is that an author of configurations can foresee. -/
def isReported : LoadError → Bool
  | .source (.yaml f) =>
    match f with
    | .truth _ | .timestamp | .emptyNumber | .weight | .wordRange => false
    | _ => true
  | .source (.config .endless) => false
  | _ => true

end LoadError

namespace Command

/-- What a command renders: bodies line by line, or one batch. -/
inductive Work where
  | bodies
  | batch
  deriving DecidableEq, Repr

namespace Work

/-- The work of a format. -/
def ofFormat (format : String) : Work := if format = "body" then .bodies else .batch

/-- The name of the work in log files and messages. -/
def action : Work → String
  | .bodies => Command.body.name
  | .batch => Command.msearch.name

end Work

/-- The work of a command; one of them follows the configured format. -/
def work (settings : Settings) : Command → Work
  | .body => .bodies
  | .msearch => .batch
  | .render => .ofFormat settings.output.format

/-- The bodies of documents, the first of which is number `i` of `count`; each one is announced. -/
def renderBodies (count : Nat) : Nat → List Document → Session →
    Except RenderError (List String) × Session
  | _, [], s => (.ok [], s)
  | i, doc :: docs, s =>
    let s := s.debug ("Rendering body " ++ toString i ++ "/" ++ toString count ++ " index=" ++ doc.index)
    match doc.render with
    | .error e => (.error e, s)
    | .ok text =>
      match renderBodies count (i + 1) docs s with
      | (.error e, s) => (.error e, s)
      | (.ok texts, s) => (.ok (text :: texts), s)

/-- The text of the work on documents, and the message that reports it. -/
def renderAll (documents : List Document) (s : Session) :
    Work → Except RenderError (String × String) × Session
  | .bodies =>
    match renderBodies documents.length 1 documents s with
    | (.error e, s) => (.error e, s)
    | (.ok texts, s) =>
      (.ok (Batch.joinLines texts, "Rendered " ++ toString texts.length ++ " query bodies"), s)
  | .batch =>
    match Batch.render documents with
    | .error e => (.error e, s)
    | .ok text =>
      let count := toString documents.length
      (.ok (text, "Rendered multi-search batch with " ++ count ++ " documents"),
        s.debug ("Assembled multi-search batch: " ++ count ++ " documents"))

/-- The work on documents, its text handed to a writer in one piece. Nothing is written before all documents
are rendered. -/
def execute {ε ω : Type} (rendering : RenderError → ε) (write : ω → String → Session → Except ε Unit × ω × Session)
    (documents : List Document) (writer : ω) (work : Work) (s : Session) : Except ε Unit × ω × Session :=
  match renderAll documents s work with
  | (.error e, s) => (.error (rendering e), writer, s)
  | (.ok (text, report), s) =>
    match write writer text s with
    | (.error e, writer, s) => (.error e, writer, s)
    | (.ok (), writer, s) => (.ok (), writer, s.info report)

/-- The text of work handed to a writer. -/
def hand (writer : Handed) (text : String) (s : Session) : Except WorkError Unit × Handed × Session :=
  match writer.write text s with
  | (.error e, writer, s) => (.error (.write e), writer, s)
  | (.ok (), writer, s) => (.ok (), writer, s)

/-- The work on documents, its text brought to where the writer puts it. -/
def perform (documents : List Document) (writer : Handed) (work : Work) (s : Session) :
    Except WorkError Unit × Session :=
  match execute .render hand documents writer work s with
  | (.error e, _, s) => (.error e, s)
  | (.ok (), writer, s) =>
    match writer.finalize work.action s with
    | (.error e, s) => (.error (.write e), s)
    | (.ok (), s) => (.ok (), s)

def loggerOptions (log : LogSettings) (work : Work) : LoggerOptions :=
  ⟨log.level, some work.action, log.toFile, log.directory⟩

/-- A command run with settings. -/
def runWith (settings : Settings) (command : Command) (s : Session) : Outcome :=
  let work := command.work settings
  match s.configure (loggerOptions settings.log work) with
  | (.error e, s) => .broken (.logger e) s
  | (.ok (), s) =>
    match perform settings.documents (.ofPath settings.output.path) work s with
    | (.error e, s) => .aborted (s.error e.message)
    | (.ok (), s) => .done s

/-- A configuration that could not be loaded. -/
def loadFailed (path : FilePath) (e : LoadError) (s : Session) : Outcome :=
  if e.isReported then
    let s := (s.configure .default).2
    .aborted (s.error ("Config load failed (" ++ path.text ++ "): " ++ e.message))
  else .broken (.load e) s

/-- A command run with the configuration at a path. -/
def run (command : Command) (path : FilePath) (s : Session) : Outcome :=
  match Config.load s.files path with
  | .error e => loadFailed path e s
  | .ok settings => command.runWith settings s

/-- The path of the configuration: the one given, the one that the environment names, or the default. -/
def configPath (given environment : Option String) : FilePath :=
  .ofString (given.getD (environment.getD Arguments.defaultConfig))

/-- Whether a text can stand in an environment, which holds no null characters. -/
def isEnvironmentText (text : String) : Bool := !text.toList.contains '\x00'

end Command

/-- The program run with arguments. What help says is no part of the session. -/
def Request.perform (args : List String) (environment : Option String) (s : Session) : Outcome :=
  if environment.any (!Command.isEnvironmentText ·) then .broken (.path .nullCharacter) s
  else match Request.ofArguments s.files args with
  | .help => .done s
  | .misuse => .misused s
  | .impossiblePath => .broken (.path .nullCharacter) s
  | .run given command => command.run (Command.configPath given environment) s

end SearchRequest
