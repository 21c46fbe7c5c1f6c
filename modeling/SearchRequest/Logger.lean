import SearchRequest.Calendar
import SearchRequest.Text.Case
import SearchRequest.Text.Quoted
import SearchRequest.Text.Utf8
import SearchRequest.Workspace.Basic

/-!
# The logger

Messages with a level, and where they are written. A message passes if its level reaches that of the logger,
and then goes to every sink whose own threshold it reaches: the console, a file, or nowhere. Configuring the
logger replaces all of its sinks; the file of a sink is only ever added to.

A message is a text without surrogates. `Session.tell` takes any text: one that spells surrogates is shown on the
console, but no file takes it.
-/

namespace SearchRequest

/-- Where passed messages go, from which level on. -/
inductive Sink where
  | nowhere
  | console (threshold : Int)
  | file (location : Location) (threshold : Int)
  deriving DecidableEq, Repr

/-- A level of zero leaves the choice to the surroundings. -/
structure Logger where
  level : Int
  sinks : List Sink
  deriving DecidableEq, Repr

/-- What a run of a command changes: the files, the two streams of text, and the logger. `now` is the moment
that messages are stamped with. -/
structure Session where
  files : Workspace
  output : String
  messages : String
  logger : Logger
  now : Moment

namespace LogLevel

def debug : Int := 10

def info : Int := 20

def warning : Int := 30

def error : Int := 40

def critical : Int := 50

/-- The levels with the names that select them. -/
def names : List (String × Int) :=
  [("CRITICAL", critical), ("FATAL", critical), ("ERROR", error), ("WARNING", warning),
    ("WARN", warning), ("INFO", info), ("DEBUG", debug), ("NOTSET", 0)]

/-- The four letters that a line shows for a level. -/
def abbreviation (level : Int) : String :=
  if level = debug then "DEBG"
  else if level = info then "INFO"
  else if level = warning then "WARN"
  else if level = error ∨ level = critical then "ERRO"
  else if level = 0 then "NOTS"
  else "Leve"

end LogLevel

/-- Why the logger cannot be configured. -/
inductive LoggerError where
  /-- A word that names a pattern of lines and not a level. -/
  | pattern
  /-- A word that names the styles of patterns and not a level. -/
  | styles
  | file (e : FileError)
  deriving DecidableEq, Repr

namespace LoggerError

def message : LoggerError → String
  | .pattern => "Unknown level: '%(levelname)s:%(name)s:%(message)s'"
  | .styles =>
    "Level not an integer or a valid string: " ++
      "\x7b'%': (<class 'logging.PercentStyle'>, '%(levelname)s:%(name)s:%(message)s'), " ++
      "'\x7b': (<class 'logging.StrFormatStyle'>, '\x7blevelname\x7d:\x7bname\x7d:\x7bmessage\x7d'), " ++
      "'$': (<class 'logging.StringTemplateStyle'>, '$\x7blevelname\x7d:$\x7bname\x7d:$\x7bmessage\x7d')\x7d"
  | .file e => e.message

end LoggerError

/-- How the logger is configured. -/
structure LoggerOptions where
  level : String
  /-- What is being done, for the name of the file. -/
  action : Option String
  toFile : Bool
  directory : String

namespace LoggerOptions

def default : LoggerOptions := ⟨"INFO", none, false, "log"⟩

/-- The level from which on messages reach the console: the one that the word names, or that of information
for any other word. -/
def consoleLevel (options : LoggerOptions) : Except LoggerError Int :=
  let word := Text.upper (if options.level.isEmpty then "INFO" else options.level)
  if word = "BASIC_FORMAT" then .error .pattern
  else if word = "_STYLES" then .error .styles
  else match LogLevel.names.find? (·.1 == word) with
    | some (_, level) => .ok level
    | none => .ok LogLevel.info

/-- The action whose file messages are copied to. -/
def fileAction? (options : LoggerOptions) : Option String :=
  if options.toFile then options.action.filter fun action => !action.isEmpty else none

end LoggerOptions

namespace Logger

/-- The level of messages where the logger leaves the choice to its surroundings. -/
def surroundingLevel : Int := LogLevel.warning

/-- The logger before it is configured, which writes nothing. -/
def initial : Logger := ⟨0, [.nowhere]⟩

def effectiveLevel (logger : Logger) : Int :=
  if logger.level = 0 then surroundingLevel else logger.level

/-- Whether messages of a level pass. None does below one. -/
def passes (logger : Logger) (level : Int) : Bool := 0 < level && logger.effectiveLevel ≤ level

end Logger

namespace Moment

/-- The moment at the start of a line, as `MM-DD HH:MM:SS`. -/
def lineStamp (t : Moment) : String :=
  Calendar.padded 2 t.date.month ++ "-" ++ Calendar.padded 2 t.date.day ++ " " ++
    Calendar.padded 2 t.hour ++ ":" ++ Calendar.padded 2 t.minute ++ ":" ++ Calendar.padded 2 t.second

/-- The moment in the name of a file, as `MMDDHHMMSS`. -/
def fileStamp (t : Moment) : String :=
  Calendar.padded 2 t.date.month ++ Calendar.padded 2 t.date.day ++ Calendar.padded 2 t.hour ++
    Calendar.padded 2 t.minute ++ Calendar.padded 2 t.second

end Moment

namespace Session

def start (files : Workspace) (now : Moment) : Session := ⟨files, "", "", .initial, now⟩

/-- The line of a message. -/
def line (s : Session) (level : Int) (message : String) : String :=
  s.now.lineStamp ++ " [" ++ LogLevel.abbreviation level ++ "] " ++ message ++ "\n"

/-- A line written to one sink. -/
def deliver (level : Int) (line : String) (s : Session) : Sink → Session
  | .nowhere => s
  | .console threshold => if threshold ≤ level then { s with messages := s.messages ++ line } else s
  | .file location threshold =>
    if threshold ≤ level then { s with files := s.files.append location (Text.Utf8.encode line) }
    else s

/-- A message logged. -/
def log (s : Session) (level : Int) (message : String) : Session :=
  if s.logger.passes level then s.logger.sinks.foldl (deliver level (s.line level message)) s else s

/-- A message logged that may spell surrogates. -/
def tell (s : Session) (level : Int) (message : String) : Session :=
  let told := s.log level (Text.shown message)
  match Text.plain message with
  | .ok _ => told
  | .error _ => { told with files := s.files }

def debug (s : Session) (message : String) : Session := s.tell LogLevel.debug message

def info (s : Session) (message : String) : Session := s.tell LogLevel.info message

def error (s : Session) (message : String) : Session := s.tell LogLevel.error message

/-- The directory of the log files of an action. -/
def logDirectory (directory action : String) : FilePath :=
  (FilePath.ofString (if directory.isEmpty then "log" else directory)).join (.ofString action)

/-- The log file of an action at the moment of the session, on the way to which there are no detours. -/
def logFile (s : Session) (directory action : String) : FilePath :=
  ((logDirectory directory action).join
    (.ofString (action ++ "_" ++ s.now.fileStamp ++ ".log"))).collapsed

/-- The session with a log file opened, which keeps what it holds already. -/
def openLogFile (s : Session) (directory action : String) :
    Except LoggerError Location × Session :=
  match s.files.makeDirectories (logDirectory directory action) with
  | (.error e, files) => (.error (.file e), { s with files := files })
  | (.ok (), files) =>
    match files.place (s.logFile directory action) with
    | .error e => (.error (.file e), { s with files := files })
    | .ok location => (.ok location, { s with files := files.append location [] })

/-- The session with the given sinks and level in the logger. -/
def withSinks (s : Session) (sinks : List Sink) : Session :=
  { s with logger := { s.logger with sinks := sinks } }

/-- The logger configured anew: messages to the console from the given level on, and all messages from the
debugging level on to the file of the action where one is wanted. When the file cannot be opened the console
alone is left, and the level of the logger as it was. -/
def configure (s : Session) (options : LoggerOptions) : Except LoggerError Unit × Session :=
  match options.consoleLevel with
  | .error e => (.error e, s.withSinks [])
  | .ok level =>
    let console := Sink.console level
    let finish (s : Session) (sinks : List Sink) : Session :=
      { s with logger := ⟨min LogLevel.debug level, sinks⟩ }
    match options.fileAction? with
    | none => (.ok (), finish s [console])
    | some action =>
      match s.openLogFile options.directory action with
      | (.error e, s) => (.error e, s.withSinks [console])
      | (.ok location, s) => (.ok (), finish s [console, .file location LogLevel.debug])

end Session

end SearchRequest
