import SearchRequest.Config.Document

/-!
# Settings

A whole configuration: how messages are logged, where the rendered text goes and in which format, and the
documents to render. All sections are read before any setting is checked, so a fault of type anywhere comes
before a setting that is out of range.
-/

namespace SearchRequest

/-- How messages are logged. -/
structure LogSettings where
  level : String
  toFile : Bool
  directory : String
  deriving DecidableEq, Repr

/-- What is rendered and where to; an empty path stands for the console. -/
structure OutputSettings where
  format : String
  path : String
  deriving DecidableEq, Repr

structure Settings where
  log : LogSettings
  output : OutputSettings
  documents : List Document

namespace Config

/-- The value under a name, or a default where it is absent. -/
def valueOr (entries : Entries) (name : String) (default : Value) : Value :=
  (Entries.find? entries name).getD default

def logKey : KeyPath := .ofName "log"

def outputKey : KeyPath := .ofName "output"

def queriesKey : KeyPath := .ofName "queries"

def logSettings (root : Entries) : Read LogSettings := do
  let entries ← getSection root "log" false
  let level ← expectText (logKey.member "level") (valueOr entries "level" (.str "INFO"))
  let toFile ← expectTruth (logKey.member "to_file") (valueOr entries "to_file" (.bool false))
  let directory ← expectText (logKey.member "dir") (valueOr entries "dir" (.str "log"))
  pure ⟨Text.upper (Text.strip level), toFile, directory⟩

/-- A path that may be left out. -/
def optionalText (key : KeyPath) : Value → Read String
  | .null => .ok ""
  | v => expectText key v

def outputSettings (root : Entries) : Read OutputSettings := do
  let entries ← getSection root "output" false
  let format ← expectText (outputKey.member "format") (valueOr entries "format" (.str "ndjson"))
  let path ← optionalText (outputKey.member "path") (valueOrNull entries "path")
  pure ⟨Text.lower format, path⟩

def documents (root : Entries) : Read (List Document) :=
  match valueOrNull root "queries" with
  | .null => .error (.missing queriesKey)
  | v => do documentsFrom queriesKey (← expectList queriesKey v) 0

def logLevels : List String := ["DEBUG", "INFO", "WARNING", "ERROR", "CRITICAL"]

def formats : List String := ["body", "ndjson"]

/-- Whether the settings are in range. -/
def check (settings : Settings) : Read Unit := do
  ensure (logLevels.contains settings.log.level) (.notAmong (logKey.member "level") logLevels)
  ensure (!(Text.strip settings.log.directory).isEmpty) (.blank (logKey.member "dir"))
  ensure (formats.contains settings.output.format) (.notAmong (outputKey.member "format") formats)
  ensure (!settings.documents.isEmpty) .noQueries

/-- The settings that the root mapping of a configuration writes. -/
def settings (root : Entries) : Read Settings := do
  let log ← logSettings root
  let output ← outputSettings root
  let documents ← documents root
  let result : Settings := ⟨log, output, documents⟩
  check result
  pure result

end Config

end SearchRequest
