import SearchRequest.Config.Source
import SearchRequest.Text.Utf8
import SearchRequest.Workspace.Basic

/-!
# Configuration files

Settings from files. A file is read as UTF-8 with every kind of line end turned into a newline. Defaults,
where there are any, are read before the file that is laid over them.
-/

namespace SearchRequest

/-- Why there are no settings. -/
inductive LoadError where
  | file (e : FileError)
  | encoding (e : Text.Utf8Error)
  | source (e : SourceError)

namespace LoadError

def message : LoadError → String
  | .file e => e.message
  | .encoding e => e.message
  | .source e => e.message

def ofSource {α : Type} : Except SourceError α → Except LoadError α
  | .ok a => .ok a
  | .error e => .error (.source e)

end LoadError

namespace Config

/-- The text with every return, with or without a newline behind it, as one newline. -/
def unifyLineEnds : List Char → List Char
  | [] => []
  | '\r' :: '\n' :: cs => '\n' :: unifyLineEnds cs
  | '\r' :: cs => '\n' :: unifyLineEnds cs
  | c :: cs => c :: unifyLineEnds cs

/-- The text of a file. -/
def readText (files : Workspace) (path : FilePath) : Except LoadError String :=
  match files.read path with
  | .error e => .error (.file e)
  | .ok bytes =>
    match Text.Utf8.decode bytes with
    | .error e => .error (.encoding e)
    | .ok text => .ok (String.ofList (unifyLineEnds text))

/-- The settings of a file. -/
def load (files : Workspace) (path : FilePath) : Except LoadError Settings := do
  let text ← readText files path
  LoadError.ofSource (settingsOf text)

/-- The settings of a file laid over defaults that are given as a text. -/
def loadOverText (files : Workspace) (path : FilePath) (defaults : String) :
    Except LoadError Settings := do
  let lower ← LoadError.ofSource (ofYaml defaults)
  let text ← readText files path
  LoadError.ofSource (settingsOver lower text)

/-- The settings of a file laid over a file of defaults. A file is not laid over itself. -/
def loadOver (files : Workspace) (path defaults : FilePath) : Except LoadError Settings :=
  if path = defaults then load files path
  else do
    let text ← readText files defaults
    loadOverText files path text

end Config

end SearchRequest
