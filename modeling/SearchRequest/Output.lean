import SearchRequest.Logger
import SearchRequest.Text.Blank

/-!
# Output

Where rendered text goes: to the console at once, or into a file when the work is finished. Until then
nothing of the file is touched, so work that fails before leaves an older file as it was.

A writer takes text without surrogates. To a `Handed` writer text may be handed that spells some: the console does
not take it, and a file is opened for it, and thus emptied, before it turns out that it cannot be written.
-/

namespace SearchRequest

inductive Writer where
  | console
  /-- A file and the text for it so far. -/
  | file (path : FilePath) (text : String)
  deriving DecidableEq, Repr

namespace ControlSequence

/-- The characters between the opening of a control sequence and its final letter. -/
def isParameter (c : Char) : Bool := c.isDigit || c == ';' || c == '?'

/-- The text after the control sequence that starts here. -/
def after? : List Char → Option (List Char)
  | '\x1b' :: '[' :: cs =>
    match cs.dropWhile isParameter with
    | c :: rest => if c.isAlpha then some rest else none
    | [] => none
  | _ => none

/-- The text without its control sequences, which only a terminal understands. -/
def dropFrom : Nat → List Char → List Char
  | 0, cs => cs
  | fuel + 1, cs =>
    match after? cs with
    | some rest => dropFrom fuel rest
    | none =>
      match cs with
      | [] => []
      | c :: rest => c :: dropFrom fuel rest

def drop (s : String) : String := String.ofList (dropFrom s.length s.toList)

end ControlSequence

/-- A text saved as the whole content of a file, in directories that are made where they are missing. -/
def Session.save (s : Session) (path : FilePath) (text : String) : Except FileError Unit × Session :=
  match s.files.makeDirectories path.parent with
  | (.error e, files) => (.error e, { s with files := files })
  | (.ok (), files) =>
    match files.write path (Text.Utf8.encode text) with
    | .error e => (.error e, { s with files := files })
    | .ok files => (.ok (), { s with files := files })

namespace Writer

/-- The writer for a path; a blank path stands for the console. -/
def ofPath (path : String) : Writer :=
  if (Text.strip path).isEmpty then .console else .file (.ofString path) ""

/-- Text handed to a writer. -/
def write (w : Writer) (text : String) (s : Session) : Writer × Session :=
  match w with
  | .console => (w, { s with output := s.output ++ ControlSequence.drop text })
  | .file path held => (.file path (held ++ text), s)

/-- The end of an action: a file gets all text so far as its whole content. The writer keeps the text. -/
def finalize (w : Writer) (action : String) (s : Session) : Except FileError Unit × Session :=
  match w with
  | .console => (.ok (), s)
  | .file path held =>
    match s.save path held with
    | (.error e, s) => (.error e, s)
    | (.ok (), s) => (.ok (), s.info (action ++ " output saved to " ++ path.text))

end Writer

/-- Why text does not get to where a writer puts it. -/
inductive WriteError where
  | file (e : FileError)
  | surrogates (e : Text.SurrogateError)
  deriving DecidableEq, Repr

namespace WriteError

def message : WriteError → String
  | .file e => e.message
  | .surrogates e => e.message

end WriteError

/-- A writer that text is handed to which may spell surrogates. -/
inductive Handed where
  | writer (w : Writer)
  /-- A file that was handed surrogates. -/
  | spoiled (path : FilePath) (e : Text.SurrogateError)
  deriving DecidableEq, Repr

namespace Handed

/-- The writer for a path. -/
def ofPath (path : String) : Handed := .writer (.ofPath path)

/-- Text that may spell surrogates handed to a writer. -/
def write (h : Handed) (text : String) (s : Session) : Except WriteError Unit × Handed × Session :=
  match h with
  | .spoiled _ _ => (.ok (), h, s)
  | .writer w =>
    match Text.plain text, w with
    | .ok plain, w =>
      let (w, s) := w.write plain s
      (.ok (), .writer w, s)
    | .error e, .console => (.error (.surrogates e), h, s)
    | .error e, .file path held => (.ok (), .spoiled path { e with position := held.length + e.position }, s)

/-- The end of an action. -/
def finalize (h : Handed) (action : String) (s : Session) : Except WriteError Unit × Session :=
  match h with
  | .writer w =>
    match w.finalize action s with
    | (.error e, s) => (.error (.file e), s)
    | (.ok (), s) => (.ok (), s)
  | .spoiled path e =>
    match s.save path "" with
    | (.error e, s) => (.error (.file e), s)
    | (.ok (), s) => (.error (.surrogates e), s)

end Handed

end SearchRequest
