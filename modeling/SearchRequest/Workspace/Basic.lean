import SearchRequest.Workspace.Error

/-!
# Workspaces

The files and directories that a command can reach, as far as they are known. A place is the list of names
that leads to it from the working directory; the working directory, the directories above it and the root of
all exist. A path is followed part by part, and every part but the last must be a directory.
-/

namespace SearchRequest

/-- Where a file or directory is. -/
abbrev Location := List String

inductive Entry where
  | directory
  | file (content : List UInt8)
  deriving DecidableEq, Repr

structure Workspace where
  entries : List (Location × Entry)
  deriving DecidableEq, Repr

namespace Workspace

def empty : Workspace := ⟨[]⟩

/-- Whether a directory is there whatever the workspace holds. -/
def isGiven (l : Location) : Bool := l.all (· == "..") || l == ["/"]

/-- What is at a place. -/
def get? (w : Workspace) (l : Location) : Option Entry :=
  if isGiven l then some .directory else (w.entries.find? (·.1 == l)).map (·.2)

/-- The entries with one of them replaced, or added at the end. -/
def setIn : List (Location × Entry) → Location → Entry → List (Location × Entry)
  | [], l, e => [(l, e)]
  | (l', e') :: rest, l, e => if l' = l then (l, e) :: rest else (l', e') :: setIn rest l e

/-- The workspace with an entry at a place, everything else as it was. -/
def set (w : Workspace) (l : Location) (e : Entry) : Workspace := ⟨setIn w.entries l e⟩

/-- The content of the file at a place. -/
def content? (w : Workspace) (l : Location) : Option (List UInt8) :=
  match w.get? l with
  | some (.file content) => some content
  | _ => none

/-- The entries that an earlier workspace does not have, or has with another content. -/
def changesSince (w before : Workspace) : List (Location × Entry) :=
  w.entries.filter fun (l, e) => before.get? l != some e

/-- Whether a place is in the working directory. -/
def isInside (l : Location) : Bool := l.head? != some ".." && l.head? != some "/"

/-- The files of the working directory with their contents. -/
def files (w : Workspace) : List (Location × List UInt8) :=
  w.entries.filterMap fun (l, e) =>
    match e with
    | .file content => if isInside l then some (l, content) else none
    | .directory => none

/-! ## Following paths -/

/-- The outcome of a step on the way to a file. -/
abbrev Found := Except FileError

/-- The bytes that a part of a path may have. -/
def maxNameLength : Nat := 255

/-- The bytes that a whole path may have. -/
def maxPathLength : Nat := 4095

/-- The place one part on from a directory. -/
def child (l : Location) (part : String) : Location :=
  if part = ".." then
    if l.all (· == "..") then l ++ [".."]
    else if l = ["/"] then l
    else l.dropLast
  else l ++ [part]

/-- The place one part on from a place, which must be a directory. -/
def enter (w : Workspace) (path : FilePath) (l : Location) (part : String) : Found Location :=
  match w.get? l with
  | none => .error (.notFound path)
  | some (.file _) => .error (.notDirectory path)
  | some .directory =>
    if maxNameLength < part.utf8ByteSize then .error (.nameTooLong path) else .ok (child l part)

/-- The place that parts lead to. -/
def follow (w : Workspace) (path : FilePath) : Location → List String → Found Location
  | l, [] => .ok l
  | l, part :: parts => do
    let next ← w.enter path l part
    w.follow path next parts

/-- The place of a path. -/
def locate (w : Workspace) (path : FilePath) : Found Location :=
  match Text.pathError? path.text with
  | some e => .error (.surrogates e)
  | none =>
    if path.text.toList.contains '\x00' then .error .nullCharacter
    else if maxPathLength < path.text.utf8ByteSize then .error (.nameTooLong path)
    else w.follow path (if path.root.isEmpty then [] else ["/"]) path.parts

def isDirectory (w : Workspace) (path : FilePath) : Bool :=
  match w.locate path with
  | .ok l => w.get? l == some .directory
  | .error _ => false

/-- The places that a path passes, each with the path that leads there. -/
def waypointsFrom (path : FilePath) (l : Location) : List String → List (Location × FilePath)
  | [] => []
  | part :: parts =>
    let next := child l part
    let path := { path with parts := path.parts ++ [part] }
    (next, path) :: waypointsFrom path next parts

def waypoints (path : FilePath) : List (Location × FilePath) :=
  waypointsFrom { path with parts := [] } (if path.root.isEmpty then [] else ["/"]) path.parts

/-- The path of a place. -/
def pathOf (l : Location) : FilePath :=
  match l with
  | "/" :: parts => ⟨"/", parts⟩
  | parts => ⟨"", parts⟩

/-! ## Files -/

/-- The content of a file. -/
def read (w : Workspace) (path : FilePath) : Found (List UInt8) := do
  let l ← w.locate path
  match w.get? l with
  | some (.file content) => pure content
  | some .directory => .error (.isDirectory path)
  | none => .error (.notFound path)

/-- The place of a file to write: in a directory that exists, and not a directory itself. -/
def place (w : Workspace) (path : FilePath) : Found Location := do
  let l ← w.locate path
  match w.get? l with
  | some .directory => .error (.isDirectory path)
  | _ => pure l

/-- The workspace with a file that has the given content. -/
def write (w : Workspace) (path : FilePath) (content : List UInt8) : Found Workspace := do
  let l ← w.place path
  pure (w.set l (.file content))

/-- The workspace with bytes added to the end of the file at a place. -/
def append (w : Workspace) (l : Location) (bytes : List UInt8) : Workspace :=
  w.set l (.file ((w.content? l).getD [] ++ bytes))

/-! ## Directories -/

/-- The workspace with one more directory. -/
def makeDirectory (w : Workspace) (path : FilePath) : Found Workspace := do
  let l ← w.locate path
  match w.get? l with
  | some _ => .error (.alreadyExists path)
  | none => pure (w.set l .directory)

/-- The outcome of an attempt to make a directory; one that is there already will do. -/
def settle (w : Workspace) (path : FilePath) : Found Workspace → Found Unit × Workspace
  | .ok made => (.ok (), made)
  | .error e => if w.isDirectory path then (.ok (), w) else (.error e, w)

/-- The attempt to make a directory, and those above it where one is missing. What has been made stays, also
when the attempt fails. -/
def makeDirectoriesTo : Nat → Workspace → FilePath → Found Unit × Workspace
  | depth, w, path =>
    match w.makeDirectory path, depth with
    | .error (.notFound _), depth + 1 =>
      match makeDirectoriesTo depth w path.parent with
      | (.ok (), w) => w.settle path (w.makeDirectory path)
      | (.error e, w) => (.error e, w)
    | outcome, _ => w.settle path outcome

def makeDirectories (w : Workspace) (path : FilePath) : Found Unit × Workspace :=
  makeDirectoriesTo path.parts.length w path

/-- The workspace with a file in directories that are made where they are missing; without it where it has no
place. -/
def withFile (w : Workspace) (path : FilePath) (content : List UInt8) : Workspace :=
  let w := (w.makeDirectories path.parent).2
  match w.write path content with
  | .ok w => w
  | .error _ => w

/-! ## Laws -/

theorem find?_setIn (entries : List (Location × Entry)) (l m : Location) (e : Entry) :
    ((setIn entries l e).find? (·.1 == m)).map (·.2) =
      if m = l then some e else (entries.find? (·.1 == m)).map (·.2) := by
  induction entries with
  | nil => by_cases h : m = l <;> grind [setIn]
  | cons head tail ih => by_cases h : m = l <;> by_cases h' : head.1 = l <;> grind [setIn]

theorem get?_set (w : Workspace) (l m : Location) (e : Entry) (h : isGiven m = false) :
    (w.set l e).get? m = if m = l then some e else w.get? m := by
  simp [get?, set, h, find?_setIn]

end Workspace

end SearchRequest
