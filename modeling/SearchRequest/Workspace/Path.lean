/-!
# Paths

Paths of files and directories as their parts. Empty parts and parts that stay in place say nothing and are
dropped, so the text of a path is its shortest spelling; a part that leads upwards stays.
-/

namespace SearchRequest

/-- A path. `root` is empty for a path from the working directory. -/
structure FilePath where
  root : String
  parts : List String
  deriving DecidableEq, Repr

namespace FilePath

/-- The root that a path starts with. Exactly two slashes are a root of their own. -/
def rootOf (cs : List Char) : String :=
  match (cs.takeWhile (· == '/')).length with
  | 0 => ""
  | 2 => "//"
  | _ => "/"

def ofString (s : String) : FilePath :=
  let parts := (s.toList.splitOn '/').filter fun part => part != [] && part != ['.']
  ⟨rootOf s.toList, parts.map String.ofList⟩

def text (p : FilePath) : String :=
  if p.root.isEmpty && p.parts.isEmpty then "."
  else p.root ++ String.intercalate "/" p.parts

/-- The path of the directory that holds the file; a path without parts holds itself. -/
def parent (p : FilePath) : FilePath := { p with parts := p.parts.dropLast }

/-- Parts behind others, the last of which comes first; a part that leads upwards takes the one in front of it
away. There is none above a root. -/
def collapseParts (hasRoot : Bool) : List String → List String → List String
  | before, [] => before.reverse
  | before, ".." :: parts =>
    match before with
    | [] => collapseParts hasRoot (if hasRoot then [] else [".."]) parts
    | ".." :: _ => collapseParts hasRoot (".." :: before) parts
    | _ :: rest => collapseParts hasRoot rest parts
  | before, part :: parts => collapseParts hasRoot (part :: before) parts

/-- The path without its detours: a part that leads upwards is taken out with the part in front of it, whether
or not that one is a directory. -/
def collapsed (p : FilePath) : FilePath := { p with parts := collapseParts (!p.root.isEmpty) [] p.parts }

/-- The path that leads on from a directory. A path with a root leads on from anywhere. -/
def join (p q : FilePath) : FilePath :=
  if q.root.isEmpty then ⟨p.root, p.parts ++ q.parts⟩ else q

end FilePath

end SearchRequest
