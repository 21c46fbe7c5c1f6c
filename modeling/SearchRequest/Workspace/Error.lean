import SearchRequest.Text.Quoted
import SearchRequest.Workspace.Path

/-!
# Faults of files

Why a file or directory cannot be read, written or made, with the path as it was asked for.
-/

namespace SearchRequest

inductive FileError where
  | notFound (path : FilePath)
  | alreadyExists (path : FilePath)
  | notDirectory (path : FilePath)
  | isDirectory (path : FilePath)
  | nameTooLong (path : FilePath)
  /-- A path with a null character in it, which names nothing. -/
  | nullCharacter
  /-- A path that spells surrogates. -/
  | surrogates (e : Text.SurrogateError)
  deriving DecidableEq, Repr

namespace FileError

def numbered (number : Nat) (reason : String) (path : FilePath) : String :=
  "[Errno " ++ toString number ++ "] " ++ reason ++ ": " ++ Text.quote path.text

def message : FileError → String
  | .notFound path => numbered 2 "No such file or directory" path
  | .alreadyExists path => numbered 17 "File exists" path
  | .notDirectory path => numbered 20 "Not a directory" path
  | .isDirectory path => numbered 21 "Is a directory" path
  | .nameTooLong path => numbered 36 "File name too long" path
  | .nullCharacter => "embedded null byte"
  | .surrogates e => e.message

end FileError

end SearchRequest
