import SearchRequest.Config.KeyPath
import SearchRequest.Text.Quoted

/-!
# Faults of a configuration

What can be wrong with a configuration, with the path of the entry that is wrong, and the message for it.
-/

namespace SearchRequest

/-- The type that an entry of a configuration has to have. -/
inductive Expected where
  | text
  | truth
  | whole
  | list
  | mapping
  deriving DecidableEq, Repr

namespace Expected

def phrase : Expected → String
  | .text => "a string"
  | .truth => "a boolean"
  | .whole => "an integer"
  | .list => "a list"
  | .mapping => "an object"

end Expected

inductive ConfigError where
  | missing (key : KeyPath)
  | wrongType (key : KeyPath) (expected : Expected)
  | unknownKeys (key : KeyPath) (names : List String)
  | unknownClauses (key : KeyPath) (names : List String)
  | unknownOperator (name : String)
  /-- A text or list of texts that has nothing in it. -/
  | blank (key : KeyPath)
  /-- A boolean block that is not the only entry of its item. -/
  | siblings (key : KeyPath)
  /-- A sort entry with no field or with several. -/
  | notOneField (key : KeyPath)
  | notAmong (key : KeyPath) (choices : List String)
  | noQueries
  /-- A whole document that is no mapping. -/
  | rootNotMapping
  /-- A collection that contains itself, followed until calls cannot be nested any deeper. -/
  | endless
  deriving DecidableEq, Repr

namespace ConfigError

def message : ConfigError → String
  | .missing key => "Missing required config: " ++ key.text
  | .wrongType key expected => key.text ++ " must be " ++ expected.phrase
  | .unknownKeys key names => key.text ++ " has unknown keys: " ++ Text.quoteAll names
  | .unknownClauses key names => key.text ++ " has unknown clauses: " ++ Text.quoteAll names
  | .unknownOperator name => "Unknown query type: " ++ name
  | .blank key => key.text ++ " must not be empty"
  | .siblings key => key.text ++ " bool block must not have sibling keys"
  | .notOneField key => key.text ++ " must have exactly one field"
  | .notAmong key choices => key.text ++ " must be one of " ++ Text.quoteAll choices
  | .noQueries => "queries must include at least one query"
  | .rootNotMapping => "Config root must be a mapping/object"
  | .endless => "maximum recursion depth exceeded in comparison"

end ConfigError

end SearchRequest
