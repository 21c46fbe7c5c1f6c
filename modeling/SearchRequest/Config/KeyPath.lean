/-!
# Key paths

Where in a configuration a value stands: a name to start from and the members and positions that lead from
there to the value. Messages give the path with a dot before each member and brackets around each position.
-/

namespace SearchRequest

/-- One step from a value to a part of it. -/
inductive KeyStep where
  | member (name : String)
  | index (i : Nat)
  deriving DecidableEq, Repr

/-- The path to a value of a configuration. -/
structure KeyPath where
  root : String
  steps : List KeyStep
  deriving DecidableEq, Repr

namespace KeyStep

def text : KeyStep → String
  | .member name => "." ++ name
  | .index i => "[" ++ toString i ++ "]"

end KeyStep

namespace KeyPath

/-- The path of a root. -/
def ofName (name : String) : KeyPath := ⟨name, []⟩

def member (key : KeyPath) (name : String) : KeyPath := ⟨key.root, key.steps ++ [.member name]⟩

def index (key : KeyPath) (i : Nat) : KeyPath := ⟨key.root, key.steps ++ [.index i]⟩

def text (key : KeyPath) : String := key.root ++ String.join (key.steps.map KeyStep.text)

end KeyPath

end SearchRequest
