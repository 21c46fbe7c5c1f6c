import SearchRequest.Config.Error
import SearchRequest.Value.Key
import SearchRequest.Value.Written

/-!
# Entries of a configuration

Reading a single entry: its type, whether it is there, and whether a mapping has entries that nobody reads.
A truth value never passes for a number.
-/

namespace SearchRequest.Config

/-- The outcome of reading a part of a configuration. -/
abbrev Read := Except ConfigError

def expectText (key : KeyPath) : Value → Read String
  | .str s => .ok s
  | _ => .error (.wrongType key .text)

def expectTruth (key : KeyPath) : Value → Read Bool
  | .bool b => .ok b
  | _ => .error (.wrongType key .truth)

def expectWhole (key : KeyPath) : Value → Read Int
  | .int n => .ok n
  | _ => .error (.wrongType key .whole)

def expectList (key : KeyPath) : Value → Read (List Value)
  | .list xs => .ok xs
  | _ => .error (.wrongType key .list)

def expectMapping (key : KeyPath) : Value → Read Entries
  | .dict entries => .ok entries
  | _ => .error (.wrongType key .mapping)

/-- The value under a name. -/
def require (entries : Entries) (name : String) (key : KeyPath) : Read Value :=
  match Entries.find? entries name with
  | some v => .ok v
  | none => .error (.missing key)

/-- A condition that fails with the given error. -/
def ensure (condition : Bool) (error : ConfigError) : Read Unit :=
  if condition then .ok () else .error error

/-- The mapping under a name, none where it is absent or null. -/
def optionalSection (entries : Entries) (name : String) : Read (Option Entries) :=
  match Entries.find? entries name with
  | none | some .null => .ok none
  | some v => some <$> expectMapping (.ofName name) v

/-- The mapping under a name. A mapping that is not required may be absent, and is then empty. -/
def getSection (entries : Entries) (name : String) (required : Bool) : Read Entries := do
  match ← optionalSection entries name with
  | some found => pure found
  | none => if required then .error (.missing (.ofName name)) else pure []

/-- A text before another by code points, or equal to it. -/
def textLe (a b : String) : Bool := !decide (b < a)

/-- The names of keys that are not among the known ones, each once and in order. -/
def unknownNames (known : List String) (entries : Entries) : List String :=
  ((entries.map fun entry => entry.1.display).filter fun name => !known.contains name).eraseDups.mergeSort
    textLe

end SearchRequest.Config
