import SearchRequest.Config.Merge
import SearchRequest.Config.Settings
import SearchRequest.Yaml.Load

/-!
# Configuration texts

From YAML texts to settings. A text with no value, or with one that counts as nothing, is an empty
configuration.
-/

namespace SearchRequest

/-- Why a text is no configuration. -/
inductive SourceError where
  | yaml (f : Yaml.Fault)
  | config (e : ConfigError)

namespace SourceError

def message : SourceError → String
  | .yaml f => f.message
  | .config e => e.message

def ofConfig {α : Type} : Config.Read α → Except SourceError α
  | .ok a => .ok a
  | .error e => .error (.config e)

def ofYaml {α : Type} : Except Yaml.Fault α → Except SourceError α
  | .ok a => .ok a
  | .error f => .error (.yaml f)

end SourceError

namespace Value

/-- Whether a value counts as nothing: null, false, zero, and whatever is empty. -/
def isNothing : Value → Bool
  | .null => true
  | .bool b => !b
  | .int n => n == 0
  | .float x => x.eqInt 0
  | .str s => s.isEmpty
  | .list xs | .tuple xs | .set xs => xs.isEmpty
  | .dict entries => entries.isEmpty
  | .bytes bs => bs.isEmpty
  | _ => false

end Value

namespace Config

/-- The root mapping that a value is. -/
def root (v : Value) : Read Entries :=
  if v.isNothing then .ok []
  else match v with
    | .dict entries => .ok entries
    | _ => .error .rootNotMapping

/-- The root mapping that a text writes. -/
def ofYaml (text : String) : Except SourceError Entries := do
  let v ← SourceError.ofYaml (Yaml.load text)
  SourceError.ofConfig (root v)

/-- The settings that a text writes. -/
def settingsOf (text : String) : Except SourceError Settings := do
  let entries ← ofYaml text
  SourceError.ofConfig (settings entries)

/-- A root mapping laid over another, unless that leads on without end. -/
def laidOver (lower upper : Entries) : Read Entries := do
  ensure (!mergesEndlessly lower upper) .endless
  pure (merge lower upper)

/-- The settings of a root mapping of defaults with a text laid over it. -/
def settingsOver (lower : Entries) (text : String) : Except SourceError Settings := do
  let upper ← ofYaml text
  let entries ← SourceError.ofConfig (laidOver lower upper)
  SourceError.ofConfig (settings entries)

end Config

end SearchRequest
