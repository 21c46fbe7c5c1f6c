import SearchRequest.Yaml.Node.OfTokens
import SearchRequest.Yaml.Node.Value

/-!
# YAML documents

The value of a YAML text that holds at most one document.
-/

namespace SearchRequest.Yaml

/-- The value that a text writes, null if it holds no document. -/
def load (text : String) : Except Fault Value := do
  match ← Tree.ofTokens (Token.ofText text.toList) with
  | some tree => tree.value
  | none => pure .null

end SearchRequest.Yaml
