import SearchRequest.Yaml.Fault

/-!
# Tokens

The tokens of a YAML text. Indentation shows only as tokens that open and close block collections, and a key
without an indicator of its own has its token all the same.
-/

namespace SearchRequest.Yaml

/-- A line that tells how to read the document after it. -/
inductive Directive where
  | version (major : Nat)
  /-- What a handle in a tag stands for. -/
  | handle (name : List Char) (meaning : List Char)
  | other
  deriving DecidableEq, Repr

inductive Token where
  | directive (d : Directive)
  | documentStart
  | documentEnd
  | blockSequenceStart
  | blockMappingStart
  | blockEnd
  | flowSequenceStart
  | flowSequenceEnd
  | flowMappingStart
  | flowMappingEnd
  | flowEntry
  | blockEntry
  | key
  | value
  | alias (name : List Char)
  | anchor (name : List Char)
  /-- A tag: the suffix alone, or with the handle in front. -/
  | tag (handle : Option (List Char)) (suffix : List Char)
  | scalar (text : List Char) (plain : Bool)
  | streamEnd
  /-- The place where no further token can be read. -/
  | fault (f : Fault)
  deriving DecidableEq, Repr

end SearchRequest.Yaml
