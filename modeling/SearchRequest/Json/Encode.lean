import SearchRequest.Json.Basic
import SearchRequest.Number.Shortest
import SearchRequest.Value.Basic

/-!
# Values as JSON

The JSON tree of a value. Sequences become arrays, and keys that are numbers, truth values or null become
the texts of these. The parts of a value are visited in the order of the text, a key before its value, and
the first part that JSON has no form for decides the error.
-/

namespace SearchRequest

/-- Why a value has no JSON form. -/
inductive EncodeError where
  /-- A number that is infinite or none at all. -/
  | notFinite
  | badKey (typeName : String)
  | badValue (typeName : String)
  /-- A collection that contains itself. -/
  | circular
  deriving DecidableEq, Repr

namespace EncodeError

def message : EncodeError → String
  | .notFinite => "Out of range float values are not JSON compliant"
  | .badKey typeName => "keys must be str, int, float, bool or None, not " ++ typeName
  | .badValue typeName => "Object of type " ++ typeName ++ " is not JSON serializable"
  | .circular => "Circular reference detected"

end EncodeError

namespace Json

/-- The digits of a whole number. -/
def intToken : Int → List Char
  | .ofNat n => Nat.toDigits 10 n
  | .negSucc n => '-' :: Nat.toDigits 10 (n + 1)

/-- The token of a finite number. -/
def floatToken (x : Binary64) : Except EncodeError (List Char) :=
  if x.isFinite then .ok x.written else .error .notFinite

def boolToken (b : Bool) : List Char :=
  if b then ['t', 'r', 'u', 'e'] else ['f', 'a', 'l', 's', 'e']

/-- The name that a key gives its member. -/
def memberName : Value → Except EncodeError (List Char)
  | .str s => .ok s.toList
  | .null => .ok ['n', 'u', 'l', 'l']
  | .bool b => .ok (boolToken b)
  | .int n => .ok (intToken n)
  | .float x => floatToken x
  | v => .error (.badKey v.keyTypeName)

mutual

/-- The JSON tree of a value. -/
def ofValue : Value → Except EncodeError Json
  | .null => .ok .null
  | .bool b => .ok (.bool b)
  | .int n => .ok (.number (intToken n))
  | .float x => do
    let token ← floatToken x
    pure (.number token)
  | .str s => .ok (.str s.toList)
  | .list xs => do
    let elements ← ofValues xs
    pure (.array elements)
  | .tuple xs => do
    let elements ← ofValues xs
    pure (.array elements)
  | .dict entries => do
    let members ← ofEntries entries
    pure (.object members)
  | .enclosing => .error .circular
  | v => .error (.badValue v.typeName)

def ofValues : List Value → Except EncodeError (List Json)
  | [] => .ok []
  | x :: xs => do
    let element ← ofValue x
    let elements ← ofValues xs
    pure (element :: elements)

def ofEntries : List (Value × Value) → Except EncodeError (List (List Char × Json))
  | [] => .ok []
  | (k, v) :: rest => do
    let name ← memberName k
    let member ← ofValue v
    let members ← ofEntries rest
    pure ((name, member) :: members)

end

end Json

namespace Value

/-- The JSON text of a value, on one line. -/
def toJsonText (v : Value) : Except EncodeError String := do
  let tree ← Json.ofValue v
  pure (String.ofList tree.render)

end Value

end SearchRequest
