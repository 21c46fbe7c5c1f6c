import SearchRequest.Value.Basic

/-!
# Keys and entries

When two values are one key of a mapping, and the mappings that keep that in mind. Numbers and truth values
are keys by their value, so `1`, `1.0` and true are one key. Setting a key that is present keeps the key and
its place and replaces the value.
-/

namespace SearchRequest

namespace Value

/-- The number that a truth value or whole number counts as. -/
def whole? : Value → Option Int
  | .bool b => some (if b then 1 else 0)
  | .int n => some n
  | _ => none

/-- Whether two numbers or truth values are equal as numbers. -/
def sameNumber (a b : Value) : Bool :=
  match a, b with
  | .float x, .float y => x.sameKey y
  | .float x, y => y.whole?.any x.eqInt
  | x, .float y => x.whole?.any y.eqInt
  | x, y => x.whole?.isSome && x.whole? == y.whole?

mutual

/-- Whether two values are one key. -/
def sameKey : Value → Value → Bool
  | .null, .null => true
  | .str s, .str t => s == t
  | .bytes a, .bytes b => a == b
  | .date a, .date b => a == b
  | .moment a, .moment b => a.sameKey b
  | .tuple xs, .tuple ys => sameKeys xs ys
  | a, b => a.sameNumber b

/-- Whether two sequences are one key, element by element. -/
def sameKeys : List Value → List Value → Bool
  | [], [] => true
  | x :: xs, y :: ys => x.sameKey y && sameKeys xs ys
  | _, _ => false

end

mutual

/-- Whether a value may be a key: collections that can change may not. -/
def isKey : Value → Bool
  | .list _ | .dict _ | .set _ | .enclosing => false
  | .tuple xs => areKeys xs
  | _ => true

def areKeys : List Value → Bool
  | [] => true
  | x :: xs => x.isKey && areKeys xs

end

end Value

namespace Entries

/-- The value under a key. -/
def get? : Entries → Value → Option Value
  | [], _ => none
  | (k, v) :: rest, key => if k.sameKey key then some v else get? rest key

/-- The value under a key that is a text. -/
def find? (entries : Entries) (name : String) : Option Value := get? entries (.str name)

/-- The entries with a key set to a value. -/
def insert : Entries → Value → Value → Entries
  | [], key, value => [(key, value)]
  | (k, v) :: rest, key, value =>
    if k.sameKey key then (k, value) :: rest else (k, v) :: insert rest key value

/-- The entries set one after another. -/
def ofList (entries : List (Value × Value)) : Entries :=
  entries.foldl (fun acc entry => insert acc entry.1 entry.2) []

end Entries

namespace Value

/-- The keys without those that equal an earlier one. -/
def distinctKeys (keys : List Value) : List Value :=
  keys.foldl (fun acc key => if acc.any (·.sameKey key) then acc else acc ++ [key]) []

def int? : Value → Option Int
  | .int n => some n
  | _ => none

/-- The set of keys. Whole numbers are listed in ascending order, other keys as they come. -/
def setOf (keys : List Value) : Value :=
  let keys := distinctKeys keys
  match keys.mapM int? with
  | some numbers => .set ((numbers.mergeSort fun m n => decide (m ≤ n)).map .int)
  | none => .set keys

end Value

end SearchRequest
