/-!
# Operators

The operators of a query: the key that each one writes, the code and the names that select it, and the
shapes of value that it accepts.
-/

namespace SearchRequest

/-- The kinds of value that an operator may accept. -/
inductive Shape where
  | scalar
  | text
  | list
  | mapping
  | nested
  deriving DecidableEq, Repr

namespace Shape

def name : Shape → String
  | .scalar => "scalar"
  | .text => "text"
  | .list => "list"
  | .mapping => "mapping"
  | .nested => "nested"

/-- The shapes in the order in which a value is tried against them. -/
def inTrialOrder : List Shape := [.nested, .text, .scalar, .list, .mapping]

/-- The shapes in the order of their names. -/
def byName : List Shape := [.list, .mapping, .nested, .scalar, .text]

end Shape

inductive Operator where
  | matches
  | term
  | terms
  | range
  | exists
  | queryString
  | nested
  | matchPhrase
  | startsWith
  | wildcard
  | bool
  deriving DecidableEq, Repr

namespace Operator

/-- All operators, in the order of their codes. -/
def all : List Operator :=
  [.matches, .term, .terms, .range, .exists, .queryString, .nested, .matchPhrase, .startsWith,
    .wildcard, .bool]

def code : Operator → Nat
  | .matches => 0
  | .term => 1
  | .terms => 2
  | .range => 3
  | .exists => 4
  | .queryString => 5
  | .nested => 6
  | .matchPhrase => 7
  | .startsWith => 8
  | .wildcard => 9
  | .bool => 10

/-- The key that a body gives the operator. -/
def key : Operator → String
  | .matches => "match"
  | .term => "term"
  | .terms => "terms"
  | .range => "range"
  | .exists => "exists"
  | .queryString => "query_string"
  | .nested => "nested"
  | .matchPhrase => "match_phrase"
  | .startsWith => "prefix"
  | .wildcard => "wildcard"
  | .bool => "bool"

def accepts : Operator → Shape → Bool
  | .terms, s => s == .list
  | .range, s => s == .mapping
  | .exists, s => s == .scalar
  | .queryString, s => s == .text
  | .nested, s | .bool, s => s == .nested
  | _, s => s == .scalar || s == .mapping

/-- The accepted shapes in the order of their names. -/
def shapes (op : Operator) : List Shape := Shape.byName.filter op.accepts

/-- The operator with a code. -/
def ofCode? (n : Int) : Option Operator := all.find? fun op => (op.code : Int) == n

/-- The operator with a key. -/
def ofKey? (key : String) : Option Operator := all.find? fun op => op.key == key

theorem ofCode?_code (op : Operator) : ofCode? op.code = some op := by
  cases op <;> rfl

theorem code_of_ofCode? {n : Int} {op : Operator} (h : ofCode? n = some op) : (op.code : Int) = n := by
  have := List.find?_some h
  simpa using this

theorem ofKey?_key (op : Operator) : ofKey? op.key = some op := by
  cases op <;> decide

end Operator

end SearchRequest
