import SearchRequest.Calendar
import SearchRequest.Number.Binary64
import SearchRequest.Operator

/-!
# Values and query items

The values that configurations, query items and request bodies are made of, and the items themselves. The
two are one family: a value may be a set of clauses, the clauses hold items, and an item holds a value.
-/

namespace SearchRequest

/-- The clauses of a boolean query, in the order in which a body lists them. -/
inductive Clause where
  | must
  | mustNot
  | should
  | filter
  deriving DecidableEq, Repr

namespace Clause

def all : List Clause := [.must, .mustNot, .should, .filter]

def name : Clause → String
  | .must => "must"
  | .mustNot => "must_not"
  | .should => "should"
  | .filter => "filter"

def ofName? (name : String) : Option Clause := all.find? fun c => c.name == name

theorem mem_all (c : Clause) : c ∈ all := by
  cases c <;> decide

theorem ofName?_name (c : Clause) : ofName? c.name = some c := by
  cases c <;> decide

end Clause

mutual

/-- A value. A `dict` keeps its entries in the order in which their keys were first set. -/
inductive Value where
  | null
  | bool (b : Bool)
  | int (n : Int)
  | float (x : Binary64)
  | str (s : String)
  | list (xs : List Value)
  | tuple (xs : List Value)
  | dict (entries : List (Value × Value))
  | date (d : Date)
  | moment (t : Moment)
  | bytes (bs : List UInt8)
  | set (xs : List Value)
  | clauses (c : Clauses)
  /-- One of the collections around the value, which thus contains itself, as deep down as it can be followed. -/
  | enclosing

/-- What an item says its operator is: an operator, or any value in its place. -/
inductive Kind where
  | operator (op : Operator)
  | raw (v : Value)

/-- One expression of a query: a field, a value for it and an operator. -/
inductive Item where
  | mk (field : String) (value : Value) (kind : Kind)

/-- The items of each clause of a boolean query. -/
inductive Clauses where
  | mk (must mustNot should filter : List Item)

end

instance : Inhabited Value := ⟨.null⟩

/-- The entries of a mapping. -/
abbrev Entries := List (Value × Value)

namespace Item

def field : Item → String
  | .mk f _ _ => f

def value : Item → Value
  | .mk _ v _ => v

def kind : Item → Kind
  | .mk _ _ k => k

end Item

namespace Clauses

def empty : Clauses := .mk [] [] [] []

/-- The items of one clause. -/
def get : Clauses → Clause → List Item
  | .mk a _ _ _, .must => a
  | .mk _ b _ _, .mustNot => b
  | .mk _ _ c _, .should => c
  | .mk _ _ _ d, .filter => d

/-- The clauses whose items a function gives. -/
def ofFn (items : Clause → List Item) : Clauses :=
  .mk (items .must) (items .mustNot) (items .should) (items .filter)

/-- One clause with the given items, the others empty. -/
def single (clause : Clause) (items : List Item) : Clauses :=
  ofFn fun c => if c = clause then items else []

theorem get_ofFn (items : Clause → List Item) (c : Clause) : (ofFn items).get c = items c := by
  cases c <;> rfl

theorem ext_get {a b : Clauses} (h : ∀ c, a.get c = b.get c) : a = b := by
  obtain ⟨a1, a2, a3, a4⟩ := a
  obtain ⟨b1, b2, b3, b4⟩ := b
  have h1 := h .must
  have h2 := h .mustNot
  have h3 := h .should
  have h4 := h .filter
  simp only [get] at h1 h2 h3 h4
  rw [h1, h2, h3, h4]

end Clauses

namespace Kind

/-- The value that stands for a kind: an operator by its code. -/
def toValue : Kind → Value
  | .operator op => .int op.code
  | .raw v => v

/-- The operator that a kind selects. A truth value selects none, although it may equal a code. -/
def operator? : Kind → Option Operator
  | .operator op => some op
  | .raw (.int n) => Operator.ofCode? n
  | .raw _ => none

end Kind

namespace Value

/-- The name of a value's type, as messages about values give it. -/
def typeName : Value → String
  | .null => "NoneType"
  | .bool _ => "bool"
  | .int _ => "int"
  | .float _ => "float"
  | .str _ => "str"
  | .list _ => "list"
  | .tuple _ => "tuple"
  | .dict _ => "dict"
  | .date _ => "date"
  | .moment _ => "datetime"
  | .bytes _ => "bytes"
  | .set _ => "set"
  | .clauses _ => "NestedQueryItem"
  | .enclosing => "list"

/-- The name of a value's type, as messages about keys give it: calendar types with their family. -/
def keyTypeName : Value → String
  | .date _ => "datetime.date"
  | .moment _ => "datetime.datetime"
  | v => v.typeName

/-- Whether a value has a shape. -/
def hasShape : Value → Shape → Bool
  | .str _, .scalar | .int _, .scalar | .float _, .scalar | .bool _, .scalar => true
  | .str _, .text => true
  | .list _, .list | .tuple _, .list => true
  | .dict _, .mapping => true
  | .clauses _, .nested => true
  | _, _ => false

end Value

end SearchRequest
