import SearchRequest.Query.Document
import SearchRequest.Query.Error
import SearchRequest.Query.Escape
import SearchRequest.Value.Key

/-!
# Bodies

The body of a query as a value, whose entries are in the order in which they are sent. A clause without
items is left out, an item is checked before the items below it, and the first faulty item decides the
outcome of the whole.
-/

namespace SearchRequest

namespace Operator

/-- Whether a value has a shape that the operator accepts. -/
def fits (op : Operator) (v : Value) : Bool :=
  Shape.inTrialOrder.any fun s => op.accepts s && v.hasShape s

end Operator

namespace Value

/-- A mapping with one entry. -/
def single (name : String) (v : Value) : Value := .dict [(.str name, v)]

/-- A sequence or mapping as a body holds it: a tuple becomes a list. -/
def plain : Value → Value
  | .tuple xs => .list xs
  | v => v

/-- The body of a query string. -/
def queryString (field text : String) : Value :=
  .dict
    [(.str "analyze_wildcard", .bool true),
      (.str "fields", .list [.str field]),
      (.str "query", .str (Escape.escape text))]

/-- The body of a nested query on the objects at a path. -/
def nestedAt (path : String) (query : Value) : Value :=
  .dict [(.str "path", .list [.str path]), (.str "query", query)]

end Value

/-- The entry of a clause with the given bodies; an empty clause has none. -/
def Clause.entry (clause : Clause) : List Value → Entries
  | [] => []
  | bodies => [(.str clause.name, .list bodies)]

mutual

def Item.body : Item → Except QueryError Value
  | .mk field value kind =>
    match kind.operator? with
    | none => .error (.unknownOperator kind.toValue)
    | some op =>
      if op.fits value then value.bodyUnder op field else .error (.unacceptable op field value)

/-- The body of an item with an operator that accepts its value. -/
def Value.bodyUnder (op : Operator) (field : String) : Value → Except QueryError Value
  | .clauses c =>
    match op with
    | .nested => do
      let query ← c.body
      pure (.single op.key (.nestedAt field query))
    | _ => c.body
  | .str s =>
    match op with
    | .queryString => .ok (.single op.key (.queryString field s))
    | _ => .ok (.single op.key (.single field (.str s)))
  | v => .ok (.single op.key (.single field v.plain))

def Item.bodies : List Item → Except QueryError (List Value)
  | [] => .ok []
  | i :: is => do
    let b ← i.body
    let bs ← Item.bodies is
    pure (b :: bs)

/-- The body of a boolean query. -/
def Clauses.body : Clauses → Except QueryError Value
  | .mk must mustNot should filter => do
    let must ← Item.bodies must
    let mustNot ← Item.bodies mustNot
    let should ← Item.bodies should
    let filter ← Item.bodies filter
    pure (.single "bool" (.dict (
      Clause.entry .must must ++ Clause.entry .mustNot mustNot ++
        Clause.entry .should should ++ Clause.entry .filter filter)))

end

namespace Document

/-- An entry that is left out when its value is null. -/
def optionalEntry (name : String) : Value → Entries
  | .null => []
  | v => [(.str name, v)]

/-- An entry that is left out when its list is empty. -/
def listEntry (name : String) : List Value → Entries
  | [] => []
  | xs => [(.str name, .list xs)]

/-- The body of a document: the query first, then the page and its order. The index is no part of it. -/
def body (doc : Document) : Except QueryError Value := do
  let query ← doc.clauses.body
  pure (.dict (
    (.str "query", query) ::
      (optionalEntry "size" doc.size ++ optionalEntry "from" doc.start ++
        listEntry "sort" (doc.sort.map fun s => .single s.field (.str s.order)) ++
        listEntry "search_after" doc.searchAfter)))

end Document

namespace Item

/-- An item that puts the given items into one clause of a boolean query of its own. -/
def wrap (clause : Clause) (items : List Item) : Item :=
  .mk Operator.bool.key (.clauses (.single clause items)) (.operator .bool)

/-- The same with the clause given by its name. -/
def wrapNamed (name : String) (items : List Item) : Except ClauseError Item :=
  match Clause.ofName? name with
  | some clause => .ok (wrap clause items)
  | none => .error (.unknown name)

end Item

end SearchRequest
