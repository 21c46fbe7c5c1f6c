import SearchRequest.Config.Entry
import SearchRequest.Config.Plain
import SearchRequest.Text.Blank
import SearchRequest.Text.Case

/-!
# Configured items

Items and clauses as a configuration writes them. An item is a mapping of `field`, `type` and `value`, or a
mapping with the one entry `bool` that holds clauses. The value of a nested or boolean item holds clauses too.

The entries of a mapping are read by name and in a fixed order, so each entry is first paired with the ways
in which the value below it can be read.
-/

namespace SearchRequest.Config

/-- The operator that a name selects, in any letter case and with blanks around it. -/
def operatorNamed (name : String) : Read Operator :=
  match Operator.ofKey? (Text.lower (Text.strip name)) with
  | some op => .ok op
  | none => .error (.unknownOperator name)

/-- The kind of an item: an operator by its name or code, or a code that no operator has. -/
def readKind (key : KeyPath) : Value → Read Kind
  | .str name => .operator <$> operatorNamed name
  | v => do
    let n ← expectWhole key v
    match Operator.ofCode? n with
    | some op => pure (.operator op)
    | none => pure (.raw (.int n))

/-- Whether the value of an item holds clauses. -/
def holdsClauses : Kind → Bool
  | .operator .nested | .operator .bool => true
  | _ => false

/-- A value and the ways in which it can be read. -/
structure Reading where
  value : Value
  clauses : KeyPath → Read Clauses
  items : KeyPath → Read (List Item)

/-- The reading under a name. -/
def findReading? : List (Value × Reading) → String → Option Reading
  | [], _ => none
  | (k, r) :: rest, name => if k.sameKey (.str name) then some r else findReading? rest name

def itemKeys : List String := ["field", "type", "value"]

/-- The item of a mapping with a field and a value. -/
def readLeaf (entries : Entries) (readings : List (Value × Reading)) (key : KeyPath) : Read Item := do
  let unknown := unknownNames itemKeys entries
  ensure unknown.isEmpty (.unknownKeys key unknown)
  let field ← expectText (key.member "field") (← require entries "field" (key.member "field"))
  let kind ← match Entries.find? entries "type" with
    | none => pure (.operator .matches)
    | some v => readKind (key.member "type") v
  match findReading? readings "value" with
  | none => .error (.missing (key.member "value"))
  | some reading =>
    if holdsClauses kind then do
      let clauses ← reading.clauses (key.member "value")
      pure (.mk field (.clauses clauses) kind)
    else do
      ensure (!reading.value.isEndless) .endless
      pure (.mk field reading.value.isoDates.fixed kind)

/-- The item of a mapping: a boolean block where it has an entry for one. -/
def readItemEntries (entries : Entries) (readings : List (Value × Reading)) (key : KeyPath) :
    Read Item :=
  match findReading? readings Operator.bool.key with
  | some reading => do
    ensure (entries.length == 1) (.siblings key)
    let clauses ← reading.clauses (key.member Operator.bool.key)
    pure (.mk Operator.bool.key (.clauses clauses) (.operator .bool))
  | none => readLeaf entries readings key

/-- The items of one clause; a clause that is absent has none. -/
def readClause (readings : List (Value × Reading)) (key : KeyPath) (clause : Clause) :
    Read (List Item) :=
  match findReading? readings clause.name with
  | none => pure []
  | some reading => reading.items (key.member clause.name)

/-- The clauses of a mapping, whatever else it holds. -/
def readClauses (readings : List (Value × Reading)) (key : KeyPath) : Read Clauses := do
  let must ← readClause readings key .must
  let mustNot ← readClause readings key .mustNot
  let should ← readClause readings key .should
  let filter ← readClause readings key .filter
  pure (.mk must mustNot should filter)

def clauseNames : List String := Clause.all.map Clause.name

mutual

/-- The item that a value of a configuration writes. -/
def item : Value → KeyPath → Read Item
  | .dict entries, key => readItemEntries entries (readingsOf entries) key
  | .enclosing, _ => .error .endless
  | _, key => .error (.wrongType key .mapping)

/-- The clauses that a value writes: a mapping that holds nothing else. -/
def clauses : Value → KeyPath → Read Clauses
  | .dict entries, key => do
    let unknown := unknownNames clauseNames entries
    ensure unknown.isEmpty (.unknownClauses key unknown)
    readClauses (readingsOf entries) key
  | .enclosing, _ => .error .endless
  | _, key => .error (.wrongType key .mapping)

/-- The items of a clause; null stands for none. -/
def items : Value → KeyPath → Read (List Item)
  | .null, _ => .ok []
  | .list xs, key => itemsFrom xs key 0
  | .enclosing, _ => .error .endless
  | _, key => .error (.wrongType key .list)

/-- The items of a list, from the given position on. -/
def itemsFrom : List Value → KeyPath → Nat → Read (List Item)
  | [], _, _ => .ok []
  | x :: xs, key, i => do
    let first ← item x (key.index i)
    let others ← itemsFrom xs key (i + 1)
    pure (first :: others)

/-- The entries of a mapping with the ways in which their values can be read. -/
def readingsOf : List (Value × Value) → List (Value × Reading)
  | [] => []
  | (k, v) :: rest =>
    (k, ⟨v, fun key => clauses v key, fun key => items v key⟩) :: readingsOf rest

end

end SearchRequest.Config
