import SearchRequest.Config.Item
import SearchRequest.Query.Document

/-!
# Configured documents

A document as a configuration writes it. The mapping is checked for entries that nobody reads before any of
its entries is read; then the index, the cursor, the sort order, the page and the clauses are read in turn,
and the first fault decides.
-/

namespace SearchRequest.Config

def documentKeys : List String := ["index", "sort", "size", "from", "search_after"] ++ clauseNames

def orders : List String := ["asc", "desc"]

/-- One sort directive: a field name, or a mapping from one field to its direction. -/
def sortField (key : KeyPath) : Value → Read SortField
  | .str field => .ok ⟨field, "asc"⟩
  | v => do
    match ← expectMapping key v with
    | [(field, direction)] => do
      let fieldKey := key.member field.display
      let order := Text.lower (← expectText fieldKey direction)
      ensure (orders.contains order) (.notAmong fieldKey orders)
      let name ← expectText key field
      pure ⟨name, order⟩
    | _ => .error (.notOneField key)

/-- The sort directives of a list, from the given position on. -/
def sortFieldsFrom (key : KeyPath) : List Value → Nat → Read (List SortField)
  | [], _ => .ok []
  | x :: xs, i => do
    let first ← sortField (key.index i) x
    let others ← sortFieldsFrom key xs (i + 1)
    pure (first :: others)

/-- The sort directives of a document; null stands for none. -/
def sortFields (key : KeyPath) : Value → Read (List SortField)
  | .null => .ok []
  | v => do sortFieldsFrom key (← expectList key v) 0

/-- A whole number that may be left out. -/
def optionalWhole (key : KeyPath) : Value → Read Value
  | .null => .ok .null
  | v => .int <$> expectWhole key v

/-- The values where the previous page ended; null stands for none. -/
def cursor (key : KeyPath) : Value → Read (List Value)
  | .null => .ok []
  | v => do
    let xs ← expectList key v
    ensure (!Value.areEndless xs) .endless
    pure (Value.isoDatesList xs)

/-- The value under a name, null where it is absent. -/
def valueOrNull (entries : Entries) (name : String) : Value :=
  (Entries.find? entries name).getD .null

/-- The document that a value of a configuration writes. -/
def document (v : Value) (key : KeyPath) : Read Document := do
  let entries ← expectMapping key v
  let unknown := unknownNames documentKeys entries
  ensure unknown.isEmpty (.unknownKeys key unknown)
  let index ← expectText (key.member "index") (← require entries "index" (key.member "index"))
  let index := Text.strip index
  ensure (!index.isEmpty) (.blank (key.member "index"))
  let searchAfter ← cursor (key.member "search_after") (valueOrNull entries "search_after")
  let sort ← sortFields (key.member "sort") (valueOrNull entries "sort")
  let size ← optionalWhole (key.member "size") (valueOrNull entries "size")
  let start ← optionalWhole (key.member "from") (valueOrNull entries "from")
  let clauses ← readClauses (readingsOf entries) key
  pure ⟨index, clauses, sort, size, start, searchAfter⟩

/-- The documents of a list, from the given position on. -/
def documentsFrom (key : KeyPath) : List Value → Nat → Read (List Document)
  | [], _ => .ok []
  | x :: xs, i => do
    let first ← document x (key.index i)
    let others ← documentsFrom key xs (i + 1)
    pure (first :: others)

end SearchRequest.Config
