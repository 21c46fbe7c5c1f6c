import SearchRequest.Value.Basic

/-!
# Documents

A search request for one index: the clauses of its query, how the hits are sorted, and which page of them is
wanted.
-/

namespace SearchRequest

/-- A field to sort by, and the direction. -/
structure SortField where
  field : String
  order : String
  deriving DecidableEq, Repr

/-- A search request. `size` and `start` are the length and the offset of the page, null where they are left
to the server; `searchAfter` is where the previous page ended. -/
structure Document where
  index : String
  clauses : Clauses
  sort : List SortField
  size : Value
  start : Value
  searchAfter : List Value

end SearchRequest
