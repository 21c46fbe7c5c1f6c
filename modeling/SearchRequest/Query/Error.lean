import SearchRequest.Text.Quoted
import SearchRequest.Value.Written

/-!
# Faults of a query

Why an item has no body: its operator is unknown, or its value has none of the shapes that the operator
accepts.
-/

namespace SearchRequest

inductive QueryError where
  | unknownOperator (kind : Value)
  | unacceptable (op : Operator) (field : String) (value : Value)

namespace QueryError

def message : QueryError → String
  | .unknownOperator kind => "Invalid query type " ++ kind.display
  | .unacceptable op field value =>
    "Query type " ++ toString op.code ++ " on field " ++ Text.quote field ++ " expects " ++
      String.intercalate "/" (op.shapes.map Shape.name) ++ " value, got " ++ value.typeName

end QueryError

/-- Why items cannot be put into a clause: a boolean query has none of that name. -/
inductive ClauseError where
  | unknown (name : String)
  deriving DecidableEq, Repr

namespace ClauseError

def message : ClauseError → String
  | .unknown name => "Unknown bool clause: " ++ name

end ClauseError

end SearchRequest
