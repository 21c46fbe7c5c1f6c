import SearchRequest.Value.Basic

/-!
# Plain configuration values

Dates and moments become their standard texts wherever lists and the values of mappings lead to them.
Everything else, keys included, stays as it is. That takes a value in which these lead nowhere back.
-/

namespace SearchRequest.Value

mutual

def isoDates : Value → Value
  | .date d => .str d.iso
  | .moment t => .str t.iso
  | .list xs => .list (isoDatesList xs)
  | .dict entries => .dict (isoDatesEntries entries)
  | v => v

def isoDatesList : List Value → List Value
  | [] => []
  | x :: xs => isoDates x :: isoDatesList xs

def isoDatesEntries : List (Value × Value) → List (Value × Value)
  | [] => []
  | (k, v) :: rest => (k, isoDates v) :: isoDatesEntries rest

end

mutual

/-- Whether lists and the values of mappings lead on without end. -/
def isEndless : Value → Bool
  | .list xs => areEndless xs
  | .dict entries => haveEndless entries
  | .enclosing => true
  | _ => false

def areEndless : List Value → Bool
  | [] => false
  | x :: xs => x.isEndless || areEndless xs

def haveEndless : List (Value × Value) → Bool
  | [] => false
  | (_, v) :: rest => v.isEndless || haveEndless rest

end

/-- A configured value as an item holds it: a list becomes a tuple. -/
def fixed : Value → Value
  | .list xs => .tuple xs
  | v => v

end SearchRequest.Value
