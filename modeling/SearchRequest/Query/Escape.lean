/-!
# Escaped query text

Free text inside a query string: each character that the query syntax reserves is preceded by one backslash,
every other character stands for itself. The two-character operators are covered because both of their
characters are reserved.
-/

namespace SearchRequest.Escape

/-- The reserved characters, in the order of their code points. -/
def reserved : List Char :=
  ['!', '"', '&', '(', ')', '*', '+', '-', '/', ':', '<', '=', '>', '?', '[', '\\', ']', '^', '{', '|',
    '}', '~']

def isReserved (c : Char) : Bool := reserved.contains c

def escapeChar (c : Char) : List Char := if isReserved c then ['\\', c] else [c]

def escapeChars (cs : List Char) : List Char := cs.flatMap escapeChar

/-- The text with every reserved character escaped. -/
def escape (s : String) : String := String.ofList (escapeChars s.toList)

end SearchRequest.Escape
