import SearchRequest.Number.Shortest
import SearchRequest.Text.Case
import SearchRequest.Text.Quoted
import SearchRequest.Value.Basic

/-!
# Values in messages

The text of a value in a message. Inside a collection every text is quoted and every date spells out its
parts; on its own a text stands as it is and a date in its standard form.
-/

namespace SearchRequest

namespace Value

def commaSeparated (texts : List String) : String := String.intercalate ", " texts

def inBraces (s : String) : String := "\x7b" ++ s ++ "\x7d"

/-- A sequence in parentheses; a single element is followed by a comma. -/
def inParentheses : List String → String
  | [s] => "(" ++ s ++ ",)"
  | texts => "(" ++ commaSeparated texts ++ ")"

/-- A byte as it stands between the given quotes. -/
def byteChars (quote : Char) (b : UInt8) : List Char :=
  let c := Char.ofNat b.toNat
  if c = quote ∨ c = '\\' then ['\\', c]
  else if c = '\n' then ['\\', 'n']
  else if c = '\r' then ['\\', 'r']
  else if c = '\t' then ['\\', 't']
  else if 0x20 ≤ b.toNat ∧ b.toNat < 0x7F then [c]
  else '\\' :: 'x' :: Text.hexChars 2 b.toNat

def bytesText (bs : List UInt8) : String :=
  let q := Text.quoteFor (bs.map fun b => Char.ofNat b.toNat)
  String.ofList ('b' :: q :: bs.flatMap (byteChars q) ++ [q])

def dateParts (d : Date) : List String := [toString d.year, toString d.month, toString d.day]

/-- The parts of a moment: seconds and microseconds only as far as there are any, then the offset. -/
def momentParts (t : Moment) : List String :=
  dateParts t.date ++ [toString t.hour, toString t.minute] ++
    (if t.microsecond ≠ 0 then [toString t.second, toString t.microsecond]
      else if t.second ≠ 0 then [toString t.second] else []) ++
    (match t.offset with
      | none => []
      | some 0 => ["tzinfo=datetime.timezone.utc"]
      | some minutes => ["tzinfo=datetime.timezone(" ++ Calendar.spanText minutes ++ ")"])

/-- The name of a truth value. -/
def boolText (b : Bool) : String := if b then "True" else "False"

def operatorText (op : Operator) : String :=
  "<QueryType." ++ Text.upper op.key ++ ": " ++ toString op.code ++ ">"

mutual

/-- A value as it stands inside a collection. -/
def written : Value → String
  | .null => "None"
  | .bool b => boolText b
  | .int n => toString n
  | .float x => String.ofList x.written
  | .str s => Text.quote s
  | .list xs => "[" ++ commaSeparated (writtenList xs) ++ "]"
  | .tuple xs => inParentheses (writtenList xs)
  | .dict entries => inBraces (commaSeparated (writtenEntries entries))
  | .date d => "datetime.date(" ++ commaSeparated (dateParts d) ++ ")"
  | .moment t => "datetime.datetime(" ++ commaSeparated (momentParts t) ++ ")"
  | .bytes bs => bytesText bs
  | .set [] => "set()"
  | .set (x :: xs) => inBraces (commaSeparated (written x :: writtenList xs))
  | .clauses c => writtenClauses c
  | .enclosing => "[...]"

def writtenList : List Value → List String
  | [] => []
  | x :: xs => written x :: writtenList xs

def writtenEntries : List (Value × Value) → List String
  | [] => []
  | (k, v) :: rest => (written k ++ ": " ++ written v) :: writtenEntries rest

def writtenKind : Kind → String
  | .operator op => operatorText op
  | .raw v => written v

def writtenItem : Item → String
  | .mk field value kind =>
    "QueryItem(field=" ++ Text.quote field ++ ", value=" ++ written value ++ ", type=" ++
      writtenKind kind ++ ")"

def writtenItems : List Item → List String
  | [] => []
  | i :: is => writtenItem i :: writtenItems is

def writtenClauses : Clauses → String
  | .mk must mustNot should filter =>
    "NestedQueryItem(must=" ++ inParentheses (writtenItems must) ++
      ", must_not=" ++ inParentheses (writtenItems mustNot) ++
      ", should=" ++ inParentheses (writtenItems should) ++
      ", filter=" ++ inParentheses (writtenItems filter) ++ ")"

end

/-- A value on its own. -/
def display : Value → String
  | .str s => s
  | .date d => d.iso
  | .moment t => t.date.iso ++ " " ++ t.timeText
  | v => v.written

end Value

end SearchRequest
