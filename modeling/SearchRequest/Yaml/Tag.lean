/-!
# Tags

The standard tags, and which of them a plain scalar has by its text alone: null, truth values, whole numbers
in several bases, decimals, dates and moments, the mark of a merge and the mark of a default value. Any other
text is a text.
-/

namespace SearchRequest.Yaml

inductive Tag where
  | null
  | bool
  | int
  | float
  | binary
  | timestamp
  | omap
  | pairs
  | set
  | str
  | seq
  | map
  /-- A key whose value is merged into the mapping around it. -/
  | merge
  /-- A key whose value stands for the mapping around it. -/
  | value
  | undefined
  deriving DecidableEq, Repr

namespace Tag

def standard : List (String × Tag) :=
  [("null", .null), ("bool", .bool), ("int", .int), ("float", .float), ("binary", .binary),
    ("timestamp", .timestamp), ("omap", .omap), ("pairs", .pairs), ("set", .set), ("str", .str),
    ("seq", .seq), ("map", .map), ("merge", .merge), ("value", .value)]

def standardPrefixText : String := "tag:yaml.org,2002:"

/-- The tag that a full name stands for. -/
def ofName (name : List Char) : Tag :=
  match standard.find? fun entry => (standardPrefixText ++ entry.1).toList == name with
  | some entry => entry.2
  | none => .undefined

/-! ## Tags of plain scalars -/

def isDigit (c : Char) : Bool := c.isDigit

def isDigitOrLine (c : Char) : Bool := c.isDigit || c == '_'

def isOctalOrLine (c : Char) : Bool := ('0' ≤ c && c ≤ '7') || c == '_'

def isBinaryOrLine (c : Char) : Bool := c == '0' || c == '1' || c == '_'

def isHexOrLine (c : Char) : Bool :=
  c.isDigit || ('a' ≤ c && c ≤ 'f') || ('A' ≤ c && c ≤ 'F') || c == '_'

/-- The text without a sign in front. -/
def unsigned : List Char → List Char
  | '-' :: cs | '+' :: cs => cs
  | cs => cs

/-- The text after a digit and the digits and underscores behind it. -/
def afterDigits? : List Char → Option (List Char)
  | c :: cs => if c.isDigit then some (cs.dropWhile isDigitOrLine) else none
  | [] => none

/-- A part of a number in base sixty: one digit, or two with the first below six. -/
def isSixtieth : List Char → Bool
  | [_] => true
  | [c, _] => c ≤ '5'
  | _ => false

/-- The text after one or more parts of a number in base sixty, each behind a colon. -/
def afterSixtieths? : Nat → List Char → Option (List Char)
  | 0, _ => none
  | fuel + 1, cs =>
    match cs with
    | ':' :: cs =>
      let digits := cs.takeWhile isDigit
      let rest := cs.dropWhile isDigit
      if isSixtieth digits then
        if rest.head? = some ':' then afterSixtieths? fuel rest else some rest
      else none
    | _ => none

/-- Whether a text without its sign is a whole number. -/
def isWhole : List Char → Bool
  | ['0'] => true
  | '0' :: 'b' :: cs => !cs.isEmpty && cs.all isBinaryOrLine
  | '0' :: 'x' :: cs => !cs.isEmpty && cs.all isHexOrLine
  | '0' :: cs => cs.all isOctalOrLine
  | cs =>
    match afterDigits? cs with
    | none => false
    | some [] => true
    | some rest => afterSixtieths? rest.length rest == some []

/-- Whether an exponent of a decimal, or nothing, stands here. The sign is required. -/
def isExponent : List Char → Bool
  | [] => true
  | e :: sign :: digits =>
    (e == 'e' || e == 'E') && (sign == '-' || sign == '+') && !digits.isEmpty && digits.all isDigit
  | _ => false

/-- Whether a text without its sign is a decimal with digits before the point. -/
def isDecimal (cs : List Char) : Bool :=
  match afterDigits? cs with
  | some ('.' :: rest) => isExponent (rest.dropWhile isDigitOrLine)
  | some rest =>
    match afterSixtieths? rest.length rest with
    | some ('.' :: fraction) => fraction.all isDigitOrLine
    | _ => false
  | none => false

/-- Whether a text is a decimal that starts with its point. -/
def isFraction : List Char → Bool
  | '.' :: cs =>
    match afterDigits? cs with
    | some rest => isExponent rest
    | none => false
  | _ => false

def infinities : List String := [".inf", ".Inf", ".INF"]

def notNumbers : List String := [".nan", ".NaN", ".NAN"]

def isFloat (cs : List Char) : Bool :=
  isDecimal (unsigned cs) || isFraction cs || infinities.contains (String.ofList (unsigned cs)) ||
    notNumbers.contains (String.ofList cs)

/-- The text after the given number of digits. -/
def afterCount? : Nat → List Char → Option (List Char)
  | 0, cs => some cs
  | n + 1, c :: cs => if c.isDigit then afterCount? n cs else none
  | _, _ => none

/-- The text after a character. -/
def afterChar? (expected : Char) : List Char → Option (List Char)
  | c :: cs => if c = expected then some cs else none
  | [] => none

/-- The text after one or two digits. -/
def afterOneOrTwo? : List Char → Option (List Char)
  | a :: b :: cs =>
    if a.isDigit then if b.isDigit then some cs else some (b :: cs) else none
  | [a] => if a.isDigit then some [] else none
  | [] => none

/-- Whether a text is a date with all its digits. -/
def isDate (cs : List Char) : Bool :=
  (do
    let cs ← afterCount? 4 cs
    let cs ← afterChar? '-' cs
    let cs ← afterCount? 2 cs
    let cs ← afterChar? '-' cs
    afterCount? 2 cs) == some []

def nullTexts : List String := ["", "~", "null", "Null", "NULL"]

def truthTexts : List String :=
  ["yes", "Yes", "YES", "no", "No", "NO", "true", "True", "TRUE", "false", "False", "FALSE", "on", "On",
    "ON", "off", "Off", "OFF"]

end Tag

end SearchRequest.Yaml
