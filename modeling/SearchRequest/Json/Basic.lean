/-!
# JSON text

JSON documents as trees whose numbers are the tokens that stand for them, and their compact text: nothing
between the tokens, members in the order of the tree, and no character escaped but the quote, the backslash
and the controls below the space.
-/

namespace SearchRequest

inductive Json where
  | null
  | bool (b : Bool)
  | number (token : List Char)
  | str (s : List Char)
  | array (xs : List Json)
  | object (members : List (List Char × Json))

namespace Json

/-- A digit of lower-case hexadecimal. -/
def hexDigit (n : Nat) : Char :=
  if n < 10 then Char.ofNat ('0'.toNat + n) else Char.ofNat ('a'.toNat + (n - 10))

/-- A character as it stands between the quotes of a JSON text. -/
def escapeChar (c : Char) : List Char :=
  if c = '"' then ['\\', '"']
  else if c = '\\' then ['\\', '\\']
  else if c = '\n' then ['\\', 'n']
  else if c = '\r' then ['\\', 'r']
  else if c = '\t' then ['\\', 't']
  else if c = '\x08' then ['\\', 'b']
  else if c = '\x0c' then ['\\', 'f']
  else if c.toNat < 0x20 then ['\\', 'u', '0', '0', hexDigit (c.toNat / 16), hexDigit (c.toNat % 16)]
  else [c]

/-- A text between quotes. -/
def quoted (s : List Char) : List Char := '"' :: (s.flatMap escapeChar ++ ['"'])

mutual

def render : Json → List Char
  | .null => ['n', 'u', 'l', 'l']
  | .bool true => ['t', 'r', 'u', 'e']
  | .bool false => ['f', 'a', 'l', 's', 'e']
  | .number token => token
  | .str s => quoted s
  | .array [] => ['[', ']']
  | .array (x :: xs) => '[' :: (render x ++ renderElements xs)
  | .object [] => ['{', '}']
  | .object ((name, x) :: rest) => '{' :: (quoted name ++ ':' :: (render x ++ renderMembers rest))

/-- The elements after the first, and the closing bracket. -/
def renderElements : List Json → List Char
  | [] => [']']
  | x :: xs => ',' :: (render x ++ renderElements xs)

/-- The members after the first, and the closing brace. -/
def renderMembers : List (List Char × Json) → List Char
  | [] => ['}']
  | (name, x) :: rest => ',' :: (quoted name ++ ':' :: (render x ++ renderMembers rest))

end

end Json

end SearchRequest
