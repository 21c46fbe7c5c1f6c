import SearchRequest.Text.Printable
import SearchRequest.Text.Surrogate

/-!
# Quoted text

How a message quotes a text: between single quotes, or between double quotes when the text holds a single
quote and no double one. The chosen quote, the backslash and everything without a shape of its own are
escaped, so a quoted text is always one line of visible characters.
-/

namespace SearchRequest.Text

def singleQuote : Char := '\x27'

def doubleQuote : Char := '\x22'

/-- The quote that a text is written between. -/
def quoteFor (cs : List Char) : Char :=
  if cs.contains singleQuote && !cs.contains doubleQuote then doubleQuote else singleQuote

/-- A character as it stands inside the given quotes. -/
def quoteChar (quote c : Char) : List Char :=
  if c = quote ∨ c = '\\' then ['\\', c]
  else if c = '\n' then ['\\', 'n']
  else if c = '\r' then ['\\', 'r']
  else if c = '\t' then ['\\', 't']
  else if isPrintable c then [c]
  else if c.toNat < 0x100 then '\\' :: 'x' :: hexChars 2 c.toNat
  else if c.toNat < 0x10000 then '\\' :: 'u' :: hexChars 4 c.toNat
  else '\\' :: 'U' :: hexChars 8 c.toNat

/-- A code point as it stands inside the given quotes. -/
def quotePoint (quote : Char) : CodePoint → List Char
  | .character c => quoteChar quote c
  | .surrogate n => CodePoint.escape n

/-- The text between quotes. -/
def quote (s : String) : String :=
  let cs := s.toList
  let q := quoteFor cs
  String.ofList (q :: (codePoints cs).flatMap (quotePoint q) ++ [q])

/-- A list of texts in brackets, each of them quoted. -/
def quoteAll (names : List String) : String :=
  "[" ++ String.intercalate ", " (names.map quote) ++ "]"

end SearchRequest.Text
