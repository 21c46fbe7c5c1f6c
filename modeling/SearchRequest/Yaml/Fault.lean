import SearchRequest.Calendar
import SearchRequest.Number.Literal

/-!
# Faults of a YAML text

Why a text is no YAML document with a value. Most faults make the text malformed; the others lie in a scalar
that its tag cannot read.
-/

namespace SearchRequest.Yaml

/-- What makes a text malformed. -/
inductive Malformed where
  /-- A character that no document may hold. -/
  | character
  /-- A character that starts no token where it stands. -/
  | token
  | directive
  | anchor
  | tag
  | escape
  | blockHeader
  | unclosedQuote
  | separatorInQuote
  /-- A simple key without its colon. -/
  | simpleKey
  | indentation
  /-- A token where the grammar has none of its kind. -/
  | grammar
  | version
  | tagHandle
  | undefinedAlias
  | duplicateAnchor
  /-- A mapping that is its own default value. -/
  | endless
  | severalDocuments
  /-- A tag that stands for no value. -/
  | undefinedTag
  /-- A node whose kind does not fit its tag. -/
  | nodeKind
  /-- A key that can change. -/
  | key
  | merge
  | binary
  deriving DecidableEq, Repr

namespace Malformed

def reason : Malformed → String
  | .character => "special characters are not allowed"
  | .token => "found a character that cannot start any token"
  | .directive => "malformed directive"
  | .anchor => "malformed anchor or alias"
  | .tag => "malformed tag"
  | .escape => "unknown escape sequence"
  | .blockHeader => "malformed block scalar header"
  | .unclosedQuote => "unexpected end of text in a quoted scalar"
  | .separatorInQuote => "unexpected document separator in a quoted scalar"
  | .simpleKey => "could not find the colon of a key"
  | .indentation => "block entries are not allowed here"
  | .grammar => "unexpected token"
  | .version => "incompatible version"
  | .tagHandle => "undefined or duplicate tag handle"
  | .undefinedAlias => "undefined alias"
  | .duplicateAnchor => "duplicate anchor"
  | .endless => "a mapping is its own default value"
  | .severalDocuments => "expected a single document"
  | .undefinedTag => "no value for the tag"
  | .nodeKind => "the node does not fit its tag"
  | .key => "a key must not be a collection"
  | .merge => "expected a mapping to merge"
  | .binary => "malformed binary data"

end Malformed

inductive Fault where
  | malformed (why : Malformed)
  /-- An escape for a number beyond the last character. -/
  | codePoint
  /-- An escape for a number that does not even fit a signed word of 32 bits. -/
  | wordRange
  | literal (e : LiteralError)
  | calendar (e : CalendarError)
  /-- A number without a digit or sign. -/
  | emptyNumber
  /-- A part of a decimal in base sixty whose weight is beyond all decimals. -/
  | weight
  /-- A text that is no truth value. -/
  | truth (text : String)
  /-- A text that is no date or moment. -/
  | timestamp
  /-- A mapping in place of a date or moment, which not even its default value is read for. -/
  | timestampMapping
  deriving DecidableEq, Repr

namespace Fault

def message : Fault → String
  | .malformed why => "malformed YAML: " ++ why.reason
  | .codePoint => "chr() arg not in range(0x110000)"
  | .wordRange => "Python int too large to convert to C int"
  | .literal e => e.message
  | .calendar e => e.message
  | .emptyNumber => "string index out of range"
  | .weight => "int too large to convert to float"
  | .truth text => Text.quote text
  | .timestamp => "'NoneType' object has no attribute 'groupdict'"
  | .timestampMapping => "expected string or bytes-like object, got 'list'"

end Fault

end SearchRequest.Yaml
