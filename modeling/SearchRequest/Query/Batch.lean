import SearchRequest.Json.Encode
import SearchRequest.Query.Body

/-!
# Rendered documents and batches

The two texts that documents are sent as: the body of each on its own line, and the multi-search batch, where
a line that names the index precedes each body. A batch is rendered document by document and stops at the
first fault.
-/

namespace SearchRequest

/-- Why a document has no text. -/
inductive RenderError where
  | query (e : QueryError)
  | encode (e : EncodeError)

namespace RenderError

def message : RenderError → String
  | .query e => e.message
  | .encode e => e.message

/-- An encoding outcome as an outcome of rendering. -/
def ofEncode {α : Type} : Except EncodeError α → Except RenderError α
  | .ok a => .ok a
  | .error e => .error (.encode e)

def ofQuery {α : Type} : Except QueryError α → Except RenderError α
  | .ok a => .ok a
  | .error e => .error (.query e)

end RenderError

namespace Document

/-- The body of a document as JSON text. -/
def render (doc : Document) : Except RenderError String := do
  let body ← RenderError.ofQuery doc.body
  RenderError.ofEncode body.toJsonText

/-- The line that names the index of a document. -/
def header (doc : Document) : Except EncodeError String :=
  (Value.single "index" (.str doc.index)).toJsonText

/-- The two lines of a document in a batch. -/
def batchLines (doc : Document) : Except RenderError (List String) := do
  let body ← RenderError.ofQuery doc.body
  let header ← RenderError.ofEncode doc.header
  let text ← RenderError.ofEncode body.toJsonText
  pure [header, text]

end Document

namespace Batch

/-- Lines as text, each with its line end. -/
def joinLines (lines : List String) : String := String.join (lines.map (· ++ "\n"))

/-- The lines of a batch. -/
def lines : List Document → Except RenderError (List String)
  | [] => .ok []
  | doc :: docs => do
    let first ← doc.batchLines
    let others ← lines docs
    pure (first ++ others)

/-- The multi-search text of documents. -/
def render (docs : List Document) : Except RenderError String := do
  let all ← lines docs
  pure (joinLines all)

end Batch

end SearchRequest
