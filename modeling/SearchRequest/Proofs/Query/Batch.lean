import Mathlib.Data.List.Forall2
import SearchRequest.Proofs.Json.Encode
import SearchRequest.Query.Batch

/-!
# The lines of a batch

A batch is sent as lines. As no control character stands in a line, whatever the texts in it are, the line ends
of a batch are the ones after its lines: splitting at them gives back the lines, two for each document, and
reading the lines gives back the indexes and the bodies.

* `Batch.lines_congr`: the lines depend on the documents by their indexes and rendered bodies only.
* `Batch.read?_joinLines`: the reader of batches gives back what the lines were written from.
-/

namespace SearchRequest

namespace RenderError

@[simp] theorem ofQuery_eq_ok_iff {α : Type} {x : Except QueryError α} {a : α} :
    ofQuery x = .ok a ↔ x = .ok a := by
  cases x <;> simp [ofQuery]

@[simp] theorem ofEncode_eq_ok_iff {α : Type} {x : Except EncodeError α} {a : α} :
    ofEncode x = .ok a ↔ x = .ok a := by
  cases x <;> simp [ofEncode]

end RenderError

/-! ### The lines of one document -/

/-- A document as what is sent of it: its index and the tree of its body. -/
def Document.Sends (doc : Document) (request : String × Json) : Prop :=
  doc.index = request.1 ∧ ∃ body, doc.body = .ok body ∧ body.HasTree request.2

namespace Batch

def headerTree (index : String) : Json := .object [("index".toList, .str index.toList)]

/-- The two lines of a request, the first of which names the index. -/
def requestLines (request : String × Json) : List String :=
  [String.ofList (headerTree request.1).render, String.ofList request.2.render]

theorem hasTree_headerTree (index : String) :
    (Value.single "index" (.str index)).HasTree (headerTree index) := .dict (.cons (.str _) (.str _) .nil)

end Batch

namespace Document

theorem header_eq (doc : Document) : doc.header = .ok (String.ofList (Batch.headerTree doc.index).render) :=
  Value.toJsonText_eq_ok_iff.2 ⟨_, Batch.hasTree_headerTree doc.index, rfl⟩

theorem render_eq_ok_iff {doc : Document} {text : String} :
    doc.render = .ok text ↔ ∃ tree, doc.Sends (doc.index, tree) ∧ String.ofList tree.render = text := by
  simp only [render, Sends, Outcome.bind_eq_ok, RenderError.ofQuery_eq_ok_iff, RenderError.ofEncode_eq_ok_iff,
    Value.toJsonText_eq_ok_iff, true_and]
  constructor
  · rintro ⟨body, hbody, tree, htree, htext⟩
    exact ⟨tree, ⟨body, hbody, htree⟩, htext⟩
  · rintro ⟨tree, ⟨body, hbody, htree⟩, htext⟩
    exact ⟨body, hbody, tree, htree, htext⟩

theorem batchLines_eq (doc : Document) :
    doc.batchLines = (do
      let text ← doc.render
      pure [String.ofList (Batch.headerTree doc.index).render, text]) := by
  rw [batchLines, render, header_eq]
  cases doc.body with
  | error e => rfl
  | ok body => cases body.toJsonText <;> rfl

theorem batchLines_eq_ok_iff {doc : Document} {lines : List String} :
    doc.batchLines = .ok lines ↔ ∃ request, doc.Sends request ∧ Batch.requestLines request = lines := by
  simp only [batchLines_eq, Outcome.bind_eq_ok, Outcome.pure_eq_ok, render_eq_ok_iff]
  constructor
  · rintro ⟨_, ⟨tree, hsends, rfl⟩, rfl⟩
    exact ⟨_, hsends, rfl⟩
  · rintro ⟨⟨_, tree⟩, ⟨rfl, hbody⟩, rfl⟩
    exact ⟨_, ⟨tree, ⟨rfl, hbody⟩, rfl⟩, rfl⟩

theorem Sends.proper {doc : Document} {request : String × Json} (h : doc.Sends request) :
    request.2.Proper := by
  obtain ⟨-, body, -, htree⟩ := h
  exact htree.proper

theorem Sends.render_eq {doc : Document} {request : String × Json} (h : doc.Sends request) :
    doc.render = .ok (String.ofList request.2.render) := by
  obtain ⟨hindex, hbody⟩ := h
  exact render_eq_ok_iff.2 ⟨request.2, ⟨rfl, hbody⟩, rfl⟩

end Document

namespace Batch

/-! ### All lines -/

theorem lines_eq_ok_iff {docs : List Document} {all : List String} :
    lines docs = .ok all ↔
      ∃ requests, List.Forall₂ Document.Sends docs requests ∧ requests.flatMap requestLines = all := by
  induction docs generalizing all with
  | nil =>
    constructor
    · rintro ⟨⟩
      exact ⟨[], .nil, rfl⟩
    · rintro ⟨_, ⟨⟩, rfl⟩
      rfl
  | cons doc docs ih =>
    simp only [lines, Outcome.bind_eq_ok, Outcome.pure_eq_ok, Document.batchLines_eq_ok_iff, ih]
    constructor
    · rintro ⟨_, ⟨request, hsends, rfl⟩, _, ⟨requests, hall, rfl⟩, rfl⟩
      exact ⟨request :: requests, .cons hsends hall, rfl⟩
    · rintro ⟨requests, hall, rfl⟩
      cases hall with
      | cons hsends hall => exact ⟨_, ⟨_, hsends, rfl⟩, _, ⟨_, hall, rfl⟩, rfl⟩

theorem render_eq_ok_iff {docs : List Document} {text : String} :
    render docs = .ok text ↔
      ∃ requests, List.Forall₂ Document.Sends docs requests ∧
        joinLines (requests.flatMap requestLines) = text := by
  simp only [render, Outcome.bind_eq_ok, Outcome.pure_eq_ok, lines_eq_ok_iff]
  constructor
  · rintro ⟨_, ⟨requests, hall, rfl⟩, rfl⟩
    exact ⟨requests, hall, rfl⟩
  · rintro ⟨requests, hall, rfl⟩
    exact ⟨_, ⟨requests, hall, rfl⟩, rfl⟩

/-- What a batch depends on: the index and the rendered body of each document. -/
def sent (docs : List Document) : List (String × Except RenderError String) :=
  docs.map fun doc => (doc.index, doc.render)

theorem lines_congr {docs others : List Document} (h : sent docs = sent others) :
    lines docs = lines others := by
  induction docs generalizing others with
  | nil => rw [List.map_eq_nil_iff.1 h.symm]
  | cons doc docs ih =>
    obtain ⟨other, others, rfl, hfirst, hrest⟩ := List.map_eq_cons_iff.1 h.symm
    obtain ⟨hindex, hrender⟩ := Prod.mk.inj hfirst
    rw [lines, lines, Document.batchLines_eq, Document.batchLines_eq, hindex, hrender, ih hrest.symm]

theorem sent_eq_of_sends {docs : List Document} {requests : List (String × Json)}
    (h : List.Forall₂ Document.Sends docs requests) :
    sent docs = requests.map fun request => (request.1, .ok (String.ofList request.2.render)) := by
  induction h with
  | nil => rfl
  | cons hsends _ ih =>
    rw [List.map_cons, ← ih, ← hsends.render_eq, ← hsends.1]
    rfl

/-! ### Reading the lines -/

/-- The index that a line names. -/
def index? (line : List Char) : Option String :=
  match Json.parse? line with
  | some (.object [(name, .str index)]) => if name = "index".toList then some (String.ofList index) else none
  | _ => none

/-- The requests of lines taken two by two. After the last line end there is nothing. -/
def requests? : List (List Char) → Option (List (String × Json))
  | [[]] => some []
  | header :: body :: lines => do
    let index ← index? header
    let tree ← Json.parse? body
    let others ← requests? lines
    some ((index, tree) :: others)
  | _ => none

/-- The requests that a batch is read as. -/
def read? (text : List Char) : Option (List (String × Json)) := requests? (text.splitOn '\n')

theorem proper_headerTree (index : String) : (headerTree index).Proper := (hasTree_headerTree index).proper

theorem index?_headerTree (index : String) : index? (headerTree index).render = some index := by
  rw [index?, Json.parse?_render (proper_headerTree index)]
  simp only [headerTree, if_true, String.ofList_toList]

theorem noControl_requestLines {request : String × Json} (h : request.2.Proper) :
    ∀ line ∈ requestLines request, Json.NoControl line.toList := by
  intro line hline
  simp only [requestLines, List.mem_cons, List.not_mem_nil, or_false] at hline
  rcases hline with rfl | rfl
  · rw [String.toList_ofList]
    exact Json.noControl_render (proper_headerTree request.1)
  · rw [String.toList_ofList]
    exact Json.noControl_render h

theorem splitOn_joinLines {lines : List String} (h : ∀ line ∈ lines, Json.NoControl line.toList) :
    (joinLines lines).toList.splitOn '\n' = lines.map String.toList ++ [[]] := by
  rw [joinLines, String.toList_join]
  induction lines with
  | nil => rfl
  | cons line lines ih =>
    have hline : '\n' ∉ line.toList := fun hmem => absurd (h line List.mem_cons_self _ hmem) (by decide)
    rw [List.map_cons, List.flatMap_cons, String.toList_append, List.append_assoc]
    exact (List.splitOn_append_cons_self_of_not_mem hline _).trans
      (congrArg _ (ih fun other hother => h other (List.mem_cons_of_mem line hother)))

theorem requests?_lines {requests : List (String × Json)} (h : ∀ request ∈ requests, request.2.Proper) :
    requests? ((requests.flatMap requestLines).map String.toList ++ [[]]) = some requests := by
  induction requests with
  | nil => rfl
  | cons request requests ih =>
    have hothers := ih fun other hother => h other (List.mem_cons_of_mem request hother)
    have hbody := Json.parse?_render (h request List.mem_cons_self)
    rw [List.flatMap_cons, List.map_append, List.append_assoc]
    simp only [requestLines, List.map_cons, List.map_nil, List.cons_append, List.nil_append,
      String.toList_ofList] at hothers ⊢
    rw [requests?, index?_headerTree, hbody, hothers]
    rfl

theorem splitOn_requests {requests : List (String × Json)} (h : ∀ request ∈ requests, request.2.Proper) :
    (joinLines (requests.flatMap requestLines)).toList.splitOn '\n'
      = (requests.flatMap requestLines).map String.toList ++ [[]] := by
  refine splitOn_joinLines fun line hline => ?_
  obtain ⟨request, hrequest, hmem⟩ := List.mem_flatMap.1 hline
  exact noControl_requestLines (h request hrequest) line hmem

theorem read?_joinLines {requests : List (String × Json)} (h : ∀ request ∈ requests, request.2.Proper) :
    read? (joinLines (requests.flatMap requestLines)).toList = some requests := by
  rw [read?, splitOn_requests h, requests?_lines h]

theorem length_requestLines (requests : List (String × Json)) :
    (requests.flatMap requestLines).length = 2 * requests.length := by
  induction requests with
  | nil => rfl
  | cons request requests ih =>
    rw [List.flatMap_cons, List.length_append, ih, List.length_cons]
    simp only [requestLines, List.length_cons, List.length_nil]
    omega

theorem getElem?_requestLines {requests : List (String × Json)} {i : Nat} {request : String × Json}
    (h : requests[i]? = some request) :
    (requests.flatMap requestLines)[2 * i]? = some (String.ofList (headerTree request.1).render) ∧
      (requests.flatMap requestLines)[2 * i + 1]? = some (String.ofList request.2.render) := by
  induction requests generalizing i with
  | nil => cases h
  | cons first requests ih =>
    cases i with
    | zero =>
      cases h
      exact ⟨rfl, rfl⟩
    | succ i => exact ih h

theorem proper_of_sends {docs : List Document} {requests : List (String × Json)}
    (h : List.Forall₂ Document.Sends docs requests) : ∀ request ∈ requests, request.2.Proper := by
  induction h with
  | nil => exact fun _ h => absurd h List.not_mem_nil
  | cons hsends _ ih => exact List.forall_mem_cons.2 ⟨hsends.proper, ih⟩

theorem read?_of_render {docs : List Document} {text : String} (h : render docs = .ok text) :
    ∃ requests, read? text.toList = some requests ∧ List.Forall₂ Document.Sends docs requests := by
  obtain ⟨requests, hall, rfl⟩ := render_eq_ok_iff.1 h
  exact ⟨requests, read?_joinLines (proper_of_sends hall), hall⟩

theorem sent_eq_of_render {docs others : List Document} {text : String} (h : render docs = .ok text)
    (hothers : render others = .ok text) : sent others = sent docs := by
  obtain ⟨requests, hread, hall⟩ := read?_of_render h
  obtain ⟨requests', hread', hall'⟩ := read?_of_render hothers
  rw [hread, Option.some.injEq] at hread'
  rw [sent_eq_of_sends hall, sent_eq_of_sends hall', hread']

end Batch

/-- **A batch is its lines, whatever stands in them.** Splitting at the line ends gives two parts for each
document, in order, the header and the body, and an empty one after the last line end. No part has a control
character. Reading the parts gives the index and the body of each document, and the batches with that text are
those of documents with these indexes and rendered bodies, in this order. -/
theorem batch_reads_back {docs : List Document} {text : String} (h : Batch.render docs = .ok text) :
    let parts := text.toList.splitOn '\n'
    parts.length = 2 * docs.length + 1 ∧ parts[2 * docs.length]? = some [] ∧
      (∀ i (hi : i < docs.length), ∃ header body,
        parts[2 * i]? = some header ∧ parts[2 * i + 1]? = some body ∧
        docs[i].header = .ok (String.ofList header) ∧ docs[i].render = .ok (String.ofList body)) ∧
      (∀ part ∈ parts, Json.NoControl part) ∧
      (∃ requests, Batch.read? text.toList = some requests ∧ List.Forall₂ Document.Sends docs requests) ∧
      ∀ others, Batch.render others = .ok text ↔ Batch.sent others = Batch.sent docs := by
  obtain ⟨requests, hall, heq⟩ := Batch.render_eq_ok_iff.1 h
  have hproper := Batch.proper_of_sends hall
  have hcount : docs.length = requests.length := hall.length_eq
  have hlength : ((requests.flatMap Batch.requestLines).map String.toList).length = 2 * docs.length := by
    rw [List.length_map, Batch.length_requestLines, hcount]
  intro parts
  -- every part of the statement is read off this list, in which line ends are no longer characters
  have hparts : parts = (requests.flatMap Batch.requestLines).map String.toList ++ [[]] := by
    rw [← Batch.splitOn_requests hproper, heq]
  refine ⟨?_, ?_, fun i hi => ?_, ?_, Batch.read?_of_render h,
    fun others => ⟨fun hothers => Batch.sent_eq_of_render h hothers, fun hsent => ?_⟩⟩
  · rw [hparts, List.length_append, hlength, List.length_singleton]
  · rw [hparts, ← hlength, List.getElem?_concat_length]
  · have hi' : i < requests.length := hcount ▸ hi
    obtain ⟨hheader, hbody⟩ := Batch.getElem?_requestLines (List.getElem?_eq_getElem hi')
    have hsends : docs[i].Sends requests[i] := hall.get hi hi'
    refine ⟨(Batch.headerTree requests[i].1).render, requests[i].2.render, ?_, ?_, ?_, hsends.render_eq⟩
    · rw [hparts, List.getElem?_append_left (by omega), List.getElem?_map, hheader, Option.map_some,
        String.toList_ofList]
    · rw [hparts, List.getElem?_append_left (by omega), List.getElem?_map, hbody, Option.map_some,
        String.toList_ofList]
    · rw [Document.header_eq, hsends.1]
  · rw [hparts]
    refine List.forall_mem_append.2 ⟨fun part hpart => ?_, List.forall_mem_singleton.2 Json.noControl_nil⟩
    obtain ⟨line, hline, rfl⟩ := List.mem_map.1 hpart
    obtain ⟨request, hrequest, hmem⟩ := List.mem_flatMap.1 hline
    exact Batch.noControl_requestLines (hproper request hrequest) line hmem
  · rw [Batch.render, Batch.lines_congr hsent]
    exact h

/-- Two documents, with line ends in an index, a field and a value. -/
theorem batch_reads_back_of_line_ends :
    let first : Document :=
      ⟨"a\n\"", .single .must [.mk "f\n" (.str "\x1b\n") (.operator .matches)], [], .int 1, .null, []⟩
    let second : Document := ⟨"b", .empty, [], .null, .null, [.str "\t"]⟩
    ∃ text, Batch.render [first, second] = .ok text ∧ (text.toList.splitOn '\n').length = 5 ∧
      ∃ requests, Batch.read? text.toList = some requests ∧
        List.Forall₂ Document.Sends [first, second] requests := by
  intro first second
  obtain ⟨text, h⟩ : ∃ text, Batch.render [first, second] = .ok text := ⟨_, rfl⟩
  obtain ⟨hlength, -, -, -, hread, -⟩ := batch_reads_back h
  exact ⟨text, h, hlength, hread⟩

end SearchRequest
