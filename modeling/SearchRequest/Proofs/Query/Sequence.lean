import SearchRequest.Proofs.Query.Batch
import SearchRequest.Proofs.Query.Walk

/-!
# Sequences of documents

How the bodies and the batch of a sequence of documents fail, and how their texts hang together. Both stop at the
first document that has no rendered body, with its error (`Batch.FailsWith`), because the header of a document
cannot fail. A batch of two sequences one after the other is the one batch and then the other
(`Batch.render_append`), and without its headers it is the text of the bodies (`Batch.bodies_of_render`).
-/

namespace SearchRequest

/-! ### One document -/

namespace Document

theorem render_eq_query_iff {doc : Document} {e : QueryError} :
    doc.render = .error (.query e) ↔ doc.body = .error e := by
  cases hbody : doc.body with
  | error other =>
    have hrender : doc.render = .error (.query other) := by
      rw [render, hbody]
      rfl
    rw [hrender, Except.error.injEq, RenderError.query.injEq, Except.error.injEq]
  | ok body =>
    have hrender : doc.render = RenderError.ofEncode body.toJsonText := by
      rw [render, hbody]
      rfl
    rw [hrender]
    cases body.toJsonText <;> simp [RenderError.ofEncode]

theorem exists_render_eq_query_iff (doc : Document) :
    (∃ e, doc.render = .error (.query e)) ↔ ∃ i ∈ doc.clauses.walk, ¬i.Good := by
  have hfault : (∃ e, doc.render = .error (.query e)) ↔ (Outcome.fault? doc.body).isSome = true := by
    simp only [render_eq_query_iff, Option.isSome_iff_exists, Outcome.fault?_eq_some_iff]
  rw [hfault, Document.fault?_body, List.findSome?_isSome_iff]
  simp only [← Item.fault?_eq_none_iff, Option.isSome_iff_ne_none]

end Document

namespace Batch

/-! ### Faults -/

/-- The rendered bodies of documents. -/
def bodies (docs : List Document) : Except RenderError (List String) := docs.mapM Document.render

theorem bodies_cons (doc : Document) (docs : List Document) :
    bodies (doc :: docs) = (do
      let text ← doc.render
      let texts ← bodies docs
      pure (text :: texts)) := List.mapM_cons

/-- The error is that of a document, and those before it have rendered bodies. -/
def FailsWith (docs : List Document) (e : RenderError) : Prop :=
  ∃ before doc after, docs = before ++ doc :: after ∧ (∀ d ∈ before, ∃ text, d.render = .ok text) ∧
    doc.render = .error e

/-- The error of the first document that has no rendered body. -/
def fault? (docs : List Document) : Option RenderError := docs.findSome? fun doc => Outcome.fault? doc.render

theorem fault?_cons (doc : Document) (docs : List Document) :
    fault? (doc :: docs) = (Outcome.fault? doc.render).or (fault? docs) := by
  rw [fault?, List.findSome?_cons]
  cases Outcome.fault? doc.render <;> rfl

theorem fault?_eq_some_iff {docs : List Document} {e : RenderError} :
    fault? docs = some e ↔ FailsWith docs e := by
  rw [fault?, List.findSome?_eq_some_iff]
  simp only [Outcome.fault?_eq_none_iff, Outcome.fault?_eq_some_iff]
  constructor
  · rintro ⟨before, doc, after, hdocs, hdoc, hbefore⟩
    exact ⟨before, doc, after, hdocs, hbefore, hdoc⟩
  · rintro ⟨before, doc, after, hdocs, hbefore, hdoc⟩
    exact ⟨before, doc, after, hdocs, hdoc, hbefore⟩

theorem fault?_bodies (docs : List Document) : Outcome.fault? (bodies docs) = fault? docs := by
  induction docs with
  | nil => rfl
  | cons doc docs ih =>
    rw [bodies_cons, fault?_cons, ← ih]
    refine Outcome.fault?_bind fun text => ?_
    rw [Outcome.fault?_bind fun _ => Outcome.fault?_pure _, Option.or_none]

theorem fault?_batchLines (doc : Document) : Outcome.fault? doc.batchLines = Outcome.fault? doc.render := by
  rw [Document.batchLines_eq, Outcome.fault?_bind fun _ => Outcome.fault?_pure _, Option.or_none]

theorem fault?_render (docs : List Document) : Outcome.fault? (render docs) = fault? docs := by
  rw [render, Outcome.fault?_bind fun _ => Outcome.fault?_pure _, Option.or_none]
  induction docs with
  | nil => rfl
  | cons doc docs ih =>
    rw [lines, fault?_cons, ← ih, ← fault?_batchLines]
    refine Outcome.fault?_bind fun first => ?_
    rw [Outcome.fault?_bind fun _ => Outcome.fault?_pure _, Option.or_none]

/-! ### Texts -/

theorem joinLines_append (xs ys : List String) : joinLines (xs ++ ys) = joinLines xs ++ joinLines ys := by
  rw [joinLines, List.map_append, String.join_append]
  rfl

theorem lines_append (xs ys : List Document) :
    lines (xs ++ ys) = (do
      let first ← lines xs
      let others ← lines ys
      pure (first ++ others)) := by
  induction xs with
  | nil => exact (bind_pure (lines ys)).symm
  | cons doc docs ih =>
    rw [List.cons_append, lines, lines, ih]
    simp only [bind_assoc, pure_bind, List.append_assoc]

theorem render_append (xs ys : List Document) :
    render (xs ++ ys) = (do
      let text ← render xs
      let others ← render ys
      pure (text ++ others)) := by
  simp only [render, lines_append, bind_assoc, pure_bind, joinLines_append]

/-- Every second element, from the second on. -/
def everySecond {α : Type} : List α → List α
  | _ :: b :: rest => b :: everySecond rest
  | _ => []

/-- The text without the first, the third and every other second line, which are the headers of a batch. -/
def withoutHeaders (text : String) : String :=
  joinLines ((everySecond (text.toList.splitOn '\n')).map String.ofList)

theorem everySecond_requests (requests : List (String × Json)) :
    (everySecond ((requests.flatMap requestLines).map String.toList ++ [[]])).map String.ofList
      = requests.map fun request => String.ofList request.2.render := by
  induction requests with
  | nil => rfl
  | cons request requests ih =>
    rw [List.map_cons, ← ih]
    simp only [requestLines, List.flatMap_cons, List.cons_append, List.nil_append, List.map_cons, everySecond,
      String.ofList_toList]

theorem bodies_of_sends {docs : List Document} {requests : List (String × Json)}
    (h : List.Forall₂ Document.Sends docs requests) :
    bodies docs = .ok (requests.map fun request => String.ofList request.2.render) := by
  induction h with
  | nil => rfl
  | cons hsends _ ih =>
    rw [bodies_cons, ih, hsends.render_eq]
    rfl

theorem bodies_of_render {docs : List Document} {text : String} (h : render docs = .ok text) :
    ∃ texts, bodies docs = .ok texts ∧ joinLines texts = withoutHeaders text := by
  obtain ⟨requests, hall, rfl⟩ := render_eq_ok_iff.1 h
  refine ⟨_, bodies_of_sends hall, ?_⟩
  rw [withoutHeaders, splitOn_requests (proper_of_sends hall), everySecond_requests]

end Batch

end SearchRequest
