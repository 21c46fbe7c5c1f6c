import SearchRequest.Command.Run
import SearchRequest.Proofs.Logger
import SearchRequest.Proofs.Query.Sequence

/-!
# The work of a command

What a command hands to its writer, and how it fails. The two kinds of work go over the documents in loops of
their own, with messages in between, but the text and the fault of each are those of the texts alone
(`Command.renderAll_eq`).
-/

namespace SearchRequest.Command

/-! ### Texts -/

/-- The text of the work on documents. -/
def Work.text : Work → List Document → Except RenderError String
  | .bodies, docs => Batch.joinLines <$> Batch.bodies docs
  | .batch, docs => Batch.render docs

theorem renderBodies_eq (count i : Nat) (docs : List Document) (s : Session) :
    ∃ entries, renderBodies count i docs s = (Batch.bodies docs, s.logged entries) := by
  induction docs generalizing i s with
  | nil => exact ⟨[], rfl⟩
  | cons doc docs ih =>
    let announcement := "Rendering body " ++ toString i ++ "/" ++ toString count ++ " index=" ++ doc.index
    rw [renderBodies, Batch.bodies_cons]
    cases doc.render with
    | error e =>
      refine ⟨[(LogLevel.debug, announcement)], ?_⟩
      rw [← Session.debug_eq_logged]
      rfl
    | ok text =>
      obtain ⟨entries, h⟩ := ih (i + 1) (s.debug announcement)
      refine ⟨(LogLevel.debug, announcement) :: entries, ?_⟩
      rw [Session.logged_cons, ← Session.debug]
      simp only [announcement] at h
      simp only [h]
      cases Batch.bodies docs <;> rfl

theorem renderAll_eq (docs : List Document) (s : Session) (work : Work) :
    ∃ entries report, renderAll docs s work = ((work.text docs).map (·, report), s.logged entries) := by
  cases work with
  | bodies =>
    obtain ⟨entries, h⟩ := renderBodies_eq docs.length 1 docs s
    rw [renderAll, h, Work.text]
    cases Batch.bodies docs with
    | error e => exact ⟨entries, "", rfl⟩
    | ok texts => exact ⟨entries, _, rfl⟩
  | batch =>
    rw [renderAll, Work.text]
    cases Batch.render docs with
    | error e => exact ⟨[], "", rfl⟩
    | ok text =>
      refine ⟨[(LogLevel.debug, "Assembled multi-search batch: " ++ toString docs.length ++ " documents")],
        "Rendered multi-search batch with " ++ toString docs.length ++ " documents", ?_⟩
      rw [← Session.debug_eq_logged]
      rfl

theorem fault?_text (work : Work) (docs : List Document) :
    Outcome.fault? (work.text docs) = Batch.fault? docs := by
  cases work with
  | bodies =>
    rw [← Batch.fault?_bodies, Work.text]
    cases Batch.bodies docs <;> rfl
  | batch => exact Batch.fault?_render docs

/-! ### Writers -/

theorem execute_eq {ε ω : Type} (rendering : RenderError → ε)
    (write : ω → String → Session → Except ε Unit × ω × Session) (docs : List Document) (writer : ω) (work : Work)
    (s : Session) :
    ∃ entries report, execute rendering write docs writer work s =
      match work.text docs with
      | .error e => (.error (rendering e), writer, s.logged entries)
      | .ok text =>
        match write writer text (s.logged entries) with
        | (.error e, writer, s) => (.error e, writer, s)
        | (.ok (), writer, s) => (.ok (), writer, s.info report) := by
  obtain ⟨entries, report, h⟩ := renderAll_eq docs s work
  refine ⟨entries, report, ?_⟩
  rw [execute, h]
  cases work.text docs <;> rfl

/-- What becomes of work on documents whose writer notes the texts that it is handed: the outcome, and the
texts. -/
def Work.noted (work : Work) (docs : List Document) (s : Session) : Except RenderError Unit × List String :=
  let (outcome, texts, _) := execute id (fun texts text s => (.ok (), texts ++ [text], s)) docs [] work s
  (outcome, texts)

theorem noted_eq (work : Work) (docs : List Document) (s : Session) :
    work.noted docs s =
      match work.text docs with
      | .error e => (.error e, [])
      | .ok text => (.ok (), [text]) := by
  obtain ⟨entries, report, h⟩ := execute_eq id (fun texts text s => (.ok (), texts ++ [text], s)) docs [] work s
  rw [Work.noted, h]
  cases work.text docs <;> rfl

/-- **The two kinds of work agree.** Each fails exactly with the error of the first document that has no rendered
body, and then its writer has been handed nothing; otherwise it has been handed one text, for the bodies that of
the batch without its headers. In a document, a faulty item anywhere decides the kind of the error. A batch of
two sequences fails as the first of them, or else as the second, and is the batches of both. -/
theorem works_agree :
    (∀ (work : Work) (docs : List Document) (s : Session) (e : RenderError),
      (work.noted docs s).1 = .error e ↔ Batch.FailsWith docs e) ∧
    (∀ (docs : List Document) (s : Session),
      (∃ e, Work.batch.noted docs s = (.error e, []) ∧ Work.bodies.noted docs s = (.error e, [])) ∨
      ∃ text, Batch.render docs = .ok text ∧ Work.batch.noted docs s = (.ok (), [text]) ∧
        Work.bodies.noted docs s = (.ok (), [Batch.withoutHeaders text])) ∧
    (∀ doc : Document, (∃ e, doc.render = .error (.query e)) ↔ ∃ i ∈ doc.clauses.walk, ¬i.Good) ∧
    ∀ xs ys : List Document, Batch.render (xs ++ ys) = (do
      let text ← Batch.render xs
      let others ← Batch.render ys
      pure (text ++ others)) := by
  refine ⟨fun work docs s e => ?_, fun docs s => ?_, Document.exists_render_eq_query_iff, Batch.render_append⟩
  · rw [← Batch.fault?_eq_some_iff, ← fault?_text work, noted_eq]
    cases work.text docs <;> simp
  · cases hbatch : Batch.render docs with
    | error e =>
      have hbodies := fault?_text .bodies docs
      rw [← Batch.fault?_render, hbatch, Outcome.fault?_error, Outcome.fault?_eq_some_iff] at hbodies
      refine .inl ⟨e, ?_, ?_⟩
      · rw [noted_eq, Work.text, hbatch]
      · rw [noted_eq, hbodies]
    | ok text =>
      obtain ⟨texts, hbodies, htext⟩ := Batch.bodies_of_render hbatch
      refine .inr ⟨text, rfl, ?_, ?_⟩
      · rw [noted_eq, Work.text, hbatch]
      · rw [noted_eq, Work.text, hbodies, ← htext]
        rfl

end SearchRequest.Command
