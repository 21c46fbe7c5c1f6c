import Mathlib.Data.List.Forall2
import SearchRequest.Proofs.Config.Item

/-!
# Reading documents

When a document is read from a value, and as what: `Config.document_eq_ok_iff` gives everything that a reading
that succeeds says about the mapping, entry by entry (`Config.ReadsDocument`). Only the clauses are left as
readings, because they lead further down.
-/

namespace SearchRequest.Config

/-! ### Sort order, page and cursor -/

/-- A sort directive and the value that it is read from. -/
inductive ReadsSortField : Value → SortField → Prop where
  | name (field : String) : ReadsSortField (.str field) ⟨field, "asc"⟩
  | directed {field direction : String} (h : Text.lower direction ∈ orders) :
      ReadsSortField (.dict [(.str field, .str direction)]) ⟨field, Text.lower direction⟩

theorem sortField_singleton (key : KeyPath) (field direction : Value) :
    sortField key (.dict [(field, direction)]) = (do
      let order ← expectText (key.member field.display) direction
      ensure (orders.contains (Text.lower order)) (.notAmong (key.member field.display) orders)
      let name ← expectText key field
      pure ⟨name, Text.lower order⟩) := rfl

theorem sortField_eq_ok_iff {key : KeyPath} {v : Value} {s : SortField} :
    sortField key v = .ok s ↔ ReadsSortField v s := by
  constructor
  · intro h
    cases v with
    | str field =>
      cases h
      exact .name field
    | dict entries =>
      match entries with
      | [(field, direction)] =>
        simp only [sortField_singleton, Outcome.bind_eq_ok, expectText_eq_ok, ensure_eq_ok,
          List.contains_iff_mem, Outcome.pure_eq_ok] at h
        obtain ⟨direction, rfl, -, horder, field, rfl, rfl⟩ := h
        exact .directed horder
      | [] => cases h
      | _ :: _ :: _ => cases h
    | _ => cases h
  · rintro (field | h)
    · rfl
    · simp only [sortField_singleton, Outcome.bind_eq_ok, expectText_eq_ok, ensure_eq_ok,
        List.contains_iff_mem, Outcome.pure_eq_ok]
      exact ⟨_, rfl, (), h, _, rfl, rfl⟩

theorem sortFieldsFrom_eq_ok_iff {key : KeyPath} {xs : List Value} {n : Nat} {sort : List SortField} :
    sortFieldsFrom key xs n = .ok sort ↔ List.Forall₂ ReadsSortField xs sort := by
  induction xs generalizing n sort with
  | nil =>
    rw [sortFieldsFrom, List.forall₂_nil_left_iff, Except.ok.injEq]
    exact eq_comm
  | cons x xs ih =>
    rw [sortFieldsFrom]
    simp only [Outcome.bind_eq_ok, Outcome.pure_eq_ok, sortField_eq_ok_iff, ih, List.forall₂_cons_left_iff]
    constructor
    · rintro ⟨s, hs, rest, hrest, rfl⟩
      exact ⟨s, rest, hs, hrest, rfl⟩
    · rintro ⟨s, rest, hs, hrest, rfl⟩
      exact ⟨s, hs, rest, hrest, rfl⟩

theorem sortFields_eq_ok_iff {key : KeyPath} {v : Value} {sort : List SortField} :
    sortFields key v = .ok sort ↔
      (v = .null ∧ sort = []) ∨ ∃ xs, v = .list xs ∧ List.Forall₂ ReadsSortField xs sort := by
  cases v with
  | null => simp [sortFields, eq_comm]
  | list xs => simp [sortFields, expectList, sortFieldsFrom_eq_ok_iff]
  | _ => simp [sortFields, expectList]

theorem optionalWhole_eq_ok_iff {key : KeyPath} {v w : Value} :
    optionalWhole key v = .ok w ↔ v = w ∧ (w = .null ∨ ∃ n, w = .int n) := by
  constructor
  · intro h
    cases v with
    | null =>
      cases h
      exact ⟨rfl, .inl rfl⟩
    | int n =>
      cases h
      exact ⟨rfl, .inr ⟨n, rfl⟩⟩
    | _ => cases h
  · rintro ⟨rfl, rfl | ⟨n, rfl⟩⟩
    · rfl
    · rfl

theorem cursor_list (key : KeyPath) (xs : List Value) :
    cursor key (.list xs) = (do
      ensure (!Value.areEndless xs) .endless
      pure (Value.isoDatesList xs)) := rfl

theorem cursor_eq_ok_iff {key : KeyPath} {v : Value} {after : List Value} :
    cursor key v = .ok after ↔
      (v = .null ∧ after = []) ∨
        ∃ xs, v = .list xs ∧ Value.areEndless xs = false ∧ Value.isoDatesList xs = after := by
  cases v with
  | null =>
    rw [cursor, Except.ok.injEq, eq_comm]
    simp
  | list xs => simp [cursor_list, -bind_pure_comp]
  | _ => simp [cursor, expectList]

/-! ### Documents -/

theorem isWord_documentKeys : ∀ name ∈ documentKeys, Text.IsWord name := by
  decide

/-- The entries of a mapping and the document that is read from them. -/
structure ReadsDocument (key : KeyPath) (entries : Entries) (doc : Document) : Prop where
  keys : entries.KeysAmong documentKeys
  index : ∃ s, entries.find? "index" = some (.str s) ∧ Text.strip s = doc.index
  named : doc.index ≠ ""
  searchAfter : cursor (key.member "search_after") (valueOrNull entries "search_after") = .ok doc.searchAfter
  sort : sortFields (key.member "sort") (valueOrNull entries "sort") = .ok doc.sort
  size : optionalWhole (key.member "size") (valueOrNull entries "size") = .ok doc.size
  start : optionalWhole (key.member "from") (valueOrNull entries "from") = .ok doc.start
  clauses (clause : Clause) :
    readItems? (key.member clause.name) (entries.find? clause.name) = .ok (doc.clauses.get clause)

/-- **A document is read entry by entry.** -/
theorem document_eq_ok_iff {key : KeyPath} {v : Value} {doc : Document} :
    document v key = .ok doc ↔ ∃ entries : Entries, v = .dict entries ∧ ReadsDocument key entries doc := by
  simp only [document, Outcome.bind_eq_ok, expectMapping_eq_ok, ensure_eq_ok,
    unknownNames_isEmpty_iff isWord_documentKeys, require_eq_ok, expectText_eq_ok, Outcome.pure_eq_ok]
  constructor
  · rintro ⟨entries, hv, -, hkeys, _, hindex, index, rfl, -, hnamed, after, hafter, sort, hsort, size, hsize,
      start, hstart, c, hc, rfl⟩
    exact ⟨entries, hv, hkeys, ⟨index, hindex, rfl⟩, by simpa using hnamed, hafter, hsort, hsize, hstart,
      readClauses_eq_ok_iff.1 hc⟩
  · rintro ⟨entries, hv, hkeys, ⟨index, hindex, hstrip⟩, hnamed, hafter, hsort, hsize, hstart, hc⟩
    refine ⟨entries, hv, (), hkeys, _, hindex, index, rfl, (), ?_, _, hafter, _, hsort, _, hsize, _, hstart, _,
      readClauses_eq_ok_iff.2 hc, ?_⟩
    · simpa [hstrip] using hnamed
    · rw [hstrip]

end SearchRequest.Config
