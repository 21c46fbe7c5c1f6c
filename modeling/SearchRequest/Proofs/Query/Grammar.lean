import Mathlib.Data.Set.List
import SearchRequest.Proofs.Query.Reader
import SearchRequest.Proofs.Value.Key

/-!
# The grammar of bodies

Which values are bodies, said without a word about items and documents: the key of each operator and what stands
under it, which entries a clause object and a request have, and in what order (`IsItemBody`, `IsClauseObject`,
`IsDocumentBody`). `exists_body_iff_grammar`: exactly the values of this grammar are the bodies of items, of
clauses and of documents.

Entries that may be left out stand in a fixed order, so their keys are a sublist of the list of all names. No
list of a clause object is empty, at any depth.
-/

namespace SearchRequest

/-! ### The grammar -/

namespace Value

/-- A text, a number or a truth value. -/
def IsScalar : Value → Prop
  | .str _ | .int _ | .float _ | .bool _ => True
  | _ => False

def IsMapping : Value → Prop
  | .dict _ => True
  | _ => False

end Value

mutual

/-- The body of an item: one key, and what the grammar has under it. -/
inductive IsItemBody : Value → Prop where
  | bool {object : Value} (h : IsClauseObject object) : IsItemBody (.single "bool" object)
  | nested {path : String} {object : Value} (h : IsClauseObject object) :
      IsItemBody (.single "nested"
        (.dict [(.str "path", .list [.str path]), (.str "query", .single "bool" object)]))
  | queryString (field text : String) :
      IsItemBody (.single "query_string"
        (.dict
          [(.str "analyze_wildcard", .bool true), (.str "fields", .list [.str field]),
            (.str "query", .str (Escape.escape text))]))
  | terms (field : String) (xs : List Value) : IsItemBody (.single "terms" (.single field (.list xs)))
  | range (field : String) (entries : Entries) : IsItemBody (.single "range" (.single field (.dict entries)))
  | exists {field : String} {v : Value} (hv : v.IsScalar) : IsItemBody (.single "exists" (.single field v))
  | compare {key field : String} {v : Value}
      (hkey : key ∈ ["match", "term", "match_phrase", "prefix", "wildcard"])
      (hv : v.IsScalar ∨ v.IsMapping) : IsItemBody (.single key (.single field v))

/-- What stands under the name of a clause. -/
inductive IsItemBodies : Value → Prop where
  | list {bodies : List Value} (hne : bodies ≠ []) (h : ∀ b ∈ bodies, IsItemBody b) :
      IsItemBodies (.list bodies)

/-- The clauses of a boolean query. -/
inductive IsClauseObject : Value → Prop where
  | dict {entries : Entries}
      (hkeys : entries.keys.Sublist [.str "must", .str "must_not", .str "should", .str "filter"])
      (h : ∀ entry ∈ entries, IsItemBodies entry.2) : IsClauseObject (.dict entries)

end

/-- An entry beside the query. -/
@[mk_iff]
inductive IsPageEntry : Value × Value → Prop where
  | size {v : Value} (h : v ≠ .null) : IsPageEntry (.str "size", v)
  | start {v : Value} (h : v ≠ .null) : IsPageEntry (.str "from", v)
  | sort {xs : List Value} (hne : xs ≠ []) (h : ∀ x ∈ xs, ∃ field order, x = .single field (.str order)) :
      IsPageEntry (.str "sort", .list xs)
  | searchAfter {xs : List Value} (h : xs ≠ []) : IsPageEntry (.str "search_after", .list xs)

/-- The body of a document. -/
inductive IsDocumentBody : Value → Prop where
  | dict {object : Value} {page : Entries} (hobject : IsClauseObject object)
      (hkeys : page.keys.Sublist [.str "size", .str "from", .str "sort", .str "search_after"])
      (hpage : ∀ entry ∈ page, IsPageEntry entry) :
      IsDocumentBody (.dict ((.str "query", .single "bool" object) :: page))

/-! ### Entries that may be left out -/

namespace Entries

theorem keys_append (entries others : Entries) : (entries ++ others).keys = entries.keys ++ others.keys :=
  List.map_append

theorem keys_sublist_cons_iff {entries : Entries} {key : Value} {keys : List Value} :
    entries.keys.Sublist (key :: keys) ↔
      ∃ part rest : Entries, part.keys.Sublist [key] ∧ rest.keys.Sublist keys ∧ entries = part ++ rest := by
  constructor
  · intro h
    rcases List.sublist_cons_iff.1 h with h | ⟨others, hothers, h⟩
    · exact ⟨[], entries, List.nil_sublist _, h, rfl⟩
    · cases entries with
      | nil => cases hothers
      | cons entry rest =>
        obtain ⟨rfl, rfl⟩ := List.cons.inj hothers
        exact ⟨[entry], rest, List.Sublist.refl _, h, rfl⟩
  · rintro ⟨part, rest, hpart, hrest, rfl⟩
    rw [keys_append]
    exact hpart.append hrest

theorem exists_listEntry_of_sublist {part : Entries} {name : String} {P : List Value → Prop} (hnil : P [])
    (hkeys : part.keys.Sublist [.str name])
    (h : ∀ v, (.str name, v) ∈ part → ∃ xs, xs ≠ [] ∧ P xs ∧ v = .list xs) :
    ∃ xs, P xs ∧ Document.listEntry name xs = part := by
  cases part with
  | nil => exact ⟨[], hnil, rfl⟩
  | cons entry rest =>
    obtain ⟨key, v⟩ := entry
    obtain ⟨rfl, rfl⟩ : key = .str name ∧ rest = [] := by simpa [keys] using hkeys
    obtain ⟨xs, hne, hxs, rfl⟩ := h v List.mem_cons_self
    obtain ⟨x, xs, rfl⟩ := List.exists_cons_of_ne_nil hne
    exact ⟨x :: xs, hxs, rfl⟩

theorem exists_optionalEntry_of_sublist {part : Entries} {name : String} (hkeys : part.keys.Sublist [.str name])
    (h : ∀ v, (.str name, v) ∈ part → v ≠ .null) : ∃ v, Document.optionalEntry name v = part := by
  cases part with
  | nil => exact ⟨.null, rfl⟩
  | cons entry rest =>
    obtain ⟨key, v⟩ := entry
    obtain ⟨rfl, rfl⟩ : key = .str name ∧ rest = [] := by simpa [keys] using hkeys
    have hv : v ≠ .null := h v List.mem_cons_self
    refine ⟨v, ?_⟩
    cases v <;> first | rfl | exact absurd rfl hv

theorem keys_listEntry_sublist (name : String) (xs : List Value) :
    (Document.listEntry name xs).keys.Sublist [.str name] := by
  cases xs <;> simp [Document.listEntry, keys]

theorem keys_optionalEntry_sublist (name : String) (v : Value) :
    (Document.optionalEntry name v).keys.Sublist [.str name] := by
  cases v <;> simp [Document.optionalEntry, keys]

end Entries

namespace Document

theorem mem_optionalEntry {name : String} {v : Value} {entry : Value × Value}
    (h : entry ∈ optionalEntry name v) : v ≠ .null ∧ entry = (.str name, v) := by
  cases v <;> simp_all [optionalEntry]

theorem mem_listEntry {name : String} {xs : List Value} {entry : Value × Value}
    (h : entry ∈ listEntry name xs) : xs ≠ [] ∧ entry = (.str name, .list xs) := by
  cases xs <;> simp_all [listEntry]

end Document

theorem Clause.entry_eq_listEntry (clause : Clause) (bodies : List Value) :
    clause.entry bodies = Document.listEntry clause.name bodies := by
  cases bodies <;> rfl

theorem Clauses.keys_entries_sublist (bodies : Clause → List Value) :
    (entries bodies).keys.Sublist [.str "must", .str "must_not", .str "should", .str "filter"] := by
  have hpart (clause : Clause) : (clause.entry (bodies clause)).keys.Sublist [.str clause.name] := by
    rw [Clause.entry_eq_listEntry]
    exact Entries.keys_listEntry_sublist _ _
  have hparts (clauses : List Clause) :
      (Entries.keys (clauses.flatMap fun clause => clause.entry (bodies clause))).Sublist
        (clauses.map fun clause => .str clause.name) := by
    induction clauses with
    | nil => exact List.Sublist.slnil
    | cons clause clauses ih =>
      rw [List.flatMap_cons, Entries.keys_append]
      exact (hpart clause).append ih
  exact hparts Clause.all

theorem Clauses.mem_entries {bodies : Clause → List Value} {entry : Value × Value} (h : entry ∈ entries bodies) :
    ∃ clause, bodies clause ≠ [] ∧ entry.2 = .list (bodies clause) := by
  obtain ⟨clause, -, hclause⟩ := List.mem_flatMap.1 h
  rw [Clause.entry_eq_listEntry] at hclause
  obtain ⟨hne, rfl⟩ := Document.mem_listEntry hclause
  exact ⟨clause, hne, rfl⟩

theorem Clauses.exists_entries_of_sublist {entries : Entries} {P : List Value → Prop} (hnil : P [])
    (hkeys : entries.keys.Sublist [.str "must", .str "must_not", .str "should", .str "filter"])
    (h : ∀ entry ∈ entries, ∃ bodies, bodies ≠ [] ∧ P bodies ∧ entry.2 = .list bodies) :
    ∃ bodies : Clause → List Value, (∀ clause, P (bodies clause)) ∧ Clauses.entries bodies = entries := by
  obtain ⟨must, _, hmust, hothers, rfl⟩ := Entries.keys_sublist_cons_iff.1 hkeys
  obtain ⟨mustNot, _, hmustNot, hlast, rfl⟩ := Entries.keys_sublist_cons_iff.1 hothers
  obtain ⟨should, filter, hshould, hfilter, rfl⟩ := Entries.keys_sublist_cons_iff.1 hlast
  simp only [List.forall_mem_append] at h
  obtain ⟨musts, hmusts, rfl⟩ := Entries.exists_listEntry_of_sublist hnil hmust fun _ => h.1 _
  obtain ⟨mustNots, hmustNots, rfl⟩ := Entries.exists_listEntry_of_sublist hnil hmustNot fun _ => h.2.1 _
  obtain ⟨shoulds, hshoulds, rfl⟩ := Entries.exists_listEntry_of_sublist hnil hshould fun _ => h.2.2.1 _
  obtain ⟨filters, hfilters, rfl⟩ := Entries.exists_listEntry_of_sublist hnil hfilter fun _ => h.2.2.2 _
  refine ⟨Clause.rec musts mustNots shoulds filters, fun clause => ?_, ?_⟩
  · cases clause <;> assumption
  · simp [Clauses.entries, Clause.all, Clause.entry_eq_listEntry, Clause.name]

/-! ### The values of an operator -/

namespace Value

theorem hasShape_scalar_iff {v : Value} : v.hasShape .scalar = true ↔ v.IsScalar := by
  cases v <;> simp [hasShape, IsScalar]

theorem hasShape_mapping_iff {v : Value} : v.hasShape .mapping = true ↔ v.IsMapping := by
  cases v <;> simp [hasShape, IsMapping]

theorem hasShape_list_iff {v : Value} : v.hasShape .list = true ↔ ∃ xs, v.plain = .list xs := by
  cases v <;> simp [hasShape, plain]

theorem IsScalar.plain {v : Value} (h : v.IsScalar) : v.plain = v := by
  cases v <;> first | rfl | cases h

theorem IsMapping.plain {v : Value} (h : v.IsMapping) : v.plain = v := by
  cases v <;> first | rfl | cases h

end Value

namespace Operator

/-- The operators that take a scalar or a mapping. -/
def comparing : List Operator := [.matches, .term, .matchPhrase, .startsWith, .wildcard]

theorem isLeaf_of_mem_comparing {op : Operator} (h : op ∈ comparing) : op.IsLeaf := by
  refine ⟨?_, ?_, ?_⟩ <;> rintro rfl <;> exact absurd h (by decide)

theorem exists_comparing_iff {key : String} :
    (∃ op ∈ comparing, op.key = key) ↔ key ∈ ["match", "term", "match_phrase", "prefix", "wildcard"] := by
  simp [comparing, Operator.key, eq_comm]

theorem fits_comparing_iff {op : Operator} (h : op ∈ comparing) {v : Value} :
    op.fits v = true ↔ v.IsScalar ∨ v.IsMapping := by
  have haccepts (s : Shape) : op.accepts s = true ↔ s = .scalar ∨ s = .mapping := by
    simp only [comparing, List.mem_cons, List.not_mem_nil, or_false] at h
    rcases h with rfl | rfl | rfl | rfl | rfl <;> simp [accepts]
  simp only [fits_iff, haccepts, or_and_right, exists_or, exists_eq_left, Value.hasShape_scalar_iff,
    Value.hasShape_mapping_iff]

theorem fits_exists_iff {v : Value} : Operator.exists.fits v = true ↔ v.IsScalar := by
  simp [fits_iff, accepts, Value.hasShape_scalar_iff]

theorem fits_range_iff {v : Value} : range.fits v = true ↔ v.IsMapping := by
  simp [fits_iff, accepts, Value.hasShape_mapping_iff]

theorem fits_terms_iff {v : Value} : terms.fits v = true ↔ ∃ xs, v.plain = .list xs := by
  simp [fits_iff, accepts, Value.hasShape_list_iff]

end Operator

/-! ### Bodies are in the grammar -/

theorem Operator.isItemBody_of_isLeaf {op : Operator} (hleaf : op.IsLeaf) {v : Value} (hfits : op.fits v)
    (field : String) : IsItemBody (.single op.key (.single field v.plain)) := by
  by_cases hcomparing : op ∈ comparing
  · have hv := (fits_comparing_iff hcomparing).1 hfits
    rw [hv.elim Value.IsScalar.plain Value.IsMapping.plain]
    exact .compare (exists_comparing_iff.1 ⟨op, hcomparing, rfl⟩) hv
  obtain ⟨hbool, hnested, hquery⟩ := hleaf
  cases op with
  | terms =>
    obtain ⟨xs, hxs⟩ := fits_terms_iff.1 hfits
    rw [hxs]
    exact .terms field xs
  | range =>
    have hv := fits_range_iff.1 hfits
    rw [hv.plain]
    cases v <;> first | exact .range field _ | cases hv
  | «exists» =>
    have hv := fits_exists_iff.1 hfits
    rw [hv.plain]
    exact .exists hv
  | bool => exact absurd rfl hbool
  | nested => exact absurd rfl hnested
  | queryString => exact absurd rfl hquery
  | _ => exact absurd (by decide) hcomparing

theorem isItemBodies_of_forall₂ {is : List Item} {bs : List Value} (hne : bs ≠ [])
    (hbodies : List.Forall₂ (fun i b => i.body = .ok b) is bs)
    (h : ∀ i ∈ is, ∀ b, i.body = .ok b → IsItemBody b) : IsItemBodies (.list bs) := by
  refine .list hne fun b hb => ?_
  have hpairs := ((List.forall₂_and_left _ _).2 ⟨h, hbodies⟩).imp fun i b hib => hib.1 b hib.2
  obtain ⟨_, hbody⟩ := exists_forall₂_iff.1 ⟨is, hpairs.flip⟩ b hb
  exact hbody

theorem isItemBody_of_body :
    (∀ i : Item, ∀ b, i.body = .ok b → IsItemBody b) ∧
      ∀ c : Clauses, ∀ b, c.body = .ok b → ∃ object, IsClauseObject object ∧ b = .single "bool" object := by
  apply Clauses.induction
  · intro field value kind ih b hb
    cases Item.body_eq_ok_iff.1 hb with
    | @bool _ c _ _ hop hc =>
      obtain ⟨object, hobject, rfl⟩ := ih c rfl b hc
      exact .bool hobject
    | @nested _ c _ query hop hc =>
      obtain ⟨object, hobject, rfl⟩ := ih c rfl query hc
      exact .nested hobject
    | @queryString _ text _ hop => exact .queryString field text
    | leaf hop hleaf hfits => exact Operator.isItemBody_of_isLeaf hleaf hfits field
  · intro c ih b hb
    obtain ⟨bodies, hbodies, rfl⟩ := Clauses.body_eq_ok_iff.1 hb
    refine ⟨_, .dict (Clauses.keys_entries_sublist bodies) fun entry hentry => ?_, rfl⟩
    obtain ⟨clause, hne, hv⟩ := Clauses.mem_entries hentry
    rw [hv]
    exact isItemBodies_of_forall₂ hne (Item.bodies_eq_ok_iff.1 (hbodies clause)) (ih clause)

/-! ### The grammar is made of bodies -/

mutual

theorem IsItemBody.exists_item {b : Value} : IsItemBody b → ∃ i : Item, i.body = .ok b
  | .bool h => by
    obtain ⟨c, hc⟩ := h.exists_clauses
    exact ⟨.mk "" (.clauses c) (.operator .bool), Item.body_eq_ok_iff.2 (.bool rfl hc)⟩
  | .nested h => by
    obtain ⟨c, hc⟩ := h.exists_clauses
    exact ⟨.mk _ (.clauses c) (.operator .nested), Item.body_eq_ok_iff.2 (.nested rfl hc)⟩
  | .queryString field text => ⟨.mk field (.str text) (.operator .queryString), rfl⟩
  | .terms field xs => ⟨.mk field (.list xs) (.operator .terms), rfl⟩
  | .range field entries => ⟨.mk field (.dict entries) (.operator .range), rfl⟩
  | @IsItemBody.exists field v hv => by
    have hb : Item.Writes (.mk field v (.operator .exists)) _ :=
      .leaf rfl ⟨nofun, nofun, nofun⟩ (Operator.fits_exists_iff.2 hv)
    rw [hv.plain] at hb
    exact ⟨_, Item.body_eq_ok_iff.2 hb⟩
  | @IsItemBody.compare key field v hkey hv => by
    obtain ⟨op, hop, rfl⟩ := Operator.exists_comparing_iff.2 hkey
    have hb : Item.Writes (.mk field v (.operator op)) _ :=
      .leaf rfl (Operator.isLeaf_of_mem_comparing hop) ((Operator.fits_comparing_iff hop).2 hv)
    rw [hv.elim Value.IsScalar.plain Value.IsMapping.plain] at hb
    exact ⟨_, Item.body_eq_ok_iff.2 hb⟩

theorem IsClauseObject.exists_clauses {object : Value} :
    IsClauseObject object → ∃ c : Clauses, c.body = .ok (.single "bool" object)
  | .dict hkeys h => by
    have hempty : ∃ is, Item.bodies is = .ok [] := ⟨[], rfl⟩
    obtain ⟨bodies, hitems, rfl⟩ := Clauses.exists_entries_of_sublist hempty hkeys fun entry hentry =>
      (h entry hentry).exists_items
    obtain ⟨c, hc⟩ := Clauses.exists_forall_get.2 hitems
    exact ⟨c, Clauses.body_eq_ok_iff.2 ⟨bodies, hc, rfl⟩⟩

theorem IsItemBodies.exists_items {v : Value} :
    IsItemBodies v → ∃ bodies, bodies ≠ [] ∧ (∃ items, Item.bodies items = .ok bodies) ∧ v = .list bodies
  | @IsItemBodies.list bodies hne h => by
    obtain ⟨items, hitems⟩ := exists_forall₂_iff.2 fun b hb => (h b hb).exists_item
    exact ⟨bodies, hne, ⟨items, Item.bodies_eq_ok_iff.2 hitems.flip⟩, rfl⟩

end

/-! ### Documents -/

namespace Document

theorem exists_sort_iff {xs : List Value} :
    (∃ sort : List SortField, (sort.map fun s => Value.single s.field (.str s.order)) = xs) ↔
      ∀ x ∈ xs, ∃ field order, x = .single field (.str order) := by
  rw [← Set.mem_range, Set.range_list_map, Set.mem_ofPred_eq]
  refine forall₂_congr fun x _ => ?_
  constructor
  · rintro ⟨s, rfl⟩
    exact ⟨s.field, s.order, rfl⟩
  · rintro ⟨field, order, rfl⟩
    exact ⟨⟨field, order⟩, rfl⟩

theorem keys_page_sublist (doc : Document) :
    doc.page.keys.Sublist [.str "size", .str "from", .str "sort", .str "search_after"] := by
  simp only [page, Entries.keys_append]
  exact (Entries.keys_optionalEntry_sublist "size" _).append
    ((Entries.keys_optionalEntry_sublist "from" _).append
      ((Entries.keys_listEntry_sublist "sort" _).append
        ((Entries.keys_listEntry_sublist "search_after" _).append .slnil)))

theorem isPageEntry_size_iff {v : Value} : IsPageEntry (.str "size", v) ↔ v ≠ .null := by
  simp [isPageEntry_iff]

theorem isPageEntry_from_iff {v : Value} : IsPageEntry (.str "from", v) ↔ v ≠ .null := by
  simp [isPageEntry_iff]

theorem isPageEntry_sort_iff {v : Value} :
    IsPageEntry (.str "sort", v) ↔ ∃ xs, xs ≠ [] ∧
      (∃ sort : List SortField, (sort.map fun s => Value.single s.field (.str s.order)) = xs) ∧ v = .list xs := by
  simp only [isPageEntry_iff, exists_sort_iff]
  simp

theorem isPageEntry_searchAfter_iff {v : Value} :
    IsPageEntry (.str "search_after", v) ↔ ∃ xs, xs ≠ [] ∧ True ∧ v = .list xs := by
  simp [isPageEntry_iff]

theorem isPageEntry_of_mem {doc : Document} {entry : Value × Value} (h : entry ∈ doc.page) :
    IsPageEntry entry := by
  simp only [page, List.mem_append, List.not_mem_nil, or_false] at h
  rcases h with h | h | h | h
  · obtain ⟨hv, rfl⟩ := mem_optionalEntry h
    exact .size hv
  · obtain ⟨hv, rfl⟩ := mem_optionalEntry h
    exact .start hv
  · obtain ⟨hne, rfl⟩ := mem_listEntry h
    exact .sort hne (exists_sort_iff.1 ⟨doc.sort, rfl⟩)
  · obtain ⟨hne, rfl⟩ := mem_listEntry h
    exact .searchAfter hne

theorem exists_page {page : Entries} (c : Clauses)
    (hkeys : page.keys.Sublist [.str "size", .str "from", .str "sort", .str "search_after"])
    (hpage : ∀ entry ∈ page, IsPageEntry entry) : ∃ doc : Document, doc.clauses = c ∧ doc.page = page := by
  obtain ⟨sizes, _, hsizes, hothers, rfl⟩ := Entries.keys_sublist_cons_iff.1 hkeys
  obtain ⟨starts, _, hstarts, hlast, rfl⟩ := Entries.keys_sublist_cons_iff.1 hothers
  obtain ⟨sorts, afters, hsorts, hafters, rfl⟩ := Entries.keys_sublist_cons_iff.1 hlast
  simp only [List.forall_mem_append] at hpage
  obtain ⟨hsize, hstart, hsort, hafter⟩ := hpage
  obtain ⟨size, rfl⟩ := Entries.exists_optionalEntry_of_sublist hsizes fun v hv =>
    isPageEntry_size_iff.1 (hsize _ hv)
  obtain ⟨start, rfl⟩ := Entries.exists_optionalEntry_of_sublist hstarts fun v hv =>
    isPageEntry_from_iff.1 (hstart _ hv)
  obtain ⟨_, ⟨sort, rfl⟩, rfl⟩ := Entries.exists_listEntry_of_sublist ⟨[], rfl⟩ hsorts fun v hv =>
    isPageEntry_sort_iff.1 (hsort _ hv)
  obtain ⟨after, -, rfl⟩ := Entries.exists_listEntry_of_sublist trivial hafters fun v hv =>
    isPageEntry_searchAfter_iff.1 (hafter _ hv)
  exact ⟨⟨"", c, sort, size, start, after⟩, rfl, by simp [page]⟩

end Document

theorem isDocumentBody_of_body {doc : Document} {b : Value} (h : doc.body = .ok b) : IsDocumentBody b := by
  obtain ⟨query, hquery, rfl⟩ := Document.body_eq_ok_iff.1 h
  obtain ⟨object, hobject, rfl⟩ := isItemBody_of_body.2 doc.clauses query hquery
  exact .dict hobject doc.keys_page_sublist fun _ => Document.isPageEntry_of_mem

theorem IsDocumentBody.exists_document {b : Value} (h : IsDocumentBody b) : ∃ doc : Document, doc.body = .ok b := by
  cases h with
  | dict hobject hkeys hpage =>
    obtain ⟨c, hc⟩ := hobject.exists_clauses
    obtain ⟨doc, rfl, rfl⟩ := Document.exists_page c hkeys hpage
    exact ⟨doc, Document.body_eq_ok_iff.2 ⟨_, hc, rfl⟩⟩

/-- **The bodies are exactly the values of the grammar**, of items, of clauses and of documents. -/
theorem exists_body_iff_grammar :
    (∀ b, (∃ i : Item, i.body = .ok b) ↔ IsItemBody b) ∧
    (∀ b, (∃ c : Clauses, c.body = .ok b) ↔ ∃ object, IsClauseObject object ∧ b = .single "bool" object) ∧
    ∀ b, (∃ doc : Document, doc.body = .ok b) ↔ IsDocumentBody b := by
  refine ⟨fun b => ⟨?_, IsItemBody.exists_item⟩, fun b => ⟨?_, ?_⟩,
    fun b => ⟨?_, IsDocumentBody.exists_document⟩⟩
  · rintro ⟨i, hi⟩
    exact isItemBody_of_body.1 i b hi
  · rintro ⟨c, hc⟩
    exact isItemBody_of_body.2 c b hc
  · rintro ⟨object, hobject, rfl⟩
    exact hobject.exists_clauses
  · rintro ⟨doc, hdoc⟩
    exact isDocumentBody_of_body hdoc

end SearchRequest
