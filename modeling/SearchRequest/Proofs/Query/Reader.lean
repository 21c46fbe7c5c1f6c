import SearchRequest.Proofs.Query.Escape
import SearchRequest.Proofs.Query.Tree

/-!
# Reading bodies back

A reader of bodies, and what it gives back of an item or a document (`normal`): the operator by its code, a
boolean query without a field of its own, and terms as a list. All else comes back as it was, at every depth,
so two documents have one body exactly when they agree up to that and the index.

The reader tells the operators apart by the outermost key alone. A field, a path or a text is read only at the
place where the form of that operator has it, so it does not matter which name a field has.
-/

namespace SearchRequest

/-! ### What a body tells -/

/-- An item with the code of an operator. -/
def Item.coded (op : Operator) (field : String) (value : Value) : Item :=
  .mk field value (.raw (.int op.code))

mutual

/-- An item as its body tells it: the operator by its code, a boolean query without a field of its own. -/
def Item.normal : Item → Item
  | .mk field value kind =>
    .mk (if kind.operator? = some .bool then Operator.bool.key else field)
      (value.normalUnder kind.operator?) (.raw kind.toValue)

/-- The value of an item with an operator. Of the sequences only terms are told as a list. -/
def Value.normalUnder (op : Option Operator) : Value → Value
  | .tuple xs => if op = some .terms then .list xs else .tuple xs
  | .clauses c => .clauses c.normal
  | v => v

def Item.normals : List Item → List Item
  | [] => []
  | i :: is => i.normal :: Item.normals is

def Clauses.normal : Clauses → Clauses
  | .mk must mustNot should filter =>
    .mk (Item.normals must) (Item.normals mustNot) (Item.normals should) (Item.normals filter)

end

theorem Item.normals_eq_map (is : List Item) : Item.normals is = is.map Item.normal := by
  induction is with
  | nil => rfl
  | cons i is ih => rw [Item.normals, ih, List.map_cons]

theorem Clauses.get_normal (c : Clauses) (clause : Clause) :
    c.normal.get clause = (c.get clause).map Item.normal := by
  obtain ⟨must, mustNot, should, filter⟩ := c
  cases clause <;> exact Item.normals_eq_map _

namespace Document

/-- A document as its body tells it. -/
def normal (doc : Document) : Document := { doc with clauses := doc.clauses.normal }

/-- A document without its index. -/
def withoutIndex (doc : Document) : Document := { doc with index := "" }

end Document

/-! ### The reader -/

/-- The clauses with the items of one of them replaced. -/
def Clauses.set (c : Clauses) (clause : Clause) (items : List Item) : Clauses :=
  .ofFn fun other => if other = clause then items else c.get other

mutual

/-- The item that a body tells. -/
def Item.ofBody? : Value → Option Item
  | .dict [(.str key, .dict entries)] =>
    match Operator.ofKey? key with
    | none => none
    | some .bool => do
      let c ← Clauses.ofEntries? entries
      some (.coded .bool Operator.bool.key (.clauses c))
    | some .nested =>
      match entries with
      | [(.str "path", .list [.str path]), (.str "query", .dict [(.str "bool", .dict inner)])] => do
        let c ← Clauses.ofEntries? inner
        some (.coded .nested path (.clauses c))
      | _ => none
    | some .queryString =>
      match entries with
      | [(.str "analyze_wildcard", .bool true), (.str "fields", .list [.str field]),
          (.str "query", .str escaped)] => do
        let text ← Escape.unescape? escaped
        some (.coded .queryString field (.str text))
      | _ => none
    | some op =>
      match entries with
      | [(.str field, v)] => some (.coded op field v)
      | _ => none
  | _ => none

def Item.ofBodies? : List Value → Option (List Item)
  | [] => some []
  | b :: bs => do
    let i ← Item.ofBody? b
    let is ← Item.ofBodies? bs
    some (i :: is)

/-- The clauses that the entries of a boolean query tell. A clause without an entry is empty. -/
def Clauses.ofEntries? : List (Value × Value) → Option Clauses
  | [] => some .empty
  | (.str name, .list bodies) :: rest => do
    let clause ← Clause.ofName? name
    let items ← Item.ofBodies? bodies
    let others ← Clauses.ofEntries? rest
    some (others.set clause items)
  | _ => none

end

/-- The sort field that an element of a sort order tells. -/
def SortField.ofBody? : Value → Option SortField
  | .dict [(.str field, .str order)] => some ⟨field, order⟩
  | _ => none

/-- The elements of a list. -/
def Value.elements : Value → List Value
  | .list xs => xs
  | _ => []

/-- The document that a body tells, without an index. -/
def Document.ofBody? : Value → Option Document
  | .dict ((.str "query", .dict [(.str "bool", .dict entries)]) :: page) => do
    let clauses ← Clauses.ofEntries? entries
    let sort ← ((Entries.find? page "sort").getD .null).elements.mapM SortField.ofBody?
    some {
      index := ""
      clauses
      sort
      size := (Entries.find? page "size").getD .null
      start := (Entries.find? page "from").getD .null
      searchAfter := ((Entries.find? page "search_after").getD .null).elements }
  | _ => none

/-! ### Reading clauses -/

theorem Item.ofBodies?_of_forall₂ {is : List Item} {bs : List Value}
    (hbodies : List.Forall₂ (fun i b => i.body = .ok b) is bs)
    (hread : ∀ i ∈ is, ∀ b, i.body = .ok b → Item.ofBody? b = some i.normal) :
    Item.ofBodies? bs = some (is.map Item.normal) := by
  induction hbodies with
  | nil => rfl
  | @cons i b is bs hb _ ih =>
    have hi := hread i List.mem_cons_self b hb
    have his := ih fun j hj => hread j (List.mem_cons_of_mem _ hj)
    simp [Item.ofBodies?, hi, his]

theorem Clauses.set_of_get {c : Clauses} {clause : Clause} {items : List Item} (h : c.get clause = items) :
    c.set clause items = c := by
  apply Clauses.ext_get
  intro other
  rw [Clauses.set, Clauses.get_ofFn]
  split
  · next he => rw [he, h]
  · rfl

theorem Clauses.ofEntries?_flatMap {bodies : Clause → List Value} {items : Clause → List Item}
    (h : ∀ clause, Item.ofBodies? (bodies clause) = some (items clause)) (clauses : List Clause)
    (hnodup : clauses.Nodup) :
    Clauses.ofEntries? (clauses.flatMap fun clause => clause.entry (bodies clause)) =
      some (.ofFn fun clause => if clause ∈ clauses then items clause else []) := by
  induction clauses with
  | nil => rfl
  | cons clause clauses ih =>
    obtain ⟨hnew, hnodup⟩ := List.nodup_cons.1 hnodup
    have hset : (Clauses.ofFn fun c => if c ∈ clause :: clauses then items c else []) =
        (Clauses.ofFn fun c => if c ∈ clauses then items c else []).set clause (items clause) := by
      apply Clauses.ext_get
      intro other
      by_cases he : other = clause
      · simp [Clauses.set, Clauses.get_ofFn, he]
      · simp [Clauses.set, Clauses.get_ofFn, he]
    rw [List.flatMap_cons, hset]
    cases hb : bodies clause with
    | nil =>
      have hitems : items clause = [] := by
        have := h clause
        rw [hb, Item.ofBodies?, Option.some.injEq] at this
        exact this.symm
      rw [Clause.entry_nil, List.nil_append, ih hnodup, Clauses.set_of_get]
      rw [Clauses.get_ofFn, if_neg hnew, hitems]
    | cons b bs =>
      have hread := h clause
      rw [hb] at hread
      simp [Clauses.ofEntries?, Clause.ofName?_name, hread, ih hnodup]

theorem Clauses.ofEntries?_entries {c : Clauses} {bodies : Clause → List Value}
    (h : ∀ clause, Item.ofBodies? (bodies clause) = some ((c.get clause).map Item.normal)) :
    Clauses.ofEntries? (Clauses.entries bodies) = some c.normal := by
  rw [Clauses.entries, Clauses.ofEntries?_flatMap h Clause.all (by decide), Option.some.injEq]
  refine Clauses.ext_get fun clause => ?_
  rw [Clauses.get_ofFn, if_pos (Clause.mem_all clause), Clauses.get_normal]

/-! ### Reading items -/

theorem Item.ofBody?_leaf {op : Operator} (hleaf : op.IsLeaf) (field : String) (v : Value) :
    Item.ofBody? (.single op.key (.single field v)) = some (.coded op field v) := by
  obtain ⟨hbool, hnested, hquery⟩ := hleaf
  simp only [Value.single, Item.ofBody?, Operator.ofKey?_key]

theorem Value.plain_eq_normalUnder {op : Operator} (hleaf : op.IsLeaf) {v : Value} (hfits : op.fits v) :
    v.plain = v.normalUnder (some op) := by
  cases v with
  | tuple xs =>
    obtain ⟨s, ha, hs⟩ := Operator.fits_iff.1 hfits
    have hop : op = .terms := by
      cases s <;> cases op <;> first | rfl | simp [hasShape, Operator.accepts] at ha hs
    simp [plain, normalUnder, hop]
  | clauses c =>
    rcases Operator.fits_clauses_iff.1 hfits with h | h
    · exact absurd h hleaf.1
    · exact absurd h hleaf.2.1
  | _ => rfl

/-- **A body tells its item**, and the body of clauses the clauses. -/
theorem Item.ofBody?_of_body :
    (∀ i : Item, ∀ b, i.body = .ok b → Item.ofBody? b = some i.normal) ∧
      ∀ c : Clauses, ∀ b, c.body = .ok b →
        ∃ entries, b = .single "bool" (.dict entries) ∧ Clauses.ofEntries? entries = some c.normal := by
  refine Clauses.induction (fun field value kind ih b hb => ?_) fun c ih b hb => ?_
  · cases Item.body_eq_ok_iff.1 hb with
    | @bool _ c _ _ hop hc =>
      obtain ⟨entries, rfl, hread⟩ := ih c rfl b hc
      have hkey : Operator.ofKey? "bool" = some .bool := Operator.ofKey?_key .bool
      simp [Value.single, Item.ofBody?, hkey, hread, Item.normal, hop, Value.normalUnder, Item.coded,
        Kind.operator?_eq_some_iff.1 hop]
    | @nested _ c _ query hop hc =>
      obtain ⟨entries, rfl, hread⟩ := ih c rfl query hc
      simp [Value.single, Value.nestedAt, Item.ofBody?, Operator.ofKey?_key, hread, Item.normal, hop,
        Value.normalUnder, Item.coded, Kind.operator?_eq_some_iff.1 hop]
    | queryString hop =>
      simp [Value.single, Value.queryString, Item.ofBody?, Operator.ofKey?_key, Escape.unescape?_escape,
        Item.normal, hop, Value.normalUnder, Item.coded, Kind.operator?_eq_some_iff.1 hop]
    | leaf hop hleaf hfits =>
      rw [Item.ofBody?_leaf hleaf, Item.normal, hop, Value.plain_eq_normalUnder hleaf hfits,
        Kind.operator?_eq_some_iff.1 hop]
      simp [Item.coded, hleaf.1]
  · obtain ⟨bodies, hbodies, rfl⟩ := Clauses.body_eq_ok_iff.1 hb
    refine ⟨_, rfl, Clauses.ofEntries?_entries fun clause => ?_⟩
    exact Item.ofBodies?_of_forall₂ (Item.bodies_eq_ok_iff.1 (hbodies clause)) (ih clause)

/-! ### Reading documents -/

namespace Entries

theorem find?_cons_str (key : String) (v : Value) (rest : Entries) (name : String) :
    find? ((.str key, v) :: rest) name = if key = name then some v else find? rest name := by
  simp [find?, get?, Value.sameKey]

variable {name other : String} {rest : Entries}

theorem getD_find?_optionalEntry (v : Value) (h : find? rest name = none) :
    (find? (Document.optionalEntry name v ++ rest) name).getD .null = v := by
  cases v <;> simp [Document.optionalEntry, find?_cons_str, h]

theorem find?_optionalEntry_of_ne (v : Value) (h : name ≠ other) :
    find? (Document.optionalEntry name v ++ rest) other = find? rest other := by
  cases v <;> simp [Document.optionalEntry, find?_cons_str, h]

theorem elements_find?_listEntry (xs : List Value) (h : find? rest name = none) :
    ((find? (Document.listEntry name xs ++ rest) name).getD .null).elements = xs := by
  cases xs <;> simp [Document.listEntry, find?_cons_str, h, Value.elements]

theorem find?_listEntry_of_ne (xs : List Value) (h : name ≠ other) :
    find? (Document.listEntry name xs ++ rest) other = find? rest other := by
  cases xs <;> simp [Document.listEntry, find?_cons_str, h]

end Entries

theorem SortField.mapM_ofBody? (sort : List SortField) :
    (sort.map fun s => Value.single s.field (.str s.order)).mapM SortField.ofBody? = some sort := by
  induction sort with
  | nil => rfl
  | cons s sort ih =>
    rw [List.map_cons, List.mapM_cons, ih]
    rfl

namespace Document

/-- What follows the query in the body of a document. -/
def page (doc : Document) : Entries :=
  optionalEntry "size" doc.size ++ (optionalEntry "from" doc.start ++
    (listEntry "sort" (doc.sort.map fun s => .single s.field (.str s.order)) ++
      (listEntry "search_after" doc.searchAfter ++ [])))

theorem body_eq_ok_iff {doc : Document} {b : Value} :
    doc.body = .ok b ↔
      ∃ query, doc.clauses.body = .ok query ∧ b = .dict ((.str "query", query) :: doc.page) := by
  simp only [body, Outcome.bind_eq_ok, Outcome.pure_eq_ok, page, List.append_assoc, List.append_nil,
    eq_comm (a := b)]

theorem size_page (doc : Document) : (Entries.find? doc.page "size").getD .null = doc.size := by
  apply Entries.getD_find?_optionalEntry
  rw [Entries.find?_optionalEntry_of_ne _ (by decide), Entries.find?_listEntry_of_ne _ (by decide),
    Entries.find?_listEntry_of_ne _ (by decide)]
  rfl

theorem start_page (doc : Document) : (Entries.find? doc.page "from").getD .null = doc.start := by
  rw [page, Entries.find?_optionalEntry_of_ne _ (by decide)]
  apply Entries.getD_find?_optionalEntry
  rw [Entries.find?_listEntry_of_ne _ (by decide), Entries.find?_listEntry_of_ne _ (by decide)]
  rfl

theorem sort_page (doc : Document) :
    ((Entries.find? doc.page "sort").getD .null).elements =
      doc.sort.map fun s => .single s.field (.str s.order) := by
  rw [page, Entries.find?_optionalEntry_of_ne _ (by decide), Entries.find?_optionalEntry_of_ne _ (by decide)]
  apply Entries.elements_find?_listEntry
  rw [Entries.find?_listEntry_of_ne _ (by decide)]
  rfl

theorem searchAfter_page (doc : Document) :
    ((Entries.find? doc.page "search_after").getD .null).elements = doc.searchAfter := by
  rw [page, Entries.find?_optionalEntry_of_ne _ (by decide), Entries.find?_optionalEntry_of_ne _ (by decide),
    Entries.find?_listEntry_of_ne _ (by decide)]
  exact Entries.elements_find?_listEntry _ rfl

/-- **A body tells its document** up to the index. -/
theorem ofBody?_of_body {doc : Document} {b : Value} (h : doc.body = .ok b) :
    Document.ofBody? b = some doc.normal.withoutIndex := by
  obtain ⟨query, hquery, rfl⟩ := body_eq_ok_iff.1 h
  obtain ⟨entries, rfl, hread⟩ := Item.ofBody?_of_body.2 doc.clauses query hquery
  rw [Value.single, ofBody?, hread, size_page, start_page, sort_page, searchAfter_page]
  simp only [Option.bind_eq_bind, Option.bind_some, SortField.mapM_ofBody?]
  rfl

end Document

/-! ### One body for one normal form -/

theorem Value.plain_plain (v : Value) : v.plain.plain = v.plain := by
  cases v <;> rfl

theorem Operator.fits_plain (op : Operator) (v : Value) : op.fits v.plain = op.fits v := by
  cases v <;> rfl

theorem Item.body_normal :
    (∀ i : Item, ∀ b, i.body = .ok b → i.normal.body = .ok b) ∧
      ∀ c : Clauses, ∀ b, c.body = .ok b → c.normal.body = .ok b := by
  refine Clauses.induction (fun field value kind ih b hb => ?_) fun c ih b hb => ?_
  · rw [Item.normal, Item.body_eq_ok_iff]
    cases Item.body_eq_ok_iff.1 hb with
    | @bool _ c _ _ hop hc =>
      rw [hop, Kind.operator?_eq_some_iff.1 hop]
      exact .bool (Operator.ofCode?_code _) (ih c rfl b hc)
    | @nested _ c _ query hop hc =>
      rw [hop, Kind.operator?_eq_some_iff.1 hop]
      exact .nested (Operator.ofCode?_code _) (ih c rfl query hc)
    | queryString hop =>
      rw [hop, Kind.operator?_eq_some_iff.1 hop]
      exact .queryString (Operator.ofCode?_code _)
    | @leaf _ _ _ op hop hleaf hfits =>
      have hne : some op ≠ some .bool := fun h => hleaf.1 (Option.some.inj h)
      have hplain : Item.Writes (.mk field value.plain (.raw (.int op.code))) _ :=
        .leaf (Operator.ofCode?_code op) hleaf ((Operator.fits_plain op value).trans hfits)
      rw [Value.plain_plain] at hplain
      rw [hop, Kind.operator?_eq_some_iff.1 hop, ← Value.plain_eq_normalUnder hleaf hfits, if_neg hne]
      exact hplain
  · obtain ⟨bodies, hbodies, rfl⟩ := Clauses.body_eq_ok_iff.1 hb
    refine Clauses.body_eq_ok_iff.2 ⟨bodies, fun clause => ?_, rfl⟩
    have hpairs := Item.bodies_eq_ok_iff.1 (hbodies clause)
    rw [Clauses.get_normal, Item.bodies_eq_ok_iff, List.forall₂_map_left_iff]
    exact ((List.forall₂_and_left _ _).2 ⟨ih clause, hpairs⟩).imp fun i b h => h.1 b h.2

theorem Document.body_normal {doc : Document} {b : Value} (h : doc.body = .ok b) :
    doc.normal.withoutIndex.body = .ok b := by
  obtain ⟨query, hquery, rfl⟩ := body_eq_ok_iff.1 h
  exact body_eq_ok_iff.2 ⟨query, Item.body_normal.2 doc.clauses query hquery, rfl⟩

/-- **A body loses and confuses nothing.** The reader gets every item and every document back up to `normal`
and the index, and two documents have one body exactly when they agree up to these. -/
theorem body_reads_back :
    (∀ (i : Item) (b : Value), i.body = .ok b → Item.ofBody? b = some i.normal) ∧
    (∀ (doc : Document) (b : Value), doc.body = .ok b →
      Document.ofBody? b = some doc.normal.withoutIndex) ∧
    ∀ (doc other : Document) (b c : Value), doc.body = .ok b → other.body = .ok c →
      (b = c ↔ doc.normal.withoutIndex = other.normal.withoutIndex) := by
  refine ⟨Item.ofBody?_of_body.1, fun _ _ => Document.ofBody?_of_body, fun doc other b c hb hc => ?_⟩
  constructor
  · rintro rfl
    exact Option.some.inj ((Document.ofBody?_of_body hb).symm.trans (Document.ofBody?_of_body hc))
  · intro h
    have hbody := Document.body_normal hb
    rw [h, Document.body_normal hc] at hbody
    exact (Except.ok.inj hbody).symm

/-- A nested query on fields that are named like keys of a body, once with operators and a tuple and once with
codes and a list: it reads back, and the two documents have one body and one normal form. -/
theorem body_reads_back_of_nested_terms :
    let terms (ids : Value) (kind : Operator → Kind) : Item :=
      .mk "path" (.clauses (.single .filter [
        .mk "query" (.clauses (.single .mustNot [.mk "bool" ids (kind .terms)])) (kind .bool),
        .mk "bool" (.str "a+b") (kind .queryString)])) (kind .nested)
    let named := terms (.tuple [.int 1, .null]) .operator
    let coded := terms (.list [.int 1, .null]) fun op => .raw (.int op.code)
    let doc (index : String) (i : Item) : Document :=
      ⟨index, .single .must [i], [⟨"size", "asc"⟩], .int 1, .null, [.null]⟩
    (∃ b, named.body = .ok b ∧ Item.ofBody? b = some named.normal) ∧
      (∃ b, (doc "a" named).body = .ok b ∧ Document.ofBody? b = some (doc "a" named).normal.withoutIndex) ∧
      ∃ b, (doc "a" named).body = .ok b ∧ (doc "b" coded).body = .ok b ∧
        (doc "a" named).normal.withoutIndex = (doc "b" coded).normal.withoutIndex :=
  ⟨⟨_, rfl, body_reads_back.1 _ _ rfl⟩, ⟨_, rfl, body_reads_back.2.1 _ _ rfl⟩,
    ⟨_, rfl, rfl, (body_reads_back.2.2 _ _ _ _ rfl rfl).1 rfl⟩⟩

end SearchRequest
