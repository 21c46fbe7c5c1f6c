import SearchRequest.Proofs.Config.Grammar
import SearchRequest.Proofs.Config.Location
import SearchRequest.Proofs.Config.Merge

/-!
# The ways to write a boolean block

Items are put into one clause of a boolean query in several ways: by wrapping them, and in a configuration by a `bool`
block or by an item whose type is the code or any spelling of the name of that operator (`Config.WritesBlock`).
`Config.boolBlock_spellings_agree`: all of them give the same item, or fail with the same fault, and the body of that
item is the same wherever it stands (`Embeds`).

Every configured way comes down to reading one mapping with one clause (`Config.WritesBlock.item_eq`), each at a place
of its own. How the places differ is settled by `Config.isLocal_of_value`.
-/

namespace SearchRequest

/-! ### Bodies -/

/-- The body of a boolean query with one clause. -/
def Value.boolBlock (clause : Clause) (bodies : List Value) : Value :=
  .dict [(.str "bool", .dict (if bodies.isEmpty then [] else [(.str clause.name, .list bodies)]))]

theorem Clause.name_injective : Function.Injective Clause.name := by
  intro a b h
  have ha := Clause.ofName?_name a
  rwa [h, Clause.ofName?_name, Option.some.injEq, eq_comm] at ha

theorem Clauses.entries_single (clause : Clause) (bodies : List Value) :
    Clauses.entries (fun c => if c = clause then bodies else []) = clause.entry bodies := by
  cases clause <;> simp [Clauses.entries, Clause.all]

theorem Clauses.body_single (clause : Clause) {items : List Item} {bodies : List Value}
    (h : List.Forall₂ (fun i b => i.body = .ok b) items bodies) :
    (Clauses.single clause items).body = .ok (.boolBlock clause bodies) := by
  refine Clauses.body_eq_ok_iff.2 ⟨fun c => if c = clause then bodies else [], fun c => ?_, ?_⟩
  · rw [Clauses.single, Clauses.get_ofFn]
    by_cases hc : c = clause
    · simp only [hc, if_true]
      exact Item.bodies_eq_ok_iff.2 h
    · simp only [hc, if_false]
      rfl
  · rw [Clauses.entries_single]
    cases bodies <;> rfl

theorem Item.body_wrap (clause : Clause) (items : List Item) :
    (Item.wrap clause items).body = (Clauses.single clause items).body := by
  rw [Item.wrap, Item.body]
  exact if_pos (Operator.fits_clauses_iff.2 (.inl rfl))

/-! ### Blocks inside other queries -/

/-- Something that holds clauses, as the outcome of its serialization, and where the query of the clauses stands in its
body: a document, a nested item or a boolean item. -/
inductive Embeds (c : Clauses) : Except QueryError Value → List Value → Prop where
  | document {doc : Document} (h : doc.clauses = c) : Embeds c doc.body [.str "query"]
  | nested (path : String) {kind : Kind} (hop : kind.operator? = some .nested) :
      Embeds c (Item.mk path (.clauses c) kind).body [.str "nested", .str "query"]
  | bool (field : String) {kind : Kind} (hop : kind.operator? = some .bool) :
      Embeds c (Item.mk field (.clauses c) kind).body []

theorem Embeds.exists_body {c : Clauses} {outcome : Except QueryError Value} {path : List Value}
    (h : Embeds c outcome path) {query : Value} (hquery : c.body = .ok query) :
    ∃ b, outcome = .ok b ∧ b.at? path = some query := by
  cases h with
  | document h =>
    subst h
    refine ⟨_, by rw [Document.body, hquery]; rfl, ?_⟩
    rfl
  | nested path hop => exact ⟨_, Item.body_eq_ok_iff.2 (.nested hop hquery), rfl⟩
  | bool field hop => exact ⟨_, Item.body_eq_ok_iff.2 (.bool hop hquery), rfl⟩

theorem Clauses.find?_entries {bodies : Clause → List Value} {clause : Clause} (h : bodies clause ≠ []) :
    (Clauses.entries bodies).find? clause.name = some (.list (bodies clause)) := by
  have hfrom (clauses : List Clause) (hmem : clause ∈ clauses) :
      Entries.find? (clauses.flatMap fun c => c.entry (bodies c)) clause.name = some (.list (bodies clause)) := by
    induction clauses with
    | nil => cases hmem
    | cons first others ih =>
      rw [List.flatMap_cons]
      by_cases hfirst : first = clause
      · subst hfirst
        obtain ⟨b, bs, hbodies⟩ := List.exists_cons_of_ne_nil h
        rw [hbodies]
        exact Entries.find?_cons_self _ _ _
      · have hothers := ih ((List.mem_cons.1 hmem).resolve_left (Ne.symm hfirst))
        cases hbodies : bodies first with
        | nil => exact hothers
        | cons b bs =>
          have hname : Value.str first.name ≠ .str clause.name := by simpa using Clause.name_injective.ne hfirst
          rw [Clause.entry_cons, List.singleton_append, Entries.find?_cons_of_ne hname]
          exact hothers
  exact hfrom Clause.all clause.mem_all

theorem Embeds.exists_getElem? {c : Clauses} {outcome : Except QueryError Value} {path : List Value}
    (h : Embeds c outcome path) (hbodies : ∀ clause, ∀ i ∈ c.get clause, ∃ b, i.body = .ok b) {clause : Clause}
    {n : Nat} {i : Item} (hi : (c.get clause)[n]? = some i) {b : Value} (hb : i.body = .ok b) :
    ∃ whole listed, outcome = .ok whole ∧
      whole.at? (path ++ [.str "bool", .str clause.name]) = some (.list listed) ∧ listed[n]? = some b := by
  have hlists (clause : Clause) : ∃ bs, Item.bodies (c.get clause) = .ok bs := by
    simp only [Item.bodies_eq_ok_iff]
    exact exists_forall₂_iff.2 (hbodies clause)
  choose bodies hbodies using hlists
  obtain ⟨whole, hwhole, hat⟩ := h.exists_body (Clauses.body_eq_ok_iff.2 ⟨bodies, hbodies, rfl⟩)
  have hlisted : (bodies clause)[n]? = some b := by
    have hrelated := Item.bodies_eq_ok_iff.1 (hbodies clause)
    obtain ⟨hn, rfl⟩ := List.getElem?_eq_some_iff.1 hi
    have hn' : n < (bodies clause).length := hrelated.length_eq ▸ hn
    have hnth := List.forall₂_iff_get.1 hrelated |>.2 n hn hn'
    rw [List.get_eq_getElem, hb, Except.ok.injEq] at hnth
    rw [List.getElem?_eq_getElem hn', hnth, List.get_eq_getElem]
  have hne : bodies clause ≠ [] := fun hnil => by simp [hnil] at hlisted
  refine ⟨whole, bodies clause, hwhole, ?_, hlisted⟩
  rw [Value.at?_append, hat]
  exact congrArg (Option.bind · _) (Clauses.find?_entries hne)

/-- Putting items into a clause can only fail over the name of the clause, which is a value. -/
def ClauseError.errorClass : ClauseError → ErrorClass
  | .unknown _ => .value

namespace Config

/-! ### Blocks of a configuration -/

/-- The configured items that put raw items under one name into a boolean query, each with the name of the entry that
holds the clauses: a block, or a mapping with a type that selects the operator. -/
inductive WritesBlock (name : String) (raws : List Value) : String → Value → Prop where
  | block : WritesBlock name raws "bool" (.dict [(.str "bool", .dict [(.str name, .list raws)])])
  | typed {entries : Entries} (hkeys : entries.KeysAmong ["field", "type", "value"])
      (hfield : entries.find? "field" = some (.str "bool")) (htype : Selects (entries.find? "type") .bool)
      (hvalue : entries.find? "value" = some (.dict [(.str name, .list raws)])) :
      WritesBlock name raws "value" (.dict entries)

theorem Selects.readsKind {found : Option Value} {op : Operator} (h : Selects found op) :
    ReadsKind found (.operator op) := by
  rcases h with ⟨name, rfl, hname⟩ | rfl
  · exact .name (Operator.ofKey?_eq_some_iff.2 hname)
  · have hcode := ReadsKind.code op.code
    rwa [kindOfCode, Operator.ofCode?_code] at hcode

/-- A boolean item as it is read, whatever its spelling. -/
def boolItem (c : Clauses) : Item := .mk "bool" (.clauses c) (.operator .bool)

theorem WritesBlock.item_eq {name : String} {raws : List Value} {place : String} {v : Value}
    (h : WritesBlock name raws place v) (key : KeyPath) :
    item v key = boolItem <$> clauses (.dict [(.str name, .list raws)]) (key.member place) := by
  cases h with
  | block =>
    have hfound := Entries.find?_cons_self Operator.bool.key (.dict [(.str name, .list raws)]) []
    rw [item_dict, show Value.str "bool" = .str Operator.bool.key from rfl, hfound]
    show (clauses (.dict [(.str name, .list raws)]) (key.member "bool") >>= fun c => pure (boolItem c)) = _
    exact bind_pure_comp boolItem _
  | @typed entries hkeys hfield htype hvalue =>
    have hknown : (unknownNames itemKeys entries).isEmpty = true := (unknownNames_isEmpty_iff isWord_itemKeys).2 hkeys
    have hkind : readKind? (key.member "type") (entries.find? "type") = .ok (.operator .bool) :=
      readKind?_eq_ok.2 htype.readsKind
    rw [item_of_keysAmong hkeys, readLeaf_readingsOf]
    simp only [hknown, require, hfield, hkind, itemOfKind, hvalue]
    show (clauses (.dict [(.str name, .list raws)]) (key.member "value") >>= fun c => pure (boolItem c)) = _
    exact bind_pure_comp boolItem _

theorem readClauses_of_only {entries : Entries} (clause : Clause)
    (h : ∀ other, other ≠ clause → entries.find? other.name = none) (key : KeyPath) :
    readClauses (readingsOf entries) key =
      Clauses.single clause <$> readItems? (key.member clause.name) (entries.find? clause.name) := by
  simp only [readClauses, readClause_readingsOf]
  cases clause with
  | must =>
    rw [h .mustNot (by decide), h .should (by decide), h .filter (by decide)]
    cases readItems? (key.member Clause.must.name) (entries.find? Clause.must.name) <;> rfl
  | mustNot =>
    rw [h .must (by decide), h .should (by decide), h .filter (by decide)]
    cases readItems? (key.member Clause.mustNot.name) (entries.find? Clause.mustNot.name) <;> rfl
  | should =>
    rw [h .must (by decide), h .mustNot (by decide), h .filter (by decide)]
    cases readItems? (key.member Clause.should.name) (entries.find? Clause.should.name) <;> rfl
  | filter =>
    rw [h .must (by decide), h .mustNot (by decide), h .should (by decide)]
    cases readItems? (key.member Clause.filter.name) (entries.find? Clause.filter.name) <;> rfl

theorem clauses_single (clause : Clause) (raws : List Value) (key : KeyPath) :
    clauses (.dict [(.str clause.name, .list raws)]) key =
      Clauses.single clause <$> itemsFrom raws (key.member clause.name) 0 := by
  have hkeys : Entries.KeysAmong clauseNames [(.str clause.name, .list raws)] := by
    intro entry hentry
    rw [List.mem_singleton.1 hentry]
    exact ⟨clause.name, List.mem_map_of_mem clause.mem_all, rfl⟩
  have hknown := (unknownNames_isEmpty_iff isWord_clauseNames).2 hkeys
  have honly (other : Clause) (hother : other ≠ clause) :
      Entries.find? [(.str clause.name, .list raws)] other.name = none := by
    have hname : Value.str clause.name ≠ .str other.name := by simpa using Clause.name_injective.ne hother.symm
    rw [Entries.find?_cons_of_ne hname]
    rfl
  have hitems : items (.list raws) (key.member clause.name) = itemsFrom raws (key.member clause.name) 0 := by
    rw [items]
  rw [clauses, hknown, ← hitems]
  have hread := readClauses_of_only clause honly key
  rw [Entries.find?_cons_self] at hread
  exact hread

theorem WritesBlock.item_of_clause {clause : Clause} {raws : List Value} {place : String} {v : Value}
    (h : WritesBlock clause.name raws place v) (key : KeyPath) :
    item v key = Item.wrap clause <$> itemsFrom raws ((key.member place).member clause.name) 0 := by
  rw [h.item_eq, clauses_single, Functor.map_map]
  rfl

/-! ### Names of clauses -/

theorem wrapNamed_name (clause : Clause) (items : List Item) :
    Item.wrapNamed clause.name items = .ok (Item.wrap clause items) := by
  rw [Item.wrapNamed, Clause.ofName?_name]

theorem not_mem_clauseNames {name : String} (h : ∀ clause : Clause, name ≠ clause.name) : name ∉ clauseNames := by
  intro hmem
  obtain ⟨clause, -, hclause⟩ := List.mem_map.1 hmem
  exact h clause hclause.symm

theorem clauses_unknown {name : String} (h : ∀ clause : Clause, name ≠ clause.name) (raws : List Value)
    (key : KeyPath) : clauses (.dict [(.str name, .list raws)]) key = .error (.unknownClauses key [name]) := by
  have hunknown : unknownNames clauseNames [(.str name, .list raws)] = [name] := by
    simp [unknownNames, Value.display, not_mem_clauseNames h, List.eraseDups_cons]
  rw [clauses, hunknown]
  rfl

theorem wrapNamed_unknown {name : String} (h : ∀ clause : Clause, name ≠ clause.name) (items : List Item) :
    Item.wrapNamed name items = .error (.unknown name) := by
  have hnone : Clause.ofName? name = none :=
    List.find?_eq_none.2 fun clause _ => by simpa using (h clause).symm
  rw [Item.wrapNamed, hnone]

/-! ### The agreement -/

/-- What it means that all ways to write a boolean block with the given clause agree. -/
structure BlocksAgree (clause : Clause) : Prop where
  /-- A configured block is read exactly when each of its items is. -/
  accepted {raws : List Value} {place : String} {v : Value} (h : WritesBlock clause.name raws place v)
      (key other : KeyPath) : (∃ i, item v key = .ok i) ↔ ∀ raw ∈ raws, ∃ i, item raw other = .ok i
  /-- It is read as what wraps its items. -/
  read {raws : List Value} {place : String} {v : Value} (h : WritesBlock clause.name raws place v)
      (key other : KeyPath) {i : Item} : item v key = .ok i ↔
        ∃ items, List.Forall₂ (fun raw i => item raw other = .ok i) raws items ∧
          Item.wrapNamed clause.name items = .ok i
  /-- If one of its items fails, all ways to write the block fail with one fault. -/
  failed {raws : List Value} {other : KeyPath} (h : ∃ raw ∈ raws, ∀ i, item raw other ≠ .ok i) :
      ∃ fault : ConfigError, ∀ {place : String} {v : Value}, WritesBlock clause.name raws place v → ∀ key,
        ∃ e, item v key = .error e ∧ e = fault.below (key.member place) ∧ e.errorClass = fault.errorClass
  /-- The body of the block and of the clauses in it. -/
  body {items : List Item} {bodies : List Value} (h : List.Forall₂ (fun i b => i.body = .ok b) items bodies) :
      ∃ block c, Item.wrapNamed clause.name items = .ok block ∧ block.value = .clauses c ∧
        block.body = .ok (.boolBlock clause bodies) ∧ c.body = .ok (.boolBlock clause bodies)
  /-- Inside other clauses, the block has the same body. -/
  embedded {items : List Item} {bodies : List Value} (h : List.Forall₂ (fun i b => i.body = .ok b) items bodies)
      {block : Item} (hblock : Item.wrapNamed clause.name items = .ok block) {c : Clauses}
      {outcome : Except QueryError Value} {path : List Value} (hembeds : Embeds c outcome path)
      (hc : ∀ outer, ∀ i ∈ c.get outer, ∃ b, i.body = .ok b) {outer : Clause} {n : Nat}
      (hn : (c.get outer)[n]? = some block) :
      ∃ whole listed, outcome = .ok whole ∧
        whole.at? (path ++ [.str "bool", .str outer.name]) = some (.list listed) ∧
          listed[n]? = some (.boolBlock clause bodies)

theorem WritesBlock.item_eq_ok_iff {clause : Clause} {raws : List Value} {place : String} {v : Value}
    (h : WritesBlock clause.name raws place v) (key other : KeyPath) {i : Item} :
    item v key = .ok i ↔ ∃ items, List.Forall₂ (fun raw i => item raw other = .ok i) raws items ∧
      Item.wrapNamed clause.name items = .ok i := by
  rw [h.item_of_clause]
  simp only [wrapNamed_name, Except.ok.injEq, ← itemsFrom_eq_ok_iff ((key.member place).member clause.name) other 0]
  cases itemsFrom raws ((key.member place).member clause.name) 0 with
  | ok items => simp [Functor.map, Except.map]
  | error e => simp [Functor.map, Except.map]

theorem WritesBlock.exists_item_iff {clause : Clause} {raws : List Value} {place : String} {v : Value}
    (h : WritesBlock clause.name raws place v) (key other : KeyPath) :
    (∃ i, item v key = .ok i) ↔ ∀ raw ∈ raws, ∃ i, item raw other = .ok i := by
  simp only [h.item_eq_ok_iff key other, wrapNamed_name, ← exists_forall₂_iff]
  constructor
  · rintro ⟨_, items, hitems, -⟩
    exact ⟨items, hitems⟩
  · rintro ⟨items, hitems⟩
    exact ⟨_, items, hitems, rfl⟩

theorem exists_fault_of_items {clause : Clause} {raws : List Value} {other : KeyPath}
    (h : ∃ raw ∈ raws, ∀ i, item raw other ≠ .ok i) :
    ∃ fault : ConfigError, ∀ {place : String} {v : Value}, WritesBlock clause.name raws place v → ∀ key,
      item v key = .error (fault.below (key.member place)) := by
  have hlocal : IsLocal fun key => Item.wrap clause <$> itemsFrom raws (key.member clause.name) 0 :=
    ((isLocal_itemsFrom (fun raw _ => (isLocal_of_value raw).1) 0).member clause.name).map _
  cases hhere : Item.wrap clause <$> itemsFrom raws (KeyPath.here.member clause.name) 0 with
  | ok i =>
    have hblock : WritesBlock clause.name raws _ _ := .block
    have hread := (hlocal.eq_ok_iff (KeyPath.here.member "bool") .here).2 hhere
    rw [← hblock.item_of_clause] at hread
    obtain ⟨raw, hraw, hfails⟩ := h
    obtain ⟨j, hj⟩ := (hblock.exists_item_iff .here other).1 ⟨i, hread⟩ raw hraw
    exact absurd hj (hfails j)
  | error fault =>
    refine ⟨fault, fun hv key => ?_⟩
    rw [hv.item_of_clause]
    refine (hlocal.eq_mapError (key.member _)).trans ?_
    rw [hhere]
    rfl

theorem blocksAgree (clause : Clause) : BlocksAgree clause where
  accepted h key other := h.exists_item_iff key other
  read h key other := h.item_eq_ok_iff key other
  failed h := by
    obtain ⟨fault, hfault⟩ := exists_fault_of_items h
    exact ⟨fault, fun hv key => ⟨_, hfault hv key, rfl, ConfigError.errorClass_below _ _⟩⟩
  body {items bodies} h := by
    refine ⟨_, _, wrapNamed_name clause items, rfl, ?_, Clauses.body_single clause h⟩
    rw [Item.body_wrap, Clauses.body_single clause h]
  embedded {items bodies} h block hblock c outcome path hembeds hc outer n hn := by
    rw [wrapNamed_name, Except.ok.injEq] at hblock
    refine hembeds.exists_getElem? hc hn ?_
    rw [← hblock, Item.body_wrap, Clauses.body_single clause h]

/-- **All ways to write a boolean block agree**, and a name that is none of a clause is refused by all of them, as a
wrong value. -/
theorem boolBlock_spellings_agree :
    (∀ clause, BlocksAgree clause) ∧
      ∀ name : String, (∀ clause : Clause, name ≠ clause.name) →
        (∀ items, ∃ e, Item.wrapNamed name items = .error e ∧ e.errorClass = .value) ∧
          ∀ {raws place v}, WritesBlock name raws place v → ∀ key,
            ∃ e, item v key = .error e ∧ e = .unknownClauses (key.member place) [name] ∧ e.errorClass = .value := by
  refine ⟨blocksAgree, fun name hname => ⟨fun items => ?_, fun {raws place v} h key => ?_⟩⟩
  · exact ⟨_, wrapNamed_unknown hname items, rfl⟩
  · refine ⟨_, ?_, rfl, rfl⟩
    rw [h.item_eq, clauses_unknown hname]
    rfl

/-- A spaced name in mixed case selects the operator, but the name of a clause has to be in lower case. -/
theorem boolBlock_spellings_agree_of_spaced_name :
    let inner : Value := .dict [(.str "bool", .dict [(.str "should", .list [])])]
    item (.dict [(.str "value", .dict [(.str "must_not", .list [inner])]), (.str "type", .str " Bool "),
        (.str "field", .str "bool")]) (.ofName "item") = .ok (Item.wrap .mustNot [Item.wrap .should []]) ∧
      ∃ e, item (.dict [(.str "bool", .dict [(.str "MUST", .list [inner])])]) (.ofName "item") = .error e ∧
        e.errorClass = .value := by
  intro inner
  have hinner : item inner .here = .ok (Item.wrap .should []) :=
    ((boolBlock_spellings_agree.1 .should).read .block _ .here).2 ⟨[], .nil, rfl⟩
  have hkeys : Entries.KeysAmong ["field", "type", "value"] [(.str "value", .dict [(.str "must_not", .list [inner])]),
      (.str "type", .str " Bool "), (.str "field", .str "bool")] := by
    simp [Entries.KeysAmong]
  have hblock : WritesBlock Clause.mustNot.name [inner] _ _ := .typed hkeys rfl (.inl ⟨_, rfl, by decide⟩) rfl
  refine ⟨((boolBlock_spellings_agree.1 .mustNot).read hblock _ .here).2 ⟨_, .cons hinner .nil, rfl⟩, ?_⟩
  have hname (clause : Clause) : "MUST" ≠ clause.name := by cases clause <;> decide
  obtain ⟨e, he, -, hclass⟩ := (boolBlock_spellings_agree.2 "MUST" hname).2 .block (.ofName "item")
  exact ⟨e, he, hclass⟩

end Config

end SearchRequest
