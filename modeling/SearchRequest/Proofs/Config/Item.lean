import SearchRequest.Config.Document
import SearchRequest.Proofs.Config.Entries

/-!
# Reading items and clauses

When an item, its clauses and the list of a clause are read, and as what. Each statement is about one level of
a value and says everything that success means there, so that proofs about whole values are inductions over
the value (`Value.induction`) or over the tree that is read.

* `Config.item_eq_ok_iff`: an item is read in one of three ways (`Config.ReadsItem`).
* `Config.clauses_eq_ok_iff`: clauses are read clause by clause from a mapping that has no other keys.
-/

namespace SearchRequest

/-! ### Induction -/

/-- **Induction over the values that lists and mappings lead to.** -/
theorem Value.induction {P : Value → Prop}
    (step : ∀ v, (∀ xs, v = .list xs → ∀ x ∈ xs, P x) →
      (∀ entries, v = .dict entries → ∀ entry ∈ entries, P entry.2) → P v) (v : Value) : P v := by
  have below : ∀ n, ∀ v : Value, sizeOf v < n → P v := by
    intro n
    induction n with
    | zero => exact fun _ h => absurd h (Nat.not_lt_zero _)
    | succ n ih =>
      refine fun v hv => step v (fun xs hxs x hx => ih x ?_) fun entries hentries entry hentry => ih _ ?_
      · subst hxs
        have := List.sizeOf_lt_of_mem hx
        simp only [Value.list.sizeOf_spec] at hv
        omega
      · subst hentries
        have := List.sizeOf_lt_of_mem hentry
        obtain ⟨k, w⟩ := entry
        simp only [Value.dict.sizeOf_spec, Prod.mk.sizeOf_spec] at hv this ⊢
        omega
  exact below _ v (Nat.lt_succ_self _)

namespace Config

/-! ### Checks -/

@[simp] theorem ensure_eq_ok {condition : Bool} {e : ConfigError} {u : Unit} :
    ensure condition e = .ok u ↔ condition = true := by
  cases condition <;> simp [ensure]

@[simp] theorem expectText_eq_ok {key : KeyPath} {v : Value} {s : String} :
    expectText key v = .ok s ↔ v = .str s := by
  cases v <;> simp [expectText]

@[simp] theorem expectWhole_eq_ok {key : KeyPath} {v : Value} {n : Int} :
    expectWhole key v = .ok n ↔ v = .int n := by
  cases v <;> simp [expectWhole]

@[simp] theorem expectList_eq_ok {key : KeyPath} {v : Value} {xs : List Value} :
    expectList key v = .ok xs ↔ v = .list xs := by
  cases v <;> simp [expectList]

@[simp] theorem expectMapping_eq_ok {key : KeyPath} {v : Value} {entries : Entries} :
    expectMapping key v = .ok entries ↔ v = .dict entries := by
  cases v <;> simp [expectMapping]

@[simp] theorem require_eq_ok {entries : Entries} {name : String} {key : KeyPath} {v : Value} :
    require entries name key = .ok v ↔ Entries.find? entries name = some v := by
  rw [require]
  split <;> simp_all

/-! ### Readings -/

/-- The ways in which a value can be read. -/
def reading (v : Value) : Reading := ⟨v, fun key => clauses v key, fun key => items v key⟩

theorem findReading?_readingsOf (entries : Entries) (name : String) :
    findReading? (readingsOf entries) name = (Entries.find? entries name).map reading := by
  induction entries with
  | nil => rfl
  | cons entry rest ih =>
    obtain ⟨k, v⟩ := entry
    rw [readingsOf, findReading?]
    by_cases hk : k = .str name
    · subst hk
      rw [if_pos (Value.sameKey_str_iff.2 rfl), Entries.find?_cons_self]
      rfl
    · rw [if_neg (mt Value.sameKey_str_iff.1 hk), ih, Entries.find?_cons_of_ne hk]

/-! ### Kinds -/

/-- The kind of a code: an operator where one has it. -/
def kindOfCode (n : Int) : Kind :=
  match Operator.ofCode? n with
  | some op => .operator op
  | none => .raw (.int n)

/-- The kind that the type of an item is read as. -/
inductive ReadsKind : Option Value → Kind → Prop where
  | absent : ReadsKind none (.operator .matches)
  | name {name : String} {op : Operator} (h : Operator.ofKey? (Text.lower (Text.strip name)) = some op) :
      ReadsKind (some (.str name)) (.operator op)
  | code (n : Int) : ReadsKind (some (.int n)) (kindOfCode n)

theorem operatorNamed_eq_ok {name : String} {op : Operator} :
    operatorNamed name = .ok op ↔ Operator.ofKey? (Text.lower (Text.strip name)) = some op := by
  rw [operatorNamed]
  split <;> simp_all

theorem readKind_eq_ok {key : KeyPath} {v : Value} {kind : Kind} :
    readKind key v = .ok kind ↔ ReadsKind (some v) kind := by
  cases v with
  | str name =>
    rw [readKind]
    constructor
    · intro h
      cases hnamed : operatorNamed name with
      | error e => rw [hnamed] at h; cases h
      | ok op =>
        rw [hnamed] at h
        cases h
        exact .name (operatorNamed_eq_ok.1 hnamed)
    · rintro ⟨⟩
      next h => rw [operatorNamed_eq_ok.2 h]; rfl
  | int n =>
    have hread : readKind key (.int n) = .ok (kindOfCode n) := by
      show (match Operator.ofCode? n with
        | some op => pure (Kind.operator op)
        | none => pure (Kind.raw (.int n))) = _
      rw [kindOfCode]
      split <;> rfl
    rw [hread, Except.ok.injEq]
    constructor
    · rintro rfl
      exact .code n
    · rintro ⟨⟩
      rfl
  | _ =>
    constructor
    · intro h
      cases h
    · rintro ⟨⟩

/-- The kind of an item by its type, which may be left out. -/
def readKind? (key : KeyPath) : Option Value → Read Kind
  | none => pure (.operator .matches)
  | some v => readKind key v

theorem readKind?_eq_ok {key : KeyPath} {found : Option Value} {kind : Kind} :
    readKind? key found = .ok kind ↔ ReadsKind found kind := by
  cases found with
  | none =>
    rw [readKind?, Outcome.pure_eq_ok]
    constructor
    · rintro rfl
      exact .absent
    · rintro ⟨⟩
      rfl
  | some v => exact readKind_eq_ok

/-! ### Items -/

theorem isWord_itemKeys : ∀ name ∈ itemKeys, Text.IsWord name := by
  decide

/-- An item and the value that it is read from. -/
inductive ReadsItem (key : KeyPath) : Value → Item → Prop where
  | block {v : Value} {c : Clauses} (hc : clauses v (key.member Operator.bool.key) = .ok c) :
      ReadsItem key (.dict [(.str Operator.bool.key, v)])
        (.mk Operator.bool.key (.clauses c) (.operator .bool))
  | holder {entries : Entries} {field : String} {kind : Kind} {v : Value} {c : Clauses}
      (hkeys : entries.KeysAmong itemKeys) (hfield : entries.find? "field" = some (.str field))
      (hkind : ReadsKind (entries.find? "type") kind) (hholds : holdsClauses kind = true)
      (hvalue : entries.find? "value" = some v) (hc : clauses v (key.member "value") = .ok c) :
      ReadsItem key (.dict entries) (.mk field (.clauses c) kind)
  | leaf {entries : Entries} {field : String} {kind : Kind} {v : Value}
      (hkeys : entries.KeysAmong itemKeys) (hfield : entries.find? "field" = some (.str field))
      (hkind : ReadsKind (entries.find? "type") kind) (hholds : holdsClauses kind = false)
      (hvalue : entries.find? "value" = some v) (hends : v.isEndless = false) :
      ReadsItem key (.dict entries) (.mk field v.isoDates.fixed kind)

/-- The item with a field and a kind, its value read as the kind wants it. -/
def itemOfKind (entries : Entries) (key : KeyPath) (field : String) (kind : Kind) : Read Item := do
  let v ← require entries "value" (key.member "value")
  if holdsClauses kind then do
    let c ← clauses v (key.member "value")
    pure (.mk field (.clauses c) kind)
  else do
    ensure (!v.isEndless) .endless
    pure (.mk field v.isoDates.fixed kind)

theorem readLeaf_readingsOf (entries : Entries) (key : KeyPath) :
    readLeaf entries (readingsOf entries) key = (do
      let unknown := unknownNames itemKeys entries
      ensure unknown.isEmpty (.unknownKeys key unknown)
      let field ← expectText (key.member "field") (← require entries "field" (key.member "field"))
      let kind ← readKind? (key.member "type") (entries.find? "type")
      itemOfKind entries key field kind) := by
  simp only [readLeaf, itemOfKind, require, findReading?_readingsOf]
  cases entries.find? "type" <;> cases entries.find? "value" <;> rfl

theorem itemOfKind_eq_ok {entries : Entries} {key : KeyPath} {field : String} {kind : Kind} {i : Item} :
    itemOfKind entries key field kind = .ok i ↔ ∃ v, entries.find? "value" = some v ∧
      if holdsClauses kind then ∃ c, clauses v (key.member "value") = .ok c ∧ .mk field (.clauses c) kind = i
      else v.isEndless = false ∧ .mk field v.isoDates.fixed kind = i := by
  simp only [itemOfKind, Outcome.bind_eq_ok, require_eq_ok]
  split
  · simp only [Outcome.bind_eq_ok, Outcome.pure_eq_ok]
  · simp only [Outcome.bind_eq_ok, Outcome.pure_eq_ok, ensure_eq_ok, Bool.not_eq_true', exists_const]

theorem readLeaf_eq_ok {entries : Entries} {key : KeyPath} {i : Item} :
    readLeaf entries (readingsOf entries) key = .ok i ↔
      entries.KeysAmong itemKeys ∧ ∃ field, entries.find? "field" = some (.str field) ∧
        ∃ kind, ReadsKind (entries.find? "type") kind ∧ itemOfKind entries key field kind = .ok i := by
  simp only [readLeaf_readingsOf, Outcome.bind_eq_ok, ensure_eq_ok, unknownNames_isEmpty_iff isWord_itemKeys,
    require_eq_ok, expectText_eq_ok, readKind?_eq_ok]
  constructor
  · rintro ⟨-, hkeys, _, hfield, field, rfl, kind, hkind, hi⟩
    exact ⟨hkeys, field, hfield, kind, hkind, hi⟩
  · rintro ⟨hkeys, field, hfield, kind, hkind, hi⟩
    exact ⟨(), hkeys, _, hfield, field, rfl, kind, hkind, hi⟩

theorem item_dict (entries : Entries) (key : KeyPath) :
    item (.dict entries) key =
      match entries.find? Operator.bool.key with
      | some v => do
        ensure (entries.length == 1) (.siblings key)
        let c ← clauses v (key.member Operator.bool.key)
        pure (.mk Operator.bool.key (.clauses c) (.operator .bool))
      | none => readLeaf entries (readingsOf entries) key := by
  rw [item, readItemEntries, findReading?_readingsOf]
  cases entries.find? Operator.bool.key <;> rfl

theorem item_of_keysAmong {entries : Entries} (h : entries.KeysAmong itemKeys) (key : KeyPath) :
    item (.dict entries) key = readLeaf entries (readingsOf entries) key := by
  rw [item_dict, h.find?_eq_none (by decide)]

/-- **An item is read in one of three ways.** -/
theorem item_eq_ok_iff {key : KeyPath} {v : Value} {i : Item} : item v key = .ok i ↔ ReadsItem key v i := by
  constructor
  · intro h
    cases v with
    | dict entries =>
      rw [item_dict] at h
      split at h
      · next v hbool =>
        simp only [Outcome.bind_eq_ok, ensure_eq_ok, beq_iff_eq, Outcome.pure_eq_ok] at h
        obtain ⟨-, hlength, c, hc, rfl⟩ := h
        obtain ⟨entry, rfl⟩ := List.length_eq_one_iff.1 hlength
        cases List.mem_singleton.1 (Entries.mem_of_find? hbool)
        exact .block hc
      · obtain ⟨hkeys, field, hfield, kind, hkind, hi⟩ := readLeaf_eq_ok.1 h
        obtain ⟨v, hvalue, hi⟩ := itemOfKind_eq_ok.1 hi
        split at hi
        · next hholds =>
          obtain ⟨c, hc, rfl⟩ := hi
          exact .holder hkeys hfield hkind hholds hvalue hc
        · next hholds =>
          obtain ⟨hends, rfl⟩ := hi
          exact .leaf hkeys hfield hkind (Bool.eq_false_iff.2 hholds) hvalue hends
    | _ => cases h
  · intro h
    cases h with
    | block hc =>
      rw [item_dict, Entries.find?_cons_self]
      simp only [hc]
      rfl
    | holder hkeys hfield hkind hholds hvalue hc =>
      rw [item_of_keysAmong hkeys, readLeaf_eq_ok]
      refine ⟨hkeys, _, hfield, _, hkind, itemOfKind_eq_ok.2 ⟨_, hvalue, ?_⟩⟩
      rw [if_pos hholds]
      exact ⟨_, hc, rfl⟩
    | leaf hkeys hfield hkind hholds hvalue hends =>
      rw [item_of_keysAmong hkeys, readLeaf_eq_ok]
      refine ⟨hkeys, _, hfield, _, hkind, itemOfKind_eq_ok.2 ⟨_, hvalue, ?_⟩⟩
      rw [if_neg (Bool.eq_false_iff.1 hholds)]
      exact ⟨hends, rfl⟩

/-! ### Clauses -/

theorem isWord_clauseNames : ∀ name ∈ clauseNames, Text.IsWord name := by
  decide

/-- The items of a clause that a mapping may leave out. -/
def readItems? (key : KeyPath) : Option Value → Read (List Item)
  | none => pure []
  | some v => items v key

theorem readClause_readingsOf (entries : Entries) (key : KeyPath) (clause : Clause) :
    readClause (readingsOf entries) key clause =
      readItems? (key.member clause.name) (entries.find? clause.name) := by
  rw [readClause, findReading?_readingsOf]
  cases entries.find? clause.name <;> rfl

theorem readClauses_eq_ok_iff {entries : Entries} {key : KeyPath} {c : Clauses} :
    readClauses (readingsOf entries) key = .ok c ↔
      ∀ clause : Clause, readItems? (key.member clause.name) (entries.find? clause.name) = .ok (c.get clause) := by
  simp only [readClauses, readClause_readingsOf, Outcome.bind_eq_ok, Outcome.pure_eq_ok]
  constructor
  · rintro ⟨must, hmust, mustNot, hmustNot, should, hshould, filter, hfilter, rfl⟩ clause
    cases clause <;> assumption
  · intro h
    exact ⟨_, h .must, _, h .mustNot, _, h .should, _, h .filter, Clauses.ext_get fun clause => by cases clause <;> rfl⟩

/-- **Clauses are read clause by clause** from a mapping that has no other keys. -/
theorem clauses_eq_ok_iff {key : KeyPath} {v : Value} {c : Clauses} :
    clauses v key = .ok c ↔ ∃ entries : Entries, v = .dict entries ∧ entries.KeysAmong clauseNames ∧
      ∀ clause : Clause, readItems? (key.member clause.name) (entries.find? clause.name) = .ok (c.get clause) := by
  cases v with
  | dict entries =>
    rw [clauses]
    simp only [Outcome.bind_eq_ok, ensure_eq_ok, unknownNames_isEmpty_iff isWord_clauseNames,
      readClauses_eq_ok_iff]
    constructor
    · rintro ⟨-, hkeys, h⟩
      exact ⟨entries, rfl, hkeys, h⟩
    · rintro ⟨_, ⟨⟩, hkeys, h⟩
      exact ⟨(), hkeys, h⟩
  | _ =>
    constructor
    · intro h
      cases h
    · rintro ⟨_, ⟨⟩, -⟩

end Config

end SearchRequest
