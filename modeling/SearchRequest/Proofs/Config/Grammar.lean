import SearchRequest.Proofs.Config.Document
import SearchRequest.Proofs.Config.Location
import SearchRequest.Proofs.Query.Tree

/-!
# The grammar of configured documents

What a configuration may write for a document, said without a word about reading: which keys a mapping has,
what stands under each of them, and how items and clauses go on inside each other (`Config.IsDocument`,
`Config.IsItem`, `Config.IsClauses`). `document_accepted_iff`: exactly the values of this grammar are read.

A type that is present is a name or a code, so null is none; every other entry that may be left out may also
be null. Truth values are no numbers, and no collection that is read contains itself.
-/

namespace SearchRequest

namespace Operator

theorem ofKey?_eq_some_iff {key : String} {op : Operator} : ofKey? key = some op ↔ key = op.key := by
  constructor
  · intro h
    have := List.find?_some h
    exact (beq_iff_eq.1 this).symm
  · rintro rfl
    exact ofKey?_key op

theorem key_injective : Function.Injective key := by
  intro a b h
  have hb := ofKey?_key b
  rwa [← h, ofKey?_key, Option.some.injEq] at hb

theorem ofCode?_eq_some_iff {n : Int} {op : Operator} : ofCode? n = some op ↔ n = op.code := by
  constructor
  · intro h
    exact (code_of_ofCode? h).symm
  · rintro rfl
    exact ofCode?_code op

end Operator

namespace Config

/-! ### The grammar -/

/-- The type of an item: left out, the name of an operator in any letter case and with blanks around it, or a
whole number. -/
inductive IsType : Option Value → Prop where
  | absent : IsType none
  | name {name : String} {op : Operator} (h : Text.lower (Text.strip name) = op.key) : IsType (some (.str name))
  | code (n : Int) : IsType (some (.int n))

/-- A type that selects an operator by its name or code. -/
def Selects (found : Option Value) (op : Operator) : Prop :=
  (∃ name, found = some (.str name) ∧ Text.lower (Text.strip name) = op.key) ∨ found = some (.int op.code)

mutual

/-- An item: a boolean block, or a mapping with a field and a value. Under a nested or boolean operator the
value is a clause mapping; under any other one it comes to an end. -/
inductive IsItem : Value → Prop where
  | block {v : Value} (h : IsClauses v) : IsItem (.dict [(.str "bool", v)])
  | leaf {entries : Entries} {field : String} {v : Value}
      (hkeys : entries.KeysAmong ["field", "type", "value"])
      (hfield : entries.find? "field" = some (.str field)) (htype : IsType (entries.find? "type"))
      (hvalue : entries.find? "value" = some v)
      (hclauses : Selects (entries.find? "type") .nested ∨ Selects (entries.find? "type") .bool → IsClauses v)
      (hends : ¬(Selects (entries.find? "type") .nested ∨ Selects (entries.find? "type") .bool) →
        v.isEndless = false) :
      IsItem (.dict entries)

/-- What stands under the name of a clause. -/
inductive IsItems : Value → Prop where
  | null : IsItems .null
  | list {xs : List Value} (h : ∀ x ∈ xs, IsItem x) : IsItems (.list xs)

/-- A clause mapping. -/
inductive IsClauses : Value → Prop where
  | dict {entries : Entries} (hkeys : entries.KeysAmong ["must", "must_not", "should", "filter"])
      (h : ∀ (clause : Clause) (v : Value), entries.find? clause.name = some v → IsItems v) :
      IsClauses (.dict entries)

end

/-- A sort directive: a field, or a mapping from one field to its direction. -/
inductive IsSortField : Value → Prop where
  | name (field : String) : IsSortField (.str field)
  | directed {field direction : String}
      (h : Text.lower direction = "asc" ∨ Text.lower direction = "desc") :
      IsSortField (.dict [(.str field, .str direction)])

/-- An entry that may be left out or null. -/
def MayHold (entries : Entries) (name : String) (P : Value → Prop) : Prop :=
  ∀ v, entries.find? name = some v → v = .null ∨ P v

/-- A document. -/
inductive IsDocument : Value → Prop where
  | dict {entries : Entries} {index : String}
      (hkeys : entries.KeysAmong
        ["index", "sort", "size", "from", "search_after", "must", "must_not", "should", "filter"])
      (hindex : entries.find? "index" = some (.str index)) (hnamed : Text.strip index ≠ "")
      (hsize : MayHold entries "size" fun v => ∃ n, v = .int n)
      (hfrom : MayHold entries "from" fun v => ∃ n, v = .int n)
      (hafter : MayHold entries "search_after" fun v => ∃ xs, v = .list xs ∧ Value.areEndless xs = false)
      (hsort : MayHold entries "sort" fun v => ∃ xs, v = .list xs ∧ ∀ x ∈ xs, IsSortField x)
      (hclauses : ∀ (clause : Clause) (v : Value), entries.find? clause.name = some v → IsItems v) :
      IsDocument (.dict entries)

/-! ### Types -/

theorem exists_readsKind_iff {found : Option Value} : (∃ kind, ReadsKind found kind) ↔ IsType found := by
  constructor
  · rintro ⟨kind, _ | h | n⟩
    · exact .absent
    · exact .name (Operator.ofKey?_eq_some_iff.1 h)
    · exact .code n
  · rintro (_ | h | n)
    · exact ⟨_, .absent⟩
    · exact ⟨_, .name (Operator.ofKey?_eq_some_iff.2 h)⟩
    · exact ⟨_, .code n⟩

theorem holdsClauses_operator {op : Operator} :
    holdsClauses (.operator op) = true ↔ op = .nested ∨ op = .bool := by
  cases op <;> simp [holdsClauses]

theorem holdsClauses_kindOfCode {n : Int} :
    holdsClauses (kindOfCode n) = true ↔ n = Operator.nested.code ∨ n = Operator.bool.code := by
  simp only [← Operator.ofCode?_eq_some_iff]
  rw [kindOfCode]
  split
  · next op h => rw [holdsClauses_operator, h, Option.some.injEq, Option.some.injEq]
  · next h => simp [h, holdsClauses]

theorem ReadsKind.holdsClauses_iff {found : Option Value} {kind : Kind} (h : ReadsKind found kind) :
    holdsClauses kind = true ↔ Selects found .nested ∨ Selects found .bool := by
  cases h with
  | absent => simp [holdsClauses, Selects]
  | name h =>
    simp [holdsClauses_operator, Selects, Operator.ofKey?_eq_some_iff.1 h, Operator.key_injective.eq_iff]
  | code n => simp [holdsClauses_kindOfCode, Selects]

/-! ### Items and clauses -/

theorem exists_item_iff {v : Value}
    (h : ∀ entries, v = .dict entries → ∀ entry ∈ entries, ∀ key,
      (∃ c, clauses entry.2 key = .ok c) ↔ IsClauses entry.2) (key : KeyPath) :
    (∃ i, item v key = .ok i) ↔ IsItem v := by
  simp only [item_eq_ok_iff]
  constructor
  · rintro ⟨i, hc | ⟨hkeys, hfield, hkind, hholds, hvalue, hc⟩ | ⟨hkeys, hfield, hkind, hholds, hvalue, hends⟩⟩
    · exact .block ((h _ rfl _ List.mem_cons_self _).1 ⟨_, hc⟩)
    · have hclauses := (h _ rfl _ (Entries.mem_of_find? hvalue) _).1 ⟨_, hc⟩
      exact .leaf hkeys hfield (exists_readsKind_iff.1 ⟨_, hkind⟩) hvalue (fun _ => hclauses)
        fun hselects => absurd (hkind.holdsClauses_iff.1 hholds) hselects
    · refine .leaf hkeys hfield (exists_readsKind_iff.1 ⟨_, hkind⟩) hvalue (fun hselects => ?_) fun _ => hends
      rw [hkind.holdsClauses_iff.2 hselects] at hholds
      cases hholds
  · rintro (hc | ⟨hkeys, hfield, htype, hvalue, hclauses, hends⟩)
    · obtain ⟨c, hc⟩ := (h _ rfl _ List.mem_cons_self (key.member "bool")).2 hc
      exact ⟨_, .block hc⟩
    · obtain ⟨kind, hkind⟩ := exists_readsKind_iff.2 htype
      cases hholds : holdsClauses kind with
      | true =>
        have hv := hclauses (hkind.holdsClauses_iff.1 hholds)
        obtain ⟨c, hc⟩ := (h _ rfl _ (Entries.mem_of_find? hvalue) (key.member "value")).2 hv
        exact ⟨_, .holder hkeys hfield hkind hholds hvalue hc⟩
      | false =>
        have hends := hends (mt hkind.holdsClauses_iff.2 (Bool.eq_false_iff.1 hholds))
        exact ⟨_, .leaf hkeys hfield hkind hholds hvalue hends⟩

theorem exists_itemsFrom_iff {xs : List Value} (h : ∀ x ∈ xs, ∀ key, (∃ i, item x key = .ok i) ↔ IsItem x)
    (key : KeyPath) (n : Nat) : (∃ is, itemsFrom xs key n = .ok is) ↔ ∀ x ∈ xs, IsItem x := by
  simp only [itemsFrom_eq_ok_iff key key n, exists_forall₂_iff]
  exact forall₂_congr fun x hx => h x hx key

theorem exists_items_iff {v : Value}
    (h : ∀ xs, v = .list xs → ∀ x ∈ xs, ∀ key, (∃ i, item x key = .ok i) ↔ IsItem x) (key : KeyPath) :
    (∃ is, items v key = .ok is) ↔ IsItems v := by
  cases v with
  | null => exact iff_of_true ⟨[], by rw [items]⟩ .null
  | list xs =>
    rw [items, exists_itemsFrom_iff (h xs rfl)]
    constructor
    · exact .list
    · rintro ⟨⟩
      assumption
  | _ =>
    refine iff_of_false ?_ (by rintro ⟨⟩)
    rintro ⟨_, ⟨⟩⟩

theorem exists_readItems?_iff {entries : Entries}
    (h : ∀ entry ∈ entries, ∀ key, (∃ is, items entry.2 key = .ok is) ↔ IsItems entry.2) (key : KeyPath)
    (name : String) :
    (∃ is, readItems? key (entries.find? name) = .ok is) ↔ ∀ v, entries.find? name = some v → IsItems v := by
  cases hfound : entries.find? name with
  | none => exact iff_of_true ⟨[], rfl⟩ (by simp)
  | some v => simp [readItems?, h _ (Entries.mem_of_find? hfound)]

theorem exists_readClauses_iff {entries : Entries}
    (h : ∀ entry ∈ entries, ∀ key, (∃ is, items entry.2 key = .ok is) ↔ IsItems entry.2) (key : KeyPath) :
    (∃ c, readClauses (readingsOf entries) key = .ok c) ↔
      ∀ (clause : Clause) (v : Value), entries.find? clause.name = some v → IsItems v := by
  simp only [readClauses_eq_ok_iff]
  exact Clauses.exists_forall_get.trans (forall_congr' fun clause => exists_readItems?_iff h _ clause.name)

theorem exists_clauses_iff {v : Value}
    (h : ∀ entries, v = .dict entries → ∀ entry ∈ entries, ∀ key,
      (∃ is, items entry.2 key = .ok is) ↔ IsItems entry.2) (key : KeyPath) :
    (∃ c, clauses v key = .ok c) ↔ IsClauses v := by
  simp only [clauses_eq_ok_iff, ← readClauses_eq_ok_iff]
  constructor
  · rintro ⟨c, entries, rfl, hkeys, hc⟩
    exact .dict hkeys ((exists_readClauses_iff (h _ rfl) key).1 ⟨c, hc⟩)
  · rintro (⟨hkeys, hc⟩)
    obtain ⟨c, hc⟩ := (exists_readClauses_iff (h _ rfl) key).2 hc
    exact ⟨c, _, rfl, hkeys, hc⟩

theorem exists_all_iff (v : Value) :
    (∀ key, (∃ i, item v key = .ok i) ↔ IsItem v) ∧ (∀ key, (∃ c, clauses v key = .ok c) ↔ IsClauses v) ∧
      ∀ key, (∃ is, items v key = .ok is) ↔ IsItems v := by
  induction v using Value.induction with
  | step v hlist hdict =>
    exact ⟨exists_item_iff fun entries hv entry hentry => (hdict entries hv entry hentry).2.1,
      exists_clauses_iff fun entries hv entry hentry => (hdict entries hv entry hentry).2.2,
      exists_items_iff fun xs hv x hx => (hlist xs hv x hx).1⟩

/-! ### Documents -/

theorem mayHold_iff {entries : Entries} {name : String} {P : Value → Prop} :
    MayHold entries name P ↔ valueOrNull entries name = .null ∨ P (valueOrNull entries name) := by
  rw [MayHold, valueOrNull]
  cases Entries.find? entries name <;> simp

theorem exists_optionalWhole_iff (key : KeyPath) {entries : Entries} {name : String} :
    (∃ w, optionalWhole key (valueOrNull entries name) = .ok w) ↔
      MayHold entries name fun v => ∃ n, v = .int n := by
  simp only [mayHold_iff, optionalWhole_eq_ok_iff, exists_eq_left']

theorem exists_cursor_iff (key : KeyPath) {entries : Entries} {name : String} :
    (∃ after, cursor key (valueOrNull entries name) = .ok after) ↔
      MayHold entries name fun v => ∃ xs, v = .list xs ∧ Value.areEndless xs = false := by
  simp only [mayHold_iff, cursor_eq_ok_iff]
  constructor
  · rintro ⟨after, ⟨hnull, -⟩ | ⟨xs, hxs, hends, -⟩⟩
    · exact .inl hnull
    · exact .inr ⟨xs, hxs, hends⟩
  · rintro (hnull | ⟨xs, hxs, hends⟩)
    · exact ⟨[], .inl ⟨hnull, rfl⟩⟩
    · exact ⟨_, .inr ⟨xs, hxs, hends, rfl⟩⟩

theorem exists_readsSortField_iff {v : Value} : (∃ s, ReadsSortField v s) ↔ IsSortField v := by
  constructor
  · rintro ⟨s, field | h⟩
    · exact .name field
    · exact .directed (by simpa [orders] using h)
  · rintro (field | h)
    · exact ⟨_, .name field⟩
    · exact ⟨_, .directed (by simpa [orders] using h)⟩

theorem exists_sortFields_iff (key : KeyPath) {entries : Entries} {name : String} :
    (∃ sort, sortFields key (valueOrNull entries name) = .ok sort) ↔
      MayHold entries name fun v => ∃ xs, v = .list xs ∧ ∀ x ∈ xs, IsSortField x := by
  simp only [mayHold_iff, sortFields_eq_ok_iff, ← exists_readsSortField_iff, ← exists_forall₂_iff]
  constructor
  · rintro ⟨sort, ⟨hnull, -⟩ | ⟨xs, hxs, hsort⟩⟩
    · exact .inl hnull
    · exact .inr ⟨xs, hxs, sort, hsort⟩
  · rintro (hnull | ⟨xs, hxs, sort, hsort⟩)
    · exact ⟨[], .inl ⟨hnull, rfl⟩⟩
    · exact ⟨sort, .inr ⟨xs, hxs, hsort⟩⟩

/-- **Exactly the values of the grammar are read as documents.** -/
theorem document_accepted_iff (v : Value) (key : KeyPath) : (∃ doc, document v key = .ok doc) ↔ IsDocument v := by
  simp only [document_eq_ok_iff]
  constructor
  · rintro ⟨doc, entries, rfl, hdoc⟩
    obtain ⟨index, hindex, hstrip⟩ := hdoc.index
    exact .dict hdoc.keys hindex (hstrip ▸ hdoc.named) ((exists_optionalWhole_iff _).1 ⟨_, hdoc.size⟩)
      ((exists_optionalWhole_iff _).1 ⟨_, hdoc.start⟩) ((exists_cursor_iff _).1 ⟨_, hdoc.searchAfter⟩)
      ((exists_sortFields_iff _).1 ⟨_, hdoc.sort⟩)
      ((exists_readClauses_iff (fun entry _ => (exists_all_iff entry.2).2.2) key).1
        ⟨_, readClauses_eq_ok_iff.2 hdoc.clauses⟩)
  · rintro (⟨hkeys, hindex, hnamed, hsize, hfrom, hafter, hsort, hclauses⟩)
    obtain ⟨size, hsize⟩ := (exists_optionalWhole_iff (key.member "size")).2 hsize
    obtain ⟨start, hstart⟩ := (exists_optionalWhole_iff (key.member "from")).2 hfrom
    obtain ⟨after, hafter⟩ := (exists_cursor_iff (key.member "search_after")).2 hafter
    obtain ⟨sort, hsort⟩ := (exists_sortFields_iff (key.member "sort")).2 hsort
    obtain ⟨c, hc⟩ := (exists_readClauses_iff (fun entry _ => (exists_all_iff entry.2).2.2) key).2 hclauses
    exact ⟨⟨_, c, sort, size, start, after⟩, _, rfl,
      ⟨hkeys, ⟨_, hindex, rfl⟩, hnamed, hafter, hsort, hsize, hstart, readClauses_eq_ok_iff.1 hc⟩⟩

end Config

end SearchRequest
