import SearchRequest.Proofs.Config.Document
import SearchRequest.Proofs.Config.Expressible
import SearchRequest.Proofs.Config.Location
import SearchRequest.Proofs.Config.Spelling

/-!
# Written documents

The ways in which a configuration can write a document (`Config.WritesDocument`): the kind of an item by name
or code, a boolean query as a block or as an item of its type, a list that is empty left out or null. The proof
has two halves that meet at this relation. Reading gives the document back from whatever way it is written in,
by induction over the query tree, and there always is a way, the plainest one (`Document.toConfig`).
-/

namespace SearchRequest

namespace Config

/-! ### The ways to write -/

/-- The type of an item: a name in any letter case and with blanks around it, or a code. A match may be left
out. -/
inductive WritesKind (kind : Kind) : Option Value → Prop where
  | absent (h : kind.operator? = some .matches) : WritesKind kind none
  | name {op : Operator} {s : String} (hop : kind.operator? = some op) (hs : Text.Spells op.key s) :
      WritesKind kind (some (.str s))
  | code {n : Int} (h : kind.toValue = .int n) : WritesKind kind (some (.int n))

/-- A list element by element; one without elements may be left out or null. -/
inductive WritesList {α : Type} (R : α → Value → Prop) : List α → Option Value → Prop where
  | absent : WritesList R [] none
  | null : WritesList R [] (some .null)
  | list {as : List α} {xs : List Value} (h : List.Forall₂ R as xs) : WritesList R as (some (.list xs))

mutual

/-- An item: a boolean block, or a mapping of field, type and value. -/
inductive WritesItem : Item → Value → Prop where
  | block {c : Clauses} {kind : Kind} {v : Value} (hkind : kind.operator? = some .bool)
      (hc : WritesClauses c v) : WritesItem (.mk "bool" (.clauses c) kind) (.dict [(.str "bool", v)])
  | mapping {field : String} {value : Value} {kind : Kind} {entries : Entries} {v : Value}
      (hkeys : entries.KeysAmong ["field", "type", "value"])
      (hfield : entries.find? "field" = some (.str field)) (hkind : WritesKind kind (entries.find? "type"))
      (hfound : entries.find? "value" = some v) (hvalue : WritesValue value v) :
      WritesItem (.mk field value kind) (.dict entries)

/-- The value of an item: a clause mapping, or the value itself, a tuple as a list. -/
inductive WritesValue : Value → Value → Prop where
  | clauses {c : Clauses} {v : Value} (hc : WritesClauses c v) : WritesValue (.clauses c) v
  | plain {value : Value} (h : value.isHeld = true) : WritesValue value value.plain

inductive WritesClauses : Clauses → Value → Prop where
  | dict {c : Clauses} {entries : Entries}
      (hkeys : entries.KeysAmong ["must", "must_not", "should", "filter"])
      (h : ∀ clause : Clause, WritesList WritesItem (c.get clause) (entries.find? clause.name)) :
      WritesClauses c (.dict entries)

end

/-- A sort directive: the field, where it is sorted upwards, or a mapping from it to the order in any letter
case. -/
inductive WritesSortField : SortField → Value → Prop where
  | name (field : String) : WritesSortField ⟨field, "asc"⟩ (.str field)
  | directed {s : SortField} {direction : String} (h : Text.IsCased s.order direction) :
      WritesSortField s (.dict [(.str s.field, .str direction)])

/-- A value that may be left out when it is null. -/
def WritesOptional (value : Value) (found : Option Value) : Prop := found.getD .null = value

/-- A document: its entries in any order. -/
inductive WritesDocument (doc : Document) : Value → Prop where
  | dict {entries : Entries}
      (hkeys : entries.KeysAmong
        ["index", "sort", "size", "from", "search_after", "must", "must_not", "should", "filter"])
      (hindex : entries.find? "index" = some (.str doc.index))
      (hsort : WritesList WritesSortField doc.sort (entries.find? "sort"))
      (hsize : WritesOptional doc.size (entries.find? "size"))
      (hfrom : WritesOptional doc.start (entries.find? "from"))
      (hafter : WritesList Eq doc.searchAfter (entries.find? "search_after"))
      (hclauses : ∀ clause : Clause,
        WritesList WritesItem (doc.clauses.get clause) (entries.find? clause.name)) :
      WritesDocument doc (.dict entries)

/-! ### Reading what is written -/

theorem isWord_key (op : Operator) : Text.IsWord op.key ∧ op.key ≠ "" := by
  cases op <;> decide

theorem kindOfCode_eq_resolved {kind : Kind} {n : Int} (h : kind.toValue = .int n) :
    kindOfCode n = kind.resolved := by
  cases kind with
  | operator op =>
    cases h
    rw [kindOfCode, Operator.ofCode?_code]
    rfl
  | raw v =>
    cases h
    rfl

theorem WritesKind.reads {kind : Kind} {found : Option Value} (h : WritesKind kind found) :
    ReadsKind found kind.resolved := by
  cases h with
  | absent h =>
    rw [Kind.resolved_of_operator? h]
    exact .absent
  | @name op s hop hs =>
    rw [Kind.resolved_of_operator? hop]
    refine .name ?_
    rw [Text.lower_strip_of_spells (isWord_key op).1 (isWord_key op).2 hs, Operator.ofKey?_key]
  | code h =>
    rw [← kindOfCode_eq_resolved h]
    exact .code _

theorem holdsClauses_resolved {kind : Kind} :
    holdsClauses kind.resolved = true ↔ kind.operator? = some .nested ∨ kind.operator? = some .bool := by
  cases hop : kind.operator? with
  | none =>
    rw [Kind.resolved, hop]
    cases kind with
    | operator op => cases hop
    | raw v => simp [holdsClauses]
  | some op =>
    rw [Kind.resolved_of_operator? hop]
    cases op <;> simp [holdsClauses]

theorem itemsFrom_of_forall₂ {is : List Item} {xs : List Value}
    (h : List.Forall₂ (fun i x => ∀ key, item x key = .ok i.resolved) is xs) (key : KeyPath) (n : Nat) :
    itemsFrom xs key n = .ok (is.map Item.resolved) := by
  rw [itemsFrom_eq_ok_iff key key n, List.forall₂_map_right_iff]
  exact h.flip.imp fun _ _ hi => hi key

theorem readItems?_of_written {is : List Item} {found : Option Value}
    (h : WritesList (fun i x => ∀ key, item x key = .ok i.resolved) is found) (key : KeyPath) :
    readItems? key found = .ok (is.map Item.resolved) := by
  cases h with
  | absent => rfl
  | null => rw [readItems?, items, List.map_nil]
  | list h => rw [readItems?, items, itemsFrom_of_forall₂ h]

theorem WritesList.imp_of_mem {α : Type} {R S : α → Value → Prop} {as : List α} {found : Option Value}
    (h : WritesList R as found) (himp : ∀ a ∈ as, ∀ x, R a x → S a x) : WritesList S as found := by
  cases h with
  | absent => exact .absent
  | null => exact .null
  | list h => exact .list (((List.forall₂_and_left _ _).2 ⟨himp, h⟩).imp fun a x h => h.1 x h.2)

/-- **A written item or set of clauses is read back**, with its kinds resolved. -/
theorem read_of_written :
    (∀ i : Item, i.IsExpressible → ∀ v, WritesItem i v → ∀ key, item v key = .ok i.resolved) ∧
      ∀ c : Clauses, c.IsExpressible → ∀ v, WritesClauses c v → ∀ key, clauses v key = .ok c.resolved := by
  refine Clauses.induction (fun field value kind ih hi v hv key => ?_) fun c ih hc v hv key => ?_
  · rw [item_eq_ok_iff]
    cases hv with
    | block hkind hc =>
      rw [Item.resolved, Value.resolved, Kind.resolved_of_operator? hkind]
      exact .block (ih _ rfl hi.clauses.2 _ hc _)
    | mapping hkeys hfield hkind hfound hvalue =>
      cases hvalue with
      | clauses hc =>
        obtain ⟨hholds, hexpressible⟩ := hi.clauses
        exact .holder hkeys hfield hkind.reads (holdsClauses_resolved.2 hholds) hfound
          (ih _ rfl hexpressible _ hc _)
      | plain hheld =>
        cases hi with
        | holder => cases hheld
        | leaf _ hnested hbool =>
          have hholds : holdsClauses kind.resolved = false := by
            rw [Bool.eq_false_iff]
            exact fun h => (holdsClauses_resolved.1 h).elim hnested hbool
          rw [Item.resolved, Value.resolved_of_isHeld hheld, ← Value.fixed_isoDates_plain hheld]
          exact .leaf hkeys hfield hkind.reads hholds hfound (Value.isEndless_plain hheld)
  · obtain ⟨hexpressible⟩ := hc
    obtain ⟨hkeys, h⟩ := hv
    refine clauses_eq_ok_iff.2 ⟨_, rfl, hkeys, fun clause => ?_⟩
    rw [Clauses.get_resolved]
    exact readItems?_of_written ((h clause).imp_of_mem fun i hi => ih clause i hi (hexpressible clause i hi)) _

/-! ### Documents -/

theorem sortField_of_written {s : SortField} {v : Value} (horder : s.order = "asc" ∨ s.order = "desc")
    (h : WritesSortField s v) : ReadsSortField v s := by
  cases h with
  | name field => exact .name field
  | @directed s direction h =>
    have hlower : Text.lower direction = s.order :=
      Text.lower_of_isCased (by rcases horder with h | h <;> rw [h] <;> decide) h
    have hread : ReadsSortField _ ⟨s.field, Text.lower direction⟩ :=
      .directed (by rw [hlower]; simpa [orders] using horder)
    rwa [hlower] at hread

theorem sortFields_of_written {sort : List SortField} {found : Option Value}
    (horder : ∀ s ∈ sort, s.order = "asc" ∨ s.order = "desc") (h : WritesList WritesSortField sort found)
    (key : KeyPath) : sortFields key (found.getD .null) = .ok sort := by
  rw [sortFields_eq_ok_iff]
  cases h with
  | absent => exact .inl ⟨rfl, rfl⟩
  | null => exact .inl ⟨rfl, rfl⟩
  | list h =>
    refine .inr ⟨_, rfl, List.Forall₂.flip ?_⟩
    exact ((List.forall₂_and_left _ _).2 ⟨horder, h⟩).imp fun s v h => sortField_of_written h.1 h.2

theorem cursor_of_written {after : List Value} {found : Option Value} (hplain : Value.isPlainList after = true)
    (h : WritesList Eq after found) (key : KeyPath) : cursor key (found.getD .null) = .ok after := by
  rw [cursor_eq_ok_iff]
  cases h with
  | absent => exact .inl ⟨rfl, rfl⟩
  | null => exact .inl ⟨rfl, rfl⟩
  | list h =>
    rw [List.forall₂_eq_eq_eq] at h
    subst h
    exact .inr ⟨_, rfl, Value.areEndless_of_isPlain _ hplain, Value.isoDatesList_of_isPlain _ hplain⟩

theorem optionalWhole_of_written {value : Value} {found : Option Value}
    (hwhole : value = .null ∨ ∃ n, value = .int n) (h : WritesOptional value found) (key : KeyPath) :
    optionalWhole key (found.getD .null) = .ok value :=
  optionalWhole_eq_ok_iff.2 ⟨h, hwhole⟩

theorem document_of_written {doc : Document} {v : Value} (hdoc : doc.IsExpressible) (h : WritesDocument doc v)
    (key : KeyPath) : document v key = .ok doc.resolved := by
  obtain ⟨hkeys, hindex, hsort, hsize, hfrom, hafter, hclauses⟩ := h
  obtain ⟨hexpressible⟩ := hdoc.clauses
  refine document_eq_ok_iff.2 ⟨_, rfl, {
    keys := hkeys
    index := ⟨_, hindex, hdoc.stripped⟩
    named := hdoc.named
    searchAfter := cursor_of_written hdoc.searchAfter hafter _
    sort := sortFields_of_written hdoc.order hsort _
    size := optionalWhole_of_written hdoc.size hsize _
    start := optionalWhole_of_written hdoc.start hfrom _
    clauses := fun clause => ?_ }⟩
  rw [Document.resolved, Clauses.get_resolved]
  exact readItems?_of_written
    ((hclauses clause).imp_of_mem fun i hi => read_of_written.1 i (hexpressible clause i hi)) _

end Config

/-! ### The plainest way to write -/

mutual

/-- An item with its field, type and value, the type as a code. -/
def Item.toConfig : Item → Value
  | .mk field value kind =>
    .dict [(.str "field", .str field), (.str "type", kind.toValue), (.str "value", value.toConfig)]

def Value.toConfig : Value → Value
  | .clauses c => .dict c.toEntries
  | v => v.plain

def Item.toConfigs : List Item → List Value
  | [] => []
  | i :: is => i.toConfig :: Item.toConfigs is

/-- The entries of all clauses, the empty ones too. -/
def Clauses.toEntries : Clauses → List (Value × Value)
  | .mk must mustNot should filter =>
    [(.str "must", .list (Item.toConfigs must)), (.str "must_not", .list (Item.toConfigs mustNot)),
      (.str "should", .list (Item.toConfigs should)), (.str "filter", .list (Item.toConfigs filter))]

end

def SortField.toConfig (s : SortField) : Value := .dict [(.str s.field, .str s.order)]

/-- A document with all its entries. -/
def Document.toEntries (doc : Document) : Entries :=
  [(.str "index", .str doc.index), (.str "sort", .list (doc.sort.map SortField.toConfig)),
    (.str "size", doc.size), (.str "from", doc.start), (.str "search_after", .list doc.searchAfter)] ++
      doc.clauses.toEntries

def Document.toConfig (doc : Document) : Value := .dict doc.toEntries

namespace Config

theorem forall₂_toConfigs {is : List Item} (h : ∀ i ∈ is, WritesItem i i.toConfig) :
    List.Forall₂ WritesItem is (Item.toConfigs is) := by
  induction is with
  | nil => exact .nil
  | cons i is ih =>
    rw [List.forall_mem_cons] at h
    exact .cons h.1 (ih h.2)

theorem writesList_find?_toEntries {c : Clauses} (h : ∀ clause, ∀ i ∈ c.get clause, WritesItem i i.toConfig)
    (clause : Clause) : WritesList WritesItem (c.get clause) (Entries.find? c.toEntries clause.name) := by
  obtain ⟨must, mustNot, should, filter⟩ := c
  cases clause with
  | must => exact .list (forall₂_toConfigs (h .must))
  | mustNot => exact .list (forall₂_toConfigs (h .mustNot))
  | should => exact .list (forall₂_toConfigs (h .should))
  | filter => exact .list (forall₂_toConfigs (h .filter))

theorem keysAmong_toEntries (c : Clauses) :
    Entries.KeysAmong ["must", "must_not", "should", "filter"] c.toEntries := by
  obtain ⟨must, mustNot, should, filter⟩ := c
  simp [Entries.KeysAmong, Clauses.toEntries]

theorem writesKind_toValue {kind : Kind} {n : Int} (h : kind.toValue = .int n) :
    WritesKind kind (some kind.toValue) := by
  rw [h]
  exact .code h

theorem writesValue_toConfig_of_isHeld {value : Value} (h : value.isHeld = true) :
    WritesValue value value.toConfig := by
  have hplain : value.toConfig = value.plain := by
    cases value with
    | clauses c => cases h
    | _ => rfl
  rw [hplain]
  exact .plain h

theorem writesItem_toConfig {field : String} {value : Value} {kind : Kind} {n : Int}
    (hkind : kind.toValue = .int n) (hvalue : WritesValue value value.toConfig) :
    WritesItem (.mk field value kind) (Item.mk field value kind).toConfig := by
  rw [Item.toConfig]
  exact .mapping (by simp [Entries.KeysAmong]) rfl (writesKind_toValue hkind) rfl hvalue

theorem writes_toConfig :
    (∀ i : Item, i.IsExpressible → WritesItem i i.toConfig) ∧
      ∀ c : Clauses, c.IsExpressible → WritesClauses c (.dict c.toEntries) := by
  refine Clauses.induction (fun field value kind ih hi => ?_) fun c ih hc => ?_
  · cases hi with
    | leaf hkind _ _ hvalue => exact writesItem_toConfig hkind (writesValue_toConfig_of_isHeld hvalue)
    | holder hkind hc =>
      have hvalue := WritesValue.clauses (ih _ rfl hc)
      rcases hkind with hop | hop
      · exact writesItem_toConfig (Kind.operator?_eq_some_iff.1 hop) hvalue
      · exact writesItem_toConfig (Kind.operator?_eq_some_iff.1 hop) hvalue
  · obtain ⟨h⟩ := hc
    exact .dict (keysAmong_toEntries c)
      (writesList_find?_toEntries fun clause i hi => ih clause i hi (h clause i hi))

theorem find?_toEntries (doc : Document) (clause : Clause) :
    Entries.find? doc.toEntries clause.name = Entries.find? doc.clauses.toEntries clause.name := by
  cases clause <;> rfl

theorem writesSortField_toConfig {s : SortField} (h : s.order = "asc" ∨ s.order = "desc") :
    WritesSortField s s.toConfig := by
  refine .directed ?_
  rcases h with h | h <;> rw [h] <;> decide

theorem writesDocument_toConfig {doc : Document} (h : doc.IsExpressible) : WritesDocument doc doc.toConfig := by
  obtain ⟨hclauses⟩ := h.clauses
  have hkeys : Entries.KeysAmong
      ["index", "sort", "size", "from", "search_after", "must", "must_not", "should", "filter"]
      doc.toEntries := by
    intro entry hentry
    rcases List.mem_append.1 hentry with hentry | hentry
    · simp only [List.mem_cons, List.not_mem_nil, or_false] at hentry
      rcases hentry with rfl | rfl | rfl | rfl | rfl <;> exact ⟨_, by simp, rfl⟩
    · obtain ⟨name, hname, hentry⟩ := keysAmong_toEntries doc.clauses entry hentry
      exact ⟨name, by simp at hname ⊢; tauto, hentry⟩
  have hsort : List.Forall₂ WritesSortField doc.sort (doc.sort.map SortField.toConfig) :=
    List.forall₂_map_right_iff.2 (List.forall₂_same.2 fun s hs => writesSortField_toConfig (h.order s hs))
  refine .dict hkeys rfl (.list hsort) rfl rfl (.list (List.forall₂_refl _)) fun clause => ?_
  rw [find?_toEntries]
  exact writesList_find?_toEntries (fun clause i hi => writes_toConfig.1 i (hclauses clause i hi)) clause

/-- **Reading a configuration builds the document that it writes.** A document that a configuration can express
has a way to be written, and every way to write it is read as the document, with the codes of operators resolved
to these, and with the same body. -/
theorem document_reads_back {doc : Document} (h : doc.IsExpressible) :
    WritesDocument doc doc.toConfig ∧ doc.resolved.body = doc.body ∧
      ∀ v, WritesDocument doc v → ∀ key, document v key = .ok doc.resolved :=
  ⟨writesDocument_toConfig h, Document.body_resolved h, fun _ hv => document_of_written h hv⟩

/-- A boolean block in a nested query that is named with a capital and blanks, a match without a type, a known
and an unknown code, and clauses left out and null. -/
theorem document_reads_back_of_spellings :
    let doc : Document := ⟨"posts",
      .mk [.mk "title" (.str "Search") (.operator .matches), .mk "id" (.tuple [.list [.int 1]]) (.raw (.int 2)),
          .mk "id" .null (.raw (.int 99))] [] []
        [.mk "comments" (.clauses (.single .mustNot [.mk "bool" (.clauses .empty) (.operator .bool)]))
          (.operator .nested)],
      [⟨"id", "desc"⟩, ⟨"date", "asc"⟩], .int 5, .null, []⟩
    let block : Value := .dict [(.str "bool", .dict [(.str "should", .null)])]
    let v : Value := .dict [
      (.str "filter", .list [.dict [(.str "type", .str " Nested	"),
        (.str "value", .dict [(.str "must_not", .list [block])]), (.str "field", .str "comments")]]),
      (.str "must", .list [.dict [(.str "field", .str "title"), (.str "value", .str "Search")],
        .dict [(.str "field", .str "id"), (.str "type", .int 2), (.str "value", .list [.list [.int 1]])],
        .dict [(.str "field", .str "id"), (.str "type", .int 99), (.str "value", .null)]]),
      (.str "size", .int 5), (.str "sort", .list [.dict [(.str "id", .str "Desc")], .str "date"]),
      (.str "index", .str "posts"), (.str "search_after", .null)]
    doc.IsExpressible ∧ WritesDocument doc v ∧ document v (.ofName "queries") = .ok doc.resolved := by
  intro doc block v
  have hempty : Clauses.IsExpressible .empty := .of fun clause i hi => by cases clause <;> cases hi
  have hnested : (Item.mk "comments" (.clauses (.single .mustNot [.mk "bool" (.clauses .empty)
      (.operator .bool)])) (.operator .nested)).IsExpressible := by
    refine .holder (.inl rfl) (.of fun clause i hi => ?_)
    cases clause with
    | mustNot =>
      cases List.mem_singleton.1 hi
      exact .holder (.inr rfl) hempty
    | _ => cases hi
  have hexpressible : doc.IsExpressible := {
    named := by decide
    stripped := by decide
    order := by simp [doc]
    size := .inr ⟨5, rfl⟩
    start := .inl rfl
    searchAfter := rfl
    clauses := by
      refine .of fun clause i hi => ?_
      cases clause with
      | must =>
        simp only [doc, Clauses.get, List.mem_cons, List.not_mem_nil, or_false] at hi
        rcases hi with rfl | rfl | rfl
        · exact .leaf rfl (by decide) (by decide) rfl
        · exact .leaf rfl (by decide) (by decide) rfl
        · exact .leaf rfl (by decide) (by decide) rfl
      | filter =>
        cases List.mem_singleton.1 hi
        exact hnested
      | _ => cases hi }
  have hblock : WritesItem (.mk "bool" (.clauses .empty) (.operator .bool)) block := by
    refine .block rfl (.dict (by simp [Entries.KeysAmong]) fun clause => ?_)
    cases clause with
    | should => exact .null
    | _ => exact .absent
  have hname : WritesKind (.operator .nested) (some (.str " Nested\t")) :=
    .name rfl ⟨[' '], "Nested".toList, ['\t'], by decide, List.forall_mem_singleton.2 rfl,
      List.forall_mem_singleton.2 rfl, by decide⟩
  have hwrites : WritesDocument doc v := by
    refine .dict (by simp [Entries.KeysAmong]) rfl
      (.list (.cons (.directed (by decide)) (.cons (.name _) .nil))) rfl rfl .null fun clause => ?_
    cases clause with
    | must =>
      exact .list (.cons (.mapping (by simp [Entries.KeysAmong]) rfl (.absent rfl) rfl (.plain rfl))
        (.cons (.mapping (by simp [Entries.KeysAmong]) rfl (.code rfl) rfl (.plain rfl))
          (.cons (.mapping (by simp [Entries.KeysAmong]) rfl (.code rfl) rfl (.plain rfl)) .nil)))
    | filter =>
      refine .list (.cons (.mapping (by simp [Entries.KeysAmong]) rfl hname rfl
        (.clauses (.dict (by simp [Entries.KeysAmong]) fun clause => ?_))) .nil)
      cases clause with
      | mustNot => exact .list (.cons hblock .nil)
      | _ => exact .absent
    | _ => exact .absent
  exact ⟨hexpressible, hwrites, (document_reads_back hexpressible).2.2 v hwrites _⟩

end Config

end SearchRequest
