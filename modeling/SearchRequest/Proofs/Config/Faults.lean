import SearchRequest.Proofs.Config.Grammar

/-!
# Where a configuration is at fault

Which entries of a value the reading of a document or an item checks, and what each of them has to be
(`Config.Spot`), without a word about reading: an entry stands below a value, one member or one position away
(`Config.Part`), and is at fault for a reason (`Config.Faulty`), also at any depth (`Config.FaultAt`).

`Config.errors_say_where`: an error is about an entry at fault, and its message has the key path that starts with the
path of the value and goes on with the steps from there to the entry. One fault is reported without its path, a type
whose name selects no operator (`Config.unknown_operator_says_nowhere`).
-/

namespace SearchRequest

namespace KeyPath

/-- A path with more steps behind its own. -/
def extend (key : KeyPath) (steps : List KeyStep) : KeyPath := ⟨key.root, key.steps ++ steps⟩

theorem extend_nil (key : KeyPath) : key.extend [] = key := by
  rw [extend, List.append_nil]

theorem extend_extend (key : KeyPath) (steps more : List KeyStep) :
    (key.extend steps).extend more = key.extend (steps ++ more) := by
  rw [extend, extend, extend, List.append_assoc]

theorem text_extend (key : KeyPath) (steps : List KeyStep) :
    (key.extend steps).text = key.text ++ String.join (steps.map KeyStep.text) := by
  rw [text, text, extend, List.map_append, String.join_append, String.append_assoc]

end KeyPath

namespace ConfigError

/-- The path that the message of an error has. -/
def key? : ConfigError → Option KeyPath
  | .missing key | .wrongType key _ | .unknownKeys key _ | .unknownClauses key _ | .blank key | .siblings key
  | .notOneField key | .notAmong key _ => some key
  | .unknownOperator _ | .noQueries | .rootNotMapping | .endless => none

theorem isInfix_message {e : ConfigError} {key : KeyPath} (h : e.key? = some key) :
    key.text.toList <:+: e.message.toList := by
  have hfirst (text after : String) : text.toList <:+: (text ++ after).toList := by
    rw [String.toList_append]
    exact (List.prefix_append _ _).isInfix
  have hlast (before text : String) : text.toList <:+: (before ++ text).toList := by
    rw [String.toList_append]
    exact (List.suffix_append _ _).isInfix
  cases e with
  | missing => exact Option.some.inj h ▸ hlast _ _
  | unknownOperator | noQueries | rootNotMapping | endless => cases h
  | wrongType | unknownKeys | unknownClauses | notAmong =>
    cases h
    unfold message
    dsimp only
    rw [String.append_assoc]
    exact hfirst _ _
  | blank | siblings | notOneField => exact Option.some.inj h ▸ hfirst _ _

end ConfigError

namespace Config

/-! ### Entries -/

/-- The values that the reading of a document or an item checks. -/
inductive Spot where
  | document
  | item
  | clauses
  | items
  | index
  | field
  | kind
  | page
  | cursor
  | sort
  | sortField
  | direction

namespace Spot

/-- The type that a value at a spot has to have, as messages give it. -/
def expected : Spot → Expected
  | document | item | clauses | sortField => .mapping
  | items | cursor | sort => .list
  | index | field | direction => .text
  | kind | page => .whole

/-- Whether a value at a spot has the right type. Lists and pages may be null as well, kinds may be names, and sort
directives may be fields. -/
def admits : Spot → Value → Bool
  | document, .dict _ | item, .dict _ | clauses, .dict _ | sortField, .dict _ => true
  | items, .list _ | cursor, .list _ | sort, .list _ => true
  | index, .str _ | field, .str _ | direction, .str _ => true
  | kind, .int _ | page, .int _ => true
  | items, .null | cursor, .null | sort, .null | page, .null => true
  | kind, .str _ | sortField, .str _ => true
  | _, _ => false

end Spot

/-- What stands under a name in a mapping at a spot. A mapping with an entry `bool` is a boolean block. -/
inductive Under (entries : Entries) : Spot → String → Spot → Prop where
  | index : Under entries .document "index" .index
  | after : Under entries .document "search_after" .cursor
  | sort : Under entries .document "sort" .sort
  | size : Under entries .document "size" .page
  | start : Under entries .document "from" .page
  | documentClause (clause : Clause) : Under entries .document clause.name .items
  | clause (clause : Clause) : Under entries .clauses clause.name .items
  | block : Under entries .item "bool" .clauses
  | field (hblock : entries.find? "bool" = none) : Under entries .item "field" .field
  | kind (hblock : entries.find? "bool" = none) : Under entries .item "type" .kind
  | value (hblock : entries.find? "bool" = none)
      (hselects : Selects (entries.find? "type") .nested ∨ Selects (entries.find? "type") .bool) :
      Under entries .item "value" .clauses

/-- An entry of a value at a spot: the step that leads to it, and its own spot and value. -/
inductive Part : Spot → Value → KeyStep → Spot → Value → Prop where
  | member {spot below : Spot} {entries : Entries} {name : String} {x : Value} (hunder : Under entries spot name below)
      (hfound : entries.find? name = some x) : Part spot (.dict entries) (.member name) below x
  | item {xs : List Value} {i : Nat} {x : Value} (h : xs[i]? = some x) : Part .items (.list xs) (.index i) .item x
  | sortField {xs : List Value} {i : Nat} {x : Value} (h : xs[i]? = some x) :
      Part .sort (.list xs) (.index i) .sortField x
  | direction (field x : Value) : Part .sortField (.dict [(field, x)]) (.member field.display) .direction x

/-! ### Faults -/

/-- The names of the keys of a mapping that are not among the known ones, of which there are some. -/
def AreUnknown (known : List String) (entries : Entries) (names : List String) : Prop :=
  names ≠ [] ∧ ∀ name, name ∈ names ↔ name ∉ known ∧ ∃ entry ∈ entries, entry.1.display = name

/-- A fault of a value at a spot itself, with the steps to the entry that it is about, and the error of that entry by
its path. Only an entry that is missing is a step away. -/
inductive Faulty : Spot → Value → List KeyStep → (KeyPath → ConfigError) → Prop where
  | wrongType {spot : Spot} {v : Value} (h : spot.admits v = false) : Faulty spot v [] (.wrongType · spot.expected)
  | unknownKeys {entries : Entries} {names : List String}
      (h : AreUnknown ["index", "sort", "size", "from", "search_after", "must", "must_not", "should", "filter"] entries
        names) : Faulty .document (.dict entries) [] (.unknownKeys · names)
  | unknownItemKeys {entries : Entries} {names : List String} (hblock : entries.find? "bool" = none)
      (h : AreUnknown ["field", "type", "value"] entries names) :
      Faulty .item (.dict entries) [] (.unknownKeys · names)
  | unknownClauses {entries : Entries} {names : List String}
      (h : AreUnknown ["must", "must_not", "should", "filter"] entries names) :
      Faulty .clauses (.dict entries) [] (.unknownClauses · names)
  | missingIndex {entries : Entries} (h : entries.find? "index" = none) :
      Faulty .document (.dict entries) [.member "index"] (.missing ·)
  | missingField {entries : Entries} (hblock : entries.find? "bool" = none) (h : entries.find? "field" = none) :
      Faulty .item (.dict entries) [.member "field"] (.missing ·)
  | missingValue {entries : Entries} (hblock : entries.find? "bool" = none) (h : entries.find? "value" = none) :
      Faulty .item (.dict entries) [.member "value"] (.missing ·)
  | siblings {entries : Entries} {v : Value} (hblock : entries.find? "bool" = some v) (h : entries.length ≠ 1) :
      Faulty .item (.dict entries) [] (.siblings ·)
  | blank {s : String} (h : Text.strip s = "") : Faulty .index (.str s) [] (.blank ·)
  | unknownOperator {name : String} (h : ∀ op : Operator, Text.lower (Text.strip name) ≠ op.key) :
      Faulty .kind (.str name) [] fun _ => .unknownOperator name
  | notOneField {entries : Entries} (h : entries.length ≠ 1) : Faulty .sortField (.dict entries) [] (.notOneField ·)
  | fieldNotText {field direction : Value} (h : ∀ s, field ≠ .str s) :
      Faulty .sortField (.dict [(field, direction)]) [] (.wrongType · .text)
  | notAmong {s : String} (h : Text.lower s ∉ ["asc", "desc"]) :
      Faulty .direction (.str s) [] (.notAmong · ["asc", "desc"])

/-- An entry at fault that steps lead to from a value at a spot, with its error by its path. -/
inductive FaultAt : Spot → Value → List KeyStep → (KeyPath → ConfigError) → Prop where
  | here {spot : Spot} {v : Value} {steps : List KeyStep} {error : KeyPath → ConfigError}
      (h : Faulty spot v steps error) : FaultAt spot v steps error
  | part {spot below : Spot} {v x : Value} {step : KeyStep} {steps : List KeyStep} {error : KeyPath → ConfigError}
      (hpart : Part spot v step below x) (h : FaultAt below x steps error) : FaultAt spot v (step :: steps) error

/-- An error about a value at a key path is the one of an entry at fault, unless reading has come to no end. -/
def Reports (spot : Spot) (v : Value) (key : KeyPath) (e : ConfigError) : Prop :=
  e = .endless ∨ ∃ steps error, FaultAt spot v steps error ∧ e = error (key.extend steps)

theorem Reports.here {spot : Spot} {v : Value} {key : KeyPath} {error : KeyPath → ConfigError}
    (h : Faulty spot v [] error) : Reports spot v key (error key) :=
  .inr ⟨[], error, .here h, by rw [KeyPath.extend_nil]⟩

theorem Reports.missing {spot : Spot} {v : Value} {key : KeyPath} {name : String}
    (h : Faulty spot v [.member name] (.missing ·)) : Reports spot v key (.missing (key.member name)) :=
  .inr ⟨_, _, .here h, rfl⟩

theorem Reports.of_part {spot below : Spot} {v x : Value} {step : KeyStep} {key : KeyPath} {e : ConfigError}
    (hpart : Part spot v step below x) (h : Reports below x (key.extend [step]) e) : Reports spot v key e := by
  obtain hends | ⟨steps, error, hfault, rfl⟩ := h
  · exact .inl hends
  · exact .inr ⟨step :: steps, error, .part hpart hfault, by rw [KeyPath.extend_extend]; rfl⟩

/-! ### Checks -/

theorem ensure_eq_error {condition : Bool} {fault e : ConfigError} :
    ensure condition fault = .error e ↔ condition = false ∧ e = fault := by
  cases condition <;> simp [ensure, eq_comm]

theorem reports_of_ensure {condition : Bool} {spot : Spot} {v : Value} {key : KeyPath} {e : ConfigError}
    (h : ensure condition .endless = .error e) : Reports spot v key e := .inl (ensure_eq_error.1 h).2

theorem require_eq_error {entries : Entries} {name : String} {key : KeyPath} {e : ConfigError} :
    require entries name key = .error e ↔ entries.find? name = none ∧ e = .missing key := by
  rw [require]
  cases entries.find? name <;> simp [eq_comm]

theorem expectText_eq_error {key : KeyPath} {v : Value} {e : ConfigError} :
    expectText key v = .error e ↔ (∀ s, v ≠ .str s) ∧ e = .wrongType key .text := by
  cases v <;> simp [expectText, eq_comm]

theorem reports_expectText {spot : Spot} (hspot : spot = .index ∨ spot = .field ∨ spot = .direction) {v : Value}
    {key : KeyPath} {e : ConfigError} (h : expectText key v = .error e) : Reports spot v key e := by
  cases v with
  | str s => cases h
  | _ =>
    cases h
    rcases hspot with rfl | rfl | rfl <;> exact .here (.wrongType rfl)

theorem mem_unknownNames {known : List String} {entries : Entries} {name : String} :
    name ∈ unknownNames known entries ↔ name ∉ known ∧ ∃ entry ∈ entries, entry.1.display = name := by
  rw [unknownNames, List.mem_mergeSort, List.mem_eraseDups, List.mem_filter, List.mem_map, and_comm]
  simp

theorem areUnknown_unknownNames (known : List String) {entries : Entries}
    (h : (unknownNames known entries).isEmpty = false) : AreUnknown known entries (unknownNames known entries) :=
  ⟨fun hnil => by simp [hnil] at h, fun _ => mem_unknownNames⟩

/-! ### Items and clauses -/

theorem operatorNamed_eq_error {name : String} {e : ConfigError} (h : operatorNamed name = .error e) :
    (∀ op : Operator, Text.lower (Text.strip name) ≠ op.key) ∧ e = .unknownOperator name := by
  rw [operatorNamed] at h
  split at h
  · cases h
  · next hnone =>
    cases h
    refine ⟨fun op hop => ?_, rfl⟩
    rw [Operator.ofKey?_eq_some_iff.2 hop] at hnone
    cases hnone

theorem reports_readKind {v : Value} {key : KeyPath} {e : ConfigError} (h : readKind key v = .error e) :
    Reports .kind v key e := by
  cases v with
  | str name =>
    rw [readKind, Outcome.map_eq_error] at h
    obtain ⟨hname, rfl⟩ := operatorNamed_eq_error h
    exact .here (.unknownOperator hname)
  | int n =>
    have hok : readKind key (.int n) = .ok (kindOfCode n) := readKind_eq_ok.2 (.code n)
    rw [h] at hok
    cases hok
  | _ =>
    cases h
    exact .here (.wrongType rfl)

theorem exists_element_of_error {α : Type} (read : Value → KeyPath → Read α)
    (readFrom : List Value → Nat → Read (List α)) {key : KeyPath} (hnil : ∀ n, readFrom [] n = .ok [])
    (hcons : ∀ x xs n, readFrom (x :: xs) n = do
      let first ← read x (key.index n)
      let others ← readFrom xs (n + 1)
      pure (first :: others))
    {xs : List Value} {n : Nat} {e : ConfigError} (h : readFrom xs n = .error e) :
    ∃ i x, xs[i]? = some x ∧ read x (key.index (n + i)) = .error e := by
  induction xs generalizing n with
  | nil =>
    rw [hnil] at h
    cases h
  | cons x xs ih =>
    rw [hcons, Outcome.bind_eq_error] at h
    rcases h with h | ⟨first, -, h⟩
    · exact ⟨0, x, rfl, h⟩
    · rcases Outcome.bind_eq_error.1 h with h | ⟨others, -, h⟩
      · obtain ⟨i, y, hy, hread⟩ := ih h
        exact ⟨i + 1, y, hy, by rwa [← Nat.add_assoc, Nat.add_right_comm]⟩
      · exact absurd h Outcome.pure_ne_error

/-- What the errors of items, clauses and lists of items say about a value. -/
structure ReportsAll (v : Value) : Prop where
  item {key : KeyPath} {e : ConfigError} (h : Config.item v key = .error e) : Reports .item v key e
  clauses {key : KeyPath} {e : ConfigError} (h : Config.clauses v key = .error e) : Reports .clauses v key e
  items {key : KeyPath} {e : ConfigError} (h : Config.items v key = .error e) : Reports .items v key e

section

variable {entries : Entries} {key : KeyPath} {e : ConfigError}

theorem reports_itemOfKind (hbelow : ∀ entry ∈ entries, ReportsAll entry.2) (hblock : entries.find? "bool" = none)
    {field : String} {kind : Kind} (hkind : ReadsKind (entries.find? "type") kind)
    (h : itemOfKind entries key field kind = .error e) : Reports .item (.dict entries) key e := by
  obtain h | ⟨v, hfound, h⟩ := Outcome.bind_eq_error.1 h
  · obtain ⟨hnone, rfl⟩ := require_eq_error.1 h
    exact .missing (.missingValue hblock hnone)
  · rw [require_eq_ok] at hfound
    split at h
    · next hholds =>
      obtain h | ⟨c, -, h⟩ := Outcome.bind_eq_error.1 h
      · have hpart := Part.member (.value hblock (hkind.holdsClauses_iff.1 hholds)) hfound
        exact .of_part hpart ((hbelow _ (Entries.mem_of_find? hfound)).clauses h)
      · exact absurd h Outcome.pure_ne_error
    · obtain h | ⟨_, -, h⟩ := Outcome.bind_eq_error.1 h
      · exact reports_of_ensure h
      · exact absurd h Outcome.pure_ne_error

theorem reports_readLeaf (hbelow : ∀ entry ∈ entries, ReportsAll entry.2) (hblock : entries.find? "bool" = none)
    (h : readLeaf entries (readingsOf entries) key = .error e) : Reports .item (.dict entries) key e := by
  rw [readLeaf_readingsOf] at h
  obtain h | ⟨-, -, h⟩ := Outcome.bind_eq_error.1 h
  · obtain ⟨hunknown, rfl⟩ := ensure_eq_error.1 h
    exact .here (.unknownItemKeys hblock (areUnknown_unknownNames itemKeys hunknown))
  obtain h | ⟨v, hfield, h⟩ := Outcome.bind_eq_error.1 h
  · obtain ⟨hnone, rfl⟩ := require_eq_error.1 h
    exact .missing (.missingField hblock hnone)
  obtain h | ⟨field, -, h⟩ := Outcome.bind_eq_error.1 h
  · exact .of_part (.member (.field hblock) (require_eq_ok.1 hfield)) (reports_expectText (by simp) h)
  obtain h | ⟨kind, hkind, h⟩ := Outcome.bind_eq_error.1 h
  · cases hfound : entries.find? "type" with
    | none =>
      rw [hfound] at h
      exact absurd h Outcome.pure_ne_error
    | some v =>
      rw [hfound] at h
      exact .of_part (.member (.kind hblock) hfound) (reports_readKind h)
  · exact reports_itemOfKind hbelow hblock (readKind?_eq_ok.1 hkind) h

theorem reports_item_dict (hbelow : ∀ entry ∈ entries, ReportsAll entry.2)
    (h : item (.dict entries) key = .error e) : Reports .item (.dict entries) key e := by
  rw [item_dict] at h
  split at h
  · next v hbool =>
    obtain h | ⟨-, -, h⟩ := Outcome.bind_eq_error.1 h
    · obtain ⟨hlength, rfl⟩ := ensure_eq_error.1 h
      exact .here (.siblings hbool (by simpa using hlength))
    obtain h | ⟨c, -, h⟩ := Outcome.bind_eq_error.1 h
    · exact .of_part (.member .block hbool) ((hbelow _ (Entries.mem_of_find? hbool)).clauses h)
    · exact absurd h Outcome.pure_ne_error
  · next hbool => exact reports_readLeaf hbelow hbool h

theorem reports_readClause (hbelow : ∀ entry ∈ entries, ReportsAll entry.2) {spot : Spot} {clause : Clause}
    (hunder : Under entries spot clause.name .items)
    (h : readClause (readingsOf entries) key clause = .error e) : Reports spot (.dict entries) key e := by
  rw [readClause_readingsOf] at h
  cases hfound : entries.find? clause.name with
  | none =>
    rw [hfound] at h
    exact absurd h Outcome.pure_ne_error
  | some v =>
    rw [hfound] at h
    exact .of_part (.member hunder hfound) ((hbelow _ (Entries.mem_of_find? hfound)).items h)

theorem reports_readClauses (hbelow : ∀ entry ∈ entries, ReportsAll entry.2) {spot : Spot}
    (hunder : ∀ clause : Clause, Under entries spot clause.name .items)
    (h : readClauses (readingsOf entries) key = .error e) : Reports spot (.dict entries) key e := by
  have hclause {clause : Clause} (h : readClause (readingsOf entries) key clause = .error e) :=
    reports_readClause hbelow (hunder clause) h
  obtain h | ⟨_, -, h⟩ := Outcome.bind_eq_error.1 h
  · exact hclause h
  obtain h | ⟨_, -, h⟩ := Outcome.bind_eq_error.1 h
  · exact hclause h
  obtain h | ⟨_, -, h⟩ := Outcome.bind_eq_error.1 h
  · exact hclause h
  obtain h | ⟨_, -, h⟩ := Outcome.bind_eq_error.1 h
  · exact hclause h
  · exact absurd h Outcome.pure_ne_error

theorem reports_clauses_dict (hbelow : ∀ entry ∈ entries, ReportsAll entry.2)
    (h : clauses (.dict entries) key = .error e) : Reports .clauses (.dict entries) key e := by
  rw [clauses] at h
  obtain h | ⟨-, -, h⟩ := Outcome.bind_eq_error.1 h
  · obtain ⟨hunknown, rfl⟩ := ensure_eq_error.1 h
    exact .here (.unknownClauses (areUnknown_unknownNames clauseNames hunknown))
  · exact reports_readClauses hbelow .clause h

theorem reports_items_list {xs : List Value} (hbelow : ∀ x ∈ xs, ReportsAll x)
    (h : items (.list xs) key = .error e) : Reports .items (.list xs) key e := by
  rw [items] at h
  obtain ⟨i, x, hx, h⟩ := exists_element_of_error item (fun xs n => itemsFrom xs key n)
    (fun _ => by rw [itemsFrom]) (fun _ _ _ => by rw [itemsFrom]) h
  rw [Nat.zero_add] at h
  exact .of_part (.item hx) ((hbelow x (List.mem_of_getElem? hx)).item h)

end

/-- Errors below a value are about entries at fault, at any depth. -/
theorem reportsAll (v : Value) : ReportsAll v := by
  induction v using Value.induction with
  | step v hlist hdict =>
    cases v with
    | null =>
      refine ⟨fun h => ?_, fun h => ?_, fun h => ?_⟩
      · cases h
        exact .here (.wrongType rfl)
      · cases h
        exact .here (.wrongType rfl)
      · cases h
    | list xs =>
      refine ⟨fun h => ?_, fun h => ?_, reports_items_list fun x hx => hlist xs rfl x hx⟩
      · cases h
        exact .here (.wrongType rfl)
      · cases h
        exact .here (.wrongType rfl)
    | dict entries =>
      have hbelow := hdict entries rfl
      refine ⟨reports_item_dict hbelow, reports_clauses_dict hbelow, fun h => ?_⟩
      cases h
      exact .here (.wrongType rfl)
    | enclosing =>
      refine ⟨fun h => ?_, fun h => ?_, fun h => ?_⟩ <;>
      · cases h
        exact .inl rfl
    | _ =>
      refine ⟨fun h => ?_, fun h => ?_, fun h => ?_⟩ <;>
      · cases h
        exact .here (.wrongType rfl)

/-! ### Documents -/

section

variable {key : KeyPath} {e : ConfigError}

theorem reports_sortField {v : Value} (h : sortField key v = .error e) : Reports .sortField v key e := by
  cases v with
  | str field => cases h
  | dict entries =>
    match entries with
    | [(field, direction)] =>
      rw [sortField_singleton] at h
      obtain h | ⟨order, horder, h⟩ := Outcome.bind_eq_error.1 h
      · exact .of_part (.direction field direction) (reports_expectText (by simp) h)
      rw [expectText_eq_ok] at horder
      rw [horder]
      obtain h | ⟨-, -, h⟩ := Outcome.bind_eq_error.1 h
      · obtain ⟨hamong, rfl⟩ := ensure_eq_error.1 h
        refine .of_part (.direction field (.str order)) (.here (.notAmong ?_))
        rwa [← List.contains_iff_mem, Bool.not_eq_true]
      obtain h | ⟨_, -, h⟩ := Outcome.bind_eq_error.1 h
      · obtain ⟨htext, rfl⟩ := expectText_eq_error.1 h
        exact .here (.fieldNotText htext)
      · exact absurd h Outcome.pure_ne_error
    | [] =>
      cases h
      exact .here (.notOneField (by simp))
    | _ :: _ :: _ =>
      cases h
      exact .here (.notOneField (by simp))
  | _ =>
    cases h
    exact .here (.wrongType rfl)

theorem reports_sortFields {v : Value} (h : sortFields key v = .error e) : Reports .sort v key e := by
  cases v with
  | null => cases h
  | list xs =>
    obtain ⟨i, x, hx, h⟩ := exists_element_of_error (fun x key => sortField key x) (sortFieldsFrom key)
      (fun _ => rfl) (fun _ _ _ => rfl) h
    rw [Nat.zero_add] at h
    exact .of_part (.sortField hx) (reports_sortField h)
  | _ =>
    cases h
    exact .here (.wrongType rfl)

theorem reports_optionalWhole {v : Value} (h : optionalWhole key v = .error e) : Reports .page v key e := by
  cases v with
  | null | int n => cases h
  | _ =>
    cases h
    exact .here (.wrongType rfl)

theorem reports_cursor {v : Value} (h : cursor key v = .error e) : Reports .cursor v key e := by
  cases v with
  | null => cases h
  | list xs =>
    rw [cursor_list] at h
    obtain h | ⟨_, -, h⟩ := Outcome.bind_eq_error.1 h
    · exact reports_of_ensure h
    · exact absurd h Outcome.pure_ne_error
  | _ =>
    cases h
    exact .here (.wrongType rfl)

theorem reports_valueOrNull {α : Type} {read : KeyPath → Value → Read α} {entries : Entries} {spot below : Spot}
    {name : String} (hread : ∀ v key e, read key v = .error e → Reports below v key e)
    (hnull : ∀ key, ∃ a, read key .null = .ok a) (hunder : Under entries spot name below)
    (h : read (key.member name) (valueOrNull entries name) = .error e) : Reports spot (.dict entries) key e := by
  rw [valueOrNull] at h
  cases hfound : entries.find? name with
  | none =>
    obtain ⟨a, ha⟩ := hnull (key.member name)
    rw [hfound, Option.getD_none, ha] at h
    cases h
  | some v =>
    rw [hfound, Option.getD_some] at h
    exact .of_part (.member hunder hfound) (hread v _ e h)

theorem reports_document_dict {entries : Entries} (h : document (.dict entries) key = .error e) :
    Reports .document (.dict entries) key e := by
  obtain h | ⟨_, ⟨⟩, h⟩ := Outcome.bind_eq_error.1 h
  · cases h
  obtain h | ⟨-, -, h⟩ := Outcome.bind_eq_error.1 h
  · obtain ⟨hunknown, rfl⟩ := ensure_eq_error.1 h
    exact .here (.unknownKeys (areUnknown_unknownNames documentKeys hunknown))
  obtain h | ⟨index, hindex, h⟩ := Outcome.bind_eq_error.1 h
  · obtain ⟨hnone, rfl⟩ := require_eq_error.1 h
    exact .missing (.missingIndex hnone)
  rw [require_eq_ok] at hindex
  obtain h | ⟨s, hs, h⟩ := Outcome.bind_eq_error.1 h
  · exact .of_part (.member .index hindex) (reports_expectText (by simp) h)
  rw [expectText_eq_ok] at hs
  rw [hs] at hindex
  obtain h | ⟨-, -, h⟩ := Outcome.bind_eq_error.1 h
  · obtain ⟨hblank, rfl⟩ := ensure_eq_error.1 h
    refine .of_part (.member .index hindex) (.here (.blank ?_))
    simpa using hblank
  obtain h | ⟨_, -, h⟩ := Outcome.bind_eq_error.1 h
  · exact reports_valueOrNull (fun _ _ _ => reports_cursor) (fun _ => ⟨_, rfl⟩) .after h
  obtain h | ⟨_, -, h⟩ := Outcome.bind_eq_error.1 h
  · exact reports_valueOrNull (fun _ _ _ => reports_sortFields) (fun _ => ⟨_, rfl⟩) .sort h
  obtain h | ⟨_, -, h⟩ := Outcome.bind_eq_error.1 h
  · exact reports_valueOrNull (fun _ _ _ => reports_optionalWhole) (fun _ => ⟨_, rfl⟩) .size h
  obtain h | ⟨_, -, h⟩ := Outcome.bind_eq_error.1 h
  · exact reports_valueOrNull (fun _ _ _ => reports_optionalWhole) (fun _ => ⟨_, rfl⟩) .start h
  obtain h | ⟨_, -, h⟩ := Outcome.bind_eq_error.1 h
  · exact reports_readClauses (fun entry _ => reportsAll entry.2) .documentClause h
  · exact absurd h Outcome.pure_ne_error

theorem reports_document {v : Value} (h : document v key = .error e) : Reports .document v key e := by
  cases v with
  | dict entries => exact reports_document_dict h
  | _ =>
    cases h
    exact .here (.wrongType rfl)

end

/-! ### Messages -/

theorem Faulty.key?_eq {spot : Spot} {v : Value} {steps : List KeyStep} {error : KeyPath → ConfigError}
    (h : Faulty spot v steps error) (key : KeyPath) :
    (error key).key? = some key ∨ ∃ name, error key = .unknownOperator name := by
  cases h with
  | unknownOperator => exact .inr ⟨_, rfl⟩
  | _ => exact .inl rfl

theorem FaultAt.key?_eq {spot : Spot} {v : Value} {steps : List KeyStep} {error : KeyPath → ConfigError}
    (h : FaultAt spot v steps error) (key : KeyPath) :
    (error key).key? = some key ∨ ∃ name, error key = .unknownOperator name := by
  induction h with
  | here h => exact h.key?_eq key
  | part _ _ ih => exact ih

/-- An error is the one of an entry at fault below a value, and its message has the path that starts with the path of
the value and goes on to that entry, unless it is about a name that selects no operator. -/
def SaysWhere (spot : Spot) (v : Value) (key : KeyPath) (e : ConfigError) : Prop :=
  ∃ steps error, FaultAt spot v steps error ∧ e = error (key.extend steps) ∧
    ((∀ name, e ≠ .unknownOperator name) →
      (key.text ++ String.join (steps.map KeyStep.text)).toList <:+: e.message.toList)

theorem Reports.saysWhere {spot : Spot} {v : Value} {key : KeyPath} {e : ConfigError} (h : Reports spot v key e)
    (hclass : e.errorClass ≠ .depth) : SaysWhere spot v key e := by
  obtain rfl | ⟨steps, error, hfault, rfl⟩ := h
  · exact absurd rfl hclass
  refine ⟨steps, error, hfault, rfl, fun hnamed => ?_⟩
  rw [← KeyPath.text_extend]
  rcases hfault.key?_eq (key.extend steps) with hkey | ⟨name, hname⟩
  · exact ConfigError.isInfix_message hkey
  · exact absurd hname (hnamed name)

/-- **The error of a document or an item says where the fault is**, in all cases but one, if it is about a type or a
value. -/
theorem errors_say_where (v : Value) (key : KeyPath) (e : ConfigError) (hclass : e.errorClass ≠ .depth) :
    (document v key = .error e → SaysWhere .document v key e) ∧ (item v key = .error e → SaysWhere .item v key e) :=
  ⟨fun h => (reports_document h).saysWhere hclass, fun h => ((reportsAll v).item h).saysWhere hclass⟩

/-- A field is missing in a boolean block inside a nested query. -/
theorem errors_say_where_of_nested_block :
    let inner : Value := .dict [(.str "value", .int 1)]
    let block : Value := .dict [(.str "bool", .dict [(.str "must_not", .list [inner])])]
    let outer : Value := .dict [(.str "field", .str "f"), (.str "type", .int 6),
      (.str "value", .dict [(.str "must", .list [block])])]
    let v : Value := .dict [(.str "index", .str "i"), (.str "filter", .list [outer])]
    let path := ".filter[0].value.must[0].bool.must_not[0].field"
    ∃ e, document v (.ofName "queries[0]") = .error e ∧ SaysWhere .document v (.ofName "queries[0]") e ∧
      e.message = "Missing required config: queries[0]" ++ path := by
  intro inner block outer v path
  have h : document v (.ofName "queries[0]") = .error (.missing ⟨"queries[0]", [.member "filter", .index 0,
      .member "value", .member "must", .index 0, .member "bool", .member "must_not", .index 0,
      .member "field"]⟩) := by
    with_unfolding_all rfl
  exact ⟨_, h, (errors_say_where v (.ofName "queries[0]") _ (by decide)).1 h, by decide +kernel⟩

/-- A type that selects no operator is reported without its path. -/
theorem unknown_operator_says_nowhere :
    let v : Value := .dict [(.str "field", .str "f"), (.str "type", .str "foo"), (.str "value", .int 1)]
    ∃ e, item v (.ofName "queries[0]") = .error e ∧ FaultAt .item v [.member "type"] (fun _ => e) ∧
      ¬"queries[0]".toList <:+: e.message.toList := by
  intro v
  have h : item v (.ofName "queries[0]") = .error (.unknownOperator "foo") := by
    with_unfolding_all rfl
  have hunknown : ∀ op : Operator, Text.lower (Text.strip "foo") ≠ op.key := by
    intro op
    cases op <;> decide +kernel
  refine ⟨_, h, .part (.member (.kind ?_) ?_) (.here (.unknownOperator hunknown)), by decide +kernel⟩
  · decide +kernel
  · rfl

end Config

end SearchRequest
