import Mathlib.Data.List.Forall2
import SearchRequest.Proofs.Config.Item

/-!
# Where an item stands

A value of a configuration is read in the same way wherever it stands, as the same item or with the same error; only
the key path that the error names begins with the place of the value (`Config.isLocal_of_value`). So an outcome at one
place gives the outcome at every other (`Config.IsLocal.eq_mapError`), and the items of a list are read one by one as if
each stood alone (`Config.itemsFrom_eq_ok_iff`).

The proof follows how readings are put together: what is read in steps is read in this way if all of its steps are.
-/

namespace SearchRequest

/-! ### Paths and errors below a path -/

namespace KeyPath

/-- The path of no steps. -/
def here : KeyPath := ⟨"", []⟩

/-- A path with the steps of another one behind its own. -/
def append (key rest : KeyPath) : KeyPath := ⟨key.root, key.steps ++ rest.steps⟩

@[simp] theorem append_here (key : KeyPath) : key.append here = key := by
  simp [append, here]

@[simp] theorem append_member (key rest : KeyPath) (name : String) :
    key.append (rest.member name) = (key.append rest).member name := by
  simp [append, member]

@[simp] theorem append_index (key rest : KeyPath) (i : Nat) :
    key.append (rest.index i) = (key.append rest).index i := by
  simp [append, index]

end KeyPath

namespace ConfigError

def errorClass : ConfigError → ErrorClass
  | .wrongType _ _ => .type
  | .endless => .depth
  | _ => .value

/-- The error with its place below a path. -/
def below (key : KeyPath) : ConfigError → ConfigError
  | .missing rest => .missing (key.append rest)
  | .wrongType rest expected => .wrongType (key.append rest) expected
  | .unknownKeys rest names => .unknownKeys (key.append rest) names
  | .unknownClauses rest names => .unknownClauses (key.append rest) names
  | .unknownOperator name => .unknownOperator name
  | .blank rest => .blank (key.append rest)
  | .siblings rest => .siblings (key.append rest)
  | .notOneField rest => .notOneField (key.append rest)
  | .notAmong rest choices => .notAmong (key.append rest) choices
  | .noQueries => .noQueries
  | .rootNotMapping => .rootNotMapping
  | .endless => .endless

@[simp] theorem errorClass_below (key : KeyPath) (e : ConfigError) : (e.below key).errorClass = e.errorClass := by
  cases e <;> rfl

end ConfigError

namespace Config

/-! ### Local readings -/

/-- A reading that depends on the place only in the places of its errors. -/
def IsLocal {α : Type} (read : KeyPath → Read α) : Prop :=
  ∀ key rest, read (key.append rest) = (read rest).mapError (ConfigError.below key)

namespace IsLocal

variable {α β : Type} {read : KeyPath → Read α}

theorem pure (a : α) : IsLocal fun _ => Pure.pure a := fun _ _ => rfl

theorem error {e : KeyPath → ConfigError} (h : ∀ key rest, e (key.append rest) = (e rest).below key) :
    IsLocal fun key => (.error (e key) : Read α) := fun key rest => congrArg Except.error (h key rest)

theorem bind (h : IsLocal read) {next : α → KeyPath → Read β} (hnext : ∀ a, IsLocal (next a)) :
    IsLocal fun key => read key >>= fun a => next a key := by
  intro key rest
  dsimp only
  rw [h key rest]
  cases read rest with
  | ok a => exact hnext a key rest
  | error e => rfl

theorem map (h : IsLocal read) (f : α → β) : IsLocal fun key => f <$> read key := by
  intro key rest
  dsimp only
  rw [h key rest]
  cases read rest <;> rfl

theorem member (h : IsLocal read) (name : String) : IsLocal fun key => read (key.member name) := by
  intro key rest
  dsimp only
  rw [← KeyPath.append_member, h]

theorem index (h : IsLocal read) (i : Nat) : IsLocal fun key => read (key.index i) := by
  intro key rest
  dsimp only
  rw [← KeyPath.append_index, h]

theorem eq_mapError (h : IsLocal read) (key : KeyPath) : read key = (read .here).mapError (ConfigError.below key) := by
  rw [← h, KeyPath.append_here]

theorem eq_ok_iff (h : IsLocal read) (key other : KeyPath) {a : α} : read key = .ok a ↔ read other = .ok a := by
  rw [h.eq_mapError key, h.eq_mapError other]
  cases read .here with
  | ok b => rfl
  | error e => simp [Except.mapError]

end IsLocal

theorem isLocal_ensure (condition : Bool) {e : KeyPath → ConfigError}
    (h : ∀ key rest, e (key.append rest) = (e rest).below key) : IsLocal fun key => ensure condition (e key) := by
  cases condition with
  | true => exact .pure ()
  | false => exact .error h

theorem isLocal_expectText (v : Value) : IsLocal fun key => expectText key v := by
  cases v with
  | str s => exact .pure s
  | _ => exact .error fun _ _ => rfl

theorem isLocal_expectWhole (v : Value) : IsLocal fun key => expectWhole key v := by
  cases v with
  | int n => exact .pure n
  | _ => exact .error fun _ _ => rfl

theorem isLocal_require (entries : Entries) (name : String) : IsLocal fun key => require entries name key := by
  unfold require
  cases Entries.find? entries name with
  | some v => exact .pure v
  | none => exact .error fun _ _ => rfl

/-! ### Items and clauses -/

theorem isLocal_operatorNamed (name : String) : IsLocal fun _ => operatorNamed name := by
  unfold operatorNamed
  split
  · exact .pure _
  · exact .error fun _ _ => rfl

theorem isLocal_readKind (v : Value) : IsLocal fun key => readKind key v := by
  cases v with
  | str name => exact (isLocal_operatorNamed name).map Kind.operator
  | _ =>
    refine (isLocal_expectWhole _).bind fun n => ?_
    split
    · exact .pure _
    · exact .pure _

theorem isLocal_readKind? (found : Option Value) : IsLocal fun key => readKind? key found := by
  cases found with
  | none => exact .pure _
  | some v => exact isLocal_readKind v

theorem isLocal_itemOfKind {entries : Entries} (h : ∀ entry ∈ entries, IsLocal (clauses entry.2)) (field : String)
    (kind : Kind) : IsLocal fun key => itemOfKind entries key field kind := by
  unfold itemOfKind require
  cases hfound : Entries.find? entries "value" with
  | none => exact .error fun key rest => congrArg ConfigError.missing (KeyPath.append_member key rest "value").symm
  | some v =>
    have hclauses : IsLocal (clauses v) := h _ (Entries.mem_of_find? hfound)
    by_cases hholds : holdsClauses kind = true
    · simp only [hholds, if_true]
      exact (hclauses.member "value").bind fun c => .pure (Item.mk field (.clauses c) kind)
    · simp only [hholds]
      exact (isLocal_ensure _ fun _ _ => rfl).bind fun _ => .pure (Item.mk field v.isoDates.fixed kind)

theorem isLocal_item_dict {entries : Entries} (h : ∀ entry ∈ entries, IsLocal (clauses entry.2)) :
    IsLocal (item (.dict entries)) := by
  have hitem : item (.dict entries) = fun key => _ := funext (item_dict entries)
  rw [hitem]
  cases hfound : Entries.find? entries Operator.bool.key with
  | some v =>
    have hclauses : IsLocal (clauses v) := h _ (Entries.mem_of_find? hfound)
    exact (isLocal_ensure _ fun _ _ => rfl).bind fun _ =>
      (hclauses.member Operator.bool.key).bind fun c =>
        .pure (Item.mk Operator.bool.key (.clauses c) (.operator .bool))
  | none =>
    simp only [readLeaf_readingsOf]
    exact (isLocal_ensure _ fun _ _ => rfl).bind fun _ =>
      ((isLocal_require entries "field").member "field").bind fun v =>
        ((isLocal_expectText v).member "field").bind fun field =>
          ((isLocal_readKind? (entries.find? "type")).member "type").bind fun kind =>
            isLocal_itemOfKind h field kind

theorem isLocal_readItems? {found : Option Value} (h : ∀ v, found = some v → IsLocal (items v)) :
    IsLocal fun key => readItems? key found := by
  cases found with
  | none => exact .pure []
  | some v => exact h v rfl

theorem isLocal_readClauses {entries : Entries} (h : ∀ entry ∈ entries, IsLocal (items entry.2)) :
    IsLocal (readClauses (readingsOf entries)) := by
  have hclause (clause : Clause) : IsLocal fun key => readClause (readingsOf entries) key clause := by
    simp only [readClause_readingsOf]
    refine (isLocal_readItems? fun v hv => ?_).member clause.name
    exact h _ (Entries.mem_of_find? hv)
  exact (hclause .must).bind fun must => (hclause .mustNot).bind fun mustNot => (hclause .should).bind fun should =>
    (hclause .filter).bind fun filter => .pure (Clauses.mk must mustNot should filter)

theorem isLocal_clauses_dict {entries : Entries} (h : ∀ entry ∈ entries, IsLocal (items entry.2)) :
    IsLocal (clauses (.dict entries)) := by
  have hclauses : clauses (.dict entries) = fun key => _ := funext fun key => by rw [clauses]
  rw [hclauses]
  exact (isLocal_ensure _ fun _ _ => rfl).bind fun _ => isLocal_readClauses h

theorem isLocal_itemsFrom {xs : List Value} (h : ∀ x ∈ xs, IsLocal (item x)) (n : Nat) :
    IsLocal fun key => itemsFrom xs key n := by
  induction xs generalizing n with
  | nil => exact .pure []
  | cons x xs ih =>
    rw [List.forall_mem_cons] at h
    unfold itemsFrom
    exact (h.1.index n).bind fun first => (ih h.2 (n + 1)).bind fun others => .pure (first :: others)

/-- **Items, clauses and lists of items are read in the same way wherever they stand.** -/
theorem isLocal_of_value (v : Value) : IsLocal (item v) ∧ IsLocal (clauses v) ∧ IsLocal (items v) := by
  induction v using Value.induction with
  | step v hlist hdict =>
    cases v with
    | null => exact ⟨.error fun _ _ => rfl, .error fun _ _ => rfl, .pure []⟩
    | list xs =>
      refine ⟨.error fun _ _ => rfl, .error fun _ _ => rfl, ?_⟩
      have hitems : items (.list xs) = fun key => itemsFrom xs key 0 := funext fun key => by rw [items]
      rw [hitems]
      exact isLocal_itemsFrom (fun x hx => (hlist xs rfl x hx).1) 0
    | dict entries =>
      exact ⟨isLocal_item_dict fun entry hentry => (hdict entries rfl entry hentry).2.1,
        isLocal_clauses_dict fun entry hentry => (hdict entries rfl entry hentry).2.2, .error fun _ _ => rfl⟩
    | _ => exact ⟨.error fun _ _ => rfl, .error fun _ _ => rfl, .error fun _ _ => rfl⟩

theorem itemsFrom_eq_ok_iff {xs : List Value} {is : List Item} (key other : KeyPath) (n : Nat) :
    itemsFrom xs key n = .ok is ↔ List.Forall₂ (fun x i => item x other = .ok i) xs is := by
  induction xs generalizing n is with
  | nil =>
    rw [itemsFrom, List.forall₂_nil_left_iff, Except.ok.injEq]
    exact eq_comm
  | cons x xs ih =>
    have hitem (i : Item) : item x (key.index n) = .ok i ↔ item x other = .ok i :=
      (isLocal_of_value x).1.eq_ok_iff _ _
    rw [itemsFrom]
    simp only [Outcome.bind_eq_ok, Outcome.pure_eq_ok, hitem, ih, List.forall₂_cons_left_iff]
    constructor
    · rintro ⟨i, hi, others, hothers, rfl⟩
      exact ⟨i, others, hi, hothers, rfl⟩
    · rintro ⟨i, others, hi, hothers, rfl⟩
      exact ⟨i, hi, others, hothers, rfl⟩

end Config

end SearchRequest
