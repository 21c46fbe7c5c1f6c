import Mathlib.Data.List.Forall2
import SearchRequest.Proofs.Outcome
import SearchRequest.Query.Body

/-!
# Items and clauses as trees

The induction that all proofs about query trees use, and what a body looks like.

* `Clauses.induction`: what passes from the items of the clauses to the clauses, and from the clauses that an
  item holds to the item, holds of every tree.
* `Item.body_eq_ok_iff`: an item has a body in one of four ways (`Item.Writes`).
* `Clauses.body_eq_ok_iff`: clauses have a body when all their items have one, and it lists the clauses that
  are not empty in their fixed order.
-/

namespace SearchRequest

/-! ### Induction -/

theorem Clauses.sizeOf_lt_of_mem_get {c : Clauses} {clause : Clause} {i : Item} (hi : i ∈ c.get clause) :
    sizeOf i < sizeOf c := by
  have hlt := List.sizeOf_lt_of_mem hi
  obtain ⟨must, mustNot, should, filter⟩ := c
  cases clause <;> simp only [Clauses.get] at hlt <;> simp only [Clauses.mk.sizeOf_spec] <;> omega

/-- **Induction over query trees**, for a property of items and one of clauses together. -/
theorem Clauses.induction {P : Item → Prop} {Q : Clauses → Prop}
    (item : ∀ field value kind, (∀ c, value = .clauses c → Q c) → P (.mk field value kind))
    (clauses : ∀ c : Clauses, (∀ clause, ∀ i ∈ c.get clause, P i) → Q c) :
    (∀ i, P i) ∧ ∀ c, Q c := by
  have below : ∀ n, (∀ i : Item, sizeOf i < n → P i) ∧ ∀ c : Clauses, sizeOf c < n → Q c := by
    intro n
    induction n with
    | zero => exact ⟨fun _ h => absurd h (Nat.not_lt_zero _), fun _ h => absurd h (Nat.not_lt_zero _)⟩
    | succ n ih =>
      refine ⟨fun i hi => ?_, fun c hc => ?_⟩
      · obtain ⟨field, value, kind⟩ := i
        refine item field value kind fun c hv => ih.2 c ?_
        subst hv
        simp only [Item.mk.sizeOf_spec, Value.clauses.sizeOf_spec] at hi
        omega
      · refine clauses c fun clause i hi => ih.1 i ?_
        have := Clauses.sizeOf_lt_of_mem_get hi
        omega
  exact ⟨fun i => (below _).1 i (Nat.lt_succ_self _), fun c => (below _).2 c (Nat.lt_succ_self _)⟩

/-! ### Choosing item by item -/

theorem Clauses.exists_forall_get {P : Clause → List Item → Prop} :
    (∃ c : Clauses, ∀ clause, P clause (c.get clause)) ↔ ∀ clause, ∃ is, P clause is := by
  constructor
  · rintro ⟨c, h⟩ clause
    exact ⟨_, h clause⟩
  · intro h
    choose items hitems using h
    refine ⟨.ofFn items, fun clause => ?_⟩
    rw [Clauses.get_ofFn]
    exact hitems clause

theorem exists_forall₂_iff {α β : Type} {R : α → β → Prop} {xs : List α} :
    (∃ ys, List.Forall₂ R xs ys) ↔ ∀ x ∈ xs, ∃ y, R x y := by
  induction xs with
  | nil => simp
  | cons x xs ih =>
    rw [List.forall_mem_cons, ← ih]
    constructor
    · rintro ⟨_, _ | ⟨hy, hys⟩⟩
      exact ⟨⟨_, hy⟩, ⟨_, hys⟩⟩
    · rintro ⟨⟨y, hy⟩, ⟨ys, hys⟩⟩
      exact ⟨y :: ys, .cons hy hys⟩

/-! ### The body of an item -/

theorem Operator.code_injective {op other : Operator} (h : op.code = other.code) : op = other := by
  have hcode := Operator.ofCode?_code op
  rw [h, Operator.ofCode?_code, Option.some.injEq] at hcode
  exact hcode.symm

theorem Kind.operator?_eq_some_iff {kind : Kind} {op : Operator} :
    kind.operator? = some op ↔ kind.toValue = .int op.code := by
  cases kind with
  | operator o =>
    simp only [Kind.operator?, Kind.toValue, Option.some.injEq, Value.int.injEq, Int.natCast_inj]
    exact ⟨fun h => h ▸ rfl, Operator.code_injective⟩
  | raw v =>
    rw [Kind.toValue]
    constructor
    · intro h
      cases v <;> simp only [Kind.operator?, reduceCtorEq] at h
      rw [Operator.code_of_ofCode? h]
    · rintro rfl
      exact Operator.ofCode?_code op

theorem Value.hasShape_nested_iff {v : Value} : v.hasShape .nested = true ↔ ∃ c, v = .clauses c := by
  cases v <;> simp [hasShape]

theorem Value.hasShape_text_iff {v : Value} : v.hasShape .text = true ↔ ∃ s, v = .str s := by
  cases v <;> simp [hasShape]

theorem Value.hasShape_clauses_iff {c : Clauses} {s : Shape} :
    (Value.clauses c).hasShape s = true ↔ s = .nested := by
  cases s <;> simp [hasShape]

namespace Operator

/-- The operators that write their key over the field with its value. -/
def IsLeaf (op : Operator) : Prop := op ≠ .bool ∧ op ≠ .nested ∧ op ≠ .queryString

theorem fits_iff {op : Operator} {v : Value} :
    op.fits v = true ↔ ∃ s, op.accepts s = true ∧ v.hasShape s = true := by
  simp only [fits, List.any_eq_true, Bool.and_eq_true]
  constructor
  · rintro ⟨s, -, hs⟩
    exact ⟨s, hs⟩
  · rintro ⟨s, hs⟩
    exact ⟨s, by cases s <;> decide, hs⟩

theorem accepts_nested_iff {op : Operator} : op.accepts .nested = true ↔ op = .bool ∨ op = .nested := by
  cases op <;> decide

theorem fits_clauses_iff {op : Operator} {c : Clauses} :
    op.fits (.clauses c) = true ↔ op = .bool ∨ op = .nested := by
  simp [fits_iff, Value.hasShape_clauses_iff, accepts_nested_iff]

theorem clauses_of_fits {op : Operator} {v : Value} (hop : op = .bool ∨ op = .nested) (h : op.fits v) :
    ∃ c, v = .clauses c := by
  obtain ⟨s, ha, hs⟩ := fits_iff.1 h
  have : s = .nested := by rcases hop with rfl | rfl <;> simpa [accepts] using ha
  exact Value.hasShape_nested_iff.1 (this ▸ hs)

theorem str_of_fits {v : Value} (h : queryString.fits v) : ∃ s, v = .str s := by
  obtain ⟨s, ha, hs⟩ := fits_iff.1 h
  have : s = .text := by simpa [accepts] using ha
  exact Value.hasShape_text_iff.1 (this ▸ hs)

end Operator

/-- An item and its body. -/
inductive Item.Writes : Item → Value → Prop where
  | bool {field : String} {c : Clauses} {kind : Kind} {b : Value} (hop : kind.operator? = some .bool)
      (hc : c.body = .ok b) : Writes (.mk field (.clauses c) kind) b
  | nested {path : String} {c : Clauses} {kind : Kind} {query : Value} (hop : kind.operator? = some .nested)
      (hc : c.body = .ok query) :
      Writes (.mk path (.clauses c) kind) (.single Operator.nested.key (.nestedAt path query))
  | queryString {field text : String} {kind : Kind} (hop : kind.operator? = some .queryString) :
      Writes (.mk field (.str text) kind) (.single Operator.queryString.key (.queryString field text))
  | leaf {field : String} {value : Value} {kind : Kind} {op : Operator} (hop : kind.operator? = some op)
      (hleaf : op.IsLeaf) (hfits : op.fits value) :
      Writes (.mk field value kind) (.single op.key (.single field value.plain))

theorem Value.bodyUnder_leaf {op : Operator} (hleaf : op.IsLeaf) {v : Value} (hfits : op.fits v)
    (field : String) : v.bodyUnder op field = .ok (.single op.key (.single field v.plain)) := by
  obtain ⟨hbool, hnested, hquery⟩ := hleaf
  cases v with
  | clauses c =>
    rcases Operator.fits_clauses_iff.1 hfits with h | h
    · exact absurd h hbool
    · exact absurd h hnested
  | str s => cases op <;> first | exact absurd rfl hquery | rfl
  | _ => rfl

theorem Item.body_eq_ok_iff {i : Item} {b : Value} : i.body = .ok b ↔ i.Writes b := by
  constructor
  · intro h
    obtain ⟨field, value, kind⟩ := i
    rw [Item.body] at h
    split at h
    · cases h
    · next op hop =>
      split at h
      · next hfits =>
        by_cases hbool : op = .bool
        · subst hbool
          obtain ⟨c, rfl⟩ := Operator.clauses_of_fits (.inl rfl) hfits
          exact .bool hop h
        by_cases hnested : op = .nested
        · subst hnested
          obtain ⟨c, rfl⟩ := Operator.clauses_of_fits (.inr rfl) hfits
          obtain ⟨query, hc, hb⟩ := Outcome.bind_eq_ok.1 h
          rw [Outcome.pure_eq_ok] at hb
          exact hb ▸ .nested hop hc
        by_cases hquery : op = .queryString
        · subst hquery
          obtain ⟨s, rfl⟩ := Operator.str_of_fits hfits
          cases h
          exact .queryString hop
        have hleaf : op.IsLeaf := ⟨hbool, hnested, hquery⟩
        rw [Value.bodyUnder_leaf hleaf hfits, Except.ok.injEq] at h
        exact h ▸ .leaf hop hleaf hfits
      · cases h
  · intro h
    cases h with
    | bool hop hc => simpa [Item.body, hop, Operator.fits_clauses_iff, Value.bodyUnder] using hc
    | nested hop hc => simp [Item.body, hop, Operator.fits_clauses_iff, Value.bodyUnder, hc]
    | @queryString field text kind hop =>
      have hfits : Operator.queryString.fits (.str text) = true := Operator.fits_iff.2 ⟨.text, rfl, rfl⟩
      simp [Item.body, hop, hfits, Value.bodyUnder]
    | leaf hop hleaf hfits => simp [Item.body, hop, hfits, Value.bodyUnder_leaf hleaf hfits]

/-! ### The body of clauses -/

@[simp] theorem Clause.entry_nil (clause : Clause) : clause.entry [] = [] := rfl

@[simp] theorem Clause.entry_cons (clause : Clause) (b : Value) (bs : List Value) :
    clause.entry (b :: bs) = [(.str clause.name, .list (b :: bs))] := rfl

theorem Item.bodies_eq_ok_iff {is : List Item} {bs : List Value} :
    Item.bodies is = .ok bs ↔ List.Forall₂ (fun i b => i.body = .ok b) is bs := by
  induction is generalizing bs with
  | nil =>
    rw [Item.bodies, List.forall₂_nil_left_iff, Except.ok.injEq]
    exact eq_comm
  | cons i is ih =>
    rw [Item.bodies]
    simp only [Outcome.bind_eq_ok, Outcome.pure_eq_ok, ih, List.forall₂_cons_left_iff]
    constructor
    · rintro ⟨b, hb, bs', hbs, rfl⟩
      exact ⟨b, bs', hb, hbs, rfl⟩
    · rintro ⟨b, bs', hb, hbs, rfl⟩
      exact ⟨b, hb, bs', hbs, rfl⟩

/-- The entries of a boolean query whose clauses have the given bodies. -/
def Clauses.entries (bodies : Clause → List Value) : Entries :=
  Clause.all.flatMap fun clause => clause.entry (bodies clause)

theorem Clauses.body_eq_ok_iff {c : Clauses} {b : Value} :
    c.body = .ok b ↔ ∃ bodies : Clause → List Value,
      (∀ clause, Item.bodies (c.get clause) = .ok (bodies clause)) ∧
        b = .single "bool" (.dict (Clauses.entries bodies)) := by
  obtain ⟨must, mustNot, should, filter⟩ := c
  simp only [Clauses.body, Outcome.bind_eq_ok, Outcome.pure_eq_ok]
  constructor
  · rintro ⟨musts, h1, mustNots, h2, shoulds, h3, filters, h4, rfl⟩
    refine ⟨Clause.rec musts mustNots shoulds filters, fun clause => ?_, ?_⟩
    · cases clause <;> assumption
    · simp [Clauses.entries, Clause.all]
  · rintro ⟨bodies, h, rfl⟩
    refine ⟨_, h .must, _, h .mustNot, _, h .should, _, h .filter, ?_⟩
    simp [Clauses.entries, Clause.all]

end SearchRequest
