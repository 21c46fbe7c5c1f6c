import SearchRequest.Proofs.Query.Tree

/-!
# The first faulty item

A body is made in one walk over the items: an item before its own clauses, the clauses in their fixed order,
the items of a clause in theirs, and everything below an item before the item beside it. Only the clauses
that a nested or boolean query holds are walked; a value that merely looks like a tree is not.

`body_decided_by_walk`: there is a body exactly when every item of the walk is good, and otherwise the error
is that of the first item that is not.
-/

namespace SearchRequest

/-! ### The walk -/

mutual

/-- An item, and then everything below it. -/
def Item.walk : Item → List Item
  | .mk field value kind => .mk field value kind :: value.walkUnder kind.operator?

/-- The items below an item with an operator and a value. -/
def Value.walkUnder (op : Option Operator) : Value → List Item
  | .clauses c => if op = some .nested ∨ op = some .bool then c.walk else []
  | _ => []

def Item.walks : List Item → List Item
  | [] => []
  | i :: is => i.walk ++ Item.walks is

/-- The items of all clauses, each with everything below it. -/
def Clauses.walk : Clauses → List Item
  | .mk must mustNot should filter =>
    Item.walks must ++ (Item.walks mustNot ++ (Item.walks should ++ Item.walks filter))

end

theorem Item.mem_walks_iff {is : List Item} {j : Item} : j ∈ Item.walks is ↔ ∃ i ∈ is, j ∈ i.walk := by
  induction is with
  | nil => simp [Item.walks]
  | cons i is ih => rw [Item.walks, List.mem_append, ih, List.exists_mem_cons_iff]

theorem Clauses.mem_walk_iff {c : Clauses} {j : Item} :
    j ∈ c.walk ↔ ∃ clause, ∃ i ∈ c.get clause, j ∈ i.walk := by
  obtain ⟨must, mustNot, should, filter⟩ := c
  simp only [Clauses.walk, List.mem_append, Item.mem_walks_iff]
  constructor
  · rintro (h | h | h | h)
    · exact ⟨.must, h⟩
    · exact ⟨.mustNot, h⟩
    · exact ⟨.should, h⟩
    · exact ⟨.filter, h⟩
  · rintro ⟨clause, h⟩
    cases clause
    · exact .inl h
    · exact .inr (.inl h)
    · exact .inr (.inr (.inl h))
    · exact .inr (.inr (.inr h))

/-- Whether the kind of an item is a nested or a boolean query, by its name or its code. -/
def Item.IsHolder (i : Item) : Prop := i.kind.operator? = some .nested ∨ i.kind.operator? = some .bool

theorem Value.walkUnder_of_not_holder {value : Value} {kind : Kind}
    (h : ¬(kind.operator? = some .nested ∨ kind.operator? = some .bool)) : value.walkUnder kind.operator? = [] := by
  cases value with
  | clauses c => rw [Value.walkUnder, if_neg h]
  | _ => rfl

theorem Item.walk_of_not_isHolder {i : Item} (h : ¬i.IsHolder) : i.walk = [i] := by
  obtain ⟨field, value, kind⟩ := i
  have hnone : value.walkUnder kind.operator? = [] := Value.walkUnder_of_not_holder h
  rw [Item.walk, hnone]

/-! ### Good and faulty items -/

/-- An item is good when its kind is the code of an operator that accepts a shape of its value. -/
def Item.Good (i : Item) : Prop :=
  ∃ op : Operator, i.kind.toValue = .int op.code ∧ ∃ s ∈ op.shapes, i.value.hasShape s = true

/-- The error of a faulty item: its kind as it is, if that is the code of no operator, else the operator, the
field and the value of which it accepts no shape. -/
inductive Item.Faulty : Item → QueryError → Prop where
  | unknown {field : String} {value : Value} {kind : Kind}
      (h : ∀ op : Operator, kind.toValue ≠ .int op.code) :
      Faulty (.mk field value kind) (.unknownOperator kind.toValue)
  | unacceptable {field : String} {value : Value} {kind : Kind} {op : Operator}
      (hop : kind.toValue = .int op.code) (h : ∀ s ∈ op.shapes, value.hasShape s = false) :
      Faulty (.mk field value kind) (.unacceptable op field value)

/-- An outcome that the first faulty item of a walk decides. -/
def DecidedBy (walk : List Item) (outcome : Except QueryError Value) : Prop :=
  ((∃ b, outcome = .ok b) ↔ ∀ i ∈ walk, i.Good) ∧
    ∀ e, outcome = .error e ↔
      ∃ before i after, walk = before ++ i :: after ∧ (∀ j ∈ before, j.Good) ∧ i.Faulty e

/-- The error of an item on its own. -/
def Item.fault? : Item → Option QueryError
  | .mk field value kind =>
    match kind.operator? with
    | none => some (.unknownOperator kind.toValue)
    | some op => if op.fits value then none else some (.unacceptable op field value)

theorem Operator.mem_shapes {op : Operator} {s : Shape} : s ∈ op.shapes ↔ op.accepts s = true := by
  rw [shapes, List.mem_filter, and_iff_right_iff_imp]
  intro _
  cases s <;> decide

theorem Operator.fits_iff_shapes {op : Operator} {v : Value} :
    op.fits v = true ↔ ∃ s ∈ op.shapes, v.hasShape s = true := by
  simp only [Operator.fits_iff, Operator.mem_shapes]

theorem Kind.operator?_eq_none_iff {kind : Kind} :
    kind.operator? = none ↔ ∀ op : Operator, kind.toValue ≠ .int op.code := by
  simp only [Option.eq_none_iff_forall_ne_some, ne_eq, Kind.operator?_eq_some_iff]

theorem Item.fault?_eq_none_iff {i : Item} : i.fault? = none ↔ i.Good := by
  obtain ⟨field, value, kind⟩ := i
  rw [Item.fault?, Item.Good]
  cases hop : kind.operator? with
  | none => simp [Item.kind, Kind.operator?_eq_none_iff.1 hop]
  | some op =>
    have hkind := Kind.operator?_eq_some_iff.1 hop
    simp only [Item.kind, Item.value, ite_eq_left_iff, reduceCtorEq, imp_false, not_not,
      Operator.fits_iff_shapes]
    constructor
    · exact fun h => ⟨op, hkind, h⟩
    · rintro ⟨other, hother, h⟩
      have hsame := Kind.operator?_eq_some_iff.2 hother
      rw [hop, Option.some.injEq] at hsame
      exact hsame ▸ h

theorem Item.fault?_eq_some_iff {i : Item} {e : QueryError} : i.fault? = some e ↔ i.Faulty e := by
  obtain ⟨field, value, kind⟩ := i
  rw [Item.fault?]
  constructor
  · intro h
    split at h
    · next hop =>
      cases h
      exact .unknown (Kind.operator?_eq_none_iff.1 hop)
    · next op hop =>
      split at h
      · cases h
      · next hfits =>
        cases h
        refine .unacceptable (Kind.operator?_eq_some_iff.1 hop) fun s hs => ?_
        rw [Operator.fits_iff_shapes] at hfits
        simpa using fun h => hfits ⟨s, hs, h⟩
  · intro h
    cases h with
    | unknown h => rw [Kind.operator?_eq_none_iff.2 h]
    | @unacceptable _ _ _ op hop h =>
      rw [Kind.operator?_eq_some_iff.2 hop]
      have hfits : ¬op.fits value = true := by
        rw [Operator.fits_iff_shapes]
        rintro ⟨s, hs, hv⟩
        rw [h s hs] at hv
        cases hv
      simp only [if_neg hfits]

theorem decidedBy_of_fault? {walk : List Item} {outcome : Except QueryError Value}
    (h : Outcome.fault? outcome = walk.findSome? Item.fault?) : DecidedBy walk outcome := by
  constructor
  · rw [← Outcome.fault?_eq_none_iff, h, List.findSome?_eq_none_iff]
    simp only [Item.fault?_eq_none_iff]
  · intro e
    simp only [Outcome.eq_error_iff_of_fault? h, Item.fault?_eq_none_iff, Item.fault?_eq_some_iff]

/-! ### The walk decides the body -/

theorem Item.fault?_bodies {is : List Item}
    (h : ∀ i ∈ is, Outcome.fault? i.body = i.walk.findSome? Item.fault?) :
    Outcome.fault? (Item.bodies is) = (Item.walks is).findSome? Item.fault? := by
  induction is with
  | nil => rfl
  | cons i is ih =>
    have his := ih fun j hj => h j (List.mem_cons_of_mem _ hj)
    rw [Item.bodies, Item.walks, List.findSome?_append, ← h i List.mem_cons_self, ← his]
    refine Outcome.fault?_bind fun b => ?_
    rw [Outcome.fault?_bind fun bs => Outcome.fault?_pure _, Option.or_none]

theorem Clauses.fault?_body {c : Clauses}
    (h : ∀ clause, ∀ i ∈ c.get clause, Outcome.fault? i.body = i.walk.findSome? Item.fault?) :
    Outcome.fault? c.body = c.walk.findSome? Item.fault? := by
  obtain ⟨must, mustNot, should, filter⟩ := c
  have hmust : Outcome.fault? (Item.bodies must) = _ := Item.fault?_bodies (h .must)
  have hmustNot : Outcome.fault? (Item.bodies mustNot) = _ := Item.fault?_bodies (h .mustNot)
  have hshould : Outcome.fault? (Item.bodies should) = _ := Item.fault?_bodies (h .should)
  have hfilter : Outcome.fault? (Item.bodies filter) = _ := Item.fault?_bodies (h .filter)
  rw [Clauses.body, Clauses.walk]
  simp only [List.findSome?_append, ← hmust, ← hmustNot, ← hshould, ← hfilter]
  refine Outcome.fault?_bind fun _ => Outcome.fault?_bind fun _ => Outcome.fault?_bind fun _ => ?_
  rw [Outcome.fault?_bind fun _ => Outcome.fault?_pure _, Option.or_none]

theorem Value.walkUnder_clauses {op : Operator} {c : Clauses} (hop : op = .bool ∨ op = .nested) :
    (Value.clauses c).walkUnder (some op) = c.walk := by
  rw [Value.walkUnder, if_pos]
  rcases hop with rfl | rfl
  · exact .inr rfl
  · exact .inl rfl

theorem Value.fault?_bodyUnder {op : Operator} {v : Value} (hfits : op.fits v) (field : String)
    (h : ∀ c, v = .clauses c → Outcome.fault? c.body = c.walk.findSome? Item.fault?) :
    Outcome.fault? (v.bodyUnder op field) = (v.walkUnder (some op)).findSome? Item.fault? := by
  cases v with
  | clauses c =>
    have hop := Operator.fits_clauses_iff.1 hfits
    rw [Value.walkUnder_clauses hop, ← h c rfl]
    rcases hop with rfl | rfl
    · rfl
    · rw [Value.bodyUnder, Outcome.fault?_bind fun _ => Outcome.fault?_pure _, Option.or_none]
  | str s => cases op <;> rfl
  | _ => rfl

theorem Item.fault?_body :
    (∀ i : Item, Outcome.fault? i.body = i.walk.findSome? Item.fault?) ∧
      ∀ c : Clauses, Outcome.fault? c.body = c.walk.findSome? Item.fault? := by
  refine Clauses.induction (fun field value kind ih => ?_) fun c ih => Clauses.fault?_body ih
  rw [Item.body, Item.walk, List.findSome?_cons, Item.fault?]
  cases hop : kind.operator? with
  | none => rfl
  | some op =>
    by_cases hfits : op.fits value = true
    · simp only [hfits, if_true]
      exact Value.fault?_bodyUnder hfits field ih
    · simp only [hfits]
      rfl

theorem Document.fault?_body (doc : Document) :
    Outcome.fault? doc.body = doc.clauses.walk.findSome? Item.fault? := by
  rw [← Item.fault?_body.2 doc.clauses, Document.body, Outcome.fault?_bind fun _ => Outcome.fault?_pure _,
    Option.or_none]

/-- **The first faulty item of the walk decides the body** of an item, of clauses and of a document. The
shapes that its error names are those that the operator accepts, in the order of their names. -/
theorem body_decided_by_walk :
    (∀ doc : Document, DecidedBy doc.clauses.walk doc.body) ∧
    (∀ i : Item, DecidedBy i.walk i.body) ∧
    (∀ c : Clauses, DecidedBy c.walk c.body) ∧
    ∀ op : Operator, (op.shapes.map Shape.name).Pairwise (· < ·) ∧ ∀ s, s ∈ op.shapes ↔ op.accepts s = true :=
  ⟨fun doc => decidedBy_of_fault? (Document.fault?_body doc),
    fun i => decidedBy_of_fault? (Item.fault?_body.1 i),
    fun c => decidedBy_of_fault? (Item.fault?_body.2 c),
    fun op => ⟨by cases op <;> decide, fun _ => Operator.mem_shapes⟩⟩

end SearchRequest
