import SearchRequest.Proofs.Config.Item
import SearchRequest.Proofs.Query.Tree
import SearchRequest.Query.Document

/-!
# What a configuration can express

The documents that a configuration has a way to write, and what it reads them as. Values are plain: dates and
moments have no place in them, and the only tuple is a whole value, which is written as a list. A kind is a
whole number or an operator, and reading resolves the code of an operator to the operator (`resolved`). Such a
document has the body of the one it came from (`Document.body_resolved`).
-/

namespace SearchRequest

/-! ### Plain values -/

namespace Value

mutual

/-- Whether lists and the values of mappings lead to nothing that a configuration cannot hold or would change. -/
def isPlain : Value → Bool
  | .date _ | .moment _ | .tuple _ | .clauses _ | .enclosing => false
  | .list xs => isPlainList xs
  | .dict entries => isPlainEntries entries
  | _ => true

def isPlainList : List Value → Bool
  | [] => true
  | x :: xs => isPlain x && isPlainList xs

def isPlainEntries : List (Value × Value) → Bool
  | [] => true
  | (_, v) :: rest => isPlain v && isPlainEntries rest

end

/-- Whether a value is plain as an item holds it, with a tuple in the place of a list. -/
def isHeld : Value → Bool
  | .list _ => false
  | .tuple xs => isPlainList xs
  | v => v.isPlain

mutual

theorem isoDates_of_isPlain : ∀ v : Value, v.isPlain = true → v.isoDates = v
  | .list xs, h => by rw [isoDates, isoDatesList_of_isPlain xs h]
  | .dict entries, h => by rw [isoDates, isoDatesEntries_of_isPlain entries h]
  | .null, _ | .bool _, _ | .int _, _ | .float _, _ | .str _, _ | .bytes _, _ | .set _, _ => rfl

theorem isoDatesList_of_isPlain : ∀ xs : List Value, isPlainList xs = true → isoDatesList xs = xs
  | [], _ => rfl
  | x :: xs, h => by
    rw [isPlainList, Bool.and_eq_true] at h
    rw [isoDatesList, isoDates_of_isPlain x h.1, isoDatesList_of_isPlain xs h.2]

theorem isoDatesEntries_of_isPlain :
    ∀ entries : List (Value × Value), isPlainEntries entries = true → isoDatesEntries entries = entries
  | [], _ => rfl
  | (_, v) :: rest, h => by
    rw [isPlainEntries, Bool.and_eq_true] at h
    rw [isoDatesEntries, isoDates_of_isPlain v h.1, isoDatesEntries_of_isPlain rest h.2]

end

mutual

theorem isEndless_of_isPlain : ∀ v : Value, v.isPlain = true → v.isEndless = false
  | .list xs, h => areEndless_of_isPlain xs h
  | .dict entries, h => haveEndless_of_isPlain entries h
  | .null, _ | .bool _, _ | .int _, _ | .float _, _ | .str _, _ | .bytes _, _ | .set _, _ => rfl

theorem areEndless_of_isPlain : ∀ xs : List Value, isPlainList xs = true → areEndless xs = false
  | [], _ => rfl
  | x :: xs, h => by
    rw [isPlainList, Bool.and_eq_true] at h
    rw [areEndless, isEndless_of_isPlain x h.1, areEndless_of_isPlain xs h.2, Bool.or_false]

theorem haveEndless_of_isPlain :
    ∀ entries : List (Value × Value), isPlainEntries entries = true → haveEndless entries = false
  | [], _ => rfl
  | (_, v) :: rest, h => by
    rw [isPlainEntries, Bool.and_eq_true] at h
    rw [haveEndless, isEndless_of_isPlain v h.1, haveEndless_of_isPlain rest h.2, Bool.or_false]

end

theorem isEndless_plain {v : Value} (h : v.isHeld = true) : v.plain.isEndless = false := by
  cases v with
  | list xs => cases h
  | tuple xs => exact areEndless_of_isPlain xs h
  | _ => exact isEndless_of_isPlain _ h

theorem fixed_isoDates_plain {v : Value} (h : v.isHeld = true) : v.plain.isoDates.fixed = v := by
  cases v with
  | list xs => cases h
  | tuple xs => rw [plain, isoDates, isoDatesList_of_isPlain xs h, fixed]
  | dict entries =>
    show (dict entries).isoDates.fixed = _
    rw [isoDates_of_isPlain _ h]
    rfl
  | _ => first | rfl | cases h

end Value

/-! ### Resolved documents -/

namespace Kind

/-- A kind with a code that is known resolved to the operator. -/
def resolved (kind : Kind) : Kind :=
  match kind.operator? with
  | some op => .operator op
  | none => kind

theorem resolved_of_operator? {kind : Kind} {op : Operator} (h : kind.operator? = some op) :
    kind.resolved = .operator op := by
  rw [resolved, h]

theorem operator?_resolved (kind : Kind) : kind.resolved.operator? = kind.operator? := by
  cases h : kind.operator? with
  | none => rw [resolved, h, h]
  | some op => rw [resolved_of_operator? h, operator?]

theorem toValue_resolved (kind : Kind) : kind.resolved.toValue = kind.toValue := by
  cases h : kind.operator? with
  | none => rw [resolved, h]
  | some op => rw [resolved_of_operator? h, operator?_eq_some_iff.1 h, toValue]

end Kind

mutual

/-- An item as it is read: with its kind resolved, and those of the items that it holds. -/
def Item.resolved : Item → Item
  | .mk field value kind => .mk field value.resolved kind.resolved

def Value.resolved : Value → Value
  | .clauses c => .clauses c.resolved
  | v => v

def Item.resolveds : List Item → List Item
  | [] => []
  | i :: is => i.resolved :: Item.resolveds is

def Clauses.resolved : Clauses → Clauses
  | .mk must mustNot should filter =>
    .mk (Item.resolveds must) (Item.resolveds mustNot) (Item.resolveds should) (Item.resolveds filter)

end

theorem Item.resolveds_eq_map (is : List Item) : Item.resolveds is = is.map Item.resolved := by
  induction is with
  | nil => rfl
  | cons i is ih => rw [Item.resolveds, ih, List.map_cons]

theorem Clauses.get_resolved (c : Clauses) (clause : Clause) :
    c.resolved.get clause = (c.get clause).map Item.resolved := by
  obtain ⟨must, mustNot, should, filter⟩ := c
  cases clause <;> exact Item.resolveds_eq_map _

theorem Value.resolved_of_isHeld {v : Value} (h : v.isHeld = true) : v.resolved = v := by
  cases v with
  | clauses c => cases h
  | _ => rfl

def Document.resolved (doc : Document) : Document := { doc with clauses := doc.clauses.resolved }

/-! ### Expressible documents -/

mutual

/-- An item that a configuration can express: a plain value, or clauses under a nested or boolean operator. -/
inductive Item.IsExpressible : Item → Prop where
  | leaf {field : String} {value : Value} {kind : Kind} {n : Int} (hkind : kind.toValue = .int n)
      (hnested : kind.operator? ≠ some .nested) (hbool : kind.operator? ≠ some .bool)
      (hvalue : value.isHeld = true) : Item.IsExpressible (.mk field value kind)
  | holder {field : String} {c : Clauses} {kind : Kind}
      (hkind : kind.operator? = some .nested ∨ kind.operator? = some .bool) (hc : Clauses.IsExpressible c) :
      Item.IsExpressible (.mk field (.clauses c) kind)

inductive Clauses.IsExpressible : Clauses → Prop where
  | of {c : Clauses} (h : ∀ clause, ∀ i ∈ c.get clause, Item.IsExpressible i) : Clauses.IsExpressible c

end

/-- A document that a configuration can express. -/
structure Document.IsExpressible (doc : Document) : Prop where
  named : doc.index ≠ ""
  stripped : Text.strip doc.index = doc.index
  order : ∀ s ∈ doc.sort, s.order = "asc" ∨ s.order = "desc"
  size : doc.size = .null ∨ ∃ n, doc.size = .int n
  start : doc.start = .null ∨ ∃ n, doc.start = .int n
  searchAfter : Value.isPlainList doc.searchAfter = true
  clauses : doc.clauses.IsExpressible

theorem Item.IsExpressible.clauses {field : String} {c : Clauses} {kind : Kind}
    (h : (Item.mk field (.clauses c) kind).IsExpressible) :
    (kind.operator? = some .nested ∨ kind.operator? = some .bool) ∧ c.IsExpressible := by
  cases h with
  | leaf _ _ _ hvalue => cases hvalue
  | holder hkind hc => exact ⟨hkind, hc⟩

/-! ### Bodies -/

theorem Item.bodies_resolveds {is : List Item} (h : ∀ i ∈ is, i.resolved.body = i.body) :
    Item.bodies (Item.resolveds is) = Item.bodies is := by
  induction is with
  | nil => rfl
  | cons i is ih =>
    rw [List.forall_mem_cons] at h
    rw [Item.resolveds, Item.bodies, Item.bodies, h.1, ih h.2]

theorem Item.body_clauses {field : String} {c : Clauses} {kind : Kind} {op : Operator}
    (hop : kind.operator? = some op) (h : op = .bool ∨ op = .nested) :
    (Item.mk field (.clauses c) kind).body = (Value.clauses c).bodyUnder op field := by
  simp only [Item.body, hop, Operator.fits_clauses_iff.2 h, if_true]

theorem Value.bodyUnder_congr {c other : Clauses} (h : c.body = other.body) (op : Operator) (field : String) :
    (Value.clauses c).bodyUnder op field = (Value.clauses other).bodyUnder op field := by
  cases op <;> simp only [Value.bodyUnder, h]

theorem Item.body_resolved :
    (∀ i : Item, i.IsExpressible → i.resolved.body = i.body) ∧
      ∀ c : Clauses, c.IsExpressible → c.resolved.body = c.body := by
  refine Clauses.induction (fun field value kind ih hi => ?_) fun c ih hc => ?_
  · cases hi with
    | leaf _ _ _ hvalue =>
      rw [Item.resolved, Value.resolved_of_isHeld hvalue, Item.body, Item.body, Kind.operator?_resolved,
        Kind.toValue_resolved]
    | @holder _ c _ hkind hc =>
      obtain ⟨op, hop, hops⟩ : ∃ op, kind.operator? = some op ∧ (op = .bool ∨ op = .nested) := by
        rcases hkind with hop | hop
        · exact ⟨_, hop, .inr rfl⟩
        · exact ⟨_, hop, .inl rfl⟩
      rw [Item.resolved, Value.resolved, Item.body_clauses hop hops,
        Item.body_clauses ((Kind.operator?_resolved kind).trans hop) hops, Value.bodyUnder_congr (ih c rfl hc)]
  · obtain ⟨h⟩ := hc
    have hbodies : ∀ clause, Item.bodies (Item.resolveds (c.get clause)) = Item.bodies (c.get clause) :=
      fun clause => Item.bodies_resolveds fun i hi => ih clause i hi (h clause i hi)
    obtain ⟨must, mustNot, should, filter⟩ := c
    simp only [Clauses.get] at hbodies
    rw [Clauses.resolved, Clauses.body, Clauses.body, hbodies .must, hbodies .mustNot, hbodies .should,
      hbodies .filter]

theorem Document.body_resolved {doc : Document} (h : doc.IsExpressible) : doc.resolved.body = doc.body := by
  rw [Document.body, Document.body, Document.resolved, Item.body_resolved.2 _ h.clauses]

end SearchRequest
