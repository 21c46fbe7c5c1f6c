import SearchRequest.Json.Encode
import SearchRequest.Proofs.Outcome

/-!
# The first part without a form

The text of a value lists its parts in order: a value before what it holds, elements in theirs, the key of an entry
before its value (`Value.parts`). JSON has no form for some of them: numbers that are not finite, keys that are no
texts, numbers, truth values or null, and values of any other type (`Value.Part.Offends`).

`toJsonText_decided_by_parts`: a value has no text exactly if one of its parts offends, and the error is that of the
first one that does, whatever comes after it.
-/

namespace SearchRequest

/-- Whether an error is about the type of a part or about its value. -/
def EncodeError.errorClass : EncodeError → ErrorClass
  | .badKey _ | .badValue _ => .type
  | .notFinite | .circular => .value

namespace Value

/-! ### Parts -/

/-- A part of a value: a key of a mapping, or the value itself or one that it holds. -/
inductive Part where
  | key (k : Value)
  | value (v : Value)

mutual

/-- The parts of a value in the order of its text. -/
def parts : Value → List Part
  | .list xs => .value (.list xs) :: elementParts xs
  | .tuple xs => .value (.tuple xs) :: elementParts xs
  | .dict entries => .value (.dict entries) :: entryParts entries
  | v => [.value v]

def elementParts : List Value → List Part
  | [] => []
  | x :: xs => parts x ++ elementParts xs

def entryParts : List (Value × Value) → List Part
  | [] => []
  | (k, v) :: rest => .key k :: (parts v ++ entryParts rest)

end

/-- Whether a value is null, a truth value, a number or a text. -/
def isSimple : Value → Bool
  | .null | .bool _ | .int _ | .float _ | .str _ => true
  | _ => false

/-- Whether a value is a sequence or a mapping. -/
def isCollection : Value → Bool
  | .list _ | .tuple _ | .dict _ => true
  | _ => false

theorem parts_of_not_collection {v : Value} (h : v.isCollection = false) : v.parts = [.value v] := by
  cases v with
  | list | tuple | dict => cases h
  | _ => simp only [parts]

namespace Part

/-- A part that JSON has no form for, and the error that says so. -/
inductive Offends : Part → EncodeError → Prop where
  | number {x : Binary64} (h : x.isFinite = false) : Offends (.value (.float x)) .notFinite
  | numberKey {x : Binary64} (h : x.isFinite = false) : Offends (.key (.float x)) .notFinite
  | key {k : Value} (h : k.isSimple = false) : Offends (.key k) (.badKey k.keyTypeName)
  | value {v : Value} (hsimple : v.isSimple = false) (hcollection : v.isCollection = false) (h : v ≠ .enclosing) :
      Offends (.value v) (.badValue v.typeName)
  /-- No value that is written down in full holds this part. -/
  | enclosing : Offends (.value .enclosing) .circular

/-- The error of a part on its own. -/
def fault? : Part → Option EncodeError
  | .key k => Outcome.fault? (Json.memberName k)
  | .value (.float x) => Outcome.fault? (Json.floatToken x)
  | .value .enclosing => some .circular
  | .value v => if v.isSimple || v.isCollection then none else some (.badValue v.typeName)

theorem fault?_floatToken {x : Binary64} {e : EncodeError} :
    Outcome.fault? (Json.floatToken x) = some e ↔ x.isFinite = false ∧ e = .notFinite := by
  rw [Json.floatToken]
  cases x.isFinite <;> simp [eq_comm]

theorem fault?_eq_some_iff {p : Part} {e : EncodeError} : p.fault? = some e ↔ p.Offends e := by
  constructor
  · intro h
    cases p with
    | key k =>
      cases k with
      | float x =>
        obtain ⟨hx, rfl⟩ := fault?_floatToken.1 h
        exact .numberKey hx
      | null | bool | int | str => cases h
      | _ =>
        cases h
        exact .key rfl
    | value v =>
      cases v with
      | float x =>
        obtain ⟨hx, rfl⟩ := fault?_floatToken.1 h
        exact .number hx
      | enclosing =>
        cases h
        exact .enclosing
      | null | bool | int | str | list | tuple | dict => cases h
      | _ =>
        cases h
        exact .value rfl rfl (by simp)
  · intro h
    cases h with
    | number hx | numberKey hx => exact fault?_floatToken.2 ⟨hx, rfl⟩
    | @key k h =>
      cases k with
      | null | bool | int | float | str => cases h
      | _ => rfl
    | @value v hsimple hcollection h =>
      cases v with
      | null | bool | int | float | str => cases hsimple
      | list | tuple | dict => cases hcollection
      | enclosing => exact absurd rfl h
      | _ => rfl
    | enclosing => rfl

theorem fault?_eq_none_iff {p : Part} : p.fault? = none ↔ ∀ e, ¬p.Offends e := by
  simp only [Option.eq_none_iff_forall_ne_some, ne_eq, fault?_eq_some_iff]

end Part

end Value

/-! ### Encoding fails at the first one -/

namespace Json

mutual

theorem fault?_ofValue : ∀ v : Value, Outcome.fault? (ofValue v) = v.parts.findSome? Value.Part.fault?
  | .list xs => by
    rw [ofValue, Value.parts, List.findSome?_cons, Outcome.fault?_bind fun _ => Outcome.fault?_pure _,
      fault?_ofValues xs, Option.or_none]
    rfl
  | .tuple xs => by
    rw [ofValue, Value.parts, List.findSome?_cons, Outcome.fault?_bind fun _ => Outcome.fault?_pure _,
      fault?_ofValues xs, Option.or_none]
    rfl
  | .dict entries => by
    rw [ofValue, Value.parts, List.findSome?_cons, Outcome.fault?_bind fun _ => Outcome.fault?_pure _,
      fault?_ofEntries entries, Option.or_none]
    rfl
  | .float x => by
    rw [ofValue, Value.parts_of_not_collection rfl, List.findSome?_singleton,
      Outcome.fault?_bind fun _ => Outcome.fault?_pure _, Option.or_none]
    rfl
  | .null | .bool _ | .int _ | .str _ | .date _ | .moment _ | .bytes _ | .set _ | .clauses _ | .enclosing => by
    rw [Value.parts_of_not_collection rfl, List.findSome?_singleton]
    simp only [ofValue]
    rfl

theorem fault?_ofValues : ∀ xs : List Value,
    Outcome.fault? (ofValues xs) = (Value.elementParts xs).findSome? Value.Part.fault?
  | [] => by
    rw [ofValues, Value.elementParts]
    rfl
  | x :: xs => by
    rw [ofValues, Value.elementParts, List.findSome?_append, ← fault?_ofValue x, ← fault?_ofValues xs]
    refine Outcome.fault?_bind fun _ => ?_
    rw [Outcome.fault?_bind fun _ => Outcome.fault?_pure _, Option.or_none]

theorem fault?_ofEntries : ∀ entries : List (Value × Value),
    Outcome.fault? (ofEntries entries) = (Value.entryParts entries).findSome? Value.Part.fault?
  | [] => by
    rw [ofEntries, Value.entryParts]
    rfl
  | (k, v) :: rest => by
    have hkey : Value.Part.fault? (.key k) = Outcome.fault? (memberName k) := rfl
    rw [ofEntries, Value.entryParts, ← List.singleton_append, List.findSome?_append, List.findSome?_append,
      List.findSome?_singleton, hkey, ← fault?_ofValue v, ← fault?_ofEntries rest]
    refine Outcome.fault?_bind fun _ => Outcome.fault?_bind fun _ => ?_
    rw [Outcome.fault?_bind fun _ => Outcome.fault?_pure _, Option.or_none]

end

end Json

theorem Value.fault?_toJsonText (v : Value) : Outcome.fault? v.toJsonText = v.parts.findSome? Value.Part.fault? := by
  rw [toJsonText, Outcome.fault?_bind fun _ => Outcome.fault?_pure _, Option.or_none, Json.fault?_ofValue]

/-- **The first offending part decides whether and how the text of a value fails.** A number that is not finite is an
error about a value, everything else about a type, which the message names. -/
theorem toJsonText_decided_by_parts :
    (∀ v : Value, (∃ e, v.toJsonText = .error e) ↔ ∃ p ∈ v.parts, ∃ e, p.Offends e) ∧
    (∀ (v : Value) (e : EncodeError), v.toJsonText = .error e ↔
      ∃ before p after, v.parts = before ++ p :: after ∧ (∀ q ∈ before, ∀ e, ¬q.Offends e) ∧ p.Offends e) ∧
    EncodeError.notFinite.errorClass = .value ∧
    ∀ (e : EncodeError) (name : String), e = .badKey name ∨ e = .badValue name →
      e.errorClass = .type ∧ name.toList <:+: e.message.toList := by
  refine ⟨fun v => ?_, fun v e => ?_, rfl, ?_⟩
  · simp only [Outcome.exists_error_iff_of_fault? v.fault?_toJsonText, Value.Part.fault?_eq_some_iff]
  · simp only [Outcome.eq_error_iff_of_fault? v.fault?_toJsonText, Value.Part.fault?_eq_none_iff,
      Value.Part.fault?_eq_some_iff]
  · rintro e name (rfl | rfl)
    · refine ⟨rfl, "keys must be str, int, float, bool or None, not ".toList, [], ?_⟩
      rw [List.append_nil, ← String.toList_append]
      rfl
    · refine ⟨rfl, "Object of type ".toList, " is not JSON serializable".toList, ?_⟩
      rw [← String.toList_append, ← String.toList_append]
      rfl

/-- Of three parts without a form the key comes first, although its value and the element after it have none either. -/
example : (Value.tuple [.int 1, .dict [(.date ⟨2015, 1, 1⟩, .float (.infinity true))], .bytes []]).toJsonText =
    .error (.badKey "datetime.date") := rfl

end SearchRequest
