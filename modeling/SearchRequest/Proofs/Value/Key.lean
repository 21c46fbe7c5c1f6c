import SearchRequest.Value.Key

/-!
# Equal keys

When two values are one key, by the class that each of them has (`Value.keyClass?`): the numbers, truth values
among them, have their value as their class, moments their instant, and tuples the classes of their elements.
Two values are one key exactly when they have one class (`Value.sameKey_iff`), so equality of keys is symmetric
and transitive although it is not equality of values.
-/

namespace SearchRequest

/-! ### Agreement -/

/-- Both are there, and they are equal. -/
def Agree {α : Type} (x y : Option α) : Prop := ∃ a, x = some a ∧ y = some a

namespace Agree

variable {α β γ : Type}

theorem symm {x y : Option α} : Agree x y → Agree y x
  | ⟨a, hx, hy⟩ => ⟨a, hy, hx⟩

theorem trans {x y z : Option α} : Agree x y → Agree y z → Agree x z
  | ⟨a, hx, hy⟩, ⟨b, hy', hz⟩ => by
    cases hy.symm.trans hy'
    exact ⟨a, hx, hz⟩

@[simp] theorem some_left {a : α} {y : Option α} : Agree (some a) y ↔ y = some a := by
  simp [Agree]

@[simp] theorem some_right {x : Option α} {b : α} : Agree x (some b) ↔ x = some b := by
  simp [Agree]

@[simp] theorem not_none_left {y : Option α} : ¬Agree none y := by
  simp [Agree]

@[simp] theorem not_none_right {x : Option α} : ¬Agree x none := by
  simp [Agree]

theorem map_map {x : Option α} {y : Option β} {f : α → γ} {g : β → γ} :
    Agree (x.map f) (y.map g) ↔ ∃ a b, x = some a ∧ y = some b ∧ f a = g b := by
  cases x <;> cases y <;> simp

theorem map {f : α → β} (hf : ∀ {a b}, f a = f b → a = b) {x y : Option α} :
    Agree (x.map f) (y.map f) ↔ Agree x y := by
  rw [map_map]
  constructor
  · rintro ⟨a, b, rfl, rfl, h⟩
    exact ⟨b, congrArg some (hf h), rfl⟩
  · rintro ⟨a, rfl, rfl⟩
    exact ⟨a, a, rfl, rfl, rfl⟩

theorem cons {x y : Option α} {xs ys : Option (List α)} :
    Agree (x.bind fun a => xs.map (a :: ·)) (y.bind fun a => ys.map (a :: ·)) ↔ Agree x y ∧ Agree xs ys := by
  cases x <;> cases y <;> cases xs <;> cases ys <;> simp

end Agree

/-! ### Classes -/

/-- The value of a number as a key: a count of units of `2 ^ -1074`, an infinity, or the mark of what is no
number. -/
inductive Quantity where
  | units (n : Int)
  | infinity (negative : Bool)
  | unknown (mark : Nat)

/-- What equal keys have in common. -/
inductive KeyClass where
  | null
  | number (q : Quantity)
  | text (s : String)
  | bytes (bs : List UInt8)
  | date (d : Date)
  | moment (placed : Bool) (instant : Int)
  | tuple (cs : List KeyClass)

/-- The value of a whole number. -/
def Quantity.whole (n : Int) : Quantity := .units (n * Binary64.unitsPerOne)

/-- The value of a floating-point number. What is no number and has no mark has none. -/
def Binary64.quantity? : Binary64 → Option Quantity
  | .nan mark => mark.map .unknown
  | .infinity negative => some (.infinity negative)
  | .finite negative m e => (Binary64.finite negative m e).units?.map .units

namespace Value

/-- The value of a number or truth value. -/
def quantity? : Value → Option Quantity
  | .float x => x.quantity?
  | v => v.whole?.map .whole

mutual

/-- The class of a value. A value that cannot be a key has none. -/
def keyClass? : Value → Option KeyClass
  | .null => some .null
  | .str s => some (.text s)
  | .bytes bs => some (.bytes bs)
  | .date d => some (.date d)
  | .moment t => some (.moment t.offset.isSome t.instant)
  | .tuple xs => (keyClasses? xs).map .tuple
  | v => v.quantity?.map .number

def keyClasses? : List Value → Option (List KeyClass)
  | [] => some []
  | x :: xs => x.keyClass?.bind fun c => (keyClasses? xs).map (c :: ·)

end

end Value

/-! ### Numbers -/

theorem Binary64.unitsPerOne_pos : 0 < unitsPerOne := by
  unfold unitsPerOne
  generalize 1074 = n
  exact Nat.pow_pos Nat.two_pos

theorem Quantity.whole_inj {m n : Int} : whole m = whole n ↔ m = n := by
  have hunits : (Binary64.unitsPerOne : Int) ≠ 0 := Int.natCast_ne_zero.2 (Nat.ne_of_gt Binary64.unitsPerOne_pos)
  rw [whole, whole, units.injEq, Int.mul_eq_mul_right_iff hunits]

theorem Binary64.sameKey_iff (x y : Binary64) : x.sameKey y = true ↔ Agree x.quantity? y.quantity? := by
  cases x with
  | nan a =>
    cases y with
    | nan b => cases a <;> cases b <;> simp [sameKey, quantity?]
    | _ => cases a <;> simp [sameKey, quantity?, units?]
  | infinity a => cases y <;> simp [sameKey, quantity?, units?]
  | finite na ma ea =>
    cases y with
    | finite nb mb eb =>
      simp only [sameKey, quantity?, units?, beq_iff_eq, Option.map_some, Option.some.injEq, Agree.some_left,
        Quantity.units.injEq]
      exact eq_comm
    | _ => simp [sameKey, quantity?, units?]

theorem Binary64.eqInt_iff (x : Binary64) (n : Int) : x.eqInt n = true ↔ x.quantity? = some (.whole n) := by
  rw [eqInt, beq_iff_eq, Quantity.whole]
  generalize n * (unitsPerOne : Int) = count
  cases x with
  | nan a => cases a <;> simp [quantity?, units?]
  | _ => simp [quantity?, units?]

namespace Value

theorem sameNumber_iff (a b : Value) : a.sameNumber b = true ↔ Agree a.quantity? b.quantity? := by
  cases a <;> cases b <;>
    simp [sameNumber, quantity?, whole?, Binary64.sameKey_iff, Binary64.eqInt_iff, Quantity.whole_inj]

/-! ### Equality of keys -/

mutual

/-- **Two values are one key** exactly when they have one class. -/
theorem sameKey_iff (a b : Value) : a.sameKey b = true ↔ Agree a.keyClass? b.keyClass? := by
  cases a with
  | tuple xs =>
    cases b with
    | tuple ys => simp only [sameKey, keyClass?, sameKeys_iff xs ys, Agree.map KeyClass.tuple.inj]
    | _ => simp [sameKey, keyClass?, sameNumber, whole?, Agree.map_map]
  | float x =>
    cases b with
    | float y => simp only [sameKey, keyClass?, sameNumber_iff, Agree.map KeyClass.number.inj]
    | _ => simp [sameKey, keyClass?, sameNumber_iff, quantity?, whole?, Agree.map_map]
  | moment s =>
    cases b with
    | moment t => simp [sameKey, keyClass?, Moment.sameKey]
    | _ => simp [sameKey, keyClass?, sameNumber_iff, quantity?, whole?]
  | _ => cases b <;> simp [sameKey, keyClass?, sameNumber_iff, quantity?, whole?]

theorem sameKeys_iff (xs ys : List Value) :
    sameKeys xs ys = true ↔ Agree (keyClasses? xs) (keyClasses? ys) := by
  cases xs with
  | nil => cases ys <;> simp [sameKeys, keyClasses?, Option.bind_eq_some_iff]
  | cons x xs =>
    cases ys with
    | nil => simp [sameKeys, keyClasses?, Option.bind_eq_some_iff]
    | cons y ys =>
      rw [sameKeys, keyClasses?, keyClasses?, Agree.cons, Bool.and_eq_true, sameKey_iff x y, sameKeys_iff xs ys]

end

theorem sameKey_symm {a b : Value} (h : a.sameKey b = true) : b.sameKey a = true :=
  (sameKey_iff b a).2 ((sameKey_iff a b).1 h).symm

theorem sameKey_trans {a b c : Value} (hab : a.sameKey b = true) (hbc : b.sameKey c = true) :
    a.sameKey c = true :=
  (sameKey_iff a c).2 (((sameKey_iff a b).1 hab).trans ((sameKey_iff b c).1 hbc))

theorem sameKey_congr {a b : Value} (h : a.sameKey b = true) (c : Value) : a.sameKey c = b.sameKey c :=
  Bool.eq_iff_iff.2 ⟨sameKey_trans (sameKey_symm h), sameKey_trans h⟩

theorem sameKey_comm (a b : Value) : a.sameKey b = b.sameKey a := Bool.eq_iff_iff.2 ⟨sameKey_symm, sameKey_symm⟩

end Value

/-! ### Entries -/

namespace Entries

/-- The keys in their order. -/
def keys (entries : Entries) : List Value := entries.map (·.1)

/-- No key equals another one. -/
def IsDistinct (entries : Entries) : Prop := entries.keys.Pairwise fun k l => k.sameKey l = false

instance (entries : Entries) : Decidable entries.IsDistinct :=
  inferInstanceAs (Decidable (List.Pairwise _ _))

theorem isDistinct_of_names {entries : Entries} {names : List String} (hkeys : entries.keys = names.map .str)
    (hnodup : names.Nodup) : entries.IsDistinct := by
  rw [IsDistinct, hkeys, List.pairwise_map]
  refine List.Pairwise.imp (fun {name other} hne => ?_) hnodup
  rw [Value.sameKey]
  exact beq_false_of_ne hne

theorem get?_congr (entries : Entries) {k l : Value} (h : k.sameKey l = true) : get? entries k = get? entries l := by
  induction entries with
  | nil => rfl
  | cons entry rest ih =>
    obtain ⟨m, v⟩ := entry
    rw [get?, get?, ih, Value.sameKey_comm m k, Value.sameKey_congr h, Value.sameKey_comm l m]

theorem get?_insert (entries : Entries) (k : Value) (v : Value) (l : Value) :
    get? (insert entries k v) l = if k.sameKey l then some v else get? entries l := by
  induction entries with
  | nil => rfl
  | cons entry rest ih =>
    obtain ⟨m, w⟩ := entry
    rw [insert]
    by_cases hmk : m.sameKey k = true
    · rw [if_pos hmk, get?, get?, Value.sameKey_congr hmk]
      split <;> rfl
    · rw [if_neg hmk, get?, get?, ih]
      by_cases hkl : k.sameKey l = true
      · have hml : ¬m.sameKey l = true := fun hml => hmk (Value.sameKey_trans hml (Value.sameKey_symm hkl))
        rw [if_neg hml, if_pos hkl, if_pos hkl]
      · rw [if_neg hkl, if_neg hkl]

theorem get?_eq_none_iff {entries : Entries} {k : Value} :
    get? entries k = none ↔ ∀ l ∈ entries.keys, l.sameKey k = false := by
  induction entries with
  | nil => simp [get?, keys]
  | cons entry rest ih =>
    obtain ⟨l, v⟩ := entry
    rw [get?, keys, List.map_cons, List.forall_mem_cons, ← keys, ← ih]
    cases l.sameKey k <;> simp

theorem keys_insert (entries : Entries) (k v : Value) :
    (insert entries k v).keys = entries.keys ++ if (get? entries k).isNone then [k] else [] := by
  induction entries with
  | nil => rfl
  | cons entry rest ih =>
    obtain ⟨l, w⟩ := entry
    rw [insert, get?]
    by_cases hlk : l.sameKey k = true
    · simp [hlk, keys]
    · simp only [hlk, if_false, Bool.false_eq_true, ]
      rw [keys, List.map_cons, ← keys, ih, keys, keys, List.map_cons, List.cons_append]

end Entries

end SearchRequest
