/-!
# Outcomes of steps

When a sequence of steps succeeds, and which fault ends it. `fault?` forgets the result, so that two
computations with different results can be compared by how they fail.
-/

namespace SearchRequest

/-- Whether an error is about the type of an entry, about its value, or about calls nested too deep. -/
inductive ErrorClass where
  | type
  | value
  | depth
  deriving DecidableEq, Repr

namespace Outcome

variable {ε α β : Type}

@[simp] theorem pure_eq_ok {a b : α} : (pure a : Except ε α) = .ok b ↔ a = b := by
  simp [pure, Except.pure]

@[simp] theorem bind_eq_ok {x : Except ε α} {f : α → Except ε β} {b : β} :
    x >>= f = .ok b ↔ ∃ a, x = .ok a ∧ f a = .ok b := by
  cases x <;> simp [bind, Except.bind]

theorem bind_eq_error {x : Except ε α} {f : α → Except ε β} {e : ε} :
    x >>= f = .error e ↔ x = .error e ∨ ∃ a, x = .ok a ∧ f a = .error e := by
  cases x <;> simp [bind, Except.bind]

@[simp] theorem map_eq_error {f : α → β} {x : Except ε α} {e : ε} : f <$> x = .error e ↔ x = .error e := by
  cases x <;> simp [Functor.map, Except.map]

theorem pure_ne_error {a : α} {e : ε} : (pure a : Except ε α) ≠ .error e := nofun

theorem exists_ok_of_isSome {x : Except ε α} (h : x.toOption.isSome = true) : ∃ a, x = .ok a := by
  cases x with
  | ok a => exact ⟨a, rfl⟩
  | error e => cases h

theorem toOption_eq_some {x : Except ε α} {a : α} : x.toOption = some a ↔ x = .ok a := by
  cases x <;> simp [Except.toOption]

theorem exists_ok_of_any {P : α → Prop} [DecidablePred P] {x : Except ε α}
    (h : x.toOption.any (decide <| P ·) = true) : ∃ a, x = .ok a ∧ P a := by
  cases x with
  | ok a => exact ⟨a, rfl, of_decide_eq_true h⟩
  | error e => cases h

theorem bind_congr {x : Except ε α} {f g : α → Except ε β} (h : ∀ a, x = .ok a → f a = g a) :
    x >>= f = x >>= g := by
  cases x with
  | ok a => exact h a rfl
  | error e => rfl

theorem foldlM_keeps {P : β → Prop} {f : β → α → Except ε β} (step : ∀ b a c, P b → f b a = .ok c → P c)
    {as : List α} {b c : β} (hb : P b) (hok : as.foldlM f b = .ok c) : P c := by
  induction as generalizing b with
  | nil =>
    cases hok
    exact hb
  | cons a as ih =>
    rw [List.foldlM_cons, bind_eq_ok] at hok
    obtain ⟨next, hnext, hok⟩ := hok
    exact ih (step b a next hb hnext) hok

/-- The fault that an outcome ends with, if it fails. -/
def fault? : Except ε α → Option ε
  | .ok _ => none
  | .error e => some e

@[simp] theorem fault?_ok (a : α) : fault? (.ok a : Except ε α) = none := rfl

@[simp] theorem fault?_error (e : ε) : fault? (.error e : Except ε α) = some e := rfl

@[simp] theorem fault?_pure (a : α) : fault? (pure a : Except ε α) = none := rfl

theorem fault?_eq_some_iff {x : Except ε α} {e : ε} : fault? x = some e ↔ x = .error e := by
  cases x <;> simp

theorem fault?_eq_none_iff {x : Except ε α} : fault? x = none ↔ ∃ a, x = .ok a := by
  cases x <;> simp

theorem eq_error_iff_of_fault? {x : Except ε α} {parts : List β} {partFault? : β → Option ε}
    (h : fault? x = parts.findSome? partFault?) {e : ε} :
    x = .error e ↔ ∃ before p after, parts = before ++ p :: after ∧ (∀ q ∈ before, partFault? q = none) ∧
      partFault? p = some e := by
  rw [← fault?_eq_some_iff, h, List.findSome?_eq_some_iff]
  constructor
  · rintro ⟨before, p, after, hparts, hp, hbefore⟩
    exact ⟨before, p, after, hparts, hbefore, hp⟩
  · rintro ⟨before, p, after, hparts, hbefore, hp⟩
    exact ⟨before, p, after, hparts, hp, hbefore⟩

theorem exists_error_iff_of_fault? {x : Except ε α} {parts : List β} {partFault? : β → Option ε}
    (h : fault? x = parts.findSome? partFault?) :
    (∃ e, x = .error e) ↔ ∃ p ∈ parts, ∃ e, partFault? p = some e := by
  simp only [← fault?_eq_some_iff, h, ← Option.isSome_iff_exists, List.findSome?_isSome_iff]

theorem fault?_bind {x : Except ε α} {f : α → Except ε β} {o : Option ε} (h : ∀ a, fault? (f a) = o) :
    fault? (x >>= f) = (fault? x).or o := by
  cases x with
  | ok a => simpa [bind, Except.bind] using h a
  | error e => rfl

end Outcome

end SearchRequest
