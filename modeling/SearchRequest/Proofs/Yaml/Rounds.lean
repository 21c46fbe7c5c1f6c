import SearchRequest.Proofs.Outcome
import SearchRequest.Yaml.Load

/-!
# The values that rounds give

In a round each node gets a value that is made of those of its parts (`Making.getD_round_of_mem`): the ones of the same
round for parts that come before the node, and those of the round before for all others. So a mapping that holds nothing
but itself is written out inside itself once for every round (`Making.getD_repeat_round`).
-/

namespace SearchRequest

/-- A mapping inside a mapping and so on, each under the same name, with a mark in the innermost one. -/
def Value.nested (name : String) : Nat → Value
  | 0 => .enclosing
  | n + 1 => .dict [(.str name, nested name n)]

end SearchRequest

namespace SearchRequest.Yaml

namespace Making

variable {m : Making} {order : List NodeId} {values : Array Value} {id : NodeId}

theorem size_round (order : List NodeId) (values : Array Value) : (m.round order values).size = values.size := by
  unfold Making.round
  induction order generalizing values with
  | nil => rfl
  | cons other order ih =>
    rw [List.foldl_cons, ih]
    split
    · exact Array.size_setIfInBounds
    · rfl

theorem getD_round_of_not_mem (h : id ∉ order) :
    (m.round order values).getD id .null = values.getD id .null := by
  unfold Making.round
  induction order generalizing values with
  | nil => rfl
  | cons other order ih =>
    rw [List.mem_cons, not_or] at h
    rw [List.foldl_cons, ih h.2]
    split
    · rw [Array.getD_eq_getD_getElem?, Array.getElem?_setIfInBounds_ne (Ne.symm h.1), ← Array.getD_eq_getD_getElem?]
    · rfl

theorem getD_round_of_mem {front back : List NodeId} {made : Made} (hback : id ∉ back) (hid : id < values.size)
    (hmade : m.get? id = some made) :
    (m.round (front ++ id :: back) values).getD id .null =
      made.value fun part => (m.round front values).getD part .null := by
  have hround : m.round (front ++ id :: back) values = m.round back ((m.round front values).setIfInBounds id
      (made.value fun part => (m.round front values).getD part .null)) := by
    simp only [Making.round, List.foldl_append, List.foldl_cons, hmade]
  rw [hround, getD_round_of_not_mem hback, Array.getD_eq_getD_getElem?,
    Array.getElem?_setIfInBounds_self_of_lt (by rwa [size_round]), Option.getD_some]

/-- A mapping that holds nothing but itself. -/
theorem getD_repeat_round {key : NodeId} {name : String} (front middle back : List NodeId)
    (hkey : m.get? key = some (.scalar (.str name))) (hself : m.get? id = some (.dict [(key, id)]))
    (hfront : id ∉ front ++ key :: middle) (hmiddle : key ∉ middle) (hback : id ∉ back)
    (hsize : key < values.size ∧ id < values.size) (hvalue : values.getD id .null = .enclosing) (n : Nat) :
    (Nat.repeat (m.round (front ++ key :: middle ++ id :: back)) n values).getD id .null = .nested name n := by
  have hall (n : Nat) : (Nat.repeat (m.round (front ++ key :: middle ++ id :: back)) n values).size = values.size := by
    induction n with
    | zero => rfl
    | succ n ih => rw [Nat.repeat, size_round, ih]
  induction n with
  | zero => exact hvalue
  | succ n ih =>
    have hsize' := hall n
    rw [Nat.repeat]
    generalize Nat.repeat _ n values = values' at ih hsize' ⊢
    rw [getD_round_of_mem hback (hsize' ▸ hsize.2) hself]
    simp only [Made.value, List.map_cons, List.map_nil]
    rw [getD_round_of_mem hmiddle (hsize' ▸ hsize.1) hkey, getD_round_of_not_mem hfront, ih]
    rfl

/-- Whether all there is is a mapping that has itself under a name. -/
def holdsItself (m : Making) (name : String) : Bool :=
  match m.get? 0, m.get? 1 with
  | some (.dict [(1, 0)]), some (.scalar (.str text)) => text == name && m.graph.next == 2
  | _, _ => false

theorem rootValue_of_holdsItself {name : String} (h : m.holdsItself name = true) :
    m.rootValue 0 = .nested name callDepth := by
  unfold holdsItself at h
  split at h
  · next hself hkey =>
    simp only [Bool.and_eq_true, beq_iff_eq] at h
    obtain ⟨rfl, hnext⟩ := h
    have hself' : m.partsOf 0 = [1, 0] := by simp [partsOf, hself, Made.parts]
    have hkey' : m.partsOf 1 = [] := by simp [partsOf, hkey, Made.parts]
    have horder : m.partsFirst 0 = [1, 0] := by
      simp [partsFirst, collect, hnext, hself', hkey']
    have hback : m.leadsBack [1, 0] = true := by
      simp [leadsBack, hnext, hself', hkey']
    rw [rootValue, horder, hback, if_pos rfl]
    exact getD_repeat_round [] [] [] hkey hself (by simp) (by simp) (by simp) (by simp [hnext]) (by simp [hnext])
      callDepth
  · cases h

end Making

/-- Whether all that a document holds is a mapping that has itself under a name. -/
def Tree.holdsItself (t : Tree) (name : String) : Bool :=
  let made := do
    let m ← (Making.start t.graph).make t.root
    m.run (t.graph.next + 1)
  t.root == 0 && made.toOption.any fun m => m.holdsItself name

theorem Tree.value_of_holdsItself {t : Tree} {name : String} (h : t.holdsItself name = true) :
    t.value = .ok (.nested name Making.callDepth) := by
  rw [Tree.holdsItself, Bool.and_eq_true, beq_iff_eq, Option.any_eq_true] at h
  obtain ⟨hroot, m, hm, hself⟩ := h
  rw [Outcome.toOption_eq_some, Outcome.bind_eq_ok] at hm
  obtain ⟨first, hfirst, hrun⟩ := hm
  rw [Tree.value, Outcome.bind_eq_ok]
  refine ⟨first, hfirst, ?_⟩
  rw [Outcome.bind_eq_ok]
  refine ⟨m, hrun, ?_⟩
  rw [hroot, Making.rootValue_of_holdsItself hself]
  rfl

theorem load_of_holdsItself {text name : String}
    (h : ((Tree.ofTokens (Token.ofText text.toList)).toOption.any fun t => t.any (Tree.holdsItself · name)) = true) :
    load text = .ok (.nested name Making.callDepth) := by
  rw [Option.any_eq_true] at h
  obtain ⟨tree?, htree, htree?⟩ := h
  rw [Outcome.toOption_eq_some] at htree
  obtain ⟨tree, rfl, hself⟩ := (Option.any_eq_true ..).1 htree?
  rw [load, Outcome.bind_eq_ok]
  exact ⟨some tree, htree, tree.value_of_holdsItself hself⟩

end SearchRequest.Yaml
