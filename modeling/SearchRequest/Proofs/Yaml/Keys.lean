import SearchRequest.Proofs.Config.Merge
import SearchRequest.Proofs.Outcome
import SearchRequest.Yaml.Load

/-!
# The keys of a document

Every mapping that a text writes has distinct keys, at every level (`Yaml.isKeyed_of_load`): a mapping is made by
setting one key after another, and everything else that is made of a node is no mapping or is made of values that were
given before. What a scalar stands for is no mapping, whatever its tag (`Making.IsFlat.run`).
-/

namespace SearchRequest

/-! ### Entries set one after another -/

namespace Entries

theorem isDistinct_insert {entries : Entries} (h : entries.IsDistinct) (k v : Value) :
    (insert entries k v).IsDistinct := by
  rw [IsDistinct, keys_insert, List.pairwise_append]
  refine ⟨h, ?_, fun l hl m hm => ?_⟩
  · split <;> simp
  · split at hm
    · next hnone =>
      rw [List.mem_singleton] at hm
      subst hm
      exact get?_eq_none_iff.1 (Option.isNone_iff_eq_none.1 hnone) l hl
    · cases hm

theorem forall_mem_insert {P : Value → Prop} {entries : Entries} (h : ∀ entry ∈ entries, P entry.2) (k : Value)
    {v : Value} (hv : P v) : ∀ entry ∈ insert entries k v, P entry.2 := by
  induction entries with
  | nil => simpa [insert] using hv
  | cons entry rest ih =>
    obtain ⟨l, w⟩ := entry
    rw [List.forall_mem_cons] at h
    rw [insert]
    split
    · exact List.forall_mem_cons.2 ⟨hv, h.2⟩
    · exact List.forall_mem_cons.2 ⟨h.1, ih h.2⟩

theorem isKeyed_ofList {entries : List (Value × Value)} (h : ∀ entry ∈ entries, entry.2.isKeyed = true) :
    (Value.dict (ofList entries)).isKeyed = true := by
  have hfold (before : Entries) (hbefore : (Value.dict before).isKeyed = true) :
      (Value.dict (entries.foldl (fun acc entry => insert acc entry.1 entry.2) before)).isKeyed = true := by
    induction entries generalizing before with
    | nil => exact hbefore
    | cons entry rest ih =>
      rw [List.forall_mem_cons] at h
      rw [Value.isKeyed_dict] at hbefore
      refine ih h.2 _ (Value.isKeyed_dict.2 ⟨isDistinct_insert hbefore.1 entry.1 entry.2, ?_⟩)
      exact forall_mem_insert (P := fun v => v.isKeyed = true) hbefore.2 entry.1 h.1
  exact hfold [] rfl

end Entries

namespace Yaml

/-! ### Scalars -/

namespace ScalarValue

variable {text : List Char} {v : Value}

theorem isMapping_bool (h : bool text = .ok v) : v.isMapping = false := by
  unfold bool at h
  dsimp only at h
  split at h
  · cases h
    rfl
  · split at h
    · cases h
      rfl
    · cases h

theorem isMapping_int (h : int text = .ok v) : v.isMapping = false := by
  rw [int, Outcome.bind_eq_ok] at h
  obtain ⟨⟨negative, digits⟩, -, h⟩ := h
  obtain ⟨n, -, h⟩ := Outcome.bind_eq_ok.1 h
  cases h
  rfl

theorem isMapping_float (h : float text = .ok v) : v.isMapping = false := by
  rw [float, Outcome.bind_eq_ok] at h
  obtain ⟨⟨negative, unsigned⟩, -, h⟩ := h
  dsimp only at h
  split at h
  · cases h
    rfl
  · split at h
    · cases h
      rfl
    · obtain ⟨x, -, h⟩ := Outcome.bind_eq_ok.1 h
      cases h
      rfl

theorem isMapping_binary (h : binary text = .ok v) : v.isMapping = false := by
  unfold binary at h
  split at h
  · split at h
    · cases h
      rfl
    · cases h
  · cases h

theorem isMapping_timestamp (h : timestamp text = .ok v) : v.isMapping = false := by
  unfold timestamp at h
  split at h
  · cases h
  · split at h
    · obtain ⟨date, -, h⟩ := Outcome.bind_eq_ok.1 h
      cases h
      rfl
    · obtain ⟨offset, -, h⟩ := Outcome.bind_eq_ok.1 h
      obtain ⟨date, -, h⟩ := Outcome.bind_eq_ok.1 h
      obtain ⟨moment, -, h⟩ := Outcome.bind_eq_ok.1 h
      cases h
      rfl

end ScalarValue

namespace Making

theorem isMapping_scalar {m : Making} {id : NodeId} {tag : Tag} {v : Value} (h : m.scalar id tag = .ok v) :
    v.isMapping = false := by
  obtain ⟨text, -, h⟩ := Outcome.bind_eq_ok.1 h
  cases tag with
  | null =>
    cases h
    rfl
  | bool => exact ScalarValue.isMapping_bool h
  | int => exact ScalarValue.isMapping_int h
  | float => exact ScalarValue.isMapping_float h
  | binary => exact ScalarValue.isMapping_binary h
  | timestamp =>
    dsimp only at h
    split at h
    · exact ScalarValue.isMapping_timestamp h
    · cases h
  | str =>
    cases h
    rfl
  | _ => cases h

theorem isMapping_marked (id : NodeId) (v : Value) : (marked id v).isMapping = v.isMapping := by
  unfold marked
  split <;> rfl

/-! ### What is made of nodes -/

/-- No scalar that has been made is a mapping. -/
def IsFlat (m : Making) : Prop := ∀ id v, m.get? id = some (.scalar v) → v.isMapping = false

theorem isFlat_start (g : Graph) : (start g).IsFlat := by
  intro id v h
  rw [start, get?, Array.getD_eq_getD_getElem?, Array.getElem?_replicate] at h
  split at h
  · cases h
  · cases h

namespace IsFlat

variable {m m' : Making} {id : NodeId}

theorem set (h : m.IsFlat) {made : Made} (hset : m'.made = m.made.setIfInBounds id (some made))
    (hmade : ∀ v, made = .scalar v → v.isMapping = false) : m'.IsFlat := by
  intro other v hv
  rw [get?, hset, Array.getD_eq_getD_getElem?, Array.getElem?_setIfInBounds] at hv
  split at hv
  · split at hv
    · exact hmade v (Option.some.inj hv)
    · cases hv
  · refine h other v ?_
    rwa [get?, Array.getD_eq_getD_getElem?]

theorem make (h : m.IsFlat) (hok : m.make id = .ok m') : m'.IsFlat := by
  unfold Making.make at hok
  split at hok
  · cases hok
    exact h
  · split at hok
    case h_1 | h_2 | h_3 | h_4 | h_5 =>
      cases hok
      exact h.set rfl nofun
    case h_6 | h_7 | h_8 => cases hok
    case h_9 =>
      obtain ⟨v, hv, hok⟩ := Outcome.bind_eq_ok.1 hok
      cases hok
      refine h.set rfl fun w hw => ?_
      cases hw
      rw [isMapping_marked]
      exact isMapping_scalar hv

theorem makeKey (h : m.IsFlat) (hok : m.makeKey id = .ok m') : m'.IsFlat := by
  obtain ⟨made, hmade, hok⟩ := Outcome.bind_eq_ok.1 hok
  split at hok
  · cases hok
    exact h.make hmade
  · cases hok

theorem makeEntries (h : m.IsFlat) (hok : m.makeEntries id = .ok m') : m'.IsFlat := by
  obtain ⟨g, -, hok⟩ := Outcome.bind_eq_ok.1 hok
  have hresolved : IsFlat { m with graph := g } := h
  refine Outcome.foldlM_keeps (P := IsFlat) (fun made entry next hmade hnext => ?_) hresolved hok
  obtain ⟨keyed, hkeyed, hnext⟩ := Outcome.bind_eq_ok.1 hnext
  exact (hmade.makeKey hkeyed).make hnext

theorem makePairs {items : List NodeId} (h : m.IsFlat) {entries : List NodeEntry}
    (hok : m.makePairs items = .ok (entries, m')) : m'.IsFlat := by
  induction items generalizing m entries with
  | nil =>
    cases hok
    exact h
  | cons item items ih =>
    obtain ⟨⟨key, v⟩, -, hok⟩ := Outcome.bind_eq_ok.1 hok
    obtain ⟨keyed, hkeyed, hok⟩ := Outcome.bind_eq_ok.1 hok
    obtain ⟨valued, hvalued, hok⟩ := Outcome.bind_eq_ok.1 hok
    obtain ⟨⟨others, last⟩, hlast, hok⟩ := Outcome.bind_eq_ok.1 hok
    cases hok
    exact ih ((h.make hkeyed).make hvalued) hlast

theorem fill (h : m.IsFlat) (hok : m.fill id = .ok m') : m'.IsFlat := by
  unfold Making.fill at hok
  split at hok
  · obtain ⟨made, hmade, hok⟩ := Outcome.bind_eq_ok.1 hok
    cases hok
    have hflat : made.IsFlat := Outcome.foldlM_keeps (P := IsFlat) (fun _ _ _ => make) h hmade
    exact hflat.set rfl nofun
  · obtain ⟨made, hmade, hok⟩ := Outcome.bind_eq_ok.1 hok
    cases hok
    exact (h.makeEntries hmade).set rfl nofun
  · obtain ⟨made, hmade, hok⟩ := Outcome.bind_eq_ok.1 hok
    cases hok
    exact (h.makeEntries hmade).set rfl nofun
  case h_4 | h_5 =>
    obtain ⟨⟨entries, made⟩, hmade, hok⟩ := Outcome.bind_eq_ok.1 hok
    cases hok
    exact (h.makePairs hmade).set rfl nofun
  · cases hok

theorem run {fuel : Nat} (h : m.IsFlat) (hok : m.run fuel = .ok m') : m'.IsFlat := by
  induction fuel generalizing m with
  | zero =>
    cases hok
    exact h
  | succ fuel ih =>
    rw [Making.run] at hok
    split at hok
    · cases hok
      exact h
    · obtain ⟨filled, hfilled, hok⟩ := Outcome.bind_eq_ok.1 hok
      have hwaiting : IsFlat { m with waiting := [] } := h
      exact ih (Outcome.foldlM_keeps (P := IsFlat) (fun _ _ _ => fill) hwaiting hfilled) hok

end IsFlat

end Making

/-! ### Values -/

theorem isKeyed_of_not_mapping {v : Value} (h : v.isMapping = false) : v.isKeyed = true := by
  cases v with
  | dict entries => cases h
  | _ => rfl

theorem isKeyed_setOf (keys : List Value) : (Value.setOf keys).isKeyed = true := by
  unfold Value.setOf
  dsimp only
  split <;> rfl

theorem Made.isKeyed_value {part : NodeId → Value} (hpart : ∀ id, (part id).isKeyed = true) {made : Made}
    (hscalar : ∀ v, made = .scalar v → v.isMapping = false) : (made.value part).isKeyed = true := by
  cases made with
  | scalar v => exact isKeyed_of_not_mapping (hscalar v rfl)
  | dict entries =>
    refine Entries.isKeyed_ofList fun entry hentry => ?_
    obtain ⟨⟨key, v⟩, -, rfl⟩ := List.mem_map.1 hentry
    exact hpart v
  | set keys => exact isKeyed_setOf _
  | _ => rfl

namespace Making

/-- Every node has a value whose mappings have distinct keys. -/
def AllKeyed (values : Array Value) : Prop := ∀ id, (values.getD id .null).isKeyed = true

theorem allKeyed_replicate (n : Nat) : AllKeyed (.replicate n .enclosing) := by
  intro id
  rw [Array.getD_eq_getD_getElem?, Array.getElem?_replicate]
  split <;> rfl

theorem AllKeyed.round {m : Making} (hm : m.IsFlat) (order : List NodeId) {values : Array Value}
    (h : AllKeyed values) : AllKeyed (m.round order values) := by
  unfold Making.round
  induction order generalizing values with
  | nil => exact h
  | cons id order ih =>
    rw [List.foldl_cons]
    refine ih fun other => ?_
    split
    · next made hmade =>
      have hvalue : (made.value fun part => values.getD part .null).isKeyed = true :=
        Made.isKeyed_value h fun v hv => hm id v (hv ▸ hmade)
      rw [Array.getD_eq_getD_getElem?, Array.getElem?_setIfInBounds]
      split
      · split
        · exact hvalue
        · rfl
      · rw [← Array.getD_eq_getD_getElem?]
        exact h other
    · exact h other

theorem IsFlat.isKeyed_rootValue {m : Making} (hm : m.IsFlat) (root : NodeId) : (m.rootValue root).isKeyed = true := by
  have hrepeat (order : List NodeId) (rounds : Nat) :
      AllKeyed (Nat.repeat (m.round order) rounds (.replicate m.graph.next .enclosing)) := by
    induction rounds with
    | zero => exact allKeyed_replicate _
    | succ rounds ih => exact ih.round hm order
  exact hrepeat _ _ root

end Making

theorem Tree.isKeyed_of_value {t : Tree} {v : Value} (h : t.value = .ok v) : v.isKeyed = true := by
  obtain ⟨made, hmade, h⟩ := Outcome.bind_eq_ok.1 h
  obtain ⟨done, hdone, h⟩ := Outcome.bind_eq_ok.1 h
  cases h
  exact (((Making.isFlat_start t.graph).make hmade).run hdone).isKeyed_rootValue t.root

/-- **The mappings of a document have distinct keys**, at every level. -/
theorem isKeyed_of_load {text : String} {v : Value} (h : load text = .ok v) : v.isKeyed = true := by
  obtain ⟨tree?, -, h⟩ := Outcome.bind_eq_ok.1 h
  cases tree? with
  | none =>
    cases h
    rfl
  | some tree => exact Tree.isKeyed_of_value h

end Yaml

end SearchRequest
