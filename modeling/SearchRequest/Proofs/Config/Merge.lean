import SearchRequest.Config.Merge
import SearchRequest.Proofs.Value.Key

/-!
# Layers, path by path

What a merged configuration holds at a path of keys, said of the two layers at that path alone
(`Config.merge_at`). A path leads through mappings only, and keys are found by equality of keys, so `1` leads
where true does.

* What the upper layer holds replaces what the lower one holds, unless both hold mappings.
* Two mappings are one whose keys are those of the lower mapping, in their places and as they are written there,
  and then the keys that only the upper one has.
* What the lower layer alone holds stays, unless the upper layer has something on the way there that is no
  mapping.
-/

namespace SearchRequest

namespace Value

def isMapping : Value → Bool
  | .dict _ => true
  | _ => false

/-- What stands at a path of keys, followed through mappings only. -/
def at? : Value → List Value → Option Value
  | v, [] => some v
  | .dict entries, k :: path => (Entries.get? entries k).bind fun v => v.at? path
  | _, _ :: _ => none

mutual

/-- Whether the keys of a mapping are distinct, in it and in every mapping that it leads to. -/
def isKeyed : Value → Bool
  | .dict entries => decide (Entries.IsDistinct entries) && areKeyed entries
  | _ => true

def areKeyed : List (Value × Value) → Bool
  | [] => true
  | (_, v) :: rest => v.isKeyed && areKeyed rest

end

/-- Whether something that is no mapping stands on the way along a path, before its end. -/
def Blocks (v : Value) (path : List Value) : Prop :=
  ∃ before k rest w, path = before ++ k :: rest ∧ v.at? before = some w ∧ w.isMapping = false

theorem areKeyed_iff {entries : Entries} :
    areKeyed entries = true ↔ ∀ entry ∈ entries, entry.2.isKeyed = true := by
  induction entries with
  | nil => simp [areKeyed]
  | cons entry rest ih =>
    obtain ⟨k, v⟩ := entry
    rw [areKeyed, Bool.and_eq_true, ih, List.forall_mem_cons]

theorem isKeyed_dict {entries : Entries} :
    (dict entries).isKeyed = true ↔ entries.IsDistinct ∧ ∀ entry ∈ entries, entry.2.isKeyed = true := by
  rw [isKeyed, Bool.and_eq_true, decide_eq_true_eq, areKeyed_iff]

theorem at?_cons_of_not_mapping {v : Value} (h : v.isMapping = false) (k : Value) (path : List Value) :
    v.at? (k :: path) = none := by
  cases v with
  | dict entries => cases h
  | _ => rfl

theorem at?_dict_cons (entries : Entries) (k : Value) (path : List Value) :
    (dict entries).at? (k :: path) = (Entries.get? entries k).bind fun v => v.at? path := rfl

theorem at?_append (v : Value) (path rest : List Value) :
    v.at? (path ++ rest) = (v.at? path).bind fun w => w.at? rest := by
  induction path generalizing v with
  | nil => rfl
  | cons k path ih =>
    cases v with
    | dict entries =>
      rw [List.cons_append, at?_dict_cons, at?_dict_cons, Option.bind_assoc]
      exact congrArg _ (funext ih)
    | _ => rfl

theorem blocks_of_not_mapping {v : Value} (h : v.isMapping = false) (k : Value) (path : List Value) :
    v.Blocks (k :: path) := ⟨[], k, path, v, rfl, rfl, h⟩

theorem blocks_dict_cons_iff {entries : Entries} {k : Value} {path : List Value} :
    (dict entries).Blocks (k :: path) ↔ ∃ v, Entries.get? entries k = some v ∧ v.Blocks path := by
  constructor
  · rintro ⟨before, l, rest, w, hpath, hat, hw⟩
    cases before with
    | nil =>
      rw [at?] at hat
      cases hat
      cases hw
    | cons first before =>
      cases hpath
      rw [at?_dict_cons, Option.bind_eq_some_iff] at hat
      obtain ⟨v, hv, hat⟩ := hat
      exact ⟨v, hv, before, l, rest, w, rfl, hat, hw⟩
  · rintro ⟨v, hv, before, l, rest, w, rfl, hat, hw⟩
    refine ⟨k :: before, l, rest, w, rfl, ?_, hw⟩
    rw [at?_dict_cons, hv]
    exact hat

end Value

theorem Entries.mem_of_get? {entries : Entries} {k v : Value} (h : get? entries k = some v) :
    ∃ entry ∈ entries, entry.2 = v := by
  induction entries with
  | nil => cases h
  | cons entry rest ih =>
    obtain ⟨l, w⟩ := entry
    rw [get?] at h
    split at h
    · cases h
      exact ⟨_, List.mem_cons_self, rfl⟩
    · obtain ⟨found, hmem, hfound⟩ := ih h
      exact ⟨found, List.mem_cons_of_mem _ hmem, hfound⟩

theorem Value.isKeyed_of_get? {entries : Entries} {k v : Value} (h : (dict entries).isKeyed = true)
    (hfound : Entries.get? entries k = some v) : v.isKeyed = true := by
  obtain ⟨entry, hmem, rfl⟩ := Entries.mem_of_get? hfound
  exact (Value.isKeyed_dict.1 h).2 entry hmem

namespace Config

/-! ### One level -/

/-- A value that may be there laid over another one that may be there. -/
def overlay? : Option Value → Option Value → Option Value
  | some v, some old => some (overlay v old)
  | some v, none => some v
  | none, lower => lower

theorem overlay?_some (v : Value) (lower : Option Value) :
    overlay? (some v) lower =
      some (match lower with
        | some old => overlay v old
        | none => v) := by
  cases lower <;> rfl

theorem get?_mergeEntries {upper : Entries} (h : upper.IsDistinct) (lower : Entries) (k : Value) :
    Entries.get? (mergeEntries upper lower) k = overlay? (Entries.get? upper k) (Entries.get? lower k) := by
  induction upper generalizing lower with
  | nil => rfl
  | cons entry rest ih =>
    obtain ⟨l, v⟩ := entry
    rw [Entries.IsDistinct, Entries.keys, List.map_cons, List.pairwise_cons] at h
    rw [mergeEntries, ih h.2, Entries.get?_insert, Entries.get?]
    by_cases hlk : l.sameKey k = true
    · have hrest : Entries.get? rest k = none := by
        rw [← Entries.get?_congr rest hlk, Entries.get?_eq_none_iff]
        intro m hm
        rw [Value.sameKey_comm]
        exact h.1 m hm
      rw [if_pos hlk, if_pos hlk, hrest, ← Entries.get?_congr lower hlk, overlay?_some]
      rfl
    · rw [if_neg hlk, if_neg hlk]

theorem keys_mergeEntries {upper : Entries} (h : upper.IsDistinct) (lower : Entries) :
    Entries.keys (mergeEntries upper lower) =
      lower.keys ++ upper.keys.filter fun k => (Entries.get? lower k).isNone := by
  induction upper generalizing lower with
  | nil => simp [mergeEntries, Entries.keys]
  | cons entry rest ih =>
    obtain ⟨l, v⟩ := entry
    rw [Entries.IsDistinct, Entries.keys, List.map_cons, List.pairwise_cons] at h
    rw [mergeEntries, ih h.2, Entries.keys_insert, List.append_assoc]
    -- setting `l` makes none of the keys after it known, since it equals none of them
    have hrest : ∀ laid, ((Entries.keys rest).filter fun k => (Entries.get? (Entries.insert lower l laid) k).isNone) =
        (Entries.keys rest).filter fun k => (Entries.get? lower k).isNone := by
      refine fun laid => List.filter_congr fun k hk => ?_
      rw [Entries.get?_insert, if_neg]
      rw [h.1 k hk]
      exact Bool.false_ne_true
    rw [hrest]
    refine congrArg (lower.keys ++ ·) ?_
    rw [Entries.keys, Entries.keys, List.map_cons, List.filter_cons]
    split <;> rfl

theorem isDistinct_mergeEntries {lower upper : Entries} (hlower : lower.IsDistinct) (hupper : upper.IsDistinct) :
    Entries.IsDistinct (mergeEntries upper lower) := by
  rw [Entries.IsDistinct, keys_mergeEntries hupper, List.pairwise_append]
  refine ⟨hlower, hupper.filter _, fun k hk l hl => ?_⟩
  have hnew := (List.mem_filter.1 hl).2
  rw [Option.isNone_iff_eq_none, Entries.get?_eq_none_iff] at hnew
  exact hnew k hk

/-! ### Every level -/

/-- What is merged from the values that two layers may hold at a path, where the upper layer may have something in
the way. -/
structure IsOverlaid (blocked : Prop) (lower upper merged : Option Value) : Prop where
  replaced : ∀ v, upper = some v → v.isMapping = false → merged = some v
  added : ∀ u, upper = some (.dict u) → (∀ b, lower ≠ some (.dict b)) → merged = some (.dict u)
  joined : ∀ b u : Entries, lower = some (.dict b) → upper = some (.dict u) →
    ∃ m : Entries, merged = some (.dict m) ∧ m.IsDistinct ∧
      m.keys = b.keys ++ u.keys.filter fun k => (Entries.get? b k).isNone
  kept : ∀ v, upper = none → lower = some v → ¬blocked → merged = some v
  absent : upper = none → lower = none ∨ blocked → merged = none

namespace IsOverlaid

variable {blocked : Prop} {lower upper : Option Value}

theorem of_upper (hjoin : ∀ b u, lower = some (.dict b) → upper ≠ some (.dict u))
    (hkept : upper = none → lower = none ∨ blocked) : IsOverlaid blocked lower upper upper where
  replaced := fun _ h _ => h
  added := fun _ h _ => h
  joined := fun b u hb hu => absurd hu (hjoin b u hb)
  kept := fun v hu hl hfree => by
    rcases hkept hu with h | h
    · cases hl.symm.trans h
    · exact absurd h hfree
  absent := fun h _ => h

theorem of_lower (hfree : ¬blocked) : IsOverlaid blocked lower none lower where
  replaced := fun _ h => nomatch h
  added := fun _ h => nomatch h
  joined := fun _ _ _ h => nomatch h
  kept := fun _ _ h _ => h
  absent := fun _ h => h.resolve_right hfree

theorem of_mappings {b u : Entries} (hb : b.IsDistinct) (hu : u.IsDistinct) :
    IsOverlaid blocked (some (.dict b)) (some (.dict u)) (some (.dict (mergeEntries u b))) where
  replaced := fun v h hv => by
    cases h
    cases hv
  added := fun _ _ h => absurd rfl (h b)
  joined := fun b' u' hb' hu' => by
    cases hb'
    cases hu'
    exact ⟨_, rfl, isDistinct_mergeEntries hb hu, keys_mergeEntries hu _⟩
  kept := fun _ h => nomatch h
  absent := fun h => nomatch h

end IsOverlaid

theorem mappings_or_not (lower upper : Value) :
    (∃ b u, lower = .dict b ∧ upper = .dict u) ∨ lower.isMapping = false ∨ upper.isMapping = false := by
  cases lower with
  | dict b =>
    cases upper with
    | dict u => exact .inl ⟨b, u, rfl, rfl⟩
    | _ => exact .inr (.inr rfl)
  | _ => exact .inr (.inl rfl)

theorem overlay_eq_upper {lower upper : Value} (h : lower.isMapping = false ∨ upper.isMapping = false) :
    overlay upper lower = upper := by
  cases upper with
  | dict u =>
    cases lower with
    | dict b => simp [Value.isMapping] at h
    | _ => rfl
  | _ => rfl

theorem overlay_at_of_not_mapping {lower upper : Value} (h : lower.isMapping = false ∨ upper.isMapping = false)
    (path : List Value) :
    IsOverlaid (upper.Blocks path) (lower.at? path) (upper.at? path) ((overlay upper lower).at? path) := by
  rw [overlay_eq_upper h]
  cases path with
  | nil =>
    refine .of_upper (fun b u hb hu => ?_) fun hu => nomatch hu
    cases hb
    cases hu
    simp [Value.isMapping] at h
  | cons k path =>
    rcases h with h | h
    · rw [lower.at?_cons_of_not_mapping h]
      exact .of_upper (fun _ _ => nofun) fun _ => .inl rfl
    · rw [upper.at?_cons_of_not_mapping h]
      exact .of_upper (fun _ _ _ => nofun) fun _ => .inr (Value.blocks_of_not_mapping h k path)

theorem overlay_at (path : List Value) {lower upper : Value} (hlower : lower.isKeyed = true)
    (hupper : upper.isKeyed = true) :
    IsOverlaid (upper.Blocks path) (lower.at? path) (upper.at? path) ((overlay upper lower).at? path) := by
  induction path generalizing lower upper with
  | nil =>
    obtain ⟨b, u, rfl, rfl⟩ | h := mappings_or_not lower upper
    · exact .of_mappings (Value.isKeyed_dict.1 hlower).1 (Value.isKeyed_dict.1 hupper).1
    · exact overlay_at_of_not_mapping h []
  | cons k path ih =>
    obtain ⟨b, u, rfl, rfl⟩ | h := mappings_or_not lower upper
    · rw [overlay, Value.at?_dict_cons, Value.at?_dict_cons, Value.at?_dict_cons,
        get?_mergeEntries (Value.isKeyed_dict.1 hupper).1, Value.blocks_dict_cons_iff]
      cases hv : Entries.get? u k with
      | none => exact .of_lower (by simp)
      | some v =>
        simp only [Option.some.injEq, exists_eq_left', Option.bind_some]
        cases hold : Entries.get? b k with
        | none => exact .of_upper (fun _ _ => nofun) fun _ => .inl rfl
        | some old => exact ih (Value.isKeyed_of_get? hlower hold) (Value.isKeyed_of_get? hupper hv)
    · exact overlay_at_of_not_mapping h (k :: path)

/-- **A merged configuration, path by path.** At every path of keys it holds what `IsOverlaid` says of the two
layers there; the empty path leads to the whole of them. -/
theorem merge_at {lower upper : Entries} (hlower : (Value.dict lower).isKeyed = true)
    (hupper : (Value.dict upper).isKeyed = true) (path : List Value) :
    IsOverlaid ((Value.dict upper).Blocks path) ((Value.dict lower).at? path) ((Value.dict upper).at? path)
      ((Value.dict (merge lower upper)).at? path) :=
  overlay_at path hlower hupper

/-- Below a key that is written `1` in one layer and true in the other, where the upper layer has a null. -/
theorem merge_at_equal_keys :
    let lower : Entries := [(.int 1, .dict [(.str "a", .int 5), (.str "b", .list [.int 2])]), (.str "c", .int 3)]
    let upper : Entries := [(.str "d", .int 4), (.bool true, .dict [(.str "a", .null)])]
    let merged : Entries :=
      [(.int 1, .dict [(.str "a", .null), (.str "b", .list [.int 2])]), (.str "c", .int 3), (.str "d", .int 4)]
    (Value.dict lower).isKeyed = true ∧ (Value.dict upper).isKeyed = true ∧
    IsOverlaid ((Value.dict upper).Blocks []) (some (.dict lower)) (some (.dict upper)) (some (.dict merged)) ∧
    IsOverlaid ((Value.dict upper).Blocks [.int 1, .str "a"]) (some (.int 5)) (some .null) (some .null) ∧
    IsOverlaid ((Value.dict upper).Blocks [.bool true, .str "b"]) (some (.list [.int 2])) none
      (some (.list [.int 2])) := by
  intro lower upper merged
  have hlower : (Value.dict lower).isKeyed = true := rfl
  have hupper : (Value.dict upper).isKeyed = true := rfl
  exact ⟨hlower, hupper, merge_at hlower hupper [], merge_at hlower hupper [.int 1, .str "a"],
    merge_at hlower hupper [.bool true, .str "b"]⟩

end Config

end SearchRequest
