import SearchRequest.Proofs.Config.Item
import SearchRequest.Proofs.Config.Merge

/-!
# Several layers of configuration

What happens when more than two layers are laid over one another.

* The grouping makes no difference (`Config.merge_assoc`), unless something that is no mapping stands in the middle
  layer where the other two have mappings: there the lower mapping is replaced in the one grouping and merged in the
  other.
* A layer that lies on top already changes nothing when it is laid over the whole once more
  (`Config.merge_merge_self`).

Merged mappings are compared key by key: mappings with the same keys in the same places that hold the same under
each of them are the same (`Entries.ext_get?`). That takes keys that equal themselves (`Value.IsLayer`).
-/

namespace SearchRequest

namespace Entries

theorem ext_get? {left right : Entries} (hkeys : left.keys = right.keys) (hdistinct : left.IsDistinct)
    (hreflexive : ∀ k ∈ left.keys, k.sameKey k = true) (h : ∀ k ∈ left.keys, get? left k = get? right k) :
    left = right := by
  induction left generalizing right with
  | nil => exact (List.map_eq_nil_iff.1 hkeys.symm).symm
  | cons entry rest ih =>
    obtain ⟨k, v⟩ := entry
    obtain ⟨⟨l, w⟩, others, rfl, hl, hothers⟩ := List.map_eq_cons_iff.1 hkeys.symm
    have hl : l = k := hl
    subst hl
    rw [IsDistinct, keys, List.map_cons, List.pairwise_cons] at hdistinct
    rw [keys, List.map_cons, List.forall_mem_cons] at hreflexive h
    obtain ⟨hself, hreflexive⟩ := hreflexive
    obtain ⟨hhead, htail⟩ := h
    rw [get?, get?, if_pos hself, if_pos hself, Option.some.injEq] at hhead
    have hrest : rest = others := by
      refine ih hothers.symm hdistinct.2 hreflexive fun m hm => ?_
      have hmore := htail m hm
      have hne : ¬l.sameKey m = true := Bool.eq_false_iff.1 (hdistinct.1 m hm)
      rwa [get?, get?, if_neg hne, if_neg hne] at hmore
    rw [hhead, hrest]

end Entries

/-! ### Layers -/

namespace Value

mutual

/-- Whether every key equals itself, in a mapping and in every mapping that it leads to. Of what a key may be, only
what is no number can differ from itself. -/
def isReflexive : Value → Bool
  | .dict entries => areReflexive entries
  | _ => true

def areReflexive : List (Value × Value) → Bool
  | [] => true
  | (k, v) :: rest => k.sameKey k && v.isReflexive && areReflexive rest

end

theorem areReflexive_iff {entries : Entries} :
    areReflexive entries = true ↔ ∀ entry ∈ entries, entry.1.sameKey entry.1 = true ∧ entry.2.isReflexive = true := by
  induction entries with
  | nil => simp [areReflexive]
  | cons entry rest ih =>
    obtain ⟨k, v⟩ := entry
    rw [areReflexive, Bool.and_eq_true, Bool.and_eq_true, ih, List.forall_mem_cons]

/-- A value that may be laid over others: its mappings have distinct keys that equal themselves. -/
structure IsLayer (v : Value) : Prop where
  keyed : v.isKeyed = true
  reflexive : v.isReflexive = true

theorem isLayer_null : null.IsLayer := ⟨rfl, rfl⟩

namespace IsLayer

variable {entries : Entries}

theorem distinct (h : (dict entries).IsLayer) : entries.IsDistinct := (isKeyed_dict.1 h.keyed).1

theorem sameKey_self (h : (dict entries).IsLayer) {k : Value} (hk : k ∈ entries.keys) : k.sameKey k = true := by
  obtain ⟨entry, hentry, rfl⟩ := List.mem_map.1 hk
  exact (areReflexive_iff.1 h.reflexive entry hentry).1

theorem of_get? (h : (dict entries).IsLayer) {k v : Value} (hfound : Entries.get? entries k = some v) :
    v.IsLayer := by
  obtain ⟨entry, hentry, rfl⟩ := Entries.mem_of_get? hfound
  exact ⟨(isKeyed_dict.1 h.keyed).2 entry hentry, (areReflexive_iff.1 h.reflexive entry hentry).2⟩

theorem get?_of_mem (h : (dict entries).IsLayer) {entry : Value × Value} (hmem : entry ∈ entries) :
    Entries.get? entries entry.1 = some entry.2 := by
  obtain ⟨before, after, rfl⟩ := List.append_of_mem hmem
  have hself := h.sameKey_self (List.mem_map_of_mem hmem)
  have hdistinct := h.distinct
  clear h hmem
  induction before with
  | nil => rw [List.nil_append, Entries.get?, if_pos hself]
  | cons other before ih =>
    rw [Entries.IsDistinct, Entries.keys, List.cons_append, List.map_cons, List.pairwise_cons] at hdistinct
    have hne : other.1.sameKey entry.1 = false := hdistinct.1 _ (List.mem_map_of_mem (by simp))
    rw [List.cons_append, Entries.get?, hne]
    exact ih hdistinct.2

theorem get?_isNone_of_mem (h : (dict entries).IsLayer) {k : Value} (hk : k ∈ entries.keys) :
    (Entries.get? entries k).isNone = false := by
  rw [Option.isNone_eq_false_iff, Option.isSome_iff_ne_none]
  intro hnone
  have hdiffers := Entries.get?_eq_none_iff.1 hnone k hk
  rw [h.sameKey_self hk] at hdiffers
  cases hdiffers

end IsLayer

theorem not_mapping_or_dict (v : Value) : v.isMapping = false ∨ ∃ entries, v = .dict entries := by
  cases v with
  | dict entries => exact .inr ⟨entries, rfl⟩
  | _ => exact .inl rfl

/-- Something that is no mapping stands in the middle layer at a path where the other two have mappings. -/
def KeepsApart (lower middle upper : Value) : Prop :=
  ∃ path b w u, lower.at? path = some (.dict b) ∧ middle.at? path = some w ∧ w.isMapping = false ∧
    upper.at? path = some (.dict u)

theorem keepsApart_dict_iff {a b c : Entries} :
    KeepsApart (dict a) (dict b) (dict c) ↔ ∃ k v w u, Entries.get? a k = some v ∧ Entries.get? b k = some w ∧
      Entries.get? c k = some u ∧ KeepsApart v w u := by
  constructor
  · rintro ⟨path, lower, between, upper, hlower, hbetween, hmapping, hupper⟩
    cases path with
    | nil =>
      cases hbetween
      cases hmapping
    | cons k path =>
      rw [at?_dict_cons, Option.bind_eq_some_iff] at hlower hbetween hupper
      obtain ⟨v, hv, hlower⟩ := hlower
      obtain ⟨w, hw, hbetween⟩ := hbetween
      obtain ⟨u, hu, hupper⟩ := hupper
      exact ⟨k, v, w, u, hv, hw, hu, path, lower, between, upper, hlower, hbetween, hmapping, hupper⟩
  · rintro ⟨k, v, w, u, hv, hw, hu, path, lower, between, upper, hlower, hbetween, hmapping, hupper⟩
    refine ⟨k :: path, lower, between, upper, ?_, ?_, hmapping, ?_⟩
    · rw [at?_dict_cons, hv, Option.bind_some, hlower]
    · rw [at?_dict_cons, hw, Option.bind_some, hbetween]
    · rw [at?_dict_cons, hu, Option.bind_some, hupper]

theorem KeepsApart.isMapping {lower middle upper : Value} (h : KeepsApart lower middle upper) :
    lower.isMapping = true ∧ upper.isMapping = true := by
  have hmapping {v : Value} {path : List Value} {entries : Entries} (hat : v.at? path = some (.dict entries)) :
      v.isMapping = true := by
    by_contra hv
    rw [Bool.not_eq_true] at hv
    cases path with
    | nil =>
      cases hat
      cases hv
    | cons k path =>
      rw [at?_cons_of_not_mapping hv] at hat
      cases hat
  obtain ⟨path, b, w, u, hlower, -, -, hupper⟩ := h
  exact ⟨hmapping hlower, hmapping hupper⟩

end Value

namespace Config

variable {a b c : Entries}

theorem overlay?_some_getD (v : Value) (lower : Option Value) :
    overlay? (some v) lower = some (overlay v (lower.getD .null)) := by
  cases lower with
  | none => exact congrArg some (overlay_eq_upper (.inl rfl)).symm
  | some old => rfl

theorem isNone_overlay? (upper lower : Option Value) :
    (overlay? upper lower).isNone = (lower.isNone && upper.isNone) := by
  cases upper <;> cases lower <;> rfl

theorem sameKey_self_mergeEntries (ha : ∀ k ∈ a.keys, k.sameKey k = true) (hb : (Value.dict b).IsLayer) :
    ∀ k ∈ Entries.keys (mergeEntries b a), k.sameKey k = true := by
  intro k hk
  rw [keys_mergeEntries hb.distinct, List.mem_append] at hk
  rcases hk with hk | hk
  · exact ha k hk
  · exact hb.sameKey_self (List.mem_of_mem_filter hk)

theorem mergeEntries_nil (ha : (Value.dict a).IsLayer) : mergeEntries a [] = a := by
  have hkeys : Entries.keys (mergeEntries a []) = a.keys := by
    rw [keys_mergeEntries ha.distinct]
    simp [Entries.keys, Entries.get?]
  have hself := sameKey_self_mergeEntries (a := []) (fun k hk => absurd hk List.not_mem_nil) ha
  refine Entries.ext_get? hkeys (isDistinct_mergeEntries .nil ha.distinct) hself fun k _ => ?_
  rw [get?_mergeEntries ha.distinct]
  cases Entries.get? a k <;> rfl

/-! ### Three layers -/

theorem keys_mergeEntries_assoc (hb : b.IsDistinct) (hc : c.IsDistinct) :
    Entries.keys (mergeEntries c (mergeEntries b a)) = Entries.keys (mergeEntries (mergeEntries c b) a) := by
  rw [keys_mergeEntries hc, keys_mergeEntries hb, keys_mergeEntries (isDistinct_mergeEntries hb hc),
    keys_mergeEntries hc, List.filter_append, List.filter_filter, List.append_assoc]
  simp only [get?_mergeEntries hb, isNone_overlay?]

theorem overlay?_assoc {v w u : Option Value}
    (h : ∀ x y z, v = some x → w = some y → u = some z → overlay z (overlay y x) = overlay (overlay z y) x) :
    overlay? u (overlay? w v) = overlay? (overlay? u w) v := by
  cases u with
  | none => cases w <;> cases v <;> rfl
  | some z =>
    cases w with
    | none => cases v <;> rfl
    | some y =>
      cases v with
      | none => rfl
      | some x => exact congrArg some (h x y z rfl rfl rfl)

theorem mergeEntries_assoc_of_entries (ha : (Value.dict a).IsLayer) (hb : (Value.dict b).IsLayer)
    (hc : (Value.dict c).IsLayer)
    (h : ∀ k x y z, Entries.get? a k = some x → Entries.get? b k = some y → Entries.get? c k = some z →
      overlay z (overlay y x) = overlay (overlay z y) x) :
    mergeEntries c (mergeEntries b a) = mergeEntries (mergeEntries c b) a := by
  have hdistinct := isDistinct_mergeEntries (isDistinct_mergeEntries ha.distinct hb.distinct) hc.distinct
  have hself := sameKey_self_mergeEntries (sameKey_self_mergeEntries (fun k => ha.sameKey_self) hb) hc
  refine Entries.ext_get? (keys_mergeEntries_assoc hb.distinct hc.distinct) hdistinct hself fun k _ => ?_
  rw [get?_mergeEntries hc.distinct, get?_mergeEntries hb.distinct,
    get?_mergeEntries (isDistinct_mergeEntries hb.distinct hc.distinct), get?_mergeEntries hc.distinct]
  exact overlay?_assoc (h k)

theorem overlay_assoc {lower middle upper : Value} (hlower : lower.IsLayer) (hmiddle : middle.IsLayer)
    (hupper : upper.IsLayer) (hfree : ¬Value.KeepsApart lower middle upper) :
    overlay upper (overlay middle lower) = overlay (overlay upper middle) lower := by
  induction lower using Value.induction generalizing middle upper with
  | step lower _ ih =>
    obtain hu | ⟨c, rfl⟩ := upper.not_mapping_or_dict
    · -- what is no mapping replaces whatever it is laid over
      rw [overlay_eq_upper (.inr hu), overlay_eq_upper (.inr hu), overlay_eq_upper (.inr hu)]
    obtain hm | ⟨b, rfl⟩ := middle.not_mapping_or_dict
    · obtain hl | ⟨a, rfl⟩ := lower.not_mapping_or_dict
      · rw [overlay_eq_upper (.inr hm), overlay_eq_upper (.inl hm), overlay_eq_upper (.inl hl)]
      · exact absurd ⟨[], a, middle, c, rfl, rfl, hm, rfl⟩ hfree
    obtain hl | ⟨a, rfl⟩ := lower.not_mapping_or_dict
    · rw [overlay_eq_upper (.inl hl), overlay_eq_upper (.inl hl)]
    · rw [overlay, overlay, overlay, overlay, Value.dict.injEq]
      refine mergeEntries_assoc_of_entries hlower hmiddle hupper fun k x y z hx hy hz => ?_
      obtain ⟨entry, hentry, rfl⟩ := Entries.mem_of_get? hx
      exact ih a rfl entry hentry (hlower.of_get? hx) (hmiddle.of_get? hy) (hupper.of_get? hz)
        fun hapart => hfree (Value.keepsApart_dict_iff.2 ⟨k, _, y, z, hx, hy, hz, hapart⟩)

/-- **Layers may be laid over one another in either grouping**, with the same entries in the same order at every
level, unless the middle layer keeps a mapping of the lower one and one of the upper one apart. The empty
layer changes nothing, below or above. -/
theorem merge_assoc :
    (∀ a b c : Entries, (Value.dict a).IsLayer → (Value.dict b).IsLayer → (Value.dict c).IsLayer →
      ¬Value.KeepsApart (.dict a) (.dict b) (.dict c) → merge (merge a b) c = merge a (merge b c)) ∧
    ∀ a : Entries, (Value.dict a).IsLayer → merge [] a = a ∧ merge a [] = a := by
  refine ⟨fun a b c ha hb hc hfree => ?_, fun a ha => ⟨mergeEntries_nil ha, rfl⟩⟩
  have hassoc := overlay_assoc ha hb hc hfree
  rw [overlay, overlay, overlay, overlay, Value.dict.injEq] at hassoc
  exact hassoc

/-- Three layers of which the middle one puts a null where the other two have something, and a mapping where they
have a number. -/
theorem merge_assoc_of_null_between :
    let a : Entries := [(.int 1, .dict [(.str "x", .int 5), (.str "y", .list [])]), (.str "n", .int 2)]
    let b : Entries := [(.str "n", .dict [(.str "z", .int 3)]), (.bool true, .dict [(.str "x", .null)])]
    let c : Entries := [(.int 1, .dict [(.str "x", .dict [])]), (.str "n", .int 4)]
    ((Value.dict a).IsLayer ∧ (Value.dict b).IsLayer ∧ (Value.dict c).IsLayer ∧
      ¬Value.KeepsApart (.dict a) (.dict b) (.dict c)) ∧
    merge (merge a b) c = [(.int 1, .dict [(.str "x", .dict []), (.str "y", .list [])]), (.str "n", .int 4)] ∧
    merge (merge a b) c = merge a (merge b c) ∧ merge [] a = a ∧ merge a [] = a := by
  intro a b c
  have ha : (Value.dict a).IsLayer := ⟨rfl, rfl⟩
  have hb : (Value.dict b).IsLayer := ⟨rfl, rfl⟩
  have hc : (Value.dict c).IsLayer := ⟨rfl, rfl⟩
  have hfree : ¬Value.KeepsApart (.dict a) (.dict b) (.dict c) := by
    rw [Value.keepsApart_dict_iff]
    rintro ⟨k, v, w, u, hv, hw, hu, hapart⟩
    obtain ⟨entry, hentry, rfl⟩ := Entries.mem_of_get? hv
    obtain ⟨between, hbetween, rfl⟩ := Entries.mem_of_get? hw
    obtain ⟨upper, hupper, rfl⟩ := Entries.mem_of_get? hu
    simp only [a, b, c, List.mem_cons, List.not_mem_nil, or_false] at hentry hbetween hupper
    obtain ⟨inner, hinner⟩ : ∃ inner, between.2 = .dict inner := by
      rcases hbetween with rfl | rfl
      · exact ⟨_, rfl⟩
      · exact ⟨_, rfl⟩
    rcases hentry with rfl | rfl
    · rcases hupper with rfl | rfl
      · rw [hinner, Value.keepsApart_dict_iff] at hapart
        obtain ⟨k, v, w, u, hv, -, -, hapart⟩ := hapart
        obtain ⟨entry, hentry, rfl⟩ := Entries.mem_of_get? hv
        have hmapping := hapart.isMapping.1
        simp only [List.mem_cons, List.not_mem_nil, or_false] at hentry
        rcases hentry with rfl | rfl
        · cases hmapping
        · cases hmapping
      · cases hapart.isMapping.2
    · cases hapart.isMapping.1
  exact ⟨⟨ha, hb, hc, hfree⟩, rfl, merge_assoc.1 a b c ha hb hc hfree, merge_assoc.2 a ha⟩

/-- With a null between two mappings, the lower one is replaced in the one grouping and merged in the other. -/
example :
    let a : Entries := [(.str "log", .dict [(.str "to_file", .bool true)])]
    let b : Entries := [(.str "log", .null)]
    let c : Entries := [(.str "log", .dict [(.str "dir", .str "l")])]
    merge (merge a b) c = c ∧
      merge a (merge b c) = [(.str "log", .dict [(.str "to_file", .bool true), (.str "dir", .str "l")])] :=
  ⟨rfl, rfl⟩

/-! ### A layer once more -/

theorem keys_mergeEntries_mergeEntries_self (hb : (Value.dict b).IsLayer) :
    Entries.keys (mergeEntries b (mergeEntries b a)) = Entries.keys (mergeEntries b a) := by
  have hknown : ((Entries.keys b).filter fun k => (Entries.get? (mergeEntries b a) k).isNone) = [] := by
    rw [List.filter_eq_nil_iff]
    intro k hk
    rw [get?_mergeEntries hb.distinct, isNone_overlay?, hb.get?_isNone_of_mem hk, Bool.and_false]
    exact Bool.false_ne_true
  rw [keys_mergeEntries hb.distinct, hknown, List.append_nil]

theorem mergeEntries_mergeEntries_self_of_entries (ha : (Value.dict a).IsLayer) (hb : (Value.dict b).IsLayer)
    (h : ∀ k y x, Entries.get? b k = some y → x.IsLayer → overlay y (overlay y x) = overlay y x) :
    mergeEntries b (mergeEntries b a) = mergeEntries b a := by
  have hdistinct := isDistinct_mergeEntries (isDistinct_mergeEntries ha.distinct hb.distinct) hb.distinct
  have hself := sameKey_self_mergeEntries (sameKey_self_mergeEntries (fun k => ha.sameKey_self) hb) hb
  refine Entries.ext_get? (keys_mergeEntries_mergeEntries_self hb) hdistinct hself fun k _ => ?_
  rw [get?_mergeEntries hb.distinct, get?_mergeEntries hb.distinct]
  cases hy : Entries.get? b k with
  | none => rfl
  | some y =>
    have hx : ((Entries.get? a k).getD .null).IsLayer := by
      cases hx : Entries.get? a k with
      | none => exact Value.isLayer_null
      | some x => exact ha.of_get? hx
    rw [overlay?_some_getD, overlay?_some_getD, Option.getD_some, h k y _ hy hx]

theorem overlay_overlay_self {lower upper : Value} (hlower : lower.IsLayer) (hupper : upper.IsLayer) :
    overlay upper (overlay upper lower) = overlay upper lower := by
  induction upper using Value.induction generalizing lower with
  | step upper _ ih =>
    obtain hu | ⟨b, rfl⟩ := upper.not_mapping_or_dict
    · rw [overlay_eq_upper (.inr hu), overlay_eq_upper (.inr hu)]
    have hentries {a : Entries} (ha : (Value.dict a).IsLayer) :
        mergeEntries b (mergeEntries b a) = mergeEntries b a := by
      refine mergeEntries_mergeEntries_self_of_entries ha hupper fun k y x hy hx => ?_
      obtain ⟨entry, hentry, rfl⟩ := Entries.mem_of_get? hy
      exact ih b rfl entry hentry hx (hupper.of_get? hy)
    obtain hl | ⟨a, rfl⟩ := lower.not_mapping_or_dict
    · -- over what is no mapping a mapping stays as it is, and so it does over nothing
      have hself := hentries (a := []) ⟨rfl, rfl⟩
      rw [mergeEntries_nil hupper] at hself
      rw [overlay_eq_upper (.inl hl), overlay, hself]
    · rw [overlay, overlay, hentries hlower]

theorem merge_merge_self (ha : (Value.dict a).IsLayer) (hb : (Value.dict b).IsLayer) :
    merge (merge a b) b = merge a b := by
  have hself := overlay_overlay_self ha hb
  rw [overlay, overlay, Value.dict.injEq] at hself
  exact hself

theorem merge_self (ha : (Value.dict a).IsLayer) : merge a a = a := by
  have hself := merge_merge_self (a := []) ⟨rfl, rfl⟩ ha
  rwa [merge, merge, mergeEntries_nil ha] at hself

end Config

end SearchRequest
