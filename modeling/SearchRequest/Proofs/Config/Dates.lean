import SearchRequest.Proofs.Config.Settings
import SearchRequest.Proofs.Json.Encode
import SearchRequest.Proofs.Query.Held

/-!
# Dates on the wire

Which configured values have a JSON text once they are read. Dates and moments become texts wherever lists and the
values of mappings lead to them, but keys stay as they are, and no member is named by a date.
`Config.toJsonText_body_iff`: the body of a document whose values are null, truth values, finite numbers, texts,
dates and moments, in lists and mappings, has a text exactly if none of these mappings has a date or moment as a key.
-/

namespace SearchRequest

/-! ### Data -/

namespace Value

/-- A value that a scalar stands for. -/
inductive IsDatum : Value → Prop where
  | null : IsDatum .null
  | bool (b : Bool) : IsDatum (.bool b)
  | int (n : Int) : IsDatum (.int n)
  | float {x : Binary64} (h : x.isFinite = true) : IsDatum (.float x)
  | str (s : String) : IsDatum (.str s)
  | date (d : Date) : IsDatum (.date d)
  | moment (t : Moment) : IsDatum (.moment t)

/-- Scalars in lists and mappings, at any depth. -/
inductive IsData : Value → Prop where
  | datum {v : Value} (h : IsDatum v) : IsData v
  | list {xs : List Value} (h : ∀ x ∈ xs, IsData x) : IsData (.list xs)
  | dict {entries : Entries} (hkeys : ∀ key ∈ entries.keys, IsDatum key)
      (h : ∀ entry ∈ entries, IsData entry.2) : IsData (.dict entries)

/-- A date, with a time of day or without. -/
def IsCalendar : Value → Prop
  | .date _ | .moment _ => True
  | _ => False

end Value

/-- No key is a date. -/
def Entries.HasNoDateKey (entries : Entries) : Prop := ∀ key ∈ entries.keys, ¬key.IsCalendar

/-! ### Values with a tree -/

namespace Value

/-- The value has a tree. -/
def Encodes (v : Value) : Prop := ∃ tree, v.HasTree tree

theorem exists_toJsonText_iff {v : Value} : (∃ text, v.toJsonText = .ok text) ↔ v.Encodes := by
  simp only [toJsonText_eq_ok_iff, Encodes]
  constructor
  · rintro ⟨text, tree, htree, -⟩
    exact ⟨tree, htree⟩
  · rintro ⟨tree, htree⟩
    exact ⟨_, tree, htree, rfl⟩

theorem exists_haveTrees_iff {xs : List Value} : (∃ trees, HaveTrees xs trees) ↔ ∀ x ∈ xs, x.Encodes := by
  simp only [haveTrees_iff]
  exact exists_forall₂_iff

theorem encodes_list_iff {xs : List Value} : (list xs).Encodes ↔ ∀ x ∈ xs, x.Encodes := by
  rw [← exists_haveTrees_iff]
  constructor
  · rintro ⟨_, ⟨⟩⟩
    next h => exact ⟨_, h⟩
  · rintro ⟨trees, h⟩
    exact ⟨_, .list h⟩

theorem encodes_tuple_iff {xs : List Value} : (tuple xs).Encodes ↔ ∀ x ∈ xs, x.Encodes := by
  rw [← exists_haveTrees_iff]
  constructor
  · rintro ⟨_, ⟨⟩⟩
    next h => exact ⟨_, h⟩
  · rintro ⟨trees, h⟩
    exact ⟨_, .tuple h⟩

theorem encodes_dict_iff {entries : Entries} :
    (dict entries).Encodes ↔ ∀ entry ∈ entries, (∃ name, entry.1.Names name) ∧ entry.2.Encodes := by
  have hmember (entry : Value × Value) : (∃ name, entry.1.Names name) ∧ entry.2.Encodes ↔
      ∃ m : List Char × Json, entry.1.Names m.1 ∧ entry.2.HasTree m.2 := by
    constructor
    · rintro ⟨⟨name, hname⟩, tree, htree⟩
      exact ⟨(name, tree), hname, htree⟩
    · rintro ⟨m, hname, htree⟩
      exact ⟨⟨m.1, hname⟩, m.2, htree⟩
  simp only [hmember, ← exists_forall₂_iff, ← haveMembers_iff]
  constructor
  · rintro ⟨_, ⟨⟩⟩
    next h => exact ⟨_, h⟩
  · rintro ⟨members, h⟩
    exact ⟨_, .dict h⟩

theorem composed_encodes : Composed Encodes where
  null := ⟨_, .null⟩
  bool b := ⟨_, .bool b⟩
  int n := ⟨_, .int n⟩
  str s := ⟨_, .str s⟩
  list _ := encodes_list_iff
  tuple _ := encodes_tuple_iff
  dict {entries} h := by
    obtain ⟨names, -, hkeys⟩ := h
    rw [encodes_dict_iff]
    refine forall₂_congr fun entry hentry => and_iff_right ?_
    have hkey : entry.1 ∈ names.map Value.str := hkeys ▸ List.mem_map_of_mem hentry
    obtain ⟨name, -, hname⟩ := List.mem_map.1 hkey
    rw [← hname]
    exact ⟨_, .str name⟩

/-! ### Dates turned into texts -/

theorem isoDatesList_eq_map (xs : List Value) : isoDatesList xs = xs.map isoDates := by
  induction xs with
  | nil => rfl
  | cons x xs ih => rw [isoDatesList, ih, List.map_cons]

theorem isoDatesEntries_eq_map (entries : Entries) :
    isoDatesEntries entries = entries.map fun entry => (entry.1, entry.2.isoDates) := by
  induction entries with
  | nil => rfl
  | cons entry entries ih => rw [isoDatesEntries, ih, List.map_cons]

theorem isoDates_list (xs : List Value) : (list xs).isoDates = .list (xs.map isoDates) := by
  rw [isoDates, isoDatesList_eq_map]

theorem isoDates_dict (entries : Entries) :
    (dict entries).isoDates = .dict (entries.map fun entry => (entry.1, entry.2.isoDates)) := by
  rw [isoDates, isoDatesEntries_eq_map]

theorem IsDatum.exists_names_iff {key : Value} (h : key.IsDatum) : (∃ name, key.Names name) ↔ ¬key.IsCalendar := by
  cases h with
  | null => exact iff_of_true ⟨_, .null⟩ id
  | bool b =>
    cases b
    · exact iff_of_true ⟨_, .false⟩ id
    · exact iff_of_true ⟨_, .true⟩ id
  | int n => exact iff_of_true ⟨_, .int n⟩ id
  | float h => exact iff_of_true ⟨_, .float h⟩ id
  | str s => exact iff_of_true ⟨_, .str s⟩ id
  | date d =>
    refine iff_of_false ?_ (not_not_intro trivial)
    rintro ⟨_, ⟨⟩⟩
  | moment t =>
    refine iff_of_false ?_ (not_not_intro trivial)
    rintro ⟨_, ⟨⟩⟩

theorem IsDatum.encodes_isoDates {v : Value} (h : v.IsDatum) : v.isoDates.Encodes := by
  cases h with
  | null => exact ⟨_, .null⟩
  | bool b => exact ⟨_, .bool b⟩
  | int n => exact ⟨_, .int n⟩
  | float h => exact ⟨_, .float h⟩
  | str s => exact ⟨_, .str s⟩
  | date d => exact ⟨_, .str d.iso⟩
  | moment t => exact ⟨_, .str t.iso⟩

theorem IsDatum.everywhere {v : Value} (h : v.IsDatum) (Q : Entries → Prop) : v.Everywhere Q := by
  intro entries hentries
  cases h <;> cases hentries

theorem IsData.encodes_isoDates_iff {v : Value} (h : v.IsData) :
    v.isoDates.Encodes ↔ v.Everywhere Entries.HasNoDateKey := by
  induction h with
  | datum h => exact iff_of_true h.encodes_isoDates (h.everywhere _)
  | @list xs _ ih =>
    rw [isoDates_list, encodes_list_iff, everywhere_list_iff, List.forall_mem_map]
    exact forall₂_congr ih
  | @dict entries hkeys _ ih =>
    have hnames : (∀ entry ∈ entries, ∃ name, entry.1.Names name) ↔ entries.HasNoDateKey := by
      rw [Entries.HasNoDateKey, Entries.keys, List.forall_mem_map]
      exact forall₂_congr fun entry hentry => (hkeys _ (List.mem_map_of_mem hentry)).exists_names_iff
    rw [isoDates_dict, encodes_dict_iff, everywhere_dict_iff, List.forall_mem_map, ← hnames, ← forall₂_congr ih,
      ← forall₂_and]

end Value

namespace Config

/-! ### What a configured document holds -/

mutual

/-- The value of an item, or of one that its clauses lead to. -/
inductive ItemHolds : Value → Value → Prop where
  | block {v x : Value} (h : ClausesHold v x) : ItemHolds (.dict [(.str "bool", v)]) x
  | holder {entries : Entries} {v x : Value}
      (hselects : Selects (entries.find? "type") .nested ∨ Selects (entries.find? "type") .bool)
      (hvalue : entries.find? "value" = some v) (h : ClausesHold v x) : ItemHolds (.dict entries) x
  | leaf {entries : Entries} {v : Value}
      (hselects : ¬(Selects (entries.find? "type") .nested ∨ Selects (entries.find? "type") .bool))
      (hvalue : entries.find? "value" = some v) : ItemHolds (.dict entries) v

inductive ClausesHold : Value → Value → Prop where
  | dict {entries : Entries} {v x : Value} (clause : Clause) (hfound : entries.find? clause.name = some v)
      (h : ItemsHold v x) : ClausesHold (.dict entries) x

inductive ItemsHold : Value → Value → Prop where
  | list {xs : List Value} {y x : Value} (hy : y ∈ xs) (h : ItemHolds y x) : ItemsHold (.list xs) x

end

/-- The values of the items of a document, and the elements of its cursor. -/
inductive DocumentHolds : Value → Value → Prop where
  | item {v x : Value} (h : ClausesHold v x) : DocumentHolds v x
  | after {entries : Entries} {xs : List Value} {x : Value} (hfound : entries.find? "search_after" = some (.list xs))
      (hx : x ∈ xs) : DocumentHolds (.dict entries) x

/-! ### What is read holds the same -/

variable {P : Value → Prop}

theorem composed_fixed (hP : Value.Composed P) (v : Value) : P v.fixed ↔ P v := by
  cases v with
  | list xs => exact (hP.tuple xs).trans (hP.list xs).symm
  | _ => exact Iff.rfl

theorem find?_block (v : Value) : Entries.find? [(.str "bool", v)] "value" = none := by
  simp [Entries.find?, Entries.get?, Value.sameKey]

theorem itemHolds_block_iff {v x : Value} : ItemHolds (.dict [(.str "bool", v)]) x ↔ ClausesHold v x := by
  constructor
  · intro h
    cases h with
    | block h => exact h
    | holder _ hvalue _ => exact absurd ((find?_block v).symm.trans hvalue) nofun
    | leaf _ hvalue => exact absurd ((find?_block v).symm.trans hvalue) nofun
  · exact .block

variable {entries : Entries} {v x : Value} {kind : Kind}

theorem itemHolds_holder_iff (hkind : ReadsKind (entries.find? "type") kind) (hholds : holdsClauses kind = true)
    (hvalue : entries.find? "value" = some v) : ItemHolds (.dict entries) x ↔ ClausesHold v x := by
  have hselects := hkind.holdsClauses_iff.1 hholds
  constructor
  · intro h
    cases h with
    | @block w _ _ => exact absurd ((find?_block w).symm.trans hvalue) nofun
    | holder _ hfound h => exact Option.some.inj (hvalue.symm.trans hfound) ▸ h
    | leaf hother _ => exact absurd hselects hother
  · exact .holder hselects hvalue

theorem itemHolds_leaf_iff (hkind : ReadsKind (entries.find? "type") kind) (hholds : holdsClauses kind = false)
    (hvalue : entries.find? "value" = some v) : ItemHolds (.dict entries) x ↔ x = v := by
  have hselects := (not_congr hkind.holdsClauses_iff).1 (Bool.eq_false_iff.1 hholds)
  constructor
  · intro h
    cases h with
    | @block w _ _ => exact absurd ((find?_block w).symm.trans hvalue) nofun
    | holder hother _ _ => exact absurd hother hselects
    | leaf _ hfound => exact Option.some.inj (hfound.symm.trans hvalue)
  · rintro rfl
    exact .leaf hselects hvalue

theorem forall_mem_items_iff_of_read {Q : Item → Prop} {key : KeyPath} {found : Option Value} {is : List Item}
    (h : readItems? key found = .ok is)
    (hitem : ∀ i ∈ is, ∀ v key, item v key = .ok i → (Q i ↔ ∀ x, ItemHolds v x → P x.isoDates)) :
    (∀ i ∈ is, Q i) ↔ ∀ v, found = some v → ∀ x, ItemsHold v x → P x.isoDates := by
  cases found with
  | none =>
    cases h
    exact iff_of_true nofun nofun
  | some v =>
    simp only [Option.some.injEq, forall_eq']
    cases v with
    | null =>
      cases h
      exact iff_of_true nofun nofun
    | list xs =>
      have hread := (forall₂_of_itemsFrom h).flip
      have hpairs := ((List.forall₂_and_left _ _).2 ⟨hitem, hread⟩).imp fun i x ⟨hi, key, hx⟩ => hi x key hx
      rw [forall_mem_iff_of_forall₂ hpairs.flip]
      constructor
      · rintro hall x ⟨⟩
        next hy hx => exact hall _ hy x hx
      · exact fun hall y hy x hx => hall x (.list hy hx)
    | _ => cases h

theorem forall_mem_walk_iff_of_read (hP : Value.Composed P) :
    (∀ i : Item, ∀ v key, item v key = .ok i →
      ((∀ j ∈ i.walk, ¬j.IsHolder → P j.value) ↔ ∀ x, ItemHolds v x → P x.isoDates)) ∧
    ∀ c : Clauses, ∀ entries : Entries,
      (∀ clause : Clause, ∃ key, readItems? key (entries.find? clause.name) = .ok (c.get clause)) →
        ((∀ j ∈ c.walk, ¬j.IsHolder → P j.value) ↔ ∀ x, ClausesHold (.dict entries) x → P x.isoDates) := by
  apply Clauses.induction
  · intro field value kind ih v key h
    cases item_eq_ok_iff.1 h with
    | @block w c hc =>
      obtain ⟨entries, rfl, -, hclauses⟩ := clauses_eq_ok_iff.1 hc
      have hblock (x : Value) : ItemHolds (.dict [(.str Operator.bool.key, .dict entries)]) x ↔ _ :=
        itemHolds_block_iff
      simp only [hblock]
      rw [Value.Composed.forall_mem_walk_of_isHolder (.inr rfl),
        ih c rfl entries fun clause => ⟨_, hclauses clause⟩]
    | @holder _ _ _ _ c hkeys hfield hkind hholds hvalue hc =>
      obtain ⟨entries, rfl, -, hclauses⟩ := clauses_eq_ok_iff.1 hc
      simp only [itemHolds_holder_iff hkind hholds hvalue]
      rw [Value.Composed.forall_mem_walk_of_isHolder (hkind.holdsClauses_iff_operator?.1 hholds),
        ih c rfl entries fun clause => ⟨_, hclauses clause⟩]
    | @leaf _ _ _ w hkeys hfield hkind hholds hvalue =>
      have hleaf : ¬(Item.mk field w.isoDates.fixed kind).IsHolder :=
        (not_congr hkind.holdsClauses_iff_operator?).1 (Bool.eq_false_iff.1 hholds)
      simp only [itemHolds_leaf_iff hkind hholds hvalue, forall_eq]
      rw [Value.Composed.forall_mem_walk_of_not_isHolder hleaf, Item.value, composed_fixed hP]
  · intro c ih entries hread
    choose keys hkeys using hread
    rw [Clauses.forall_mem_walk_iff,
      forall_congr' fun clause => forall_mem_items_iff_of_read (hkeys clause) (ih clause)]
    constructor
    · rintro hall x ⟨clause, hfound, hx⟩
      exact hall clause _ hfound x hx
    · exact fun hall clause v hfound x hx => hall x (.dict clause hfound hx)

theorem forall_mem_cursor_iff_of_read {entries : Entries} {key : KeyPath} {after : List Value}
    (h : cursor key (valueOrNull entries "search_after") = .ok after) :
    (∀ y ∈ after, P y) ↔ ∀ xs, entries.find? "search_after" = some (.list xs) → ∀ x ∈ xs, P x.isoDates := by
  rw [valueOrNull] at h
  cases hfound : entries.find? "search_after" with
  | none =>
    rw [hfound] at h
    cases h
    simp
  | some v =>
    rw [hfound] at h
    obtain ⟨rfl, rfl⟩ | ⟨xs, rfl, -, rfl⟩ := cursor_eq_ok_iff.1 h
    · simp
    · simp only [Option.some.injEq, Value.list.injEq, forall_eq', Value.isoDatesList_eq_map, List.forall_mem_map]

theorem forall_holds_iff_of_read (hP : Value.Composed P) {v : Value} {key : KeyPath} {doc : Document}
    (h : document v key = .ok doc) : (∀ w, doc.Holds w → P w) ↔ ∀ x, DocumentHolds v x → P x.isoDates := by
  obtain ⟨entries, rfl, hdoc⟩ := document_eq_ok_iff.1 h
  have hitems := (forall_mem_walk_iff_of_read hP).2 doc.clauses entries fun clause => ⟨_, hdoc.clauses clause⟩
  have hafter : (∀ y ∈ doc.searchAfter, P y) ↔ _ := forall_mem_cursor_iff_of_read hdoc.searchAfter
  have hwhole {key : KeyPath} {v w : Value} (hw : optionalWhole key v = .ok w) : P w := by
    rcases (optionalWhole_eq_ok_iff.1 hw).2 with rfl | ⟨n, rfl⟩
    · exact hP.null
    · exact hP.int n
  constructor
  · intro hall x hx
    cases hx with
    | item hx => exact hitems.1 (fun j hj hleaf => hall _ (.item hj hleaf)) x hx
    | after hfound hx => exact hafter.1 (fun y hy => hall y (.after hy)) _ hfound x hx
  · intro hall w hw
    cases hw with
    | item hi hleaf => exact hitems.2 (fun x hx => hall x (.item hx)) _ hi hleaf
    | size => exact hwhole hdoc.size
    | start => exact hwhole hdoc.start
    | after hx => exact hafter.2 (fun xs hfound x hx => hall x (.after hfound hx)) _ hx

/-- **A configured document of data has a text exactly if it has no date as a key.** -/
theorem toJsonText_body_iff {v : Value} {key : KeyPath} {doc : Document} {b : Value}
    (hread : document v key = .ok doc) (hdata : ∀ x, DocumentHolds v x → x.IsData) (hbody : doc.body = .ok b) :
    (∃ text, b.toJsonText = .ok text) ↔ ∀ x, DocumentHolds v x → x.Everywhere Entries.HasNoDateKey := by
  rw [Value.exists_toJsonText_iff, Document.body_iff_of_composed Value.composed_encodes hbody,
    forall_holds_iff_of_read Value.composed_encodes hread]
  exact forall₂_congr fun x hx => (hdata x hx).encodes_isoDates_iff

/-- A date in a range, and one where the previous page ended. -/
theorem toJsonText_body_of_dates :
    let date : Value := .date ⟨2015, 1, 1⟩
    let range : Value := .dict [(.str "gte", date), (.int 1, .list [.null, date])]
    let item : Entries := [(.str "field", .str "d"), (.str "type", .str "range"), (.str "value", range)]
    let v : Value := .dict [(.str "index", .str "i"), (.str "filter", .list [.dict item]),
      (.str "search_after", .list [date])]
    ∃ doc b, document v (.ofName "doc") = .ok doc ∧ doc.body = .ok b ∧ ∃ text, b.toJsonText = .ok text := by
  intro date range item v
  have hread : document v (.ofName "doc") = .ok ⟨"i", .single .filter [.mk "d"
      (.dict [(.str "gte", .str "2015-01-01"), (.int 1, .list [.null, .str "2015-01-01"])]) (.operator .range)],
      [], .null, .null, [.str "2015-01-01"]⟩ := by
    with_unfolding_all rfl
  have hkind : ReadsKind (item.find? "type") (.operator .range) := .name rfl
  have hdate : date.IsDatum := .date _
  have hrange : range.IsData := by
    refine .dict ?_ ?_
    · rintro key (⟨⟩ | ⟨_, ⟨⟩ | ⟨_, ⟨⟩⟩⟩)
      · exact .str _
      · exact .int _
    · rintro entry (⟨⟩ | ⟨_, ⟨⟩ | ⟨_, ⟨⟩⟩⟩)
      · exact .datum hdate
      · refine .list ?_
        rintro x (⟨⟩ | ⟨_, ⟨⟩ | ⟨_, ⟨⟩⟩⟩)
        · exact .datum .null
        · exact .datum hdate
  have hheld : ∀ x, DocumentHolds v x → x = date ∨ x = range := by
    intro x hx
    change DocumentHolds (.dict _) x at hx
    cases hx with
    | item hx =>
      cases hx with
      | dict clause hfound hx =>
        cases clause with
        | filter =>
          cases hfound
          cases hx with
          | list hy hx =>
            cases List.mem_singleton.1 hy
            exact .inr ((itemHolds_leaf_iff hkind rfl rfl).1 hx)
        | _ => cases hfound
    | after hfound hx =>
      cases hfound
      exact .inl (List.mem_singleton.1 hx)
  have hplain : range.Everywhere Entries.HasNoDateKey := by
    refine Value.everywhere_dict_iff.2 ⟨?_, ?_⟩
    · rintro key (⟨⟩ | ⟨_, ⟨⟩ | ⟨_, ⟨⟩⟩⟩) <;> exact id
    · rw [List.forall_mem_cons, List.forall_mem_singleton, Value.everywhere_list_iff,
        List.forall_mem_cons, List.forall_mem_singleton]
      exact ⟨hdate.everywhere _, Value.IsDatum.null.everywhere _, hdate.everywhere _⟩
  refine ⟨_, _, hread, rfl, (toJsonText_body_iff hread ?_ rfl).2 ?_⟩
  · intro x hx
    rcases hheld x hx with rfl | rfl
    · exact .datum hdate
    · exact hrange
  · intro x hx
    rcases hheld x hx with rfl | rfl
    · exact hdate.everywhere _
    · exact hplain

/-- A date as a key. -/
theorem not_toJsonText_body_of_date_key :
    let x : Value := .dict [(.date ⟨2015, 1, 1⟩, .int 1)]
    let item : Entries := [(.str "field", .str "f"), (.str "value", x)]
    let v : Value := .dict [(.str "index", .str "i"), (.str "must", .list [.dict item])]
    ∃ doc b, document v (.ofName "doc") = .ok doc ∧ doc.body = .ok b ∧ (∀ x, DocumentHolds v x → x.IsData) ∧
      b.toJsonText = .error (.badKey "datetime.date") := by
  intro x item v
  have hread : document v (.ofName "doc") =
      .ok ⟨"i", .single .must [.mk "f" x (.operator .matches)], [], .null, .null, []⟩ := by
    with_unfolding_all rfl
  have hkind : ReadsKind (item.find? "type") (.operator .matches) := .absent
  refine ⟨_, _, hread, rfl, ?_, rfl⟩
  intro y hy
  change DocumentHolds (.dict _) y at hy
  cases hy with
  | item hy =>
    cases hy with
    | dict clause hfound hy =>
      cases clause with
      | must =>
        cases hfound
        cases hy with
        | list hz hy =>
          cases List.mem_singleton.1 hz
          cases (itemHolds_leaf_iff hkind rfl rfl).1 hy
          refine .dict ?_ ?_
          · rintro key (⟨⟩ | ⟨_, ⟨⟩⟩)
            exact .date _
          · rintro entry (⟨⟩ | ⟨_, ⟨⟩⟩)
            exact .datum (.int 1)
      | _ => cases hfound
  | after hfound hx => cases hfound

end Config

end SearchRequest
