import SearchRequest.Proofs.Query.Grammar
import SearchRequest.Proofs.Query.Walk

/-!
# The values that a document holds

A body is made of the values that the document holds, with mappings and lists around them whose keys are fixed
names and fields. So a property that collections share with their parts (`Value.Composed`) is one of the body
exactly if it is one of all values that the document holds (`Document.body_iff_of_composed`).
-/

namespace SearchRequest

/-! ### Composed properties -/

/-- The keys are texts, and no two of them are the same. -/
def Entries.IsNamed (entries : Entries) : Prop := ∃ names : List String, names.Nodup ∧ entries.keys = names.map .str

theorem Entries.isNamed_of_sublist {entries : Entries} {names : List String} (hnodup : names.Nodup)
    (h : entries.keys.Sublist (names.map .str)) : entries.IsNamed := by
  obtain ⟨present, hpresent, hkeys⟩ := List.sublist_map_iff.1 h
  exact ⟨present, hpresent.nodup hnodup, hkeys⟩

/-- A property of values that collections share with their parts. A mapping has to have text keys for that. -/
structure Value.Composed (P : Value → Prop) : Prop where
  null : P .null
  bool (b : Bool) : P (.bool b)
  int (n : Int) : P (.int n)
  str (s : String) : P (.str s)
  list (xs : List Value) : P (.list xs) ↔ ∀ x ∈ xs, P x
  tuple (xs : List Value) : P (.tuple xs) ↔ ∀ x ∈ xs, P x
  dict {entries : Entries} (h : entries.IsNamed) : P (.dict entries) ↔ ∀ entry ∈ entries, P entry.2

namespace Value.Composed

variable {P : Value → Prop}

theorem plain (h : Composed P) (v : Value) : P v.plain ↔ P v := by
  cases v with
  | tuple xs => exact (h.list xs).trans (h.tuple xs).symm
  | _ => exact Iff.rfl

theorem single (h : Composed P) (name : String) (v : Value) : P (.single name v) ↔ P v := by
  have hnamed : Entries.IsNamed [(.str name, v)] := ⟨[name], by simp, rfl⟩
  rw [Value.single, h.dict hnamed, List.forall_mem_singleton]

theorem nestedAt (h : Composed P) (path : String) (query : Value) : P (.nestedAt path query) ↔ P query := by
  have hnamed : Entries.IsNamed [(.str "path", .list [.str path]), (.str "query", query)] :=
    ⟨["path", "query"], by decide, rfl⟩
  have hpath : P (.list [.str path]) := (h.list _).2 (List.forall_mem_singleton.2 (h.str path))
  rw [Value.nestedAt, h.dict hnamed, List.forall_mem_cons, List.forall_mem_singleton]
  exact and_iff_right hpath

theorem queryString (h : Composed P) (field text : String) : P (.queryString field text) := by
  have hnamed : Entries.IsNamed [(.str "analyze_wildcard", .bool true), (.str "fields", .list [.str field]),
      (.str "query", .str (Escape.escape text))] := ⟨["analyze_wildcard", "fields", "query"], by decide, rfl⟩
  have hfields : P (.list [.str field]) := (h.list _).2 (List.forall_mem_singleton.2 (h.str field))
  rw [Value.queryString, h.dict hnamed, List.forall_mem_cons, List.forall_mem_cons, List.forall_mem_singleton]
  exact ⟨h.bool true, hfields, h.str _⟩

theorem listEntry (h : Composed P) (name : String) (xs : List Value) :
    (∀ entry ∈ Document.listEntry name xs, P entry.2) ↔ ∀ x ∈ xs, P x := by
  cases xs with
  | nil => exact iff_of_true nofun nofun
  | cons x xs => exact List.forall_mem_singleton.trans (h.list (x :: xs))

theorem optionalEntry (h : Composed P) (name : String) (v : Value) :
    (∀ entry ∈ Document.optionalEntry name v, P entry.2) ↔ P v := by
  cases v with
  | null => exact iff_of_true nofun h.null
  | _ => exact List.forall_mem_singleton

end Value.Composed

/-! ### Mappings -/

/-- The mappings that sequences and the values of mappings lead to, from a value on. -/
inductive Value.Reaches : Value → Entries → Prop where
  | here (entries : Entries) : Reaches (.dict entries) entries
  | entry {entries inner : Entries} {entry : Value × Value} (hentry : entry ∈ entries)
      (h : Reaches entry.2 inner) : Reaches (.dict entries) inner
  | list {xs : List Value} {x : Value} {inner : Entries} (hx : x ∈ xs) (h : Reaches x inner) :
      Reaches (.list xs) inner
  | tuple {xs : List Value} {x : Value} {inner : Entries} (hx : x ∈ xs) (h : Reaches x inner) :
      Reaches (.tuple xs) inner

/-- All mappings that a value leads to have a property. -/
def Value.Everywhere (Q : Entries → Prop) (v : Value) : Prop := ∀ entries, v.Reaches entries → Q entries

namespace Value

variable {Q : Entries → Prop}

theorem everywhere_list_iff {xs : List Value} : (list xs).Everywhere Q ↔ ∀ x ∈ xs, x.Everywhere Q := by
  constructor
  · exact fun h x hx entries hentries => h entries (.list hx hentries)
  · intro h entries hentries
    cases hentries with
    | list hx hinner => exact h _ hx entries hinner

theorem everywhere_tuple_iff {xs : List Value} : (tuple xs).Everywhere Q ↔ ∀ x ∈ xs, x.Everywhere Q := by
  constructor
  · exact fun h x hx entries hentries => h entries (.tuple hx hentries)
  · intro h entries hentries
    cases hentries with
    | tuple hx hinner => exact h _ hx entries hinner

theorem everywhere_dict_iff {entries : Entries} :
    (dict entries).Everywhere Q ↔ Q entries ∧ ∀ entry ∈ entries, entry.2.Everywhere Q := by
  constructor
  · exact fun h => ⟨h entries (.here entries), fun entry hentry inner hinner => h inner (.entry hentry hinner)⟩
  · intro h inner hinner
    cases hinner with
    | here => exact h.1
    | entry hentry hinner => exact h.2 _ hentry inner hinner

theorem Everywhere.mono {R : Entries → Prop} (hQR : ∀ entries, Q entries → R entries) {v : Value}
    (h : v.Everywhere Q) : v.Everywhere R := fun entries hentries => hQR entries (h entries hentries)

theorem composed_everywhere (hQ : ∀ entries : Entries, entries.IsNamed → Q entries) :
    Composed fun v => v.Everywhere Q where
  null := nofun
  bool _ := nofun
  int _ := nofun
  str _ := nofun
  list _ := everywhere_list_iff
  tuple _ := everywhere_tuple_iff
  dict h := everywhere_dict_iff.trans (and_iff_right (hQ _ h))

end Value

/-! ### Items and clauses -/

/-- The values that a document holds: those of its items that are neither nested nor boolean, and those of its
page. -/
inductive Document.Holds (doc : Document) : Value → Prop where
  | item {i : Item} (hi : i ∈ doc.clauses.walk) (hleaf : ¬i.IsHolder) : Holds doc i.value
  | size : Holds doc doc.size
  | start : Holds doc doc.start
  | after {x : Value} (hx : x ∈ doc.searchAfter) : Holds doc x

theorem Clauses.forall_mem_walk_iff {c : Clauses} {Q : Item → Prop} :
    (∀ j ∈ c.walk, Q j) ↔ ∀ clause, ∀ i ∈ c.get clause, ∀ j ∈ i.walk, Q j := by
  simp only [Clauses.mem_walk_iff]
  constructor
  · intro h clause i hi j hj
    exact h j ⟨clause, i, hi, hj⟩
  · rintro h j ⟨clause, i, hi, hj⟩
    exact h clause i hi j hj

theorem forall_mem_iff_of_forall₂ {α β : Type} {Q : α → Prop} {R : β → Prop} {xs : List α} {ys : List β}
    (h : List.Forall₂ (fun x y => R y ↔ Q x) xs ys) : (∀ y ∈ ys, R y) ↔ ∀ x ∈ xs, Q x := by
  induction h with
  | nil => exact iff_of_true nofun nofun
  | cons hfirst _ ih => rw [List.forall_mem_cons, List.forall_mem_cons, hfirst, ih]

namespace Value.Composed

variable {P : Value → Prop}

theorem forall_mem_walk_of_not_isHolder {i : Item} (hleaf : ¬i.IsHolder) :
    (∀ j ∈ i.walk, ¬j.IsHolder → P j.value) ↔ P i.value := by
  rw [Item.walk_of_not_isHolder hleaf, List.forall_mem_singleton]
  exact forall_prop_of_true hleaf

theorem forall_mem_walk_of_isHolder {field : String} {c : Clauses} {kind : Kind}
    (hholder : (Item.mk field (.clauses c) kind).IsHolder) :
    (∀ j ∈ (Item.mk field (.clauses c) kind).walk, ¬j.IsHolder → P j.value) ↔
      ∀ j ∈ c.walk, ¬j.IsHolder → P j.value := by
  have hop : kind.operator? = some .nested ∨ kind.operator? = some .bool := hholder
  rw [Item.walk, List.forall_mem_cons, Value.walkUnder, if_pos hop]
  exact and_iff_right fun hleaf => absurd hholder hleaf

theorem entries_iff (h : Composed P) (bodies : Clause → List Value) :
    (∀ entry ∈ Clauses.entries bodies, P entry.2) ↔ ∀ clause, ∀ b ∈ bodies clause, P b := by
  simp only [Clauses.entries, List.forall_mem_flatMap, Clause.entry_eq_listEntry, h.listEntry]
  exact forall_congr' fun clause => forall_prop_of_true (Clause.mem_all clause)

theorem isNamed_entries (bodies : Clause → List Value) : (Clauses.entries bodies).IsNamed :=
  Entries.isNamed_of_sublist (by decide : ["must", "must_not", "should", "filter"].Nodup)
    (Clauses.keys_entries_sublist bodies)

theorem body_iff (h : Composed P) :
    (∀ i : Item, ∀ b, i.body = .ok b → (P b ↔ ∀ j ∈ i.walk, ¬j.IsHolder → P j.value)) ∧
      ∀ c : Clauses, ∀ b, c.body = .ok b → (P b ↔ ∀ j ∈ c.walk, ¬j.IsHolder → P j.value) := by
  apply Clauses.induction
  · intro field value kind ih b hb
    cases Item.body_eq_ok_iff.1 hb with
    | @bool _ c _ _ hop hc => rw [forall_mem_walk_of_isHolder (.inr hop), ih c rfl b hc]
    | @nested _ c _ query hop hc =>
      rw [h.single, h.nestedAt, forall_mem_walk_of_isHolder (.inl hop), ih c rfl query hc]
    | @queryString _ text _ hop =>
      have hleaf : ¬(Item.mk field (.str text) kind).IsHolder := by simp [Item.IsHolder, Item.kind, hop]
      rw [h.single, forall_mem_walk_of_not_isHolder hleaf]
      exact iff_of_true (h.queryString field text) (h.str text)
    | @leaf _ _ _ op hop hleaf hfits =>
      have hleaf : ¬(Item.mk field value kind).IsHolder := by
        simp [Item.IsHolder, Item.kind, hop, hleaf.1, hleaf.2.1]
      rw [h.single, h.single, h.plain, forall_mem_walk_of_not_isHolder hleaf, Item.value]
  · intro c ih b hb
    obtain ⟨bodies, hbodies, rfl⟩ := Clauses.body_eq_ok_iff.1 hb
    rw [h.single, h.dict (isNamed_entries bodies), h.entries_iff, Clauses.forall_mem_walk_iff]
    refine forall_congr' fun clause => forall_mem_iff_of_forall₂ ?_
    have hpairs := Item.bodies_eq_ok_iff.1 (hbodies clause)
    exact ((List.forall₂_and_left _ _).2 ⟨ih clause, hpairs⟩).imp fun i b hib => hib.1 b hib.2

end Value.Composed

/-! ### Documents -/

namespace Document

theorem isNamed_body (doc : Document) (query : Value) : Entries.IsNamed ((.str "query", query) :: doc.page) :=
  Entries.isNamed_of_sublist (by decide : ["query", "size", "from", "sort", "search_after"].Nodup)
    (doc.keys_page_sublist.cons_cons _)

/-- **A composed property is one of the body exactly if it is one of all values that the document holds.** -/
theorem body_iff_of_composed {P : Value → Prop} (h : Value.Composed P) {doc : Document} {b : Value}
    (hbody : doc.body = .ok b) : P b ↔ ∀ v, doc.Holds v → P v := by
  obtain ⟨query, hquery, rfl⟩ := body_eq_ok_iff.1 hbody
  have hsort : ∀ x ∈ doc.sort.map fun s => Value.single s.field (.str s.order), P x := by
    rw [List.forall_mem_map]
    exact fun s _ => (h.single s.field _).2 (h.str s.order)
  rw [h.dict (doc.isNamed_body query), List.forall_mem_cons, h.body_iff.2 doc.clauses query hquery, page]
  simp only [List.forall_mem_append, h.optionalEntry, h.listEntry]
  constructor
  · rintro ⟨hitems, hsize, hstart, -, hafter, -⟩ v hv
    cases hv with
    | item hi hleaf => exact hitems _ hi hleaf
    | size => exact hsize
    | start => exact hstart
    | after hx => exact hafter _ hx
  · intro hall
    exact ⟨fun i hi hleaf => hall _ (.item hi hleaf), hall _ .size, hall _ .start, hsort,
      fun x hx => hall x (.after hx), List.forall_mem_nil _⟩

end Document

end SearchRequest
