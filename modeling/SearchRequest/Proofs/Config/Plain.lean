import SearchRequest.Proofs.Config.Dates

/-!
# Plain values on the way to the wire

What a configured value is once its dates are texts, position by position, and what an item without clauses sends
of it.

* `Value.rel_atPosition?_isoDates`: every position is kept, and what is there changes only if it is a date.
* `Value.isoDates_eq_self_iff`: exactly the values without dates stay as they are.
* `Config.plain_changes_only_dates`: an item sends the value after that and nothing else of it changes, save that
  the text of a query string is escaped.
-/

namespace SearchRequest

namespace Value

/-! ### Positions -/

/-- An element of a list, or the value of an entry of a mapping. -/
def partAt? : Value → Nat → Option Value
  | .list xs, n => xs[n]?
  | .dict entries, n => entries[n]?.map (·.2)
  | _, _ => none

/-- The value that lists and mappings lead to, by a number on each level. -/
def atPosition? (v : Value) (position : List Nat) : Option Value := position.foldlM partAt? v

/-- No date is found in lists and the values of mappings. -/
def IsDateless (v : Value) : Prop := ∀ position w, v.atPosition? position = some w → ¬w.IsCalendar

/-- What a value is after its dates have become texts, on the surface: a list of the same length, a mapping with the
same keys in the same order, the text of a date, and else the value as it was. -/
inductive BecomesPlain : Value → Value → Prop where
  | date (d : Date) : BecomesPlain (.date d) (.str d.iso)
  | moment (t : Moment) : BecomesPlain (.moment t) (.str t.iso)
  | list {xs ys : List Value} (h : ys.length = xs.length) : BecomesPlain (.list xs) (.list ys)
  | dict {entries others : Entries} (h : others.keys = entries.keys) : BecomesPlain (.dict entries) (.dict others)
  | other {v : Value} (hdate : ¬v.IsCalendar) (hlist : ∀ xs, v ≠ .list xs) (hdict : ∀ entries, v ≠ .dict entries) :
      BecomesPlain v v

theorem atPosition?_nil (v : Value) : v.atPosition? [] = some v := rfl

theorem atPosition?_cons (v : Value) (n : Nat) (position : List Nat) :
    v.atPosition? (n :: position) = (v.partAt? n).bind (·.atPosition? position) := rfl

theorem partAt?_isoDates (v : Value) (n : Nat) : v.isoDates.partAt? n = (v.partAt? n).map isoDates := by
  cases v with
  | list xs => rw [isoDates_list, partAt?, List.getElem?_map, partAt?]
  | dict entries =>
    rw [isoDates_dict, partAt?, List.getElem?_map, partAt?, Option.map_map, Option.map_map]
    rfl
  | _ => rfl

theorem atPosition?_isoDates (v : Value) (position : List Nat) :
    v.isoDates.atPosition? position = (v.atPosition? position).map isoDates := by
  induction position generalizing v with
  | nil => rfl
  | cons n position ih =>
    rw [atPosition?_cons, atPosition?_cons, partAt?_isoDates, Option.bind_map, Option.map_bind]
    exact congrArg (v.partAt? n).bind (funext ih)

theorem becomesPlain_isoDates (v : Value) : BecomesPlain v v.isoDates := by
  cases v with
  | date d => exact .date d
  | moment t => exact .moment t
  | list xs =>
    rw [isoDates_list]
    exact .list (List.length_map _)
  | dict entries =>
    rw [isoDates_dict]
    exact .dict (List.map_map ..)
  | _ => exact .other id nofun nofun

theorem rel_atPosition?_isoDates (v : Value) (position : List Nat) :
    Option.Rel BecomesPlain (v.atPosition? position) (v.isoDates.atPosition? position) := by
  rw [atPosition?_isoDates]
  cases v.atPosition? position with
  | none => exact .none
  | some w => exact .some (becomesPlain_isoDates w)

/-! ### What stays as it is -/

theorem isDateless_iff {v : Value} : v.IsDateless ↔ ¬v.IsCalendar ∧ ∀ n w, v.partAt? n = some w → w.IsDateless := by
  constructor
  · intro h
    refine ⟨h [] v rfl, fun n w hw position x hx => h (n :: position) x ?_⟩
    rw [atPosition?_cons, hw]
    exact hx
  · rintro ⟨hv, hparts⟩ position w hw
    cases position with
    | nil =>
      cases hw
      exact hv
    | cons n position =>
      obtain ⟨x, hx, hw⟩ := Option.bind_eq_some_iff.1 hw
      exact hparts n x hx position w hw

theorem isDateless_isoDates (v : Value) : v.isoDates.IsDateless := by
  intro position w hw
  rw [atPosition?_isoDates] at hw
  obtain ⟨x, -, rfl⟩ := Option.map_eq_some_iff.1 hw
  cases x <;> exact id

/-- **Exactly the values without dates stay as they are.** -/
theorem isoDates_eq_self_iff {v : Value} : v.isoDates = v ↔ v.IsDateless := by
  constructor
  · intro h
    rw [← h]
    exact isDateless_isoDates v
  · -- over the value: that nothing changes is said of whole parts, and not of positions
    induction v using Value.induction with
    | step v hlist hdict =>
      intro h
      obtain ⟨hv, hparts⟩ := isDateless_iff.1 h
      cases v with
      | date d => exact absurd trivial hv
      | moment t => exact absurd trivial hv
      | list xs =>
        have hself : ∀ x ∈ xs, x.isoDates = id x := by
          intro x hx
          obtain ⟨n, hn⟩ := List.mem_iff_getElem?.1 hx
          exact hlist xs rfl x hx (hparts n x hn)
        rw [isoDates_list, List.map_congr_left hself, List.map_id]
      | dict entries =>
        have hself : ∀ entry ∈ entries, (entry.1, entry.2.isoDates) = id entry := by
          intro entry hentry
          obtain ⟨n, hn⟩ := List.mem_iff_getElem?.1 hentry
          have hpart : (dict entries).partAt? n = some entry.2 := by rw [partAt?, hn, Option.map_some]
          rw [hdict entries rfl entry hentry (hparts n _ hpart), id]
        rw [isoDates_dict, List.map_congr_left hself, List.map_id]
      | _ => rfl

theorem isoDates_isoDates (v : Value) : v.isoDates.isoDates = v.isoDates :=
  isoDates_eq_self_iff.2 (isDateless_isoDates v)

/-! ### Through the tuple of an item -/

theorem plain_fixed (v : Value) : v.fixed.plain = v.plain := by
  cases v <;> rfl

theorem fits_fixed (op : Operator) (v : Value) : op.fits v.fixed = op.fits v := by
  cases v <;> rfl

theorem fixed_eq_str_iff {v : Value} {s : String} : v.fixed = .str s ↔ v = .str s := by
  cases v <;> simp [fixed]

/-! ### Trees -/

theorem hasTree_plain_iff {v : Value} {tree : Json} : v.plain.HasTree tree ↔ v.HasTree tree := by
  cases v with
  | tuple xs =>
    constructor
    · rintro ⟨⟩
      next h => exact .tuple h
    · rintro ⟨⟩
      next h => exact .list h
  | _ => exact Iff.rfl

theorem hasTree_single_iff {name : String} {v : Value} {tree : Json} :
    (single name v).HasTree tree ↔ ∃ inner, v.HasTree inner ∧ tree = .object [(name.toList, inner)] := by
  constructor
  · intro h
    cases h with
    | dict hmembers =>
      cases hmembers with
      | cons hk hv hrest =>
        cases hk
        cases hrest
        exact ⟨_, hv, rfl⟩
  · rintro ⟨inner, hv, rfl⟩
    exact .dict (.cons (.str name) hv .nil)

end Value

/-! ### What an item sends -/

/-- The body that an operator without clauses has for a field and a value. -/
inductive Operator.Sends (field : String) : Operator → Value → Value → Prop where
  | value {op : Operator} {v : Value} (hleaf : op.IsLeaf) (hfits : op.fits v) :
      Sends field op v (.single op.key (.single field v.plain))
  | escaped (text : String) :
      Sends field .queryString (.str text) (.single Operator.queryString.key (.queryString field text))

theorem Operator.Sends.hasTree_iff {field : String} {op : Operator} {v b : Value} (h : op.Sends field v b)
    (hop : op ≠ .queryString) {tree : Json} :
    b.HasTree tree ↔
      ∃ inner, v.HasTree inner ∧ tree = .object [(op.key.toList, .object [(field.toList, inner)])] := by
  cases h with
  | value hleaf hfits => simp [Value.hasTree_single_iff, Value.hasTree_plain_iff]
  | escaped text => exact absurd rfl hop

theorem Item.body_fixed_eq_ok_iff {field : String} {v b : Value} {kind : Kind}
    (hleaf : ¬(Item.mk field v.fixed kind).IsHolder) :
    (Item.mk field v.fixed kind).body = .ok b ↔ ∃ op, kind.operator? = some op ∧ op.Sends field v b := by
  rw [Item.body_eq_ok_iff]
  constructor
  · intro h
    generalize hvalue : v.fixed = value at h
    cases h with
    | bool hop hc => exact absurd (.inr hop) hleaf
    | nested hop hc => exact absurd (.inl hop) hleaf
    | queryString hop =>
      obtain rfl := Value.fixed_eq_str_iff.1 hvalue
      exact ⟨_, hop, .escaped _⟩
    | leaf hop hleaf hfits =>
      subst hvalue
      rw [Value.fits_fixed] at hfits
      rw [Value.plain_fixed]
      exact ⟨_, hop, .value hleaf hfits⟩
  · rintro ⟨op, hop, h⟩
    cases h with
    | value hleaf hfits =>
      rw [← Value.plain_fixed]
      exact .leaf hop hleaf ((Value.fits_fixed op v).trans hfits)
    | escaped text => exact .queryString hop

namespace Config

/-- What becomes of a configured value in an item: it is held and sent with its dates as texts. -/
structure SendsPlain (v : Value) (i : Item) : Prop where
  /-- The item has a body if its operator accepts the value, and the body holds the value. -/
  body : ∀ b, i.body = .ok b ↔ ∃ op, i.kind.operator? = some op ∧ op.Sends i.field v.isoDates b
  /-- On the wire the value stands under the operator and the field, as the value itself would be written. -/
  tree : ∀ op b, i.kind.operator? = some op → op ≠ .queryString → i.body = .ok b → ∀ tree, b.HasTree tree ↔
    ∃ inner, v.isoDates.HasTree inner ∧ tree = .object [(op.key.toList, .object [(i.field.toList, inner)])]
  /-- Terms are kept as a tuple and sent as a list, each in its place. -/
  terms : ∀ xs, v = .list xs → i.kind.operator? = some .terms → i.value = .tuple (xs.map Value.isoDates) ∧
    i.body = .ok (.single "terms" (.single i.field (.list (xs.map Value.isoDates))))

theorem sendsPlain_fixed {field : String} {v : Value} {kind : Kind}
    (hleaf : ¬(Item.mk field v.isoDates.fixed kind).IsHolder) :
    SendsPlain v (.mk field v.isoDates.fixed kind) := by
  have hbody (b : Value) : (Item.mk field v.isoDates.fixed kind).body = .ok b ↔ _ := Item.body_fixed_eq_ok_iff hleaf
  constructor
  case body => exact hbody
  case tree =>
    intro op b hop hne hb tree
    obtain ⟨other, hother, hsends⟩ := (hbody b).1 hb
    obtain rfl : op = other := Option.some.inj (hop.symm.trans hother)
    exact hsends.hasTree_iff hne
  case terms =>
    rintro xs rfl hop
    rw [hbody, Value.isoDates_list]
    exact ⟨rfl, .terms, hop, .value ⟨nofun, nofun, nofun⟩ rfl⟩

/-- **Nothing but dates changes on the way to the wire.** A value whose dates become texts keeps all its positions,
and what is there is a list of the same length, a mapping with the same keys in the same order, or the same as it was
if it is no date. Doing it again changes nothing, and it changes nothing at all exactly if there is no date. An item
without clauses that has been read sends what this makes of its value, in the user's order, and terms keep their
places; only the text of a query string is escaped. -/
theorem plain_changes_only_dates :
    (∀ v : Value, (∀ position,
        Option.Rel Value.BecomesPlain (v.atPosition? position) (v.isoDates.atPosition? position)) ∧
      v.isoDates.isoDates = v.isoDates ∧ (v.isoDates = v ↔ v.IsDateless)) ∧
    ∀ (v : Value) (key : KeyPath) (i : Item), item v key = .ok i → ¬i.IsHolder →
      ∃ entries value, v = .dict entries ∧ Entries.find? entries "value" = some value ∧ SendsPlain value i := by
  refine ⟨fun v => ⟨v.rel_atPosition?_isoDates, v.isoDates_isoDates, Value.isoDates_eq_self_iff⟩, ?_⟩
  intro v key i hread hleaf
  cases item_eq_ok_iff.1 hread with
  | block hc => exact absurd (.inr rfl) hleaf
  | holder hkeys hfield hkind hholds hvalue hc =>
    exact absurd (hkind.holdsClauses_iff_operator?.1 hholds) hleaf
  | leaf hkeys hfield hkind hholds hvalue => exact ⟨_, _, rfl, hvalue, sendsPlain_fixed hleaf⟩

/-- Terms with a date among them, and one as a key. -/
theorem plain_changes_only_dates_of_terms :
    let date : Value := .date ⟨2015, 1, 1⟩
    let value : Value := .list [.int 1, date, .dict [(date, .list [.null, date])]]
    let v : Value := .dict [(.str "field", .str "d"), (.str "type", .str "terms"), (.str "value", value)]
    ∃ i, item v (.ofName "item") = .ok i ∧ SendsPlain value i ∧
      i.body = .ok (.single "terms" (.single "d" (.list [.int 1, .str "2015-01-01",
        .dict [(date, .list [.null, .str "2015-01-01"])]]))) := by
  intro date value v
  have hread : item v (.ofName "item") = .ok (.mk "d" value.isoDates.fixed (.operator .terms)) := by
    with_unfolding_all rfl
  have hleaf : ¬(Item.mk "d" value.isoDates.fixed (.operator .terms)).IsHolder := by
    simp [Item.IsHolder, Item.kind, Kind.operator?]
  obtain ⟨entries, w, hentries, hfound, hsends⟩ := plain_changes_only_dates.2 v _ _ hread hleaf
  obtain rfl := Value.dict.inj hentries
  obtain rfl : value = w := Option.some.inj hfound
  refine ⟨_, hread, hsends, ?_⟩
  rw [(hsends.terms _ rfl rfl).2]
  rfl

/-- The text of a query string, which has no date in it, is nowhere in what is sent: it is escaped. -/
theorem query_string_text_not_sent :
    let text : Value := .str "a+b"
    let v : Value := .dict [(.str "field", .str "f"), (.str "type", .str "query_string"), (.str "value", text)]
    let b : Value := .single "query_string" (.dict [(.str "analyze_wildcard", .bool true),
      (.str "fields", .list [.str "f"]), (.str "query", .str "a\\+b")])
    ∃ i, item v (.ofName "item") = .ok i ∧ ¬i.IsHolder ∧ text.IsDateless ∧ i.body = .ok b ∧
      ∀ position, b.atPosition? position ≠ some text := by
  intro text v b
  have hescape : Escape.escape "a+b" = "a\\+b" := by decide +kernel
  have hread : item v (.ofName "item") = .ok (.mk "f" text (.operator .queryString)) := by
    with_unfolding_all rfl
  have hbody : (Item.mk "f" text (.operator .queryString)).body = .ok b := by
    refine Item.body_eq_ok_iff.2 ?_
    simp only [b, ← hescape]
    exact .queryString rfl
  refine ⟨_, hread, ?_, Value.isoDates_eq_self_iff.1 rfl, hbody, ?_⟩
  · simp [Item.IsHolder, Item.kind, Kind.operator?]
  · -- all positions of the body, level by level
    rintro (_ | ⟨_ | _, _ | ⟨_ | _ | _ | _, _ | ⟨_ | _, _ | _⟩⟩⟩) <;>
      simp [b, text, Value.atPosition?_cons, Value.atPosition?_nil, Value.partAt?, Value.single]

end Config

end SearchRequest
