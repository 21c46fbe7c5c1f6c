import SearchRequest.Proofs.Command.Execute
import SearchRequest.Proofs.Config.Settings
import SearchRequest.Proofs.Value.Key

/-!
# The order of entries

A configuration is read by name, so it does not matter in which order the entries of a mapping stand, nor what
else the root and the two sections hold. Two configurations that differ in nothing else (`Config.Reordered`) have
the same settings or the same error (`Config.settings_of_reordered`), also where several things are wrong: the
checks come in an order of their own, and the names that an error lists are sorted.

A change of a configuration is a chain of single ones, each at one place. What is read at a place is the same
before and after a single change if it is so below the place (`Config.Place.read_dict_congr`).
-/

namespace SearchRequest

/-! ### Looking up in another order -/

namespace Entries

theorem find?_append (entries others : Entries) (name : String) :
    find? (entries ++ others) name = (find? entries name).or (find? others name) := by
  induction entries with
  | nil => rfl
  | cons entry rest ih =>
    obtain ⟨k, v⟩ := entry
    by_cases hk : k = .str name
    · subst hk
      rw [List.cons_append, find?_cons_self, find?_cons_self, Option.some_or]
    · rw [List.cons_append, find?_cons_of_ne hk, find?_cons_of_ne hk, ih]

theorem find?_eq_none_of_forall {entries : Entries} {name : String} (h : ∀ entry ∈ entries, entry.1 ≠ .str name) :
    find? entries name = none := by
  cases hfound : find? entries name with
  | none => rfl
  | some v => exact absurd rfl (h _ (mem_of_find? hfound))

theorem IsDistinct.of_perm {left right : Entries} (hdistinct : left.IsDistinct) (h : left.Perm right) :
    right.IsDistinct := by
  refine (List.Perm.pairwise_iff (fun {k l} hkl => ?_) (h.map _)).1 hdistinct
  rw [Value.sameKey_comm, hkl]

theorem IsDistinct.find?_eq_some_iff {entries : Entries} (hdistinct : entries.IsDistinct) {name : String}
    {v : Value} : find? entries name = some v ↔ (.str name, v) ∈ entries := by
  constructor
  · exact mem_of_find?
  · intro hmem
    obtain ⟨before, after, rfl⟩ := List.append_of_mem hmem
    have hbefore : find? before name = none := by
      apply find?_eq_none_of_forall
      intro entry hentry hkey
      have hpair := (List.pairwise_append.1 (List.pairwise_map.1 hdistinct)).2.2 entry hentry _ List.mem_cons_self
      rw [hkey, Value.sameKey_str_iff.2 rfl] at hpair
      cases hpair
    rw [find?_append, hbefore, find?_cons_self, Option.none_or]

theorem find?_of_perm {left right : Entries} (hdistinct : left.IsDistinct) (h : left.Perm right)
    (name : String) : find? left name = find? right name := by
  apply Option.ext
  intro v
  rw [hdistinct.find?_eq_some_iff, (hdistinct.of_perm h).find?_eq_some_iff, h.mem_iff]

end Entries

namespace Config

theorem nodup_eraseDups (names : List String) : names.eraseDups.Nodup := by
  cases names with
  | nil => exact .nil
  | cons name rest =>
    rw [List.eraseDups_cons, List.nodup_cons, List.mem_eraseDups]
    exact ⟨by simp, nodup_eraseDups _⟩
termination_by names.length
decreasing_by
  exact Nat.lt_succ_of_le (List.length_filter_le _ _)

theorem textLe_trans (a b c : String) (hab : textLe a b = true) (hbc : textLe b c = true) : textLe a c = true := by
  simp only [textLe, Bool.not_eq_true', decide_eq_false_iff_not] at hab hbc ⊢
  exact String.le_trans hab hbc

theorem textLe_total (a b : String) : (textLe a b || textLe b a) = true := by
  simp only [textLe, Bool.or_eq_true, Bool.not_eq_true', decide_eq_false_iff_not]
  exact String.le_total a b

theorem textLe_antisymm {a b : String} (hab : textLe a b = true) (hba : textLe b a = true) : a = b := by
  simp only [textLe, Bool.not_eq_true', decide_eq_false_iff_not] at hab hba
  exact String.le_antisymm hab hba

theorem unknownNames_of_perm (known : List String) {left right : Entries} (h : left.keys.Perm right.keys) :
    unknownNames known left = unknownNames known right := by
  have hnames (entries : Entries) : (entries.map fun entry => entry.1.display) = entries.keys.map Value.display := by
    rw [Entries.keys, List.map_map]
    rfl
  unfold unknownNames
  rw [hnames, hnames]
  apply List.Perm.eq_of_pairwise (fun a b _ _ hab hba => textLe_antisymm hab hba)
    (List.pairwise_mergeSort textLe_trans textLe_total _) (List.pairwise_mergeSort textLe_trans textLe_total _)
  refine (List.mergeSort_perm _ _).trans (List.Perm.trans ?_ (List.mergeSort_perm _ _).symm)
  rw [List.perm_ext_iff_of_nodup (nodup_eraseDups _) (nodup_eraseDups _)]
  intro name
  rw [List.mem_eraseDups, List.mem_eraseDups]
  exact ((h.map Value.display).filter _).mem_iff

/-! ### Places -/

/-- The places of a configuration that the reading goes into, and the leaves, which are taken as they are. -/
inductive Place where
  | root
  | log
  | output
  | queries
  | document
  | items
  | item
  | clauses
  | leaf
  deriving DecidableEq

/-- Whether the value of an item with such a type holds clauses. -/
def selectsClauses : Option Value → Bool
  | some (.str name) => Text.lower (Text.strip name) ∈ [Operator.nested.key, Operator.bool.key]
  | some (.int n) => n ∈ [(Operator.nested.code : Int), Operator.bool.code]
  | _ => false

namespace Place

/-- The place below a name in a mapping. -/
def under (entries : Entries) : Place → String → Place
  | root, name =>
    if name = "log" then log else if name = "output" then output else if name = "queries" then queries else leaf
  | document, name | clauses, name => if name ∈ ["must", "must_not", "should", "filter"] then items else leaf
  | item, name =>
    if name = "bool" then clauses
    else if name = "value" ∧ selectsClauses (entries.find? "type") then clauses else leaf
  | _, _ => leaf

/-- The place of the elements of a list. -/
def element : Place → Place
  | queries => document
  | items => item
  | _ => leaf

/-- The names that are read in a mapping. -/
def names : Place → List String
  | root => ["log", "output", "queries"]
  | log => ["level", "to_file", "dir"]
  | output => ["format", "path"]
  | document => ["index", "sort", "size", "from", "search_after", "must", "must_not", "should", "filter"]
  | item => ["bool", "field", "type", "value"]
  | clauses => ["must", "must_not", "should", "filter"]
  | _ => []

/-- Whether a mapping may have other keys too. -/
def isOpen : Place → Bool
  | root | log | output => true
  | _ => false

end Place

/-- Two values at a place that differ by the order of entries, there and at all places below, and by entries that
nobody reads. -/
inductive Reordered : Place → Value → Value → Prop where
  | refl (place : Place) (v : Value) : Reordered place v v
  | symm {place : Place} {v w : Value} (h : Reordered place v w) : Reordered place w v
  | trans {place : Place} {u v w : Value} (huv : Reordered place u v) (hvw : Reordered place v w) :
      Reordered place u w
  | perm {place : Place} {left right : Entries} (hplace : place ≠ .leaf) (hdistinct : left.IsDistinct)
      (h : left.Perm right) : Reordered place (.dict left) (.dict right)
  | extra {place : Place} {entries : Entries} {key v : Value} (hopen : place.isOpen = true)
      (hkey : ∀ name ∈ place.names, key ≠ .str name) :
      Reordered place (.dict entries) (.dict (entries ++ [(key, v)]))
  | entry {place : Place} {before after : Entries} {name : String} {v w : Value}
      (h : Reordered (place.under (before ++ (.str name, v) :: after) name) v w) :
      Reordered place (.dict (before ++ (.str name, v) :: after)) (.dict (before ++ (.str name, w) :: after))
  | element {place : Place} {before after : List Value} {x y : Value} (h : Reordered place.element x y) :
      Reordered place (.list (before ++ x :: after)) (.list (before ++ y :: after))

/-! ### What is read at a place -/

namespace Place

/-- The outcomes of reading at a place. -/
def Result : Place → Type
  | root => Read Settings
  | log => Read LogSettings
  | output => Read OutputSettings
  | queries => Read (List Document)
  | document => KeyPath → Read Document
  | items => KeyPath → Read (List Item)
  | item => KeyPath → Read Item
  | clauses => KeyPath → Read Clauses
  | leaf => Value

/-- What is read from a value at a place. -/
def read : (place : Place) → Value → place.Result
  | root, .dict entries => settings entries
  | root, _ => .error .rootNotMapping
  | log, v => logSettings [(.str "log", v)]
  | output, v => outputSettings [(.str "output", v)]
  | queries, v => documents [(.str "queries", v)]
  | document, v => Config.document v
  | items, v => Config.items v
  | item, v => Config.item v
  | clauses, v => Config.clauses v
  | leaf, v => v

/-- Both are absent, or the same is read from both. -/
def Alike (place : Place) (found other : Option Value) : Prop := found.map place.read = other.map place.read

theorem Alike.cases {place : Place} {found other : Option Value} (h : place.Alike found other) :
    (found = none ∧ other = none) ∨ ∃ v w, found = some v ∧ other = some w ∧ place.read v = place.read w := by
  cases found with
  | none => exact .inl ⟨rfl, Option.map_eq_none_iff.1 h.symm⟩
  | some v =>
    obtain ⟨w, hw, hread⟩ := Option.map_eq_some_iff.1 h.symm
    exact .inr ⟨v, w, rfl, hw, hread.symm⟩

theorem alike_leaf {found other : Option Value} : leaf.Alike found other ↔ found = other := by
  show found.map id = other.map id ↔ found = other
  rw [Option.map_id_fun, id, id]

/-- Mappings at a place from which the same is read below every name, and that have the same keys where all keys
count. -/
structure EntriesAlike (place : Place) (left right : Entries) : Prop where
  found : ∀ name ∈ place.names, (place.under left name).Alike (left.find? name) (right.find? name)
  keys : place.isOpen = false → left.keys.Perm right.keys

variable {left right : Entries}

theorem EntriesAlike.find?_eq {place : Place} (h : place.EntriesAlike left right) {name : String}
    (hname : name ∈ place.names) (hleaf : place.under left name = leaf) : left.find? name = right.find? name := by
  have hfound := h.found name hname
  rw [hleaf] at hfound
  exact alike_leaf.1 hfound

/-! ### One mapping -/

theorem logSettings_eq (entries : Entries) :
    logSettings entries = ((entries.find? "log").map log.read).getD (logSettings []) := by
  cases hfound : entries.find? "log" with
  | none => simp only [logSettings, getSection, optionalSection, hfound]; rfl
  | some v =>
    show _ = logSettings [(.str "log", v)]
    simp only [logSettings, getSection, optionalSection, hfound, Entries.find?_cons_self]

theorem outputSettings_eq (entries : Entries) :
    outputSettings entries = ((entries.find? "output").map output.read).getD (outputSettings []) := by
  cases hfound : entries.find? "output" with
  | none => simp only [outputSettings, getSection, optionalSection, hfound]; rfl
  | some v =>
    show _ = outputSettings [(.str "output", v)]
    simp only [outputSettings, getSection, optionalSection, hfound, Entries.find?_cons_self]

theorem documents_eq (entries : Entries) :
    documents entries = ((entries.find? "queries").map queries.read).getD (documents []) := by
  cases hfound : entries.find? "queries" with
  | none => simp only [documents, valueOrNull, hfound]; rfl
  | some v =>
    show _ = documents [(.str "queries", v)]
    simp only [documents, valueOrNull, hfound, Entries.find?_cons_self]

theorem read_root_congr (h : root.EntriesAlike left right) : root.read (.dict left) = root.read (.dict right) := by
  have hlog : log.Alike _ _ := h.found "log" (by decide)
  have houtput : output.Alike _ _ := h.found "output" (by decide)
  have hqueries : queries.Alike _ _ := h.found "queries" (by decide)
  unfold Alike at hlog houtput hqueries
  show settings left = settings right
  unfold settings
  rw [logSettings_eq left, hlog, ← logSettings_eq right, outputSettings_eq left, houtput, ← outputSettings_eq right,
    documents_eq left, hqueries, ← documents_eq right]

theorem read_log_congr (h : log.EntriesAlike left right) : log.read (.dict left) = log.read (.dict right) := by
  have hsection (entries : Entries) : getSection [(.str "log", .dict entries)] "log" false = pure entries := rfl
  have hlevel : left.find? "level" = right.find? "level" := h.find?_eq (by decide) rfl
  have hfile : left.find? "to_file" = right.find? "to_file" := h.find?_eq (by decide) rfl
  have hdirectory : left.find? "dir" = right.find? "dir" := h.find?_eq (by decide) rfl
  show logSettings [(.str "log", .dict left)] = logSettings [(.str "log", .dict right)]
  simp only [logSettings, valueOr, hsection, pure_bind, hlevel, hfile, hdirectory]

theorem read_output_congr (h : output.EntriesAlike left right) :
    output.read (.dict left) = output.read (.dict right) := by
  have hsection (entries : Entries) : getSection [(.str "output", .dict entries)] "output" false = pure entries :=
    rfl
  have hformat : left.find? "format" = right.find? "format" := h.find?_eq (by decide) rfl
  have hpath : left.find? "path" = right.find? "path" := h.find?_eq (by decide) rfl
  show outputSettings [(.str "output", .dict left)] = outputSettings [(.str "output", .dict right)]
  simp only [outputSettings, valueOr, valueOrNull, hsection, pure_bind, hformat, hpath]

theorem readClauses_congr (h : ∀ clause : Clause, items.Alike (left.find? clause.name) (right.find? clause.name))
    (key : KeyPath) : readClauses (readingsOf left) key = readClauses (readingsOf right) key := by
  have hitems (clause : Clause) (key : KeyPath) :
      readItems? key (left.find? clause.name) = readItems? key (right.find? clause.name) := by
    have hread (found : Option Value) :
        readItems? key found = ((found.map items.read).map fun f => f key).getD (pure []) := by
      cases found <;> rfl
    rw [hread, hread, h clause]
  simp only [readClauses, readClause_readingsOf, hitems]

theorem read_document_congr (h : document.EntriesAlike left right) :
    document.read (.dict left) = document.read (.dict right) := by
  funext key
  have hunknown := unknownNames_of_perm documentKeys (h.keys rfl)
  have hindex : left.find? "index" = right.find? "index" := h.find?_eq (by decide) rfl
  have hsort : left.find? "sort" = right.find? "sort" := h.find?_eq (by decide) rfl
  have hsize : left.find? "size" = right.find? "size" := h.find?_eq (by decide) rfl
  have hstart : left.find? "from" = right.find? "from" := h.find?_eq (by decide) rfl
  have hafter : left.find? "search_after" = right.find? "search_after" := h.find?_eq (by decide) rfl
  have hitems (clause : Clause) : items.Alike (left.find? clause.name) (right.find? clause.name) := by
    have hfound := h.found clause.name (by cases clause <;> decide)
    rwa [under, if_pos (by cases clause <;> decide)] at hfound
  have hclauses := readClauses_congr hitems key
  have hmapping (entries : Entries) : expectMapping key (.dict entries) = pure entries := rfl
  show Config.document (.dict left) key = Config.document (.dict right) key
  simp only [Config.document, hmapping, pure_bind, require, valueOrNull, hunknown, hindex, hsort, hsize, hstart,
    hafter, hclauses]

theorem read_clauses_congr (h : clauses.EntriesAlike left right) :
    clauses.read (.dict left) = clauses.read (.dict right) := by
  funext key
  have hunknown := unknownNames_of_perm clauseNames (h.keys rfl)
  have hitems (clause : Clause) : items.Alike (left.find? clause.name) (right.find? clause.name) := by
    have hfound := h.found clause.name (by cases clause <;> decide)
    rwa [under, if_pos (by cases clause <;> decide)] at hfound
  have hclauses := readClauses_congr hitems key
  show Config.clauses (.dict left) key = Config.clauses (.dict right) key
  rw [Config.clauses, Config.clauses, hunknown, hclauses]

theorem selectsClauses_iff {found : Option Value} :
    selectsClauses found = true ↔ Selects found .nested ∨ Selects found .bool := by
  cases found with
  | none => simp [selectsClauses, Selects]
  | some v => cases v <;> simp [selectsClauses, Selects]

theorem holdsClauses_eq_selectsClauses {found : Option Value} {kind : Kind} (h : ReadsKind found kind) :
    holdsClauses kind = selectsClauses found := by
  rw [Bool.eq_iff_iff, h.holdsClauses_iff, selectsClauses_iff]

theorem itemOfKind_congr (h : item.EntriesAlike left right) {kind : Kind}
    (hkind : ReadsKind (left.find? "type") kind) (key : KeyPath) (field : String) :
    itemOfKind left key field kind = itemOfKind right key field kind := by
  have hvalue := h.found "value" (by decide)
  by_cases hholds : holdsClauses kind = true
  · have hunder : item.under left "value" = clauses := by
      rw [holdsClauses_eq_selectsClauses hkind] at hholds
      rw [under, if_neg (by decide), if_pos ⟨rfl, hholds⟩]
    rw [hunder] at hvalue
    unfold itemOfKind require
    rcases hvalue.cases with ⟨hleft, hright⟩ | ⟨v, w, hleft, hright, hread⟩
    · rw [hleft, hright]
    · have hclauses : Config.clauses v = Config.clauses w := hread
      rw [hleft, hright]
      show (if _ then _ else _) = (if _ then _ else _)
      rw [if_pos hholds, if_pos hholds, hclauses]
  · have hunder : item.under left "value" = leaf := by
      rw [holdsClauses_eq_selectsClauses hkind] at hholds
      rw [under, if_neg (by decide), if_neg fun h => hholds h.2]
    rw [itemOfKind, itemOfKind, require, require, h.find?_eq (by decide) hunder]

theorem read_item_congr (h : item.EntriesAlike left right) : item.read (.dict left) = item.read (.dict right) := by
  funext key
  have hunknown := unknownNames_of_perm itemKeys (h.keys rfl)
  have hlength : left.length = right.length := by simpa [Entries.keys] using (h.keys rfl).length_eq
  have hblock : clauses.Alike (left.find? "bool") (right.find? "bool") := h.found "bool" (by decide)
  have hfield : left.find? "field" = right.find? "field" := h.find?_eq (by decide) rfl
  have htype : left.find? "type" = right.find? "type" := h.find?_eq (by decide) rfl
  show Config.item (.dict left) key = Config.item (.dict right) key
  rw [item_dict, item_dict]
  rcases hblock.cases with ⟨hleft, hright⟩ | ⟨v, w, hleft, hright, hread⟩
  · have hleft : left.find? Operator.bool.key = none := hleft
    have hright : right.find? Operator.bool.key = none := hright
    simp only [hleft, hright, readLeaf_readingsOf, hunknown, require, hfield, ← htype]
    refine Outcome.bind_congr fun _ _ => Outcome.bind_congr fun _ _ => Outcome.bind_congr fun field _ =>
      Outcome.bind_congr fun kind hkind => ?_
    exact itemOfKind_congr h (readKind?_eq_ok.1 hkind) key field
  · have hleft : left.find? Operator.bool.key = some v := hleft
    have hright : right.find? Operator.bool.key = some w := hright
    have hclauses : Config.clauses v = Config.clauses w := hread
    simp only [hleft, hright, hlength, hclauses]

theorem read_dict_congr {place : Place} (hplace : place ≠ leaf) (h : place.EntriesAlike left right) :
    place.read (.dict left) = place.read (.dict right) := by
  cases place with
  | root => exact read_root_congr h
  | log => exact read_log_congr h
  | output => exact read_output_congr h
  | document => exact read_document_congr h
  | item => exact read_item_congr h
  | clauses => exact read_clauses_congr h
  | leaf => exact absurd rfl hplace
  | queries => rfl
  | items => rfl

/-! ### One list -/

theorem documentsFrom_congr {x y : Value} (h : Config.document x = Config.document y) (before after : List Value)
    (key : KeyPath) (n : Nat) :
    documentsFrom key (before ++ x :: after) n = documentsFrom key (before ++ y :: after) n := by
  induction before generalizing n with
  | nil => rw [List.nil_append, List.nil_append, documentsFrom, documentsFrom, h]
  | cons z before ih => rw [List.cons_append, List.cons_append, documentsFrom, documentsFrom, ih]

theorem itemsFrom_congr {x y : Value} (h : Config.item x = Config.item y) (before after : List Value)
    (key : KeyPath) (n : Nat) : itemsFrom (before ++ x :: after) key n = itemsFrom (before ++ y :: after) key n := by
  induction before generalizing n with
  | nil => rw [List.nil_append, List.nil_append, itemsFrom, itemsFrom, h]
  | cons z before ih => rw [List.cons_append, List.cons_append, itemsFrom, itemsFrom, ih]

theorem read_list_congr {place : Place} {x y : Value} (h : place.element.read x = place.element.read y)
    (before after : List Value) :
    place.read (.list (before ++ x :: after)) = place.read (.list (before ++ y :: after)) := by
  cases place with
  | queries => exact documentsFrom_congr h before after queriesKey 0
  | items =>
    funext key
    exact itemsFrom_congr h before after key 0
  | _ =>
    have heq : x = y := h
    rw [heq]

/-! ### One change -/

theorem entriesAlike_of_perm (place : Place) (hdistinct : left.IsDistinct) (h : left.Perm right) :
    place.EntriesAlike left right where
  found name _ := by rw [Alike, Entries.find?_of_perm hdistinct h name]
  keys _ := h.map _

theorem entriesAlike_extra {place : Place} (hopen : place.isOpen = true) (entries : Entries) {key : Value}
    (hkey : ∀ name ∈ place.names, key ≠ .str name) (v : Value) :
    place.EntriesAlike entries (entries ++ [(key, v)]) where
  found name hname := by
    rw [Entries.find?_append, Entries.find?_cons_of_ne (hkey name hname)]
    exact congrArg _ Option.or_none.symm
  keys hclosed := by
    rw [hopen] at hclosed
    cases hclosed

theorem entriesAlike_entry {place : Place} {before after : Entries} {name : String} {v w : Value}
    (h : (place.under (before ++ (.str name, v) :: after) name).read v =
      (place.under (before ++ (.str name, v) :: after) name).read w) :
    place.EntriesAlike (before ++ (.str name, v) :: after) (before ++ (.str name, w) :: after) where
  found other _ := by
    rw [Entries.find?_append, Entries.find?_append before]
    by_cases hname : name = other
    · subst hname
      cases before.find? name with
      | some u => rfl
      | none =>
        rw [Entries.find?_cons_self, Entries.find?_cons_self]
        exact congrArg some h
    · have hne : Value.str name ≠ .str other := fun heq => hname (Value.str.inj heq)
      rw [Entries.find?_cons_of_ne hne, Entries.find?_cons_of_ne hne, Alike]
  keys _ := by simp [Entries.keys]

end Place

/-! ### All changes -/

theorem Reordered.read_eq {place : Place} {v w : Value} (h : Reordered place v w) : place.read v = place.read w := by
  induction h with
  | refl place v => rfl
  | symm _ ih => exact ih.symm
  | trans _ _ ihuv ihvw => exact ihuv.trans ihvw
  | perm hplace hdistinct h => exact Place.read_dict_congr hplace (Place.entriesAlike_of_perm _ hdistinct h)
  | @extra place entries key v hopen hkey =>
    have hplace : place ≠ .leaf := by
      rintro rfl
      cases hopen
    exact Place.read_dict_congr hplace (Place.entriesAlike_extra hopen entries hkey v)
  | @entry place before after name v w _ ih =>
    by_cases hplace : place = .leaf
    · subst hplace
      have heq : v = w := ih
      rw [heq]
    · exact Place.read_dict_congr hplace (Place.entriesAlike_entry ih)
  | element _ ih => exact Place.read_list_congr ih _ _

theorem Reordered.swap {place : Place} (hplace : place ≠ .leaf) {name other : String} (hne : name ≠ other)
    (v w : Value) :
    Reordered place (.dict [(.str name, v), (.str other, w)]) (.dict [(.str other, w), (.str name, v)]) := by
  have hnames : [name, other].Nodup := by simpa using hne
  exact .perm hplace (Entries.isDistinct_of_names rfl hnames) (.swap _ _ _)

/-- **The order of entries and the entries that nobody reads make no difference**: the settings are the same, or
the error is, and so is the text of the work on the documents. -/
theorem settings_of_reordered {left right : Entries} (h : Reordered .root (.dict left) (.dict right)) :
    settings left = settings right ∧
      ∀ work : Command.Work, (fun s : Settings => work.text s.documents) <$> settings left =
        (fun s : Settings => work.text s.documents) <$> settings right := by
  have heq : settings left = settings right := h.read_eq
  exact ⟨heq, fun work => by rw [heq]⟩

/-- A nested query whose clauses, document and root stand in another order, with more beside them: around an item
that is read, and around one with a key that nobody knows, a type that is no operator, and no field. -/
theorem settings_of_reordered_nested :
    let nested (value : Value) : Value :=
      .dict [(.str "field", .str "x"), (.str "type", .str " Nested"), (.str "value", value)]
    let left (deep : Entries) : Entries :=
      [(.str "log", .dict []), (.str "queries", .list [.dict [(.str "index", .str "i"), (.str "must",
        .list [nested (.dict [(.str "filter", .null), (.str "should", .list [.dict deep])])])]])]
    let right (deep : Entries) : Entries :=
      [(.str "queries", .list [.dict [(.str "must",
        .list [nested (.dict [(.str "should", .list [.dict deep]), (.str "filter", .null)])]),
        (.str "index", .str "i")]]), (.str "log", .dict [(.str "color", .bool true)])]
    let key : KeyPath :=
      ⟨"queries", [.index 0, .member "must", .index 0, .member "value", .member "should", .index 0]⟩
    (∃ s, settings (left [(.str "field", .str "f"), (.str "value", .int 1)]) = .ok s ∧
        settings (right [(.str "value", .int 1), (.str "field", .str "f")]) = .ok s) ∧
      settings (left [(.str "a", .null), (.str "type", .str "no")]) = .error (.unknownKeys key ["a"]) ∧
      settings (right [(.str "type", .str "no"), (.str "a", .null)]) = .error (.unknownKeys key ["a"]) := by
  intro nested left right key
  have htype : selectsClauses (some (.str " Nested")) = true := by decide +kernel
  have hreordered {name other : String} (hne : name ≠ other) (v w : Value) : Reordered .root
      (.dict (left [(.str name, v), (.str other, w)])) (.dict (right [(.str other, w), (.str name, v)])) := by
    have hclauses := Reordered.trans
      (@Reordered.entry .clauses [(.str "filter", .null)] [] "should" _ _
        (@Reordered.element .items [] [] _ _ (.swap (by decide) hne v w)))
      (.swap (by decide) (by decide) _ _)
    have hnested (v w : Value) (h : Reordered .clauses v w) : Reordered .item (nested v) (nested w) := by
      refine @Reordered.entry .item [(.str "field", .str "x"), (.str "type", .str " Nested")] [] "value" v w ?_
      rw [Place.under, if_neg (by decide), if_pos ⟨rfl, htype⟩]
      exact h
    have hdocument := Reordered.trans
      (@Reordered.entry .document [(.str "index", .str "i")] [] "must" _ _
        (@Reordered.element .items [] [] _ _ (hnested _ _ hclauses)))
      (.swap (by decide) (by decide) _ _)
    have hlog : Reordered .log (.dict []) (.dict [(.str "color", .bool true)]) :=
      .extra rfl (by simp [Place.names])
    exact .trans (@Reordered.entry .root [] _ "log" _ _ hlog)
      (.trans (@Reordered.entry .root [_] [] "queries" _ _ (@Reordered.element .queries [] [] _ _ hdocument))
        (.swap (by decide) (by decide) _ _))
  have hread : ("field" : String) ≠ "value" := by decide
  have hunknown : ("a" : String) ≠ "type" := by decide
  constructor
  · have heq := (settings_of_reordered (hreordered hread (.str "f") (.int 1))).1
    have hok : (settings (left [(.str "field", .str "f"), (.str "value", .int 1)])).toOption.isSome = true := by
      decide +kernel
    obtain ⟨s, hs⟩ := Outcome.exists_ok_of_isSome hok
    exact ⟨s, hs, heq ▸ hs⟩
  · have heq := (settings_of_reordered (hreordered hunknown .null (.str "no"))).1
    have herror :
        settings (left [(.str "a", .null), (.str "type", .str "no")]) = .error (.unknownKeys key ["a"]) := by
      rw [← Outcome.fault?_eq_some_iff]
      decide +kernel
    exact ⟨herror, heq ▸ herror⟩

end Config

end SearchRequest
