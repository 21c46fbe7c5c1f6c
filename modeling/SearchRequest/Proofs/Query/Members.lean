import SearchRequest.Proofs.Query.Batch
import SearchRequest.Proofs.Query.Held

/-!
# Member names

When the objects of a rendered document have no two members of one name. The keys of a mapping are no two the same,
but a key that is no text is named by the text of its value, so `1` and the text `"1"` are two keys and one name.
`Document.render_hasDistinctNames_iff`: names are distinct exactly if no mapping that the document holds has two such
keys, and text keys are enough for that.
-/

namespace SearchRequest

/-- No object of the tree has two members of one name. -/
inductive Json.HasDistinctNames : Json → Prop where
  | null : HasDistinctNames .null
  | bool (b : Bool) : HasDistinctNames (.bool b)
  | number (token : List Char) : HasDistinctNames (.number token)
  | str (s : List Char) : HasDistinctNames (.str s)
  | array {xs : List Json} (h : ∀ x ∈ xs, HasDistinctNames x) : HasDistinctNames (.array xs)
  | object {members : List (List Char × Json)} (hnames : (members.map (·.1)).Nodup)
      (h : ∀ m ∈ members, HasDistinctNames m.2) : HasDistinctNames (.object members)

/-- The two keys give their members one name. -/
def Value.SameName (k l : Value) : Prop := ∃ name, k.Names name ∧ l.Names name

/-- No two keys give their members one name. -/
def Entries.Unambiguous (entries : Entries) : Prop := entries.keys.Pairwise fun k l => ¬k.SameName l

/-! ### Names -/

theorem Value.Names.unique {k : Value} {name other : List Char} (h : k.Names name) (h' : k.Names other) :
    name = other := by
  have heq := (Json.memberName_eq_ok_iff.2 h).symm.trans (Json.memberName_eq_ok_iff.2 h')
  exact Except.ok.inj heq

theorem Value.sameName_iff {k l : Value} {name : List Char} (h : k.Names name) : k.SameName l ↔ l.Names name := by
  constructor
  · rintro ⟨other, hk, hl⟩
    rw [h.unique hk]
    exact hl
  · exact fun hl => ⟨name, h, hl⟩

theorem mem_names_iff {keys : List Value} {names : List (List Char)} (h : List.Forall₂ Value.Names keys names)
    {name : List Char} : name ∈ names ↔ ∃ l ∈ keys, l.Names name := by
  induction h with
  | nil => simp
  | @cons l other keys names hl _ ih =>
    have hfirst : name = other ↔ l.Names name := by
      constructor
      · rintro rfl
        exact hl
      · exact fun h => h.unique hl
    rw [List.mem_cons, List.exists_mem_cons_iff, hfirst, ih]

theorem nodup_names_iff {keys : List Value} {names : List (List Char)} (h : List.Forall₂ Value.Names keys names) :
    names.Nodup ↔ keys.Pairwise fun k l => ¬k.SameName l := by
  induction h with
  | nil => simp
  | @cons k name keys names hk hrest ih =>
    have hnew : name ∉ names ↔ ∀ l ∈ keys, ¬k.SameName l := by
      simp only [mem_names_iff hrest, Value.sameName_iff hk, not_exists, not_and]
    rw [List.nodup_cons, List.pairwise_cons, hnew, ih]

theorem Entries.IsNamed.unambiguous {entries : Entries} (h : entries.IsNamed) : entries.Unambiguous := by
  obtain ⟨names, hnodup, hkeys⟩ := h
  rw [Entries.Unambiguous, hkeys, List.pairwise_map]
  refine List.Pairwise.imp (fun {s t} hne hsame => ?_) hnodup
  rw [Value.sameName_iff (.str s)] at hsame
  exact hne (String.toList_injective (hsame.unique (.str t)))

/-! ### Trees -/

namespace Json

theorem hasDistinctNames_array_iff {xs : List Json} :
    (array xs).HasDistinctNames ↔ ∀ x ∈ xs, x.HasDistinctNames := by
  constructor
  · intro h
    cases h with
    | array h => exact h
  · exact .array

theorem hasDistinctNames_object_iff {members : List (List Char × Json)} :
    (object members).HasDistinctNames ↔
      (members.map (·.1)).Nodup ∧ ∀ m ∈ members, m.2.HasDistinctNames := by
  constructor
  · intro h
    cases h with
    | object hnames h => exact ⟨hnames, h⟩
  · exact fun h => .object h.1 h.2

end Json

namespace Value

theorem HaveMembers.names {entries : Entries} {members : List (List Char × Json)}
    (h : HaveMembers entries members) : List.Forall₂ Names entries.keys (members.map (·.1)) := by
  rw [Entries.keys, List.forall₂_map_left_iff, List.forall₂_map_right_iff]
  exact (haveMembers_iff.1 h).imp fun _ _ hentry => hentry.1

mutual

theorem HasTree.hasDistinctNames_iff : ∀ {v : Value} {tree : Json}, v.HasTree tree →
    (tree.HasDistinctNames ↔ v.Everywhere Entries.Unambiguous)
  | _, _, .null => iff_of_true .null nofun
  | _, _, .bool b => iff_of_true (.bool b) nofun
  | _, _, .int n => iff_of_true (.number _) nofun
  | _, _, .float h => iff_of_true (.number _) nofun
  | _, _, .str s => iff_of_true (.str _) nofun
  | _, _, .list h => by
    rw [Json.hasDistinctNames_array_iff, everywhere_list_iff, h.hasDistinctNames_iff]
  | _, _, .tuple h => by
    rw [Json.hasDistinctNames_array_iff, everywhere_tuple_iff, h.hasDistinctNames_iff]
  | _, _, .dict h => by
    rw [Json.hasDistinctNames_object_iff, everywhere_dict_iff, nodup_names_iff h.names, h.hasDistinctNames_iff,
      Entries.Unambiguous, Entries.keys]

theorem HaveTrees.hasDistinctNames_iff : ∀ {xs : List Value} {trees : List Json}, HaveTrees xs trees →
    ((∀ tree ∈ trees, tree.HasDistinctNames) ↔ ∀ x ∈ xs, x.Everywhere Entries.Unambiguous)
  | _, _, .nil => iff_of_true nofun nofun
  | _, _, .cons hx hxs => by
    rw [List.forall_mem_cons, List.forall_mem_cons, hx.hasDistinctNames_iff, hxs.hasDistinctNames_iff]

theorem HaveMembers.hasDistinctNames_iff : ∀ {entries : List (Value × Value)} {members : List (List Char × Json)},
    HaveMembers entries members →
      ((∀ m ∈ members, m.2.HasDistinctNames) ↔ ∀ entry ∈ entries, entry.2.Everywhere Entries.Unambiguous)
  | _, _, .nil => iff_of_true nofun nofun
  | _, _, .cons _ hv hentries => by
    rw [List.forall_mem_cons, List.forall_mem_cons, hv.hasDistinctNames_iff, hentries.hasDistinctNames_iff]

end

end Value

/-! ### Documents -/

namespace Document

theorem Sends.hasDistinctNames_iff {doc : Document} {request : String × Json} (h : doc.Sends request) :
    request.2.HasDistinctNames ↔ ∀ v, doc.Holds v → v.Everywhere Entries.Unambiguous := by
  obtain ⟨-, b, hbody, htree⟩ := h
  rw [htree.hasDistinctNames_iff]
  exact body_iff_of_composed (Value.composed_everywhere fun _ => Entries.IsNamed.unambiguous) hbody

/-- **The member names of a rendered document are distinct exactly if its mappings are unambiguous**, which they are
if all their keys are texts. -/
theorem render_hasDistinctNames_iff {doc : Document} {text : String} (h : doc.render = .ok text) :
    ∃ tree, Json.parse? text.toList = some tree ∧
      (tree.HasDistinctNames ↔ ∀ v, doc.Holds v → v.Everywhere Entries.Unambiguous) ∧
      ((∀ v, doc.Holds v → v.Everywhere Entries.IsNamed) → tree.HasDistinctNames) := by
  obtain ⟨tree, hsends, rfl⟩ := render_eq_ok_iff.1 h
  refine ⟨tree, ?_, hsends.hasDistinctNames_iff, fun hnamed => ?_⟩
  · rw [String.toList_ofList]
    exact Json.parse?_render hsends.proper
  · exact hsends.hasDistinctNames_iff.2 fun v hv => (hnamed v hv).mono fun _ => Entries.IsNamed.unambiguous

/-- A number and a text as keys that give two names. -/
theorem hasDistinctNames_of_number_and_text :
    let entries : Entries := [(.int 1, .str "a"), (.str "one", .str "b")]
    let doc : Document := ⟨"i", .single .must [.mk "f" (.dict entries) (.operator .matches)], [], .null, .null, []⟩
    let text := "\x7b\"query\":\x7b\"bool\":\x7b\"must\":[\x7b\"match\":\x7b\"f\":\x7b\"1\":\"a\"," ++
      "\"one\":\"b\"\x7d\x7d\x7d]\x7d\x7d\x7d"
    doc.render = .ok text ∧ ∃ tree, Json.parse? text.toList = some tree ∧ tree.HasDistinctNames := by
  intro entries doc text
  have hrender : doc.render = .ok text := rfl
  have hentries : entries.Unambiguous := by
    show List.Pairwise _ [Value.int 1, .str "one"]
    rw [List.pairwise_pair, Value.sameName_iff (.int 1)]
    exact fun hname => absurd (hname.unique (.str "one")) (by decide)
  obtain ⟨tree, hread, hnames, -⟩ := render_hasDistinctNames_iff hrender
  refine ⟨hrender, tree, hread, hnames.2 fun v hv => ?_⟩
  cases hv with
  | item hi _ =>
    cases List.mem_singleton.1 hi
    refine Value.everywhere_dict_iff.2 ⟨hentries, ?_⟩
    rw [List.forall_mem_cons, List.forall_mem_singleton]
    exact ⟨nofun, nofun⟩
  | size => exact nofun
  | start => exact nofun
  | after hx => cases hx

/-- A number and a text as keys that are not the same but give one name. -/
theorem not_hasDistinctNames_of_number_and_text :
    let entries : Entries := [(.int 1, .str "a"), (.str "1", .str "b")]
    let doc : Document := ⟨"i", .single .must [.mk "f" (.dict entries) (.operator .matches)], [], .null, .null, []⟩
    let text := "\x7b\"query\":\x7b\"bool\":\x7b\"must\":[\x7b\"match\":\x7b\"f\":\x7b\"1\":\"a\"," ++
      "\"1\":\"b\"\x7d\x7d\x7d]\x7d\x7d\x7d"
    entries.IsDistinct ∧ doc.render = .ok text ∧
      ∃ tree, Json.parse? text.toList = some tree ∧ ¬tree.HasDistinctNames := by
  intro entries doc text
  have hrender : doc.render = .ok text := rfl
  obtain ⟨tree, hsends, htext⟩ := render_eq_ok_iff.1 hrender
  refine ⟨by decide, hrender, tree, ?_, fun hnames => ?_⟩
  · rw [← htext, String.toList_ofList]
    exact Json.parse?_render hsends.proper
  · have hvalue := hsends.hasDistinctNames_iff.1 hnames _
      (@Holds.item doc (.mk "f" (.dict entries) (.operator .matches)) List.mem_cons_self
        (by simp [Item.IsHolder, Item.kind, Kind.operator?]))
    have hkeys : ¬(Value.int 1).SameName (.str "1") :=
      List.pairwise_pair.1 (Value.everywhere_dict_iff.1 hvalue).1
    exact hkeys ⟨['1'], .int 1, .str "1"⟩

end Document

end SearchRequest
