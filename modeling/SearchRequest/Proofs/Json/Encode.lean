import Mathlib.Data.List.Forall2
import SearchRequest.Proofs.Json.Reader
import SearchRequest.Proofs.Outcome

/-!
# The tree of a value

`Value.HasTree` says which tree a value has in JSON, part by part and without a word about text: sequences of
both kinds are arrays, an entry is a member in its place, and a key that is no text is named by the text that
its value would have. Encoding finds that tree and fails where there is none (`ofValue_eq_ok_iff`), and the
text of the tree reads back as it.
-/

namespace SearchRequest

namespace Value

/-- The name that a key gives its member. -/
inductive Names : Value → List Char → Prop where
  | str (s : String) : Names (.str s) s.toList
  | null : Names .null ['n', 'u', 'l', 'l']
  | true : Names (.bool true) ['t', 'r', 'u', 'e']
  | false : Names (.bool false) ['f', 'a', 'l', 's', 'e']
  | int (n : Int) : Names (.int n) (toString n).toList
  | float {x : Binary64} (h : x.isFinite = true) : Names (.float x) x.written

mutual

/-- The tree that a value has. -/
inductive HasTree : Value → Json → Prop where
  | null : HasTree .null .null
  | bool (b : Bool) : HasTree (.bool b) (.bool b)
  | int (n : Int) : HasTree (.int n) (.number (toString n).toList)
  | float {x : Binary64} (h : x.isFinite = true) : HasTree (.float x) (.number x.written)
  | str (s : String) : HasTree (.str s) (.str s.toList)
  | list {xs : List Value} {trees : List Json} (h : HaveTrees xs trees) : HasTree (.list xs) (.array trees)
  | tuple {xs : List Value} {trees : List Json} (h : HaveTrees xs trees) : HasTree (.tuple xs) (.array trees)
  | dict {entries : Entries} {members : List (List Char × Json)} (h : HaveMembers entries members) :
      HasTree (.dict entries) (.object members)

/-- The trees that values have, one by one. -/
inductive HaveTrees : List Value → List Json → Prop where
  | nil : HaveTrees [] []
  | cons {x : Value} {tree : Json} {xs : List Value} {trees : List Json} (hx : HasTree x tree)
      (hxs : HaveTrees xs trees) : HaveTrees (x :: xs) (tree :: trees)

/-- The members that entries have, one by one. -/
inductive HaveMembers : List (Value × Value) → List (List Char × Json) → Prop where
  | nil : HaveMembers [] []
  | cons {k v : Value} {name : List Char} {tree : Json} {entries : List (Value × Value)}
      {members : List (List Char × Json)} (hk : Names k name) (hv : HasTree v tree)
      (hentries : HaveMembers entries members) : HaveMembers ((k, v) :: entries) ((name, tree) :: members)

end

theorem haveTrees_iff {xs : List Value} {trees : List Json} :
    HaveTrees xs trees ↔ List.Forall₂ HasTree xs trees := by
  constructor
  · intro h
    induction xs generalizing trees with
    | nil =>
      cases h
      exact .nil
    | cons x xs ih =>
      cases h with
      | cons hx hxs => exact .cons hx (ih hxs)
  · intro h
    induction h with
    | nil => exact .nil
    | cons hx _ ih => exact .cons hx ih

theorem haveMembers_iff {entries : Entries} {members : List (List Char × Json)} :
    HaveMembers entries members ↔
      List.Forall₂ (fun entry m => entry.1.Names m.1 ∧ entry.2.HasTree m.2) entries members := by
  constructor
  · intro h
    induction entries generalizing members with
    | nil =>
      cases h
      exact .nil
    | cons entry entries ih =>
      cases h with
      | cons hk hv hentries => exact .cons ⟨hk, hv⟩ (ih hentries)
  · intro h
    induction h with
    | nil => exact .nil
    | cons hentry _ ih => exact .cons hentry.1 hentry.2 ih

end Value

namespace Json

/-! ### Encoding finds the tree -/

theorem intToken_eq (n : Int) : intToken n = (toString n).toList := by
  cases n with
  | ofNat n => exact Nat.toList_repr.symm
  | negSucc n =>
    show _ = ("-" ++ Nat.repr (n + 1)).toList
    rw [String.toList_append, Nat.toList_repr]
    rfl

theorem floatToken_eq_ok_iff {x : Binary64} {token : List Char} :
    floatToken x = .ok token ↔ x.isFinite = true ∧ x.written = token := by
  rw [floatToken]
  split
  next h => simp [h]
  next h => simp [h]

theorem memberName_eq_ok_iff {k : Value} {name : List Char} : memberName k = .ok name ↔ k.Names name := by
  constructor
  · intro h
    cases k with
    | str s =>
      cases h
      exact .str s
    | null =>
      cases h
      exact .null
    | bool b =>
      cases b
      · cases h
        exact .false
      · cases h
        exact .true
    | int n =>
      cases h
      rw [intToken_eq]
      exact .int n
    | float x =>
      obtain ⟨hfinite, rfl⟩ := floatToken_eq_ok_iff.1 h
      exact .float hfinite
    | _ => cases h
  · intro h
    cases h with
    | int n => rw [memberName, intToken_eq]
    | float h => exact floatToken_eq_ok_iff.2 ⟨h, rfl⟩
    | _ => rfl

mutual

theorem hasTree_of_ofValue : ∀ {v : Value} {tree : Json}, ofValue v = .ok tree → v.HasTree tree
  | .null, _, h => by
    rw [ofValue] at h
    cases h
    exact .null
  | .bool b, _, h => by
    rw [ofValue] at h
    cases h
    exact .bool b
  | .int n, _, h => by
    rw [ofValue] at h
    cases h
    rw [intToken_eq]
    exact .int n
  | .float x, _, h => by
    rw [ofValue, Outcome.bind_eq_ok] at h
    obtain ⟨token, htoken, hpure⟩ := h
    cases hpure
    obtain ⟨hfinite, rfl⟩ := floatToken_eq_ok_iff.1 htoken
    exact .float hfinite
  | .str s, _, h => by
    rw [ofValue] at h
    cases h
    exact .str s
  | .list xs, _, h => by
    rw [ofValue, Outcome.bind_eq_ok] at h
    obtain ⟨trees, htrees, hpure⟩ := h
    cases hpure
    exact .list (haveTrees_of_ofValues htrees)
  | .tuple xs, _, h => by
    rw [ofValue, Outcome.bind_eq_ok] at h
    obtain ⟨trees, htrees, hpure⟩ := h
    cases hpure
    exact .tuple (haveTrees_of_ofValues htrees)
  | .dict entries, _, h => by
    rw [ofValue, Outcome.bind_eq_ok] at h
    obtain ⟨members, hmembers, hpure⟩ := h
    cases hpure
    exact .dict (haveMembers_of_ofEntries hmembers)
  | .date _, _, h | .moment _, _, h | .bytes _, _, h | .set _, _, h | .clauses _, _, h
  | .enclosing, _, h => by
    simp only [ofValue, reduceCtorEq] at h

theorem haveTrees_of_ofValues : ∀ {xs : List Value} {trees : List Json}, ofValues xs = .ok trees →
    Value.HaveTrees xs trees
  | [], _, h => by
    rw [ofValues] at h
    cases h
    exact .nil
  | x :: xs, _, h => by
    simp only [ofValues, Outcome.bind_eq_ok, Outcome.pure_eq_ok] at h
    obtain ⟨tree, htree, trees, htrees, rfl⟩ := h
    exact .cons (hasTree_of_ofValue htree) (haveTrees_of_ofValues htrees)

theorem haveMembers_of_ofEntries : ∀ {entries : Entries} {members : List (List Char × Json)},
    ofEntries entries = .ok members → Value.HaveMembers entries members
  | [], _, h => by
    rw [ofEntries] at h
    cases h
    exact .nil
  | (k, v) :: entries, _, h => by
    simp only [ofEntries, Outcome.bind_eq_ok, Outcome.pure_eq_ok] at h
    obtain ⟨name, hname, tree, htree, members, hmembers, rfl⟩ := h
    exact .cons (memberName_eq_ok_iff.1 hname) (hasTree_of_ofValue htree) (haveMembers_of_ofEntries hmembers)

end

mutual

theorem ofValue_of_hasTree : ∀ {v : Value} {tree : Json}, v.HasTree tree → ofValue v = .ok tree
  | _, _, .null => by rw [ofValue]
  | _, _, .bool b => by rw [ofValue]
  | _, _, .int n => by rw [ofValue, intToken_eq]
  | _, _, .float h => by
    rw [ofValue, floatToken_eq_ok_iff.2 ⟨h, rfl⟩]
    rfl
  | _, _, .str s => by rw [ofValue]
  | _, _, .list h => by
    rw [ofValue, ofValues_of_haveTrees h]
    rfl
  | _, _, .tuple h => by
    rw [ofValue, ofValues_of_haveTrees h]
    rfl
  | _, _, .dict h => by
    rw [ofValue, ofEntries_of_haveMembers h]
    rfl

theorem ofValues_of_haveTrees : ∀ {xs : List Value} {trees : List Json}, Value.HaveTrees xs trees →
    ofValues xs = .ok trees
  | _, _, .nil => by rw [ofValues]
  | _, _, .cons hx hxs => by
    rw [ofValues, ofValue_of_hasTree hx, ofValues_of_haveTrees hxs]
    rfl

theorem ofEntries_of_haveMembers : ∀ {entries : Entries} {members : List (List Char × Json)},
    Value.HaveMembers entries members → ofEntries entries = .ok members
  | _, _, .nil => by rw [ofEntries]
  | _, _, .cons hk hv hentries => by
    rw [ofEntries, memberName_eq_ok_iff.2 hk, ofValue_of_hasTree hv, ofEntries_of_haveMembers hentries]
    rfl

end

theorem ofValue_eq_ok_iff {v : Value} {tree : Json} : ofValue v = .ok tree ↔ v.HasTree tree :=
  ⟨hasTree_of_ofValue, ofValue_of_hasTree⟩

end Json

namespace Value

theorem HasTree.unique {v : Value} {tree other : Json} (h : v.HasTree tree) (h' : v.HasTree other) :
    tree = other := by
  have heq := (Json.ofValue_of_hasTree h).symm.trans (Json.ofValue_of_hasTree h')
  cases heq
  rfl

mutual

theorem HasTree.proper : ∀ {v : Value} {tree : Json}, v.HasTree tree → tree.Proper
  | _, _, .null => .null
  | _, _, .bool b => .bool b
  | _, _, .int n => .number (Json.intToken_eq n ▸ Json.isNumber_intToken n)
  | _, _, .float h => .number (Json.isNumber_written h)
  | _, _, .str s => .str s.toList
  | _, _, .list h => .array h.proper
  | _, _, .tuple h => .array h.proper
  | _, _, .dict h => .object h.proper

theorem HaveTrees.proper : ∀ {xs : List Value} {trees : List Json}, HaveTrees xs trees →
    ∀ tree ∈ trees, tree.Proper
  | _, _, .nil, _, h => absurd h List.not_mem_nil
  | _, _, .cons hx hxs, tree, h => by
    rcases List.mem_cons.1 h with rfl | h
    · exact hx.proper
    · exact hxs.proper tree h

theorem HaveMembers.proper : ∀ {entries : List (Value × Value)} {members : List (List Char × Json)},
    HaveMembers entries members → ∀ m ∈ members, m.2.Proper
  | _, _, .nil, _, h => absurd h List.not_mem_nil
  | _, _, .cons _ hv hentries, m, h => by
    rcases List.mem_cons.1 h with rfl | h
    · exact hv.proper
    · exact hentries.proper m h

end

/-! ### Texts -/

theorem toJsonText_eq_ok_iff {v : Value} {text : String} :
    v.toJsonText = .ok text ↔ ∃ tree, v.HasTree tree ∧ String.ofList tree.render = text := by
  simp only [toJsonText, Outcome.bind_eq_ok, Outcome.pure_eq_ok, Json.ofValue_eq_ok_iff]

theorem HasTree.render_injective {v w : Value} {tree other : Json} (hv : v.HasTree tree)
    (hw : w.HasTree other) (h : tree.render = other.render) : tree = other := by
  have hread := Json.parse?_render hv.proper
  rw [h, Json.parse?_render hw.proper, Option.some.injEq] at hread
  exact hread.symm

end Value

/-- **The text of a value is one JSON document that holds the value.** Exactly the values that have a tree have
a text. The strict reader consumes the whole text and gives the one tree of the value, and the values with
that text are those with that tree. -/
theorem toJsonText_reads_back :
    (∀ v : Value, (∃ text, v.toJsonText = .ok text) ↔ ∃ tree, v.HasTree tree) ∧
    ∀ (v : Value) (text : String), v.toJsonText = .ok text →
      ∃ tree, (∀ other, v.HasTree other ↔ other = tree) ∧ Json.parse? text.toList = some tree ∧
        ∀ w : Value, w.toJsonText = .ok text ↔ w.HasTree tree := by
  refine ⟨fun v => ⟨?_, ?_⟩, fun v text h => ?_⟩
  · rintro ⟨text, h⟩
    obtain ⟨tree, htree, -⟩ := Value.toJsonText_eq_ok_iff.1 h
    exact ⟨tree, htree⟩
  · rintro ⟨tree, htree⟩
    exact ⟨_, Value.toJsonText_eq_ok_iff.2 ⟨tree, htree, rfl⟩⟩
  · obtain ⟨tree, htree, rfl⟩ := Value.toJsonText_eq_ok_iff.1 h
    refine ⟨tree, fun other => ⟨fun h => h.unique htree, fun h => h ▸ htree⟩, ?_,
      fun w => ⟨fun hw => ?_, fun hw => ?_⟩⟩
    · rw [String.toList_ofList]
      exact Json.parse?_render htree.proper
    · obtain ⟨other, hother, heq⟩ := Value.toJsonText_eq_ok_iff.1 hw
      rw [htree.render_injective hother (String.ofList_injective heq.symm)]
      exact hother
    · exact Value.toJsonText_eq_ok_iff.2 ⟨tree, hw, rfl⟩

/-- A value with characters of every kind of escape, keys that are no texts and two members of one name. -/
theorem toJsonText_reads_back_of_mixed_keys :
    let v : Value := .dict [(.float (.finite true 3 1073), .str "a\"\n\\\x01é"),
      (.int 1, .tuple [.null, .bool true]), (.str "1", .list []), (.null, .int (-20))]
    let text := "\x7b\"-1.5\":\"a\\\"\\n\\\\\\u0001é\",\"1\":[null,true],\"1\":[],\"null\":-20\x7d"
    v.toJsonText = .ok text ∧ ∃ tree, v.HasTree tree ∧ Json.parse? text.toList = some tree := by
  intro v text
  have hwritten : Binary64.written (.finite true 3 1073) = ['-', '1', '.', '5'] := by decide +kernel
  have htoken : Json.floatToken (.finite true 3 1073) = .ok ['-', '1', '.', '5'] :=
    Json.floatToken_eq_ok_iff.2 ⟨rfl, hwritten⟩
  have h : v.toJsonText = .ok text := by
    simp only [v, Value.toJsonText, Json.ofValue, Json.ofEntries, Json.memberName, htoken]
    rfl
  obtain ⟨tree, htree, hread, -⟩ := toJsonText_reads_back.2 v text h
  exact ⟨h, tree, (htree tree).2 rfl, hread⟩

end SearchRequest
