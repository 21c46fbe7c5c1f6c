import Mathlib.Data.List.DropRight
import SearchRequest.Config.Load
import SearchRequest.Proofs.Config.Grammar
import SearchRequest.Proofs.Query.Walk

/-!
# Settings that are accepted

What a configuration has in order once it is accepted (`Config.settings_wellFormed`): the settings are in range, the
documents are those of the list of queries, and every document is well formed, down to the last item that its
clauses lead to. Two faults are left to the rendering of such a document: a code that no operator has, and the
value of an item that is neither nested nor boolean.
-/

namespace SearchRequest

@[simp] theorem SourceError.ofConfig_eq_ok_iff {α : Type} {x : Config.Read α} {a : α} :
    ofConfig x = .ok a ↔ x = .ok a := by
  cases x <;> simp [ofConfig]

@[simp] theorem LoadError.ofSource_eq_ok_iff {α : Type} {x : Except SourceError α} {a : α} :
    ofSource x = .ok a ↔ x = .ok a := by
  cases x <;> simp [ofSource]

/-! ### Stripped text -/

namespace Text

theorem stripWhile_stripWhile (p : Char → Bool) (cs : List Char) :
    stripWhile p (stripWhile p cs) = stripWhile p cs := by
  have hstrip (cs : List Char) : stripWhile p cs = (cs.dropWhile p).rdropWhile p := rfl
  rw [hstrip, hstrip]
  -- what is left starts as the text without blanks in front, so there are none in front of it either
  have hfront : ((cs.dropWhile p).rdropWhile p).dropWhile p = (cs.dropWhile p).rdropWhile p := by
    rw [List.dropWhile_eq_self_iff]
    intro hlength
    have hinit : (cs.dropWhile p).rdropWhile p <+: cs.dropWhile p := List.rdropWhile_prefix p _
    rw [hinit.getElem hlength]
    exact List.dropWhile_get_zero_not p cs _
  rw [hfront, List.rdropWhile_idempotent]

@[simp] theorem strip_strip (s : String) : strip (strip s) = strip s := by
  rw [strip, strip, String.toList_ofList, stripChars, stripChars, stripWhile_stripWhile]

end Text

/-! ### Well-formed documents -/

namespace Item

/-- The kind is a whole number. A nested or boolean item holds clauses, and the value of any other is no list. -/
structure WellFormed (i : Item) : Prop where
  coded : ∃ n, i.kind.toValue = .int n
  holder : i.IsHolder → ∃ c, i.value = .clauses c
  leaf : ¬i.IsHolder → ∀ xs, i.value ≠ .list xs

/-- An item that the rendering of a well-formed document may still fail at, and the error: a code that no operator
has, or an item that is neither nested nor boolean with a value that its operator does not accept. -/
inductive MayFail (i : Item) : QueryError → Prop where
  | unknown {n : Int} (hkind : i.kind.toValue = .int n) (hnone : Operator.ofCode? n = none) :
      MayFail i (.unknownOperator (.int n))
  | unacceptable {op : Operator} (hkind : i.kind.operator? = some op) (hleaf : op ≠ .nested ∧ op ≠ .bool) :
      MayFail i (.unacceptable op i.field i.value)

theorem WellFormed.mayFail {i : Item} (h : i.WellFormed) {e : QueryError} (he : i.Faulty e) : i.MayFail e := by
  cases he with
  | @unknown field value kind hnone =>
    obtain ⟨n, hn⟩ := h.coded
    have hcode : Operator.ofCode? n = none := by
      rw [Option.eq_none_iff_forall_ne_some]
      intro op hop
      refine hnone op (hn.trans ?_)
      rw [Operator.code_of_ofCode? hop]
    rw [Item.kind] at hn
    rw [hn]
    exact .unknown hn hcode
  | @unacceptable field value kind op hop hshapes =>
    have hkind := Kind.operator?_eq_some_iff.2 hop
    refine .unacceptable hkind (not_or.1 fun hop => ?_)
    -- a nested or boolean item holds clauses, which its operator accepts
    have hholder : (Item.mk field value kind).IsHolder := by
      rcases hop with rfl | rfl
      · exact .inl hkind
      · exact .inr hkind
    obtain ⟨c, hc⟩ := h.holder hholder
    have hfits := Operator.fits_iff_shapes.1 (Operator.fits_clauses_iff (c := c).2 hop.symm)
    obtain ⟨shape, hmem, hshape⟩ := hfits
    rw [← hc] at hshape
    exact Bool.false_ne_true ((hshapes shape hmem).symm.trans hshape)

end Item

namespace Document

structure WellFormed (doc : Document) : Prop where
  index : doc.index ≠ "" ∧ Text.strip doc.index = doc.index
  sort : ∀ s ∈ doc.sort, s.order = "asc" ∨ s.order = "desc"
  size : doc.size = .null ∨ ∃ n, doc.size = .int n
  start : doc.start = .null ∨ ∃ n, doc.start = .int n
  items : ∀ i ∈ doc.clauses.walk, i.WellFormed

end Document

/-- The settings are in range, and so are the documents. -/
structure Settings.WellFormed (settings : Settings) : Prop where
  level : settings.log.level ∈ ["DEBUG", "INFO", "WARNING", "ERROR", "CRITICAL"]
  directory : Text.strip settings.log.directory ≠ ""
  format : settings.output.format = "body" ∨ settings.output.format = "ndjson"
  nonempty : settings.documents ≠ []
  documents : ∀ doc ∈ settings.documents, doc.WellFormed

namespace Config

/-! ### Items -/

theorem forall₂_of_itemsFrom {xs : List Value} {key : KeyPath} {n : Nat} {is : List Item}
    (h : itemsFrom xs key n = .ok is) : List.Forall₂ (fun x i => ∃ key, item x key = .ok i) xs is :=
  ((itemsFrom_eq_ok_iff key key n).1 h).imp fun _ _ hi => ⟨key, hi⟩

theorem exists_item_of_itemsFrom {xs : List Value} {key : KeyPath} {n : Nat} {is : List Item}
    (h : itemsFrom xs key n = .ok is) : ∀ i ∈ is, ∃ x key, item x key = .ok i := by
  have hread := forall₂_of_itemsFrom h
  clear h
  induction hread with
  | nil => exact nofun
  | @cons x _ _ _ hfirst _ ih => exact List.forall_mem_cons.2 ⟨⟨x, hfirst⟩, ih⟩

theorem exists_item_of_readItems? {found : Option Value} {key : KeyPath} {is : List Item}
    (h : readItems? key found = .ok is) : ∀ i ∈ is, ∃ x key, item x key = .ok i := by
  cases found with
  | none =>
    cases h
    exact nofun
  | some v =>
    cases v with
    | null =>
      cases h
      exact nofun
    | list xs => exact exists_item_of_itemsFrom h
    | _ => cases h

theorem ReadsKind.exists_code {found : Option Value} {kind : Kind} (h : ReadsKind found kind) :
    ∃ n, kind.toValue = .int n := by
  cases h with
  | code n =>
    rw [kindOfCode]
    split <;> exact ⟨_, rfl⟩
  | _ => exact ⟨_, rfl⟩

theorem ReadsKind.holdsClauses_iff_operator? {found : Option Value} {kind : Kind} (h : ReadsKind found kind) :
    holdsClauses kind = true ↔ kind.operator? = some .nested ∨ kind.operator? = some .bool := by
  have hoperator (op : Operator) : holdsClauses (.operator op) = true ↔
      (Kind.operator op).operator? = some .nested ∨ (Kind.operator op).operator? = some .bool := by
    simp [Kind.operator?, holdsClauses_operator]
  cases h with
  | code n =>
    rw [kindOfCode]
    split
    · exact hoperator _
    · next hnone => simp [holdsClauses, Kind.operator?, hnone]
  | _ => exact hoperator _

theorem fixed_ne_list (v : Value) (xs : List Value) : v.fixed ≠ .list xs := by
  cases v <;> simp [Value.fixed]

theorem wellFormed_of_read :
    (∀ i : Item, (∃ v key, item v key = .ok i) → ∀ j ∈ i.walk, j.WellFormed) ∧
      ∀ c : Clauses, (∀ clause, ∀ i ∈ c.get clause, ∃ v key, item v key = .ok i) →
        ∀ j ∈ c.walk, j.WellFormed := by
  refine Clauses.induction (fun field value kind ih => ?_) fun c ih hread => ?_
  · -- an item that holds the clauses of a value is followed by what they lead to
    have hholder (c : Clauses) (v : Value) (key : KeyPath) (hv : value = .clauses c)
        (hop : kind.operator? = some .nested ∨ kind.operator? = some .bool) (hcode : ∃ n, kind.toValue = .int n)
        (hc : clauses v key = .ok c) : ∀ j ∈ (Item.mk field value kind).walk, j.WellFormed := by
      subst hv
      rw [Item.walk, List.forall_mem_cons, Value.walkUnder, if_pos hop]
      obtain ⟨entries, rfl, -, hclauses⟩ := clauses_eq_ok_iff.1 hc
      exact ⟨⟨hcode, fun _ => ⟨c, rfl⟩, fun hleaf => absurd hop hleaf⟩,
        ih c rfl fun clause => exists_item_of_readItems? (hclauses clause)⟩
    rintro ⟨v, key, h⟩
    cases item_eq_ok_iff.1 h with
    | block hc => exact hholder _ _ _ rfl (.inr rfl) ⟨_, rfl⟩ hc
    | holder _ _ hkind hholds _ hc =>
      exact hholder _ _ _ rfl (hkind.holdsClauses_iff_operator?.1 hholds) hkind.exists_code hc
    | @leaf _ _ _ v _ _ hkind hholds _ =>
      have hop := (not_congr hkind.holdsClauses_iff_operator?).1 (Bool.eq_false_iff.1 hholds)
      rw [Item.walk, Value.walkUnder_of_not_holder hop, List.forall_mem_singleton]
      refine ⟨hkind.exists_code, fun hholder => absurd hholder hop, fun _ xs => ?_⟩
      exact fixed_ne_list v.isoDates xs
  · intro j hj
    obtain ⟨clause, i, hi, hj⟩ := Clauses.mem_walk_iff.1 hj
    exact ih clause i hi (hread clause i hi) j hj

/-! ### Documents -/

theorem order_of_readsSortField {v : Value} {s : SortField} (h : ReadsSortField v s) :
    s.order = "asc" ∨ s.order = "desc" := by
  cases h with
  | name field => exact .inl rfl
  | directed h => simpa [orders] using h

theorem orders_of_sortFields {key : KeyPath} {v : Value} {sort : List SortField} (h : sortFields key v = .ok sort) :
    ∀ s ∈ sort, s.order = "asc" ∨ s.order = "desc" := by
  obtain ⟨-, rfl⟩ | ⟨xs, -, hall⟩ := sortFields_eq_ok_iff.1 h
  · exact nofun
  · clear h
    induction hall with
    | nil => exact nofun
    | cons hfirst _ ih => exact List.forall_mem_cons.2 ⟨order_of_readsSortField hfirst, ih⟩

theorem document_wellFormed {v : Value} {key : KeyPath} {doc : Document} (h : document v key = .ok doc) :
    doc.WellFormed := by
  obtain ⟨entries, rfl, hreads⟩ := document_eq_ok_iff.1 h
  obtain ⟨s, -, hindex⟩ := hreads.index
  exact {
    index := ⟨hreads.named, by rw [← hindex, Text.strip_strip]⟩
    sort := orders_of_sortFields hreads.sort
    size := (optionalWhole_eq_ok_iff.1 hreads.size).2
    start := (optionalWhole_eq_ok_iff.1 hreads.start).2
    items := wellFormed_of_read.2 doc.clauses fun clause => exists_item_of_readItems? (hreads.clauses clause) }

theorem documentsFrom_eq_ok {key : KeyPath} {xs : List Value} {n : Nat} {docs : List Document}
    (h : documentsFrom key xs n = .ok docs) (i : Nat) :
    xs[i]?.map (fun x => document x (key.index (n + i))) = docs[i]?.map Except.ok := by
  induction xs generalizing n docs i with
  | nil =>
    cases h
    rfl
  | cons x xs ih =>
    simp only [documentsFrom, Outcome.bind_eq_ok, Outcome.pure_eq_ok] at h
    obtain ⟨first, hfirst, others, hothers, rfl⟩ := h
    cases i with
    | zero => simpa using hfirst
    | succ i =>
      have hrest := ih hothers i
      rw [Nat.add_assoc, Nat.add_comm 1 i] at hrest
      simpa using hrest

/-! ### Settings -/

theorem documents_eq_ok_iff {root : Entries} {docs : List Document} :
    documents root = .ok docs ↔
      ∃ xs, root.find? "queries" = some (.list xs) ∧ documentsFrom queriesKey xs 0 = .ok docs := by
  rw [documents, valueOrNull]
  cases hfound : root.find? "queries" with
  | none => simp
  | some v => cases v <;> simp [expectList]

theorem check_eq_ok_iff {settings : Settings} {u : Unit} :
    check settings = .ok u ↔ settings.log.level ∈ logLevels ∧ Text.strip settings.log.directory ≠ "" ∧
      settings.output.format ∈ formats ∧ settings.documents ≠ [] := by
  simp [check]

theorem settings_eq_ok_iff {root : Entries} {s : Settings} :
    settings root = .ok s ↔ logSettings root = .ok s.log ∧ outputSettings root = .ok s.output ∧
      documents root = .ok s.documents ∧ check s = .ok () := by
  simp only [settings, Outcome.bind_eq_ok, Outcome.pure_eq_ok]
  constructor
  · rintro ⟨log, hlog, output, houtput, docs, hdocs, _, hcheck, rfl⟩
    exact ⟨hlog, houtput, hdocs, hcheck⟩
  · rintro ⟨hlog, houtput, hdocs, hcheck⟩
    exact ⟨_, hlog, _, houtput, _, hdocs, (), hcheck, rfl⟩

theorem wellFormed_of_documentsFrom {key : KeyPath} {xs : List Value} {n : Nat} {docs : List Document}
    (h : documentsFrom key xs n = .ok docs) : ∀ doc ∈ docs, doc.WellFormed := by
  intro doc hdoc
  obtain ⟨i, hi⟩ := List.mem_iff_getElem?.1 hdoc
  have hread := documentsFrom_eq_ok h i
  rw [hi, Option.map_some, Option.map_eq_some_iff] at hread
  obtain ⟨x, -, hx⟩ := hread
  exact document_wellFormed hx

theorem wellFormed_of_settings {root : Entries} {s : Settings} (h : settings root = .ok s) : s.WellFormed := by
  obtain ⟨-, -, hdocs, hcheck⟩ := settings_eq_ok_iff.1 h
  obtain ⟨hlevel, hdirectory, hformat, hnonempty⟩ := check_eq_ok_iff.1 hcheck
  obtain ⟨xs, -, hfrom⟩ := documents_eq_ok_iff.1 hdocs
  exact {
    level := hlevel
    directory := hdirectory
    format := by simpa [formats] using hformat
    nonempty := hnonempty
    documents := wellFormed_of_documentsFrom hfrom }

theorem wellFormed_of_load {files : Workspace} {path : FilePath} {s : Settings} (h : load files path = .ok s) :
    s.WellFormed := by
  simp only [load, settingsOf, Outcome.bind_eq_ok, LoadError.ofSource_eq_ok_iff, SourceError.ofConfig_eq_ok_iff] at h
  obtain ⟨text, -, entries, -, hsettings⟩ := h
  exact wellFormed_of_settings hsettings

/-- **What a configuration has in order once it is accepted.** The documents are read in order, each one as it is
read on its own. A well-formed document has no body only for a code that no operator has, or for the value of an
item that is neither nested nor boolean. -/
theorem settings_wellFormed {root : Entries} {s : Settings} (h : settings root = .ok s) :
    s.WellFormed ∧
      (∃ xs, root.find? "queries" = some (.list xs) ∧
        ∀ i : Nat, xs[i]?.map (fun x => document x (queriesKey.index i)) = s.documents[i]?.map Except.ok) ∧
      ∀ doc ∈ s.documents, ∀ e, doc.body = .error e → ∃ i ∈ doc.clauses.walk, i.MayFail e := by
  have hwell := wellFormed_of_settings h
  refine ⟨hwell, ?_, fun doc hdoc e he => ?_⟩
  · obtain ⟨xs, hfound, hfrom⟩ := documents_eq_ok_iff.1 (settings_eq_ok_iff.1 h).2.2.1
    refine ⟨xs, hfound, fun i => ?_⟩
    rw [← documentsFrom_eq_ok hfrom i, Nat.zero_add]
  · rw [← Outcome.fault?_eq_some_iff, Document.fault?_body, List.findSome?_eq_some_iff] at he
    obtain ⟨before, i, after, hwalk, hfault, -⟩ := he
    have hmem : i ∈ doc.clauses.walk := hwalk ▸ List.mem_append_right before List.mem_cons_self
    exact ⟨i, hmem, ((hwell.documents doc hdoc).items i hmem).mayFail (Item.fault?_eq_some_iff.1 hfault)⟩

/-- A boolean block in a nested query that is given by its code. -/
theorem settings_wellFormed_nested_code :
    let term : Value := .dict [(.str "field", .str "x.y"), (.str "type", .int 42), (.str "value", .int 1)]
    let nested : Value := .dict [(.str "field", .str "x"), (.str "type", .int 6),
      (.str "value", .dict [(.str "filter", .list [.dict [(.str "bool", .dict [(.str "must", .list [term])])]])])]
    let root : Entries := [(.str "queries", .list [.dict [(.str "index", .str " a "), (.str "must", .list [nested])]])]
    ∃ s, settings root = .ok s ∧ s.WellFormed ∧
      (∃ xs, root.find? "queries" = some (.list xs) ∧
        ∀ i : Nat, xs[i]?.map (fun x => document x (queriesKey.index i)) = s.documents[i]?.map Except.ok) ∧
      ∀ doc ∈ s.documents, ∀ e, doc.body = .error e → ∃ i ∈ doc.clauses.walk, i.MayFail e := by
  intro term nested root
  obtain ⟨s, hs⟩ := Outcome.exists_ok_of_isSome (by decide +kernel : (settings root).toOption.isSome = true)
  exact ⟨s, hs, settings_wellFormed hs⟩

end Config

end SearchRequest
