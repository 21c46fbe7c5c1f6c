import SearchRequest.Config.Load
import SearchRequest.Proofs.Config.Layers
import SearchRequest.Proofs.Config.Order
import SearchRequest.Proofs.Yaml.Keys
import SearchRequest.Proofs.Yaml.Rounds

/-!
# A file over its own text

A file of defaults is read without laying it over itself. That makes no difference: a layer that is there already
changes nothing when it is laid over the whole once more, and the settings of a file are those of the file laid over
its own text, or both fail with the same error (`Config.load_over_own_text`).

The settings of a root mapping laid over itself are those of the root mapping (`Config.settings_merge_self`), also when
a key of it is no number and thus differs from itself: then the mapping is not the same, but the settings are read by
name.
-/

namespace SearchRequest

@[simp] theorem SourceError.ofYaml_eq_ok_iff {α : Type} {x : Except Yaml.Fault α} {a : α} :
    ofYaml x = .ok a ↔ x = .ok a := by
  cases x <;> simp [ofYaml]

namespace Config

/-! ### Settings of a mapping over itself -/

section

variable {α : Type} {f : Value → α} {entries : Entries}

theorem overlay_self_congr (hf : ∀ left right, f (.dict left) = f (.dict right)) (v : Value) :
    f (overlay v v) = f v := by
  obtain hv | ⟨entries, rfl⟩ := v.not_mapping_or_dict
  · rw [overlay_eq_upper (.inl hv)]
  · exact hf _ _

theorem map_find?_merge_self (h : (Value.dict entries).isKeyed = true)
    (hf : ∀ v, v.isKeyed = true → f (overlay v v) = f v) (name : String) :
    (Entries.find? (merge entries entries) name).map f = (Entries.find? entries name).map f := by
  rw [Entries.find?, Entries.find?, merge, get?_mergeEntries (Value.isKeyed_dict.1 h).1]
  cases hfound : Entries.get? entries (.str name) with
  | none => rfl
  | some v => exact congrArg some (hf v (Value.isKeyed_of_get? h hfound))

theorem getD_find?_merge_self (h : (Value.dict entries).isKeyed = true)
    (hf : ∀ left right, f (.dict left) = f (.dict right)) (name : String) (default : Value) :
    f ((Entries.find? (merge entries entries) name).getD default) = f ((Entries.find? entries name).getD default) := by
  have hread (found : Option Value) : f (found.getD default) = (found.map f).getD (f default) := by
    cases found <;> rfl
  rw [hread, hread, map_find?_merge_self h fun v _ => overlay_self_congr hf v]

end

theorem read_log_self {v : Value} (h : v.isKeyed = true) : Place.log.read (overlay v v) = Place.log.read v := by
  obtain hv | ⟨entries, rfl⟩ := v.not_mapping_or_dict
  · rw [overlay_eq_upper (.inl hv)]
  · have hsection (entries : Entries) : getSection [(.str "log", .dict entries)] "log" false = pure entries := rfl
    show logSettings [(.str "log", .dict (merge entries entries))] = logSettings [(.str "log", .dict entries)]
    simp only [logSettings, hsection, pure_bind, valueOr]
    rw [getD_find?_merge_self (f := expectText (logKey.member "level")) h fun _ _ => rfl,
      getD_find?_merge_self (f := expectTruth (logKey.member "to_file")) h fun _ _ => rfl,
      getD_find?_merge_self (f := expectText (logKey.member "dir")) h fun _ _ => rfl]

theorem read_output_self {v : Value} (h : v.isKeyed = true) :
    Place.output.read (overlay v v) = Place.output.read v := by
  obtain hv | ⟨entries, rfl⟩ := v.not_mapping_or_dict
  · rw [overlay_eq_upper (.inl hv)]
  · have hsection (entries : Entries) : getSection [(.str "output", .dict entries)] "output" false = pure entries :=
      rfl
    show outputSettings [(.str "output", .dict (merge entries entries))] =
      outputSettings [(.str "output", .dict entries)]
    simp only [outputSettings, hsection, pure_bind, valueOr, valueOrNull]
    rw [getD_find?_merge_self (f := expectText (outputKey.member "format")) h fun _ _ => rfl,
      getD_find?_merge_self (f := optionalText (outputKey.member "path")) h fun _ _ => rfl]

theorem settings_merge_self {root : Entries} (h : (Value.dict root).isKeyed = true) :
    settings (merge root root) = settings root := by
  have hqueries (v : Value) : Place.queries.read (overlay v v) = Place.queries.read v :=
    overlay_self_congr (fun _ _ => rfl) v
  unfold settings
  rw [Place.logSettings_eq (merge root root), map_find?_merge_self h fun v hv => read_log_self hv,
    ← Place.logSettings_eq root, Place.outputSettings_eq (merge root root),
    map_find?_merge_self h fun v hv => read_output_self hv, ← Place.outputSettings_eq root,
    Place.documents_eq (merge root root), map_find?_merge_self h fun v _ => hqueries v, ← Place.documents_eq root]

/-! ### Layers that can be laid -/

theorem laidOver_eq_ok_iff {lower upper merged : Entries} :
    laidOver lower upper = .ok merged ↔ mergesEndlessly lower upper = false ∧ merge lower upper = merged := by
  simp only [laidOver, Outcome.bind_eq_ok, Outcome.pure_eq_ok, ensure_eq_ok, Bool.not_eq_true', exists_const]

theorem laidOver_eq_ok {lower upper : Entries} (h : mergesEndlessly lower upper = false) :
    laidOver lower upper = .ok (merge lower upper) :=
  laidOver_eq_ok_iff.2 ⟨h, rfl⟩

theorem laidOver_eq_endless {lower upper : Entries} (h : mergesEndlessly lower upper = true) :
    laidOver lower upper = .error .endless := by
  rw [laidOver, h]
  rfl

theorem mergesEndlessly_eq_false_iff {lower upper : Entries} :
    mergesEndlessly lower upper = false ↔
      ∀ entry ∈ upper, ∀ old, Entries.get? lower entry.1 = some old → overlaysEndlessly entry.2 old = false := by
  induction upper with
  | nil => simp [mergesEndlessly]
  | cons entry rest ih =>
    rw [mergesEndlessly, Bool.or_eq_false_iff, ih, List.forall_mem_cons]
    refine and_congr_left fun _ => ?_
    cases Entries.get? lower entry.1 <;> simp

theorem overlaysEndlessly_overlay {lower upper : Value} (hlower : lower.IsLayer) (hupper : upper.IsLayer)
    (hover : overlaysEndlessly upper lower = false) (hself : overlaysEndlessly upper upper = false) :
    overlaysEndlessly upper (overlay upper lower) = false := by
  induction upper using Value.induction generalizing lower with
  | step upper _ ih =>
    obtain hu | ⟨b, rfl⟩ := upper.not_mapping_or_dict
    · rwa [overlay_eq_upper (.inr hu)]
    obtain hl | ⟨a, rfl⟩ := lower.not_mapping_or_dict
    · rwa [overlay_eq_upper (.inl hl)]
    rw [overlaysEndlessly, mergesEndlessly_eq_false_iff] at hover hself
    rw [overlay, overlaysEndlessly, mergesEndlessly_eq_false_iff]
    intro entry hentry old hold
    have hfound := hupper.get?_of_mem hentry
    rw [get?_mergeEntries hupper.distinct, hfound] at hold
    have hentrySelf := hself entry hentry entry.2 hfound
    cases hx : Entries.get? a entry.1 with
    | none =>
      rw [hx] at hold
      cases hold
      exact hentrySelf
    | some x =>
      rw [hx] at hold
      cases hold
      exact ih b rfl entry hentry (hlower.of_get? hx) (hupper.of_get? hfound) (hover entry hentry x hx) hentrySelf

theorem mergesEndlessly_merge {a b : Entries} (ha : (Value.dict a).IsLayer) (hb : (Value.dict b).IsLayer)
    (hab : mergesEndlessly a b = false) (hself : mergesEndlessly b b = false) :
    mergesEndlessly (merge a b) b = false := by
  have hends := overlaysEndlessly_overlay ha hb
  simp only [overlay, overlaysEndlessly] at hends
  exact hends hab hself

/-! ### Files -/

theorem isKeyed_of_ofYaml {text : String} {root : Entries} (h : ofYaml text = .ok root) :
    (Value.dict root).isKeyed = true := by
  simp only [ofYaml, Outcome.bind_eq_ok, SourceError.ofYaml_eq_ok_iff, SourceError.ofConfig_eq_ok_iff] at h
  obtain ⟨v, hload, hroot⟩ := h
  have hkeyed := Yaml.isKeyed_of_load hload
  unfold Config.root at hroot
  split at hroot
  · cases hroot
    rfl
  · split at hroot
    · cases hroot
      exact hkeyed
    · cases hroot

theorem load_of_readText {files : Workspace} {path : FilePath} {text : String} (h : readText files path = .ok text) :
    load files path = LoadError.ofSource (settingsOf text) := by
  rw [load, h]
  rfl

theorem settingsOf_of_ofYaml {text : String} {root : Entries} (h : ofYaml text = .ok root) :
    settingsOf text = SourceError.ofConfig (settings root) := by
  rw [settingsOf, h]
  rfl

theorem settingsOver_own_text {text : String} {root : Entries} (h : ofYaml text = .ok root)
    (hends : mergesEndlessly root root = false) : settingsOver root text = settingsOf text := by
  rw [settingsOver, settingsOf_of_ofYaml h, h]
  show (SourceError.ofConfig (laidOver root root) >>= fun entries => SourceError.ofConfig (settings entries)) = _
  rw [laidOver_eq_ok hends]
  show SourceError.ofConfig (settings (merge root root)) = SourceError.ofConfig (settings root)
  rw [settings_merge_self (isKeyed_of_ofYaml h)]

theorem settingsOver_own_text_endless {text : String} {root : Entries} (h : ofYaml text = .ok root)
    (hends : mergesEndlessly root root = true) : settingsOver root text = .error (.config .endless) := by
  rw [settingsOver, h]
  show (SourceError.ofConfig (laidOver root root) >>= fun entries => SourceError.ofConfig (settings entries)) = _
  rw [laidOver_eq_endless hends]
  rfl

/-- Whether mappings of a text lead, by values of mappings alone, into themselves. -/
def LeadsIntoItself (text : String) : Prop :=
  ∃ root, ofYaml text = .ok root ∧ mergesEndlessly root root = true

theorem loadOverText_own_text {files : Workspace} {path : FilePath} {text : String}
    (htext : readText files path = .ok text) :
    (¬LeadsIntoItself text → loadOverText files path text = load files path) ∧
      (LeadsIntoItself text → loadOverText files path text = .error (.source (.config .endless))) := by
  rw [loadOverText, load_of_readText htext, htext]
  cases hyaml : ofYaml text with
  | error e =>
    constructor
    · intro _
      show LoadError.ofSource (Except.error e) >>= _ = LoadError.ofSource (settingsOf text)
      rw [settingsOf, hyaml]
      rfl
    · rintro ⟨_, hroot, _⟩
      rw [hyaml] at hroot
      cases hroot
  | ok root =>
    constructor
    · intro hends
      have hends : mergesEndlessly root root = false := eq_false_of_ne_true fun h => hends ⟨root, hyaml, h⟩
      exact congrArg LoadError.ofSource (settingsOver_own_text hyaml hends)
    · rintro ⟨_, hroot, hends⟩
      rw [hyaml] at hroot
      cases hroot
      exact congrArg LoadError.ofSource (settingsOver_own_text_endless hyaml hends)

/-- **A layer that is there already changes nothing**, over the whole or over itself, if laying it there comes to an
end. And a file that is not laid over itself gives the settings, or the error, that it gives when it is laid over its
own text, unless its mappings lead into themselves. -/
theorem load_over_own_text :
    (∀ a b : Entries, (Value.dict a).IsLayer → (Value.dict b).IsLayer → mergesEndlessly b b = false →
      laidOver b b = .ok b ∧ ∀ merged, laidOver a b = .ok merged → laidOver merged b = .ok merged) ∧
    ∀ files path, loadOver files path path = load files path ∧
      (∀ e, readText files path = .error e → load files path = .error e) ∧
      ∀ text, readText files path = .ok text →
        (¬LeadsIntoItself text → load files path = loadOverText files path text) ∧
        (LeadsIntoItself text → loadOverText files path text = .error (.source (.config .endless))) := by
  refine ⟨fun a b ha hb hends => ⟨?_, fun merged hmerged => ?_⟩, fun files path => ⟨if_pos rfl, fun e he => ?_,
    fun text htext => ⟨fun hends => ?_, (loadOverText_own_text htext).2⟩⟩⟩
  · rw [laidOver_eq_ok hends, merge_self hb]
  · obtain ⟨hab, rfl⟩ := laidOver_eq_ok_iff.1 hmerged
    rw [laidOver_eq_ok (mergesEndlessly_merge ha hb hab hends), merge_merge_self ha hb]
  · rw [load, he]
    rfl
  · exact ((loadOverText_own_text htext).1 hends).symm

/-- A layer that replaces a mapping by a text and a number by a mapping. -/
theorem load_over_own_text_of_replaced :
    let a : Entries := [(.str "log", .dict [(.str "level", .str "INFO"), (.str "dir", .dict [(.int 1, .null)])]),
      (.str "n", .int 1)]
    let b : Entries := [(.str "n", .dict [(.bool true, .list [])]), (.str "log", .dict [(.str "dir", .str "l")])]
    let merged : Entries := [(.str "log", .dict [(.str "level", .str "INFO"), (.str "dir", .str "l")]),
      (.str "n", .dict [(.bool true, .list [])])]
    (Value.dict a).IsLayer ∧ (Value.dict b).IsLayer ∧ mergesEndlessly b b = false ∧
      laidOver a b = .ok merged ∧ laidOver merged b = .ok merged ∧ laidOver b b = .ok b := by
  intro a b merged
  have ha : (Value.dict a).IsLayer := ⟨rfl, rfl⟩
  have hb : (Value.dict b).IsLayer := ⟨rfl, rfl⟩
  have habsorbed := load_over_own_text.1 a b ha hb rfl
  exact ⟨ha, hb, rfl, rfl, habsorbed.2 merged rfl, habsorbed.1⟩

theorem overlaysEndlessly_nested (name : String) (n : Nat) :
    overlaysEndlessly (.nested name n) (.nested name n) = true := by
  induction n with
  | zero => rfl
  | succ n ih =>
    have hfound : Entries.get? [(.str name, .nested name n)] (.str name) = some (.nested name n) := by
      simp [Entries.get?, Value.sameKey]
    rw [Value.nested, overlaysEndlessly, mergesEndlessly, hfound]
    simp [ih]

/-- A mapping that contains itself is no obstacle to one who only looks for queries, but cannot be laid over itself. -/
theorem own_text_not_laid_over :
    let text := "&a \x7by: *a\x7d\n"
    let files : Workspace := ⟨[(["c.yml"], .file (Text.Utf8.encode text))]⟩
    let path := FilePath.ofString "c.yml"
    readText files path = .ok text ∧ load files path = .error (.source (.config (.missing queriesKey))) ∧
      loadOverText files path text = .error (.source (.config .endless)) := by
  intro text files path
  have htext : readText files path = .ok text := by
    have hread : (readText files path).toOption = some text := by decide +kernel
    exact Outcome.toOption_eq_some.1 hread
  obtain ⟨inner, hinner⟩ : ∃ inner, inner = Value.nested "y" 999 := ⟨_, rfl⟩
  have hself : overlaysEndlessly inner inner = true := hinner ▸ overlaysEndlessly_nested "y" 999
  have hload : Yaml.load text = .ok (.nested "y" (999 + 1)) := Yaml.load_of_holdsItself (by decide +kernel)
  have hyaml : ofYaml text = .ok [(.str "y", inner)] := by
    rw [ofYaml, hload, Value.nested, ← hinner]
    rfl
  have hends : mergesEndlessly [(.str "y", inner)] [(.str "y", inner)] = true := by
    rw [mergesEndlessly]
    show (overlaysEndlessly inner inner || _) = true
    rw [hself, Bool.true_or]
  refine ⟨htext, ?_, (loadOverText_own_text htext).2 ⟨_, hyaml, hends⟩⟩
  rw [load_of_readText htext, settingsOf_of_ofYaml hyaml]
  rfl

end Config

end SearchRequest
