import SearchRequest.Proofs.Outcome
import SearchRequest.Workspace.Basic

/-!
# Changes to a workspace

What the operations on files leave as it is. A later workspace differs from an earlier one in the contents of
the files at certain places, and directories and files stay what they are (`Workspace.Changes`). This relation
is a preorder that every operation keeps to, and a path that leads to a place goes on leading there.

* `Workspace.changes_makeDirectories`: making directories changes no content.
* `Workspace.grows_append`: what is added to a file comes behind what it holds.
* `Workspace.Changes.read`: a file is read as it is, whatever changes elsewhere.
-/

namespace SearchRequest

/-- The place that a path leads to if it leads anywhere. -/
def FilePath.location (path : FilePath) : Location :=
  path.parts.foldl Workspace.child (if path.root.isEmpty then [] else ["/"])

namespace Workspace

/-! ### Places -/

theorem get?_set_of_ne {l m : Location} (h : m ≠ l) (w : Workspace) (e : Entry) :
    (w.set l e).get? m = w.get? m := by
  cases hgiven : isGiven m with
  | true => rw [get?, get?, if_pos hgiven, if_pos hgiven]
  | false => rw [get?_set w l m e hgiven, if_neg h]

theorem get?_set_self {w : Workspace} {l : Location} (h : w.get? l ≠ some .directory) (e : Entry) :
    (w.set l e).get? l = some e := by
  have hgiven : isGiven l = false := by
    rw [Bool.eq_false_iff]
    exact fun hgiven => h (by rw [get?, if_pos hgiven])
  rw [get?_set w l l e hgiven, if_pos rfl]

theorem content?_eq_some_iff {w : Workspace} {l : Location} {content : List UInt8} :
    w.content? l = some content ↔ w.get? l = some (.file content) := by
  rw [content?]
  split <;> simp_all

theorem content?_of_get?_eq {w other : Workspace} {l : Location} (h : w.get? l = other.get? l) :
    w.content? l = other.content? l := by
  rw [content?, content?, h]

/-! ### Changes -/

/-- A later workspace has other contents at some places at most, and what is a directory or a file stays one. -/
structure Changes (places : Location → Prop) (w later : Workspace) : Prop where
  content : ∀ l, ¬places l → later.content? l = w.content? l
  directory : ∀ l, w.get? l = some .directory → later.get? l = some .directory
  file : ∀ l, (w.content? l).isSome = true → (later.content? l).isSome = true

namespace Changes

variable {places others : Location → Prop} {w later last : Workspace}

theorem refl (w : Workspace) : Changes places w w := ⟨fun _ _ => rfl, fun _ h => h, fun _ h => h⟩

theorem trans (h : Changes places w later) (h' : Changes places later last) : Changes places w last where
  content l hl := (h'.content l hl).trans (h.content l hl)
  directory l hl := h'.directory l (h.directory l hl)
  file l hl := h'.file l (h.file l hl)

theorem mono (h : Changes places w later) (himp : ∀ l, places l → others l) : Changes others w later :=
  ⟨fun l hl => h.content l (mt (himp l) hl), h.directory, h.file⟩

end Changes

theorem changes_set_file {w : Workspace} {l : Location} (h : w.get? l ≠ some .directory)
    (content : List UInt8) : Changes (· = l) w (w.set l (.file content)) where
  content m hm := content?_of_get?_eq (get?_set_of_ne hm w _)
  directory m hm := by
    have hne : m ≠ l := fun heq => h (by rw [← heq, hm])
    rw [get?_set_of_ne hne, hm]
  file m hm := by
    by_cases heq : m = l
    · rw [heq, content?_eq_some_iff.2 (get?_set_self h _), Option.isSome_some]
    · rwa [content?_of_get?_eq (get?_set_of_ne heq w _)]

theorem changes_set_directory {places : Location → Prop} {w : Workspace} {l : Location} (h : w.get? l = none) :
    Changes places w (w.set l .directory) := by
  have hcontent (m : Location) : (w.set l .directory).content? m = w.content? m := by
    by_cases heq : m = l
    · rw [heq, content?, content?, h, get?_set_self (by rw [h]; simp)]
    · exact content?_of_get?_eq (get?_set_of_ne heq w _)
  refine ⟨fun m _ => hcontent m, fun m hm => ?_, fun m hm => by rwa [hcontent]⟩
  rw [get?_set_of_ne (fun heq => by rw [heq, h] at hm; cases hm), hm]

theorem changes_append {w : Workspace} {l : Location} (h : w.get? l ≠ some .directory) (bytes : List UInt8) :
    Changes (· = l) w (w.append l bytes) := changes_set_file h _

/-! ### Directories -/

section

variable {places : Location → Prop}

theorem changes_of_makeDirectory {w made : Workspace} {path : FilePath} (h : w.makeDirectory path = .ok made) :
    Changes places w made := by
  rw [makeDirectory, Outcome.bind_eq_ok] at h
  obtain ⟨l, -, h⟩ := h
  split at h
  · cases h
  · next hnone =>
    cases h
    exact changes_set_directory hnone

theorem changes_settle (w : Workspace) (path : FilePath) :
    Changes places w (w.settle path (w.makeDirectory path)).2 := by
  cases hmake : w.makeDirectory path with
  | ok made => exact changes_of_makeDirectory hmake
  | error e =>
    rw [settle]
    split <;> exact .refl w

theorem changes_makeDirectoriesTo (depth : Nat) (w : Workspace) (path : FilePath) :
    Changes places w (makeDirectoriesTo depth w path).2 := by
  fun_induction makeDirectoriesTo depth w path with
  | case1 w path _ depth _ made hmade ih =>
    rw [hmade] at ih
    exact ih.trans (changes_settle made path)
  | case2 w path _ depth _ e made hmade ih =>
    rw [hmade] at ih
    exact ih
  | case3 depth w path => exact changes_settle w path

theorem changes_makeDirectories (w : Workspace) (path : FilePath) :
    Changes places w (w.makeDirectories path).2 := changes_makeDirectoriesTo _ w path

end

/-! ### Growth -/

/-- Every file of an earlier workspace is still there, with what it held and perhaps more behind that. -/
def Grows (w later : Workspace) : Prop :=
  ∀ l content, w.content? l = some content → ∃ more, later.content? l = some (content ++ more)

theorem Grows.trans {w later last : Workspace} (h : Grows w later) (h' : Grows later last) : Grows w last := by
  intro l content hcontent
  obtain ⟨more, hmore⟩ := h l content hcontent
  obtain ⟨further, hfurther⟩ := h' l _ hmore
  exact ⟨more ++ further, by rw [hfurther, List.append_assoc]⟩

theorem Changes.grows {w later : Workspace} (h : Changes (fun _ => False) w later) : Grows w later := by
  intro l content hcontent
  exact ⟨[], by rw [h.content l id, hcontent, List.append_nil]⟩

theorem Grows.refl (w : Workspace) : Grows w w := (Changes.refl w).grows

theorem grows_append (w : Workspace) (l : Location) (bytes : List UInt8) : Grows w (w.append l bytes) := by
  intro m content hcontent
  by_cases hm : m = l
  · subst hm
    have hfile : w.get? m ≠ some .directory := by
      rw [content?_eq_some_iff.1 hcontent]
      nofun
    refine ⟨bytes, content?_eq_some_iff.2 ?_⟩
    rw [append, get?_set_self hfile, hcontent, Option.getD_some]
  · refine ⟨[], ?_⟩
    rw [append, content?_of_get?_eq (get?_set_of_ne hm w _), hcontent, List.append_nil]

/-- The bytes of the file at a place, none where there is no file. -/
def held (w : Workspace) (l : Location) : List UInt8 := (w.content? l).getD []

/-- Bytes are added to the file at a place, and no other file changes. -/
structure Adds (l : Location) (bytes : List UInt8) (w later : Workspace) : Prop where
  content : later.content? l = some (w.held l ++ bytes)
  others : ∀ m, m ≠ l → later.content? m = w.content? m

theorem adds_append {w : Workspace} {l : Location} (h : w.get? l ≠ some .directory) (bytes : List UInt8) :
    Adds l bytes w (w.append l bytes) where
  content := content?_eq_some_iff.2 (get?_set_self h _)
  others _ hm := content?_of_get?_eq (get?_set_of_ne hm w _)

theorem Adds.held {w later : Workspace} {l : Location} {bytes : List UInt8} (h : Adds l bytes w later)
    (m : Location) : later.held m = w.held m ++ if l = m then bytes else [] := by
  by_cases hm : l = m
  · rw [← hm, Workspace.held, h.content, Option.getD_some, if_pos rfl]
  · rw [Workspace.held, h.others m (Ne.symm hm), if_neg hm, List.append_nil, Workspace.held]

/-- What a later workspace has at a place behind what an earlier one has there. -/
def added (w later : Workspace) (l : Location) : List UInt8 := (later.held l).drop (w.held l).length

/-! ### Paths -/

theorem enter_eq_ok_iff {w : Workspace} {path : FilePath} {l next : Location} {part : String} :
    w.enter path l part = .ok next ↔
      w.get? l = some .directory ∧ part.utf8ByteSize ≤ maxNameLength ∧ child l part = next := by
  rw [enter]
  split
  · next h => simp [h]
  · next h => simp [h]
  · next h =>
    split
    · next hlong => simp only [reduceCtorEq, h, true_and, false_iff]; omega
    · next hshort => simp [h, Nat.le_of_not_lt hshort]

theorem foldl_of_follow {w : Workspace} {path : FilePath} {l m : Location} {parts : List String}
    (h : w.follow path l parts = .ok m) : parts.foldl child l = m := by
  induction parts generalizing l with
  | nil =>
    cases h
    rfl
  | cons part parts ih =>
    simp only [follow, Outcome.bind_eq_ok, enter_eq_ok_iff] at h
    obtain ⟨next, ⟨-, -, rfl⟩, hrest⟩ := h
    exact ih hrest

theorem Changes.follow {places : Location → Prop} {w later : Workspace} (hc : Changes places w later)
    {path : FilePath} {l m : Location} {parts : List String} (h : w.follow path l parts = .ok m) :
    later.follow path l parts = .ok m := by
  induction parts generalizing l with
  | nil => exact h
  | cons part parts ih =>
    simp only [Workspace.follow, Outcome.bind_eq_ok, enter_eq_ok_iff] at h ⊢
    obtain ⟨next, ⟨hdirectory, hpart⟩, hrest⟩ := h
    exact ⟨next, ⟨hc.directory _ hdirectory, hpart⟩, ih hrest⟩

theorem locate_eq_ok_iff {w : Workspace} {path : FilePath} {l : Location} :
    w.locate path = .ok l ↔ Text.pathError? path.text = none ∧ path.text.toList.contains '\x00' = false ∧
      path.text.utf8ByteSize ≤ maxPathLength ∧
        w.follow path (if path.root.isEmpty then [] else ["/"]) path.parts = .ok l := by
  rw [locate]
  split
  · next e hsurrogates => simp only [hsurrogates, reduceCtorEq, false_and]
  · next hnone =>
    simp only [hnone, true_and]
    split
    · next hnull => simp only [hnull, reduceCtorEq, Bool.true_eq_false, false_and]
    · next hnull =>
      rw [Bool.not_eq_true] at hnull
      split
      · next hlong => simp only [reduceCtorEq, false_iff]; omega
      · next hshort => simp only [hnull, Nat.le_of_not_lt hshort, true_and]

theorem location_of_locate {w : Workspace} {path : FilePath} {l : Location} (h : w.locate path = .ok l) :
    path.location = l := foldl_of_follow (locate_eq_ok_iff.1 h).2.2.2

theorem Changes.locate {places : Location → Prop} {w later : Workspace} (hc : Changes places w later)
    {path : FilePath} {l : Location} (h : w.locate path = .ok l) : later.locate path = .ok l := by
  rw [locate_eq_ok_iff] at h ⊢
  exact ⟨h.1, h.2.1, h.2.2.1, hc.follow h.2.2.2⟩

/-! ### Files -/

theorem place_eq_ok {w : Workspace} {path : FilePath} {l : Location} (h : w.place path = .ok l) :
    w.locate path = .ok path.location ∧ path.location = l ∧ w.get? l ≠ some .directory := by
  rw [place, Outcome.bind_eq_ok] at h
  obtain ⟨m, hlocate, h⟩ := h
  obtain rfl := location_of_locate hlocate
  split at h
  · cases h
  · next hdirectory =>
    cases h
    exact ⟨hlocate, rfl, hdirectory⟩

theorem write_eq_ok {w later : Workspace} {path : FilePath} {content : List UInt8}
    (h : w.write path content = .ok later) :
    Changes (· = path.location) w later ∧ later.locate path = .ok path.location ∧
      later.content? path.location = some content := by
  rw [write, Outcome.bind_eq_ok] at h
  obtain ⟨l, hplace, h⟩ := h
  obtain ⟨hlocate, rfl, hdirectory⟩ := place_eq_ok hplace
  cases h
  have hchanges := changes_set_file hdirectory content
  exact ⟨hchanges, hchanges.locate hlocate, content?_eq_some_iff.2 (get?_set_self hdirectory _)⟩

theorem Changes.read {places : Location → Prop} {w later : Workspace} (hc : Changes places w later)
    {path : FilePath} {content : List UInt8} (hlocate : w.locate path = .ok path.location)
    (hcontent : w.content? path.location = some content) (hplaces : ¬places path.location) :
    later.read path = .ok content := by
  have hget := content?_eq_some_iff.1 ((hc.content _ hplaces).trans hcontent)
  refine Outcome.bind_eq_ok.2 ⟨_, hc.locate hlocate, ?_⟩
  rw [hget]
  rfl

end Workspace

end SearchRequest
