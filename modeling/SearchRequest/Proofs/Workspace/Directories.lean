import SearchRequest.Proofs.Text.Surrogate
import SearchRequest.Proofs.Workspace

/-!
# Making directories

When the directories of a path can be made, and what is there afterwards. A path passes a place for each part that
it has (`FilePath.Passes`).

* `Workspace.isDirectory_iff`: a path leads to a directory when it is legal and passes nothing but directories.
* `Workspace.makeDirectories_eq_ok_iff`: its directories can be made when it is legal and passes no file.
* `Workspace.get?_makeDirectories_iff`: then it passes nothing but directories, and there are no others that were
  not there before.
* `Workspace.exists_place_iff_canSave`: then a file can be written there as `Workspace.CanSave` says of the files as
  they were.
-/

namespace SearchRequest

namespace FilePath

/-- A path that a file can have: its text can be encoded, no null character is in it, and neither the text nor a part
of it is too long. -/
structure IsLegal (path : FilePath) : Prop where
  encodable : Text.pathError? path.text = none
  text : '\x00' ∉ path.text.toList
  short : path.text.utf8ByteSize ≤ Workspace.maxPathLength
  parts : ∀ part ∈ path.parts, part.utf8ByteSize ≤ Workspace.maxNameLength

/-- The place that a path starts from. -/
def start (path : FilePath) : Location := if path.root.isEmpty then [] else ["/"]

@[simp] theorem start_mk (path : FilePath) (parts : List String) : start ⟨path.root, parts⟩ = path.start := rfl

@[simp] theorem start_collapsed (path : FilePath) : path.collapsed.start = path.start := rfl

/-- The places that a path leads through: the one that it starts from, those on the way, and its own. -/
def Passes (path : FilePath) (l : Location) : Prop :=
  ∃ parts, parts <+: path.parts ∧ parts.foldl Workspace.child path.start = l

theorem passes_location (path : FilePath) : path.Passes path.location := ⟨path.parts, List.prefix_rfl, rfl⟩

theorem passes_of_passes_parent {path : FilePath} {l : Location} (h : path.parent.Passes l) : path.Passes l := by
  obtain ⟨parts, hparts, hl⟩ := h
  exact ⟨parts, hparts.trans (List.dropLast_prefix path.parts), hl⟩

theorem text_parent (path : FilePath) : path.parent.text = "." ∨ ∃ more, path.text = path.parent.text ++ more := by
  obtain ⟨root, parts⟩ := path
  by_cases hdirectory : parts.dropLast = []
  · by_cases hroot : root.isEmpty = true
    · exact .inl (by simp [parent, text, hdirectory, hroot])
    · exact .inr ⟨String.intercalate "/" parts, by simp [parent, text, hdirectory, hroot]⟩
  · obtain rfl | ⟨init, last, rfl⟩ := List.eq_nil_or_concat parts
    · exact absurd rfl hdirectory
    · rw [List.concat_eq_append, List.dropLast_concat] at hdirectory
      refine .inr ⟨"/" ++ last, ?_⟩
      rw [parent, text, text, List.concat_eq_append, List.dropLast_concat]
      simp [String.intercalate_append_of_ne_nil, hdirectory, String.append_assoc]

theorem legal_parent {path : FilePath} (h : path.IsLegal) : path.parent.IsLegal := by
  have hparts : ∀ part ∈ path.parent.parts, part.utf8ByteSize ≤ Workspace.maxNameLength :=
    fun part hpart => h.parts part (List.dropLast_subset _ hpart)
  obtain htext | ⟨more, hmore⟩ := text_parent path
  · refine ⟨?_, ?_, ?_, hparts⟩ <;> rw [htext] <;> decide
  · have htext := h.text
    have hshort := h.short
    rw [hmore, String.toList_append, List.mem_append, not_or] at htext
    rw [hmore, String.utf8ByteSize_append] at hshort
    exact ⟨Text.pathError?_of_append (hmore ▸ h.encodable), htext.1, by omega, hparts⟩

end FilePath

namespace Workspace

variable {w : Workspace} {path : FilePath}

/-! ### Places -/

theorem content?_of_directory {l : Location} (h : w.get? l = some .directory) : w.content? l = none := by
  rw [content?, h]

theorem follow_eq_ok_iff {l m : Location} {parts : List String} :
    w.follow path l parts = .ok m ↔
      (∀ part ∈ parts, part.utf8ByteSize ≤ maxNameLength) ∧
        (∀ before, before <+: parts → before ≠ parts → w.get? (before.foldl child l) = some .directory) ∧
          parts.foldl child l = m := by
  induction parts generalizing l with
  | nil =>
    simp [follow]
  | cons part parts ih =>
    simp only [follow, Outcome.bind_eq_ok, enter_eq_ok_iff, List.forall_mem_cons, List.prefix_cons_iff, List.foldl_cons]
    constructor
    · rintro ⟨_, ⟨hdirectory, hshort, rfl⟩, hrest⟩
      obtain ⟨hshorts, hdirectories, hm⟩ := ih.1 hrest
      refine ⟨⟨hshort, hshorts⟩, ?_, hm⟩
      rintro before (rfl | ⟨before, rfl, hbefore⟩) hne
      · exact hdirectory
      · exact hdirectories before hbefore fun heq => hne (by rw [heq])
    · rintro ⟨⟨hshort, hshorts⟩, hdirectories, hm⟩
      have hstart := hdirectories [] (.inl rfl) (List.cons_ne_nil part parts).symm
      refine ⟨_, ⟨hstart, hshort, rfl⟩, ih.2 ⟨hshorts, fun before hbefore hne => ?_, hm⟩⟩
      exact hdirectories (part :: before) (.inr ⟨before, rfl, hbefore⟩) fun heq => hne (List.cons.inj heq).2

theorem locate_iff {l : Location} :
    w.locate path = .ok l ↔ path.IsLegal ∧
      (∀ before, before <+: path.parts → before ≠ path.parts →
        w.get? (before.foldl child path.start) = some .directory) ∧ path.location = l := by
  rw [locate_eq_ok_iff, follow_eq_ok_iff]
  constructor
  · rintro ⟨hencodable, htext, hshort, hparts, hrest⟩
    exact ⟨⟨hencodable, by simpa using htext, hshort, hparts⟩, hrest⟩
  · rintro ⟨hlegal, hrest⟩
    exact ⟨hlegal.encodable, by simpa using hlegal.text, hlegal.short, hlegal.parts, hrest⟩

theorem isDirectory_iff_locate :
    w.isDirectory path = true ↔ ∃ l, w.locate path = .ok l ∧ w.get? l = some .directory := by
  rw [isDirectory]
  cases w.locate path <;> simp

theorem isDirectory_iff :
    w.isDirectory path = true ↔ path.IsLegal ∧ ∀ l, path.Passes l → w.get? l = some .directory := by
  rw [isDirectory_iff_locate]
  constructor
  · rintro ⟨l, hlocate, hdirectory⟩
    obtain ⟨hlegal, hway, rfl⟩ := locate_iff.1 hlocate
    refine ⟨hlegal, ?_⟩
    rintro _ ⟨before, hbefore, rfl⟩
    by_cases hwhole : before = path.parts
    · rw [hwhole]
      exact hdirectory
    · exact hway before hbefore hwhole
  · rintro ⟨hlegal, hpasses⟩
    refine ⟨path.location, locate_iff.2 ⟨hlegal, fun before hbefore _ => ?_, rfl⟩, hpasses _ path.passes_location⟩
    exact hpasses _ ⟨before, hbefore, rfl⟩

/-! ### Making them -/

theorem isDirectory_of_settle {made : Workspace}
    (h : w.settle path (w.makeDirectory path) = (.ok (), made)) : made.isDirectory path = true := by
  cases hmake : w.makeDirectory path with
  | ok made' =>
    rw [hmake] at h
    cases h
    obtain ⟨l, hlocate, hset⟩ := Outcome.bind_eq_ok.1 hmake
    split at hset
    · cases hset
    · next hnone =>
      cases hset
      have hchanges : Changes (fun _ => False) w (w.set l .directory) := changes_set_directory hnone
      refine isDirectory_iff_locate.2 ⟨l, hchanges.locate hlocate, get?_set_self ?_ _⟩
      rw [hnone]
      nofun
  | error e =>
    rw [hmake, settle] at h
    split at h
    · next hdirectory =>
      cases h
      exact hdirectory
    · cases h

theorem isDirectory_of_makeDirectoriesTo {depth : Nat} {made : Workspace}
    (h : makeDirectoriesTo depth w path = (.ok (), made)) : made.isDirectory path = true := by
  fun_induction makeDirectoriesTo depth w path with
  | case1 => exact isDirectory_of_settle h
  | case2 => cases h
  | case3 => exact isDirectory_of_settle h

theorem isDirectory_of_makeDirectories {made : Workspace} (h : w.makeDirectories path = (.ok (), made)) :
    made.isDirectory path = true := isDirectory_of_makeDirectoriesTo h

theorem follow_or_notFound {l : Location} {parts : List String}
    (hshort : ∀ part ∈ parts, part.utf8ByteSize ≤ maxNameLength)
    (hfree : ∀ before, before <+: parts → w.content? (before.foldl child l) = none) :
    w.follow path l parts = .ok (parts.foldl child l) ∨ w.follow path l parts = .error (.notFound path) := by
  induction parts generalizing l with
  | nil => exact .inl rfl
  | cons part parts ih =>
    rw [List.forall_mem_cons] at hshort
    have hstart := hfree [] (List.nil_prefix)
    cases hget : w.get? l with
    | none =>
      refine .inr ?_
      rw [follow, enter, hget]
      rfl
    | some entry =>
      cases entry with
      | file content =>
        rw [List.foldl_nil, content?, hget] at hstart
        cases hstart
      | directory =>
        have henter : w.enter path l part = .ok (child l part) := enter_eq_ok_iff.2 ⟨hget, hshort.1, rfl⟩
        have hfollow : w.follow path l (part :: parts) = w.follow path (child l part) parts := by
          rw [follow, henter]
          rfl
        rw [hfollow, List.foldl_cons]
        exact ih hshort.2 fun before hbefore => hfree (part :: before) ((List.prefix_cons_inj part).2 hbefore)

theorem locate_or_notFound (hlegal : path.IsLegal) (hfree : ∀ l, path.Passes l → w.content? l = none) :
    w.locate path = .ok path.location ∨ w.locate path = .error (.notFound path) := by
  have hlocate : w.locate path = w.follow path path.start path.parts := by
    rw [locate, hlegal.encodable]
    simp only
    rw [if_neg (by simpa using hlegal.text), if_neg (Nat.not_lt.2 hlegal.short)]
    rfl
  rw [hlocate]
  exact follow_or_notFound hlegal.parts fun before hbefore => hfree _ ⟨before, hbefore, rfl⟩

theorem makeDirectory_of_locate {l : Location} (hlocate : w.locate path = .ok l) :
    w.makeDirectory path =
      match w.get? l with
      | some _ => .error (.alreadyExists path)
      | none => .ok (w.set l .directory) := by
  rw [makeDirectory, hlocate]
  rfl

theorem settle_of_locate {l : Location} (hlocate : w.locate path = .ok l) (hfree : w.content? l = none) :
    w.settle path (w.makeDirectory path) = (.ok (), if w.get? l = none then w.set l .directory else w) := by
  rw [makeDirectory_of_locate hlocate]
  cases hget : w.get? l with
  | none => rfl
  | some entry =>
    cases entry with
    | file content =>
      rw [content?, hget] at hfree
      cases hfree
    | directory =>
      have hdirectory := isDirectory_iff_locate.2 ⟨l, hlocate, hget⟩
      simp [settle, hdirectory]

theorem makeDirectoriesTo_of_locate {l : Location} (hlocate : w.locate path = .ok l) (depth : Nat) :
    makeDirectoriesTo depth w path = w.settle path (w.makeDirectory path) := by
  have hmake := makeDirectory_of_locate hlocate
  cases hget : w.get? l <;> rw [hget] at hmake <;> cases depth <;> simp [makeDirectoriesTo, hmake]

theorem makeDirectoriesTo_of_notFound (h : w.locate path = .error (.notFound path)) {depth : Nat} {made : Workspace}
    (hmade : makeDirectoriesTo depth w path.parent = (.ok (), made)) :
    makeDirectoriesTo (depth + 1) w path = made.settle path (made.makeDirectory path) := by
  have hmake : w.makeDirectory path = .error (.notFound path) := by
    rw [makeDirectory, h]
    rfl
  rw [makeDirectoriesTo.eq_def]
  simp only [hmake, hmade]

theorem locate_of_parent (hlegal : path.IsLegal) (hparent : w.isDirectory path.parent = true) :
    w.locate path = .ok path.location := by
  refine locate_iff.2 ⟨hlegal, fun before hbefore hne => ?_, rfl⟩
  have habove : before <+: path.parts.dropLast := by
    obtain hnil | ⟨init, last, hparts⟩ := List.eq_nil_or_concat path.parts
    · rw [hnil, List.prefix_nil] at hbefore
      exact absurd (hbefore.trans hnil.symm) hne
    · rw [List.concat_eq_append] at hparts
      rw [hparts, List.prefix_concat_iff] at hbefore
      rw [hparts, List.dropLast_concat]
      exact hbefore.resolve_left fun heq => hne (heq.trans hparts.symm)
  exact (isDirectory_iff.1 hparent).2 _ ⟨before, habove, rfl⟩

theorem makeDirectoriesTo_eq_ok {depth : Nat} (hdepth : path.parts.length ≤ depth) (hlegal : path.IsLegal)
    (hfree : ∀ l, path.Passes l → w.content? l = none) : (makeDirectoriesTo depth w path).1 = .ok () := by
  induction depth generalizing path with
  | zero =>
    have hparts : path.parts = [] := List.length_eq_zero_iff.1 (Nat.le_zero.1 hdepth)
    have hlocate : w.locate path = .ok path.location := by
      refine locate_iff.2 ⟨hlegal, fun before hbefore hne => ?_, rfl⟩
      rw [hparts] at hbefore hne
      exact absurd (List.prefix_nil.1 hbefore) hne
    rw [makeDirectoriesTo_of_locate hlocate, settle_of_locate hlocate (hfree _ path.passes_location)]
  | succ depth ih =>
    obtain hlocate | hmissing := locate_or_notFound hlegal hfree
    · rw [makeDirectoriesTo_of_locate hlocate, settle_of_locate hlocate (hfree _ path.passes_location)]
    · have hupper : path.parent.parts.length ≤ depth := by
        rw [FilePath.parent, List.length_dropLast]
        omega
      have hupperFree (l : Location) (hl : path.parent.Passes l) : w.content? l = none :=
        hfree l (FilePath.passes_of_passes_parent hl)
      have hok := ih hupper (FilePath.legal_parent hlegal) hupperFree
      have hchanges : Changes (fun _ => False) w _ := changes_makeDirectoriesTo depth w path.parent
      cases hmade : makeDirectoriesTo depth w path.parent with
      | mk result made =>
        rw [hmade] at hok hchanges
        subst hok
        -- the directory above is there now, and still no file is in the way
        have hlocate := locate_of_parent hlegal (isDirectory_of_makeDirectoriesTo hmade)
        have hstill : made.content? path.location = none :=
          (hchanges.content _ id).trans (hfree _ path.passes_location)
        rw [makeDirectoriesTo_of_notFound hmissing hmade, settle_of_locate hlocate hstill]

/-- **The directories of a path can be made** exactly when it is legal and passes no file. -/
theorem makeDirectories_eq_ok_iff :
    (w.makeDirectories path).1 = .ok () ↔ path.IsLegal ∧ ∀ l, path.Passes l → w.content? l = none := by
  constructor
  · intro h
    have hchanges : Changes (fun _ => False) w _ := changes_makeDirectories w path
    obtain ⟨hlegal, hpasses⟩ := isDirectory_iff.1 (isDirectory_of_makeDirectories (Prod.ext h rfl))
    refine ⟨hlegal, fun l hl => ?_⟩
    rw [← hchanges.content l id]
    exact content?_of_directory (hpasses l hl)
  · rintro ⟨hlegal, hfree⟩
    exact makeDirectoriesTo_eq_ok (Nat.le_refl _) hlegal hfree

/-! ### Nothing else -/

theorem get?_settle_of_ne {l : Location} (hl : l ≠ path.location) :
    (w.settle path (w.makeDirectory path)).2.get? l = w.get? l := by
  cases hlocate : w.locate path with
  | ok m =>
    obtain rfl := location_of_locate hlocate
    rw [makeDirectory_of_locate hlocate]
    cases hget : w.get? path.location with
    | none => exact get?_set_of_ne hl w _
    | some entry =>
      simp only [settle]
      split <;> rfl
  | error e =>
    have hmake : w.makeDirectory path = .error e := by
      rw [makeDirectory, hlocate]
      rfl
    rw [hmake, settle]
    split <;> rfl

theorem get?_makeDirectoriesTo_of_not_passes {depth : Nat} {l : Location} (hl : ¬path.Passes l) :
    (makeDirectoriesTo depth w path).2.get? l = w.get? l := by
  have hself {w : Workspace} {path : FilePath} (hl : ¬path.Passes l) :
      (w.settle path (w.makeDirectory path)).2.get? l = w.get? l :=
    get?_settle_of_ne fun heq => hl (heq ▸ path.passes_location)
  fun_induction makeDirectoriesTo depth w path with
  | case1 w path _ depth _ made hmade ih =>
    have hupper := ih (mt FilePath.passes_of_passes_parent hl)
    rw [hmade] at hupper
    exact (hself hl).trans hupper
  | case2 w path _ depth _ e made hmade ih =>
    have hupper := ih (mt FilePath.passes_of_passes_parent hl)
    rw [hmade] at hupper
    exact hupper
  | case3 => exact hself hl

theorem get?_makeDirectories_iff (h : (w.makeDirectories path).1 = .ok ()) {l : Location} :
    (w.makeDirectories path).2.get? l = some .directory ↔ w.get? l = some .directory ∨ path.Passes l := by
  have hchanges : Changes (fun _ => False) w _ := changes_makeDirectories w path
  have hpasses := (isDirectory_iff.1 (isDirectory_of_makeDirectories (Prod.ext h rfl))).2
  by_cases hl : path.Passes l
  · exact iff_of_true (hpasses l hl) (.inr hl)
  · rw [makeDirectories, get?_makeDirectoriesTo_of_not_passes hl, or_iff_left hl]

/-! ### A file in them -/

theorem exists_place_iff {directory : FilePath} {made : Workspace}
    (hmade : w.makeDirectories directory = (.ok (), made))
    (hlocate : path.IsLegal → made.locate path = .ok path.location) :
    (∃ l, made.place path = .ok l) ↔
      path.IsLegal ∧ w.get? path.location ≠ some .directory ∧ ¬directory.Passes path.location := by
  have hok : (w.makeDirectories directory).1 = .ok () := by rw [hmade]
  have hthere : made.get? path.location = some .directory ↔
      w.get? path.location = some .directory ∨ directory.Passes path.location := by
    rw [← get?_makeDirectories_iff hok, hmade]
  constructor
  · rintro ⟨l, hl⟩
    obtain ⟨hlocated, rfl, hvacant⟩ := place_eq_ok hl
    rw [ne_eq, hthere, not_or] at hvacant
    exact ⟨(locate_iff.1 hlocated).1, hvacant⟩
  · rintro ⟨hlegal, hvacant⟩
    refine ⟨path.location, Outcome.bind_eq_ok.2 ⟨_, hlocate hlegal, ?_⟩⟩
    split
    · next hget => exact absurd (hthere.1 hget) (not_or.2 hvacant)
    · rfl

/-- A file can be written by a path whose directories may have to be made first: the path is legal, no file is in the
way, and its own place is no directory, nor one that is made on the way. -/
structure CanSave (w : Workspace) (path : FilePath) : Prop where
  legal : path.IsLegal
  free : ∀ l, path.parent.Passes l → w.content? l = none
  vacant : w.get? path.location ≠ some .directory
  apart : ¬path.parent.Passes path.location

theorem CanSave.makeDirectories_eq_ok (h : w.CanSave path) : (w.makeDirectories path.parent).1 = .ok () :=
  makeDirectories_eq_ok_iff.2 ⟨FilePath.legal_parent h.legal, h.free⟩

/-- Where the directories above it have been made, a file has a place as `CanSave` says. -/
theorem exists_place_iff_canSave {made : Workspace} (hmade : w.makeDirectories path.parent = (.ok (), made)) :
    (∃ l, made.place path = .ok l) ↔ w.CanSave path := by
  rw [exists_place_iff hmade fun hlegal => locate_of_parent hlegal (isDirectory_of_makeDirectories hmade)]
  constructor
  · rintro ⟨hlegal, hvacant, hapart⟩
    exact ⟨hlegal, (makeDirectories_eq_ok_iff.1 (by rw [hmade])).2, hvacant, hapart⟩
  · exact fun h => ⟨h.legal, h.vacant, h.apart⟩

end Workspace

end SearchRequest
