import SearchRequest.Proofs.Logger
import SearchRequest.Proofs.Workspace.Detours

/-!
# When a log file can be opened

A log file is opened after the directories above it have been made. `Session.openLogFile_eq_ok_iff` says of the files
as they are before that when it can be opened (`Session.CanLog`).
-/

namespace SearchRequest

/-! ### Names of files -/

namespace FilePath

theorem not_mem_of_mem_splitOn {cs part : List Char} (h : part ∈ cs.splitOn '/') : '/' ∉ part := by
  induction cs generalizing part with
  | nil =>
    rw [List.splitOn_nil, List.mem_singleton] at h
    rw [h]
    exact List.not_mem_nil
  | cons c cs ih =>
    rw [List.splitOn_cons_eq_if_modifyHead] at h
    split at h
    · obtain rfl | h := List.mem_cons.1 h
      · exact List.not_mem_nil
      · exact ih h
    · next hc =>
      obtain ⟨first, others, hsplit⟩ := List.exists_cons_of_ne_nil (List.splitOn_ne_nil '/' cs)
      rw [hsplit] at ih h
      obtain rfl | h := List.mem_cons.1 h
      · rw [List.mem_cons, not_or]
        exact ⟨fun heq => hc (by rw [← heq]; rfl), ih List.mem_cons_self⟩
      · exact ih (List.mem_cons_of_mem first h)

theorem slash_not_mem_ofString (s : String) : "/" ∉ (ofString s).parts := by
  intro h
  obtain ⟨part, hpart, hslash⟩ := List.mem_map.1 h
  have hfree := not_mem_of_mem_splitOn (List.mem_filter.1 hpart).1
  have hlist : part = ['/'] := by
    rw [← String.toList_ofList (l := part), hslash]
    rfl
  rw [hlist] at hfree
  exact hfree List.mem_cons_self

theorem slash_not_mem_join {p q : FilePath} (hp : "/" ∉ p.parts) (hq : "/" ∉ q.parts) :
    "/" ∉ (p.join q).parts := by
  rw [join]
  split
  · rw [List.mem_append, not_or]
    exact ⟨hp, hq⟩
  · exact hq

theorem ofString_of_not_mem {name : String} (h : '/' ∉ name.toList) (hempty : name ≠ "") (hdot : name ≠ ".") :
    ofString name = ⟨"", [name]⟩ := by
  have hroot : rootOf name.toList = "" := by
    cases hchars : name.toList with
    | nil => rfl
    | cons c cs =>
      rw [hchars, List.mem_cons, not_or] at h
      simp [rootOf, Ne.symm h.1]
  have hkept : (name.toList != [] && name.toList != ['.']) = true := by
    rw [Bool.and_eq_true, bne_iff_ne, bne_iff_ne]
    exact ⟨fun heq => hempty (String.toList_inj.1 heq), fun heq => hdot (String.toList_inj.1 heq)⟩
  rw [ofString, List.splitOn_eq_singleton h, hroot]
  simp only [List.filter_cons, hkept, if_true, List.filter_nil, List.map_cons, List.map_nil, String.ofList_toList]

end FilePath

namespace Calendar

theorem isDigit_of_mem_padded {width n : Nat} {c : Char} (h : c ∈ (padded width n).toList) : c.isDigit = true := by
  rw [padded, String.toList_ofList, List.mem_append] at h
  rcases h with h | h
  · rw [List.eq_of_mem_replicate h]
    decide
  · exact Nat.isDigit_of_mem_toDigits (by decide) (by decide) h

end Calendar

namespace Session

variable {s : Session} {directory action : String}

/-- The name of the log file of an action. -/
def logName (s : Session) (action : String) : String := action ++ "_" ++ s.now.fileStamp ++ ".log"

theorem slash_not_mem_logName (h : '/' ∉ action.toList) (s : Session) : '/' ∉ (s.logName action).toList := by
  have hpadded (n : Nat) : '/' ∉ (Calendar.padded 2 n).toList := by
    intro hmem
    have hdigit := Calendar.isDigit_of_mem_padded hmem
    revert hdigit
    decide
  simp only [logName, Moment.fileStamp, String.toList_append, List.mem_append, not_or]
  simp [h, hpadded]

theorem logFile_eq (h : '/' ∉ action.toList) (s : Session) (directory : String) :
    s.logFile directory action =
      ⟨(logDirectory directory action).root,
        (logDirectory directory action).collapsed.parts ++ [s.logName action]⟩ := by
  have hscore : '_' ∈ (s.logName action).toList := by
    simp [logName]
  have hne (other : String) (hother : '_' ∉ other.toList) : s.logName action ≠ other :=
    fun heq => hother (heq ▸ hscore)
  have hname := FilePath.ofString_of_not_mem (slash_not_mem_logName h s) (hne "" (by decide)) (hne "." (by decide))
  have hjoin (p : FilePath) : p.join ⟨"", [s.logName action]⟩ = ⟨p.root, p.parts ++ [s.logName action]⟩ :=
    if_pos rfl
  rw [logFile, ← logName, hname, hjoin, FilePath.collapsed, FilePath.collapsed, FilePath.collapseParts_eq_foldl,
    FilePath.collapseParts_eq_foldl, List.foldl_append, List.foldl_cons, List.foldl_nil,
    FilePath.push_of_ne (hne ".." (by decide)), List.reverse_cons]

/-- A log file can be opened: its directory and the file have legal paths, no file is in the way to the directory, and
the place of the log file is no directory, nor one that is made on the way. -/
structure CanLog (s : Session) (directory action : String) : Prop where
  legal : (logDirectory directory action).IsLegal ∧ (s.logFile directory action).IsLegal
  free : ∀ l, (logDirectory directory action).Passes l → s.files.content? l = none
  vacant : s.files.get? (s.logFile directory action).location ≠ some .directory
  apart : ¬(logDirectory directory action).Passes (s.logFile directory action).location

theorem slash_not_mem_logDirectory (directory action : String) : "/" ∉ (logDirectory directory action).parts :=
  FilePath.slash_not_mem_join (FilePath.slash_not_mem_ofString _) (FilePath.slash_not_mem_ofString _)

theorem locate_logFile (h : '/' ∉ action.toList) {w : Workspace}
    (hdirectory : w.isDirectory (logDirectory directory action) = true)
    (hlegal : (s.logFile directory action).IsLegal) :
    w.locate (s.logFile directory action) = .ok (s.logFile directory action).location := by
  refine Workspace.locate_iff.2 ⟨hlegal, fun before hbefore hne => ?_, rfl⟩
  rw [logFile_eq h] at hbefore hne ⊢
  have habove := (List.prefix_concat_iff.1 hbefore).resolve_left hne
  rw [FilePath.start_mk]
  apply (Workspace.isDirectory_iff.1 hdirectory).2
  apply FilePath.passes_of_passes_collapsed (slash_not_mem_logDirectory directory action)
  exact ⟨before, habove, by rw [FilePath.start_collapsed]⟩

theorem place_logFile_iff (h : '/' ∉ action.toList) {made : Workspace}
    (hmade : s.files.makeDirectories (logDirectory directory action) = (.ok (), made)) :
    (∃ l, made.place (s.logFile directory action) = .ok l) ↔ s.CanLog directory action := by
  rw [Workspace.exists_place_iff hmade (locate_logFile h (Workspace.isDirectory_of_makeDirectories hmade))]
  constructor
  · rintro ⟨hlegal, hvacant, hapart⟩
    obtain ⟨hdirectory, hfree⟩ := Workspace.makeDirectories_eq_ok_iff.1 (by rw [hmade])
    exact ⟨⟨hdirectory, hlegal⟩, hfree, hvacant, hapart⟩
  · exact fun hcan => ⟨hcan.legal.2, hcan.vacant, hcan.apart⟩

/-- **When a log file can be opened**, said of the files as they are before its directory is made. -/
theorem openLogFile_eq_ok_iff (h : '/' ∉ action.toList) :
    (∃ l, (s.openLogFile directory action).1 = .ok l) ↔ s.CanLog directory action := by
  rw [openLogFile]
  split
  · next e made hmade =>
    refine iff_of_false (by simp) fun hcan => ?_
    have hok := Workspace.makeDirectories_eq_ok_iff.2 ⟨hcan.legal.1, hcan.free⟩
    rw [hmade] at hok
    cases hok
  · next made hmade =>
    have hplaced := place_logFile_iff h hmade
    split
    · next e hplace =>
      rw [hplace] at hplaced
      exact iff_of_false (by simp) fun hcan => by simpa using hplaced.2 hcan
    · next l hplace => exact iff_of_true ⟨l, rfl⟩ (hplaced.1 ⟨l, hplace⟩)

end Session

end SearchRequest
