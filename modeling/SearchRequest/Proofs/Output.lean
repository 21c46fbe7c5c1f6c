import SearchRequest.Output
import SearchRequest.Proofs.Logger
import SearchRequest.Proofs.Workspace.Directories

/-!
# Where text ends up

Text without an escape character has no control sequences, so the console shows it as it is. A text is saved if the
file for it can be (`Session.save_eq_ok_iff`), which is when the work is finished: the file then holds the text that the
writer was handed, and reading it gives the text back as long as it is no log file (`Writer.finalize_file`). If that
fails no file is touched (`Writer.finalize_failed`).
-/

namespace SearchRequest

/-! ### The console -/

namespace ControlSequence

theorem after?_of_ne {c : Char} (h : c ≠ '\x1b') (cs : List Char) : after? (c :: cs) = none := by
  rw [after?]
  rintro rest heq
  exact h (List.cons.inj heq).1

theorem dropFrom_eq_self {cs : List Char} (h : '\x1b' ∉ cs) (fuel : Nat) : dropFrom fuel cs = cs := by
  induction fuel generalizing cs with
  | zero => rfl
  | succ fuel ih =>
    cases cs with
    | nil => rfl
    | cons c cs =>
      rw [List.mem_cons, not_or] at h
      rw [dropFrom, after?_of_ne (Ne.symm h.1)]
      simp only [ih h.2]

theorem drop_eq_self {s : String} (h : '\x1b' ∉ s.toList) : drop s = s := by
  rw [drop, dropFrom_eq_self h, String.ofList_toList]

end ControlSequence

/-! ### Files -/

namespace Session

variable {path : FilePath} {text : String} {s later : Session}

theorem save_eq_ok_iff : (s.save path text).1 = .ok () ↔ s.files.CanSave path := by
  rw [save]
  split
  · next e files hmade =>
    refine iff_of_false nofun fun hcan => ?_
    have hok := hcan.makeDirectories_eq_ok
    rw [hmade] at hok
    cases hok
  · next files hmade =>
    rw [← Workspace.exists_place_iff_canSave hmade]
    split
    · next e hwrite =>
      refine iff_of_false nofun ?_
      rintro ⟨l, hplace⟩
      rw [Workspace.write, hplace] at hwrite
      cases hwrite
    · next written hwrite =>
      obtain ⟨l, hplace, -⟩ := Outcome.bind_eq_ok.1 hwrite
      exact iff_of_true rfl ⟨l, hplace⟩

theorem save_done (h : s.save path text = (.ok (), later)) :
    Touches (· = path.location) s later ∧ later.files.locate path = .ok path.location ∧
      later.files.content? path.location = some (Text.Utf8.encode text) := by
  have hdirectories : Workspace.Changes (· = path.location) s.files _ :=
    Workspace.changes_makeDirectories s.files path.parent
  rw [save] at h
  split at h
  · cases h
  · next files hmade =>
    rw [hmade] at hdirectories
    split at h
    · cases h
    · next written hwritten =>
      cases h
      obtain ⟨hchanges, hlocate, hcontent⟩ := Workspace.write_eq_ok hwritten
      exact ⟨⟨rfl, rfl, hdirectories.trans hchanges⟩, hlocate, hcontent⟩

theorem save_failed {e : FileError} (h : s.save path text = (.error e, later)) : Touches (fun _ => False) s later := by
  have hdirectories : Workspace.Changes (fun _ => False) s.files _ :=
    Workspace.changes_makeDirectories s.files path.parent
  rw [save] at h
  split at h
  · next files hmade =>
    cases h
    rw [hmade] at hdirectories
    exact ⟨rfl, rfl, hdirectories⟩
  · next files hmade =>
    rw [hmade] at hdirectories
    split at h
    · cases h
      exact ⟨rfl, rfl, hdirectories⟩
    · cases h

end Session

namespace Writer

/-- **When an action can be ended** with a file for its text. -/
theorem finalize_eq_ok_iff {path : FilePath} {held action : String} {s : Session} :
    ((Writer.file path held).finalize action s).1 = .ok () ↔ s.files.CanSave path := by
  rw [← @Session.save_eq_ok_iff path held, finalize]
  split
  · next hsave => rw [hsave]
  · next hsave => rw [hsave]

theorem finalize_file {s later : Session} (hexist : s.LogFilesExist) {path : FilePath} {held action : String}
    {result : Except FileError Unit} (h : (Writer.file path held).finalize action s = (result, later)) :
    Session.Touches (fun l => l = path.location ∨ s.LogsTo l) s later ∧
      (result = .ok () → ¬s.LogsTo path.location → later.files.read path = .ok (Text.Utf8.encode held)) := by
  rw [finalize] at h
  split at h
  · next hsave =>
    cases h
    exact ⟨(Session.save_failed hsave).mono fun _ => False.elim, nofun⟩
  · next saved hsave =>
    cases h
    obtain ⟨htouches, hlocate, hcontent⟩ := Session.save_done hsave
    -- the message that reports the file comes after it, and may go to a log file
    have hlogs := Session.touches_tell (htouches.logFilesExist hexist) LogLevel.info
      (action ++ " output saved to " ++ path.text)
    rw [htouches.logsTo_eq] at hlogs
    exact ⟨(htouches.mono fun l hl => .inl hl).trans (hlogs.mono fun l hl => .inr hl),
      fun _ hlog => hlogs.files.read hlocate hcontent hlog⟩

theorem finalize_failed {w : Writer} {action : String} {s later : Session} {e : FileError}
    (h : w.finalize action s = (.error e, later)) : Session.Touches (fun _ => False) s later := by
  cases w with
  | console => cases h
  | file path held =>
    rw [finalize] at h
    split at h
    · next hsave =>
      cases h
      exact Session.save_failed hsave
    · cases h

end Writer

end SearchRequest
