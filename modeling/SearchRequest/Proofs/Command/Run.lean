import SearchRequest.Proofs.Command.Failure
import SearchRequest.Proofs.Config.Settings

/-!
# What a run leaves behind

A command that succeeds has brought the text of its work to one place, and to no other: to the output, or into the
file that the settings name (`Settings.Delivers`). Each stage of a run has a lemma that says what it adds to that:
configuring the logger, the work, and the end of the writer. Of the other files only the log file may change, and
a command that fails leaves nothing on the output.
-/

namespace SearchRequest

namespace Settings

/-- What the text spells, which are characters, is on the output, or it is the whole content of the file for it, with
nothing on the output. -/
inductive Delivers (settings : Settings) (text : String) (s : Session) : Prop where
  | shown (hpath : settings.outputPath? = none) (h : Text.plain text = .ok s.output)
  | saved {path : FilePath} {plain : String} (hpath : settings.outputPath? = some path) (hsilent : s.output = "")
      (hplain : Text.plain text = .ok plain) (hread : s.files.read path = .ok (Text.Utf8.encode plain))

end Settings

namespace Command

/-! ### Texts -/

theorem exists_lines_of_text {work : Work} {docs : List Document} {text : String}
    (h : work.text docs = .ok text) :
    ∃ lines, Batch.joinLines lines = text ∧ ∀ line ∈ lines, Json.NoControl line.toList := by
  have hfault : Outcome.fault? (Batch.render docs) = none := by
    rw [Batch.fault?_render, ← fault?_text work, h, Outcome.fault?_ok]
  obtain ⟨batch, hbatch⟩ := Outcome.fault?_eq_none_iff.1 hfault
  obtain ⟨requests, hall, rfl⟩ := Batch.render_eq_ok_iff.1 hbatch
  have hproper := Batch.proper_of_sends hall
  cases work with
  | bodies =>
    rw [Work.text, Batch.bodies_of_sends hall] at h
    cases h
    refine ⟨_, rfl, fun line hline => ?_⟩
    obtain ⟨request, hrequest, rfl⟩ := List.mem_map.1 hline
    rw [String.toList_ofList]
    exact Json.noControl_render (hproper request hrequest)
  | batch =>
    rw [Work.text, hbatch] at h
    cases h
    refine ⟨_, rfl, fun line hline => ?_⟩
    obtain ⟨request, hrequest, hmem⟩ := List.mem_flatMap.1 hline
    exact Batch.noControl_requestLines (hproper request hrequest) line hmem

theorem drop_text {work : Work} {docs : List Document} {text plain : String} (h : work.text docs = .ok text)
    (hplain : Text.plain text = .ok plain) : ControlSequence.drop plain = plain := by
  obtain ⟨lines, rfl, hlines⟩ := exists_lines_of_text h
  refine ControlSequence.drop_eq_self fun hescape => ?_
  replace hescape := Text.mem_of_mem_plain hplain hescape
  rw [Batch.joinLines, String.toList_join, List.mem_flatMap] at hescape
  obtain ⟨_, hmem, hescape⟩ := hescape
  obtain ⟨line, hline, rfl⟩ := List.mem_map.1 hmem
  rw [String.toList_append, List.mem_append] at hescape
  rcases hescape with hescape | hescape
  · exact absurd (hlines line hline _ hescape) (by decide)
  · exact absurd hescape (by decide)

/-! ### The work -/

section

variable {settings : Settings} {work : Work} {s later : Session}

theorem Performs.done (hexist : s.LogFilesExist) (houtput : s.output = "")
    (hlog : ∀ l, settings.WritesTo l → ¬s.LogsTo l)
    (h : Performs settings.documents work s settings.outputPath? (.ok (), later)) :
    Workspace.Changes (fun l => settings.WritesTo l ∨ s.LogsTo l) s.files later.files ∧
      ∃ text, work.text settings.documents = .ok text ∧ settings.Delivers text later := by
  have hlogged (entries : List (Int × String)) := Session.touches_logged hexist entries
  generalize hpath : settings.outputPath? = path? at h
  cases h with
  | @shown text plain htext hplain entries report =>
    let shown : Session := { s.logged entries with output := (s.logged entries).output ++ ControlSequence.drop plain }
    have hshown : shown.LogFilesExist := (hlogged entries).logFilesExist hexist
    have hreport : Session.Touches (s.logged entries).LogsTo shown (shown.info report) :=
      Session.touches_tell hshown LogLevel.info report
    rw [(hlogged entries).logsTo_eq] at hreport
    have hends : (shown.info report).output = plain := by
      calc (shown.info report).output = (s.logged entries).output ++ ControlSequence.drop plain := hreport.output
        _ = plain := by rw [(hlogged entries).output, houtput, drop_text htext hplain, String.empty_append]
    exact ⟨((hlogged entries).files.trans hreport.files).mono fun l hl => .inr hl, text, htext,
      .shown hpath (hplain.trans (congrArg Except.ok hends.symm))⟩
  | @saved path text plain _ htext hplain entries hfinal =>
    obtain ⟨htouches, hread⟩ := Writer.finalize_file ((hlogged entries).logFilesExist hexist) hfinal
    rw [(hlogged entries).logsTo_eq] at htouches hread
    have hplace := Settings.writesTo_of_outputPath? hpath
    have hwhole := ((hlogged entries).mono fun l hl => .inr hl).trans htouches
    exact ⟨hwhole.files.mono fun l hl => hl.imp_left (by rintro rfl; exact hplace), text, htext,
      .saved hpath (hwhole.output.trans houtput) hplain (hread rfl (hlog _ hplace))⟩

end

/-! ### Runs -/

end Command

end SearchRequest
