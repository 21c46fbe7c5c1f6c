import SearchRequest.Proofs.Command.Ending

/-!
# What a run that fails leaves behind

Nothing is on the output, and the files are as they were, but for what has been added to the log file that the settings
ask for. One failure comes too late for that: a text that spells surrogates is found out only when the file for it has
been opened, so that file is left empty (`Command.run_failed`).
-/

namespace SearchRequest

/-- The file at a place is for a text that spells surrogates. -/
def Settings.Spoils (settings : Settings) (work : Command.Work) (l : Location) : Prop :=
  settings.WritesTo l ∧ work.SpellsSurrogates settings.documents

theorem Session.files_configure {s : Session} {options : LoggerOptions} (h : options.fileAction? = none) :
    (s.configure options).2.files = s.files := by
  rw [configure, h]
  split <;> rfl

namespace Command

section

variable {files : Workspace} {now : Moment} {command : Command} {path : FilePath} {settings : Settings}

theorem runWith_spoils {s : Session} (hwell : settings.WellFormed) (hfile : settings.log.toFile = false)
    {output : FilePath} (hpath : settings.outputPath? = some output)
    (hspells : (command.work settings).SpellsSurrogates settings.documents) (hcan : s.files.CanSave output) :
    (command.runWith settings s).session.files.content? output.location = some [] := by
  have hconfigures := Session.configures_configure s (loggerOptions settings.log (command.work settings))
  have hfiles : (s.configure (loggerOptions settings.log (command.work settings))).2.files = s.files :=
    Session.files_configure (by rw [fileAction?_loggerOptions, hfile]; rfl)
  have hends := endsIn_runWith settings command s
  generalize command.runWith settings s = outcome at hends ⊢
  have hnone (l : Location) (hlogs : (s.configure (loggerOptions settings.log (command.work settings))).2.LogsTo l) :
      False := by
    have hkeeps := (logPlace?_eq_some_iff.1 (hconfigures.logsTo l hlogs)).1
    rw [hfile] at hkeeps
    cases hkeeps
  cases hends with
  | broken hconfigure =>
    have hok : (s.configure (loggerOptions settings.log (command.work settings))).1 = .ok () :=
      (configure_loggerOptions_eq_ok_iff hwell).2 fun h => by
        rw [hfile] at h
        cases h
    rw [hconfigure] at hok
    cases hok
  | @aborted e configured later hconfigure hperforms =>
    rw [hconfigure] at hconfigures hfiles hnone
    have hlogger := (hperforms.failed hconfigures.exist).1
    rw [hpath] at hperforms
    have hemptied := hperforms.empties hconfigures.exist hnone hspells (hfiles ▸ hcan)
    -- without a log file the message of the failure goes to the console only
    have htold := Session.files_tell (by rwa [hlogger.logsTo_eq]) LogLevel.error e.message
    exact (congrArg (Workspace.content? · output.location) htold).trans hemptied
  | done hconfigure hperforms =>
    rw [hconfigure] at hconfigures hfiles hnone
    rw [hpath] at hperforms
    exact hperforms.empties hconfigures.exist hnone hspells (hfiles ▸ hcan)

/-- **What a run that fails leaves behind.** Nothing is on the output, and every file is as it was, but that the log
file may have been added to, and that the file for a text that spells surrogates may have been emptied. The latter has
been emptied where no log file is kept and the file can be saved. -/
theorem run_failed (h : (command.run path (.start files now)).exit ≠ 0) :
    let later := (command.run path (.start files now)).session
    later.output = "" ∧
    (∀ l, later.files.content? l = files.content? l ∨ ∃ settings, Config.load files path = .ok settings ∧
      (settings.KeepsLogIn (command.work settings) (.start files now) l ∧
          (∃ more, later.files.content? l = some ((files.content? l).getD [] ++ more)) ∨
        settings.Spoils (command.work settings) l ∧
          (¬settings.KeepsLogIn (command.work settings) (.start files now) l →
            later.files.content? l = some []))) ∧
    ∀ settings output, Config.load files path = .ok settings → settings.log.toFile = false →
      settings.outputPath? = some output → settings.Spoils (command.work settings) output.location →
      files.CanSave output → later.files.content? output.location = some [] := by
  refine ⟨output_run h, ?_, fun settings output hload hfile hpath hspoils hcan => ?_⟩
  · cases hload : Config.load files path with
    | error e =>
      have hadds := loadFailed_adds path e (.start files now)
      rw [← run_of_load_error hload] at hadds
      exact fun l => .inl (hadds.files.content l id)
    | ok settings =>
      rw [run_of_load_ok hload] at h ⊢
      intro l
      obtain hadds | ⟨m, hwrites, hspells, hempties⟩ := runWith_failed h
      · exact (hadds.content l).imp_right fun hl => ⟨settings, rfl, .inl hl⟩
      · by_cases hm : l = m
        · subst hm
          obtain ⟨more, hmore, hnone⟩ := hempties.emptied
          exact .inr ⟨settings, rfl, .inr ⟨⟨hwrites, hspells⟩, fun hkeeps => by rw [hmore, hnone hkeeps]⟩⟩
        · exact (hempties.others l hm).imp_right fun hl => ⟨settings, rfl, .inl hl⟩
  · rw [run_of_load_ok hload]
    exact runWith_spoils (Config.wellFormed_of_load hload) hfile hpath hspoils.2 hcan

end

/-- An item whose code no operator has, a file that the text would have replaced, and a log file. -/
theorem run_failed_by_unknown_code :
    let config := "queries:\n- index: a\n  must:\n  - \x7bfield: f, type: 42, value: 1\x7d\n" ++
      "output:\n  path: x\nlog:\n  to_file: true\n"
    let files : Workspace := ⟨[(["c"], .file (Text.Utf8.encode config)), (["x"], .file [120])]⟩
    let now := Moment.ofUnixSeconds 0
    let outcome := render.run (.ofString "c") (.start files now)
    outcome.exit ≠ 0 ∧ outcome.session.output = "" ∧
      ∀ l, outcome.session.files.content? l = files.content? l ∨
        ∃ settings, Config.load files (.ofString "c") = .ok settings ∧
          settings.KeepsLogIn (render.work settings) (.start files now) l ∧
          ∃ more, outcome.session.files.content? l = some ((files.content? l).getD [] ++ more) := by
  intro config files now outcome
  have hexit : outcome.exit ≠ 0 := by decide +kernel
  have hunrendered : (Config.load files (.ofString "c")).toOption.all (fun settings =>
      ((render.work settings).text settings.documents).toOption.isNone) = true := by
    decide +kernel
  obtain ⟨hsilent, hfiles, -⟩ := run_failed hexit
  refine ⟨hexit, hsilent, fun l => (hfiles l).imp_right ?_⟩
  rintro ⟨settings, hload, hkeeps | ⟨⟨-, text, e, htext, -⟩, -⟩⟩
  · exact ⟨settings, hload, hkeeps⟩
  · rw [hload] at hunrendered
    simp [Except.toOption, htext] at hunrendered

/-- The name of an index is a surrogate, and an older file stands where the text is to go. -/
theorem run_failed_emptying :
    let config := "queries: [\x7bindex: \"\\ud800\"\x7d]\noutput: \x7bpath: o\x7d\n"
    let files : Workspace := ⟨[(["c.yml"], .file (Text.Utf8.encode config)), (["o"], .file [111, 108, 100])]⟩
    let outcome := msearch.run (.ofString "c.yml") (.start files (Moment.ofUnixSeconds 0))
    outcome.exit ≠ 0 ∧ files.content? ["o"] = some [111, 108, 100] ∧
      outcome.session.files.content? ["o"] = some [] := by
  decide +kernel

end Command

end SearchRequest
