import SearchRequest.Proofs.Command.Execute
import SearchRequest.Proofs.Output
import SearchRequest.Proofs.Text.Surrogate

/-!
# Work and runs that fail

Work ends in one of a few ways (`Command.Performs`). When it fails it has written nothing, with one exception: a text
that spells surrogates cannot be written, but the file for it has been emptied by then. So of a run with settings that
fails only what it has added to its log file is left, or that file without its content (`Command.runWith_failed`).
-/

namespace SearchRequest

/-- The writer for a file, or for the console if there is none, that holds no text yet. -/
def Writer.forPath? : Option FilePath → Writer
  | none => .console
  | some path => .file path ""

namespace Settings

/-- The place of the log file that work in a session keeps. -/
def KeepsLogIn (settings : Settings) (work : Command.Work) (s : Session) (l : Location) : Prop :=
  settings.log.toFile = true ∧ (s.logFile settings.log.directory work.action).location = l

/-- The file for the text; a blank path names none. -/
def outputPath? (settings : Settings) : Option FilePath :=
  if (Text.strip settings.output.path).isEmpty then none else some (.ofString settings.output.path)

/-- The place of the file for the text. -/
def WritesTo (settings : Settings) (l : Location) : Prop :=
  settings.outputPath?.map FilePath.location = some l

theorem writer_eq (settings : Settings) :
    Handed.ofPath settings.output.path = .writer (.forPath? settings.outputPath?) := by
  rw [Handed.ofPath, Writer.ofPath, outputPath?]
  split <;> rfl

theorem writesTo_of_outputPath? {settings : Settings} {path : FilePath} (h : settings.outputPath? = some path) :
    settings.WritesTo path.location := by
  rw [WritesTo, h, Option.map_some]

end Settings

namespace Command

/-- The work has a text, but that spells surrogates. -/
def Work.SpellsSurrogates (work : Work) (docs : List Document) : Prop :=
  ∃ text e, work.text docs = .ok text ∧ Text.plain text = .error e

theorem Work.SpellsSurrogates.not_plain {work : Work} {docs : List Document} (h : work.SpellsSurrogates docs)
    {text plain : String} (htext : work.text docs = .ok text) : Text.plain text ≠ .ok plain := by
  obtain ⟨_, _, htext', hplain⟩ := h
  rw [htext] at htext'
  cases htext'
  rw [hplain]
  nofun

/-! ### The log file -/

theorem fileAction?_loggerOptions (log : LogSettings) (work : Work) :
    (loggerOptions log work).fileAction? = if log.toFile then some work.action else none := by
  cases work <;> rfl

theorem logPlace?_eq_some_iff {settings : Settings} {work : Work} {s : Session} {l : Location} :
    s.logPlace? (loggerOptions settings.log work) = some l ↔ settings.KeepsLogIn work s l := by
  rw [Session.logPlace?, fileAction?_loggerOptions, Settings.KeepsLogIn]
  cases settings.log.toFile <;> simp [loggerOptions]

/-! ### The work -/

/-- How work ends whose text is for the console or a file. Before the text has its place there are only messages. -/
inductive Performs (docs : List Document) (work : Work) (s : Session) :
    Option FilePath → Except WorkError Unit × Session → Prop
  | unrendered {path? : Option FilePath} {e : RenderError} (htext : work.text docs = .error e)
      (entries : List (Int × String)) : Performs docs work s path? (.error (.render e), s.logged entries)
  | unshown {text : String} {e : Text.SurrogateError} (htext : work.text docs = .ok text)
      (hplain : Text.plain text = .error e) (entries : List (Int × String)) :
      Performs docs work s none (.error (.write (.surrogates e)), s.logged entries)
  | shown {text plain : String} (htext : work.text docs = .ok text) (hplain : Text.plain text = .ok plain)
      (entries : List (Int × String)) (report : String) :
      Performs docs work s none (.ok (), Session.info { s.logged entries with
        output := (s.logged entries).output ++ ControlSequence.drop plain } report)
  | unsaved {path : FilePath} {text plain : String} {e : FileError} {later : Session}
      (htext : work.text docs = .ok text) (hplain : Text.plain text = .ok plain) (entries : List (Int × String))
      (hfinal : (Writer.file path plain).finalize work.action (s.logged entries) = (.error e, later)) :
      Performs docs work s (some path) (.error (.write (.file e)), later)
  | saved {path : FilePath} {text plain : String} {later : Session}
      (htext : work.text docs = .ok text) (hplain : Text.plain text = .ok plain) (entries : List (Int × String))
      (hfinal : (Writer.file path plain).finalize work.action (s.logged entries) = (.ok (), later)) :
      Performs docs work s (some path) (.ok (), later)
  | unopened {path : FilePath} {e : FileError} {later : Session} (hspells : work.SpellsSurrogates docs)
      (entries : List (Int × String)) (hsave : (s.logged entries).save path "" = (.error e, later)) :
      Performs docs work s (some path) (.error (.write (.file e)), later)
  | emptied {path : FilePath} {e : Text.SurrogateError} {later : Session} (hspells : work.SpellsSurrogates docs)
      (entries : List (Int × String)) (hsave : (s.logged entries).save path "" = (.ok (), later)) :
      Performs docs work s (some path) (.error (.write (.surrogates e)), later)

theorem performs_perform (docs : List Document) (work : Work) (s : Session) (path? : Option FilePath) :
    Performs docs work s path? (perform docs (.writer (.forPath? path?)) work s) := by
  obtain ⟨entries, report, hexecute⟩ := execute_eq .render hand docs (.writer (.forPath? path?)) work s
  have hreport : (s.logged entries).info report = s.logged (entries ++ [(LogLevel.info, report)]) :=
    (Session.logged_append s entries [(LogLevel.info, report)]).symm
  rw [perform, hexecute]
  cases htext : work.text docs with
  | error e => exact .unrendered htext entries
  | ok text =>
    cases hplain : Text.plain text with
    | error e =>
      cases path? with
      | none =>
        simp only [hand, Writer.forPath?, Handed.write, hplain]
        exact .unshown htext hplain entries
      | some path =>
        simp only [hand, Writer.forPath?, Handed.write, hplain, Handed.finalize, hreport]
        have hspells : work.SpellsSurrogates docs := ⟨text, e, htext, hplain⟩
        cases hsave : (s.logged (entries ++ [(LogLevel.info, report)])).save path "" with
        | mk result later =>
          cases result with
          | error e => exact .unopened hspells _ hsave
          | ok => exact .emptied hspells _ hsave
    | ok plain =>
      cases path? with
      | none =>
        simp only [hand, Writer.forPath?, Handed.write, hplain, Writer.write, Handed.finalize, Writer.finalize]
        exact .shown htext hplain entries report
      | some path =>
        simp only [hand, Writer.forPath?, Handed.write, hplain, Handed.finalize, Writer.write, String.empty_append,
          hreport]
        cases hfinal : (Writer.file path plain).finalize work.action
            (s.logged (entries ++ [(LogLevel.info, report)])) with
        | mk result later =>
          cases result with
          | error e => exact .unsaved htext hplain _ hfinal
          | ok => exact .saved htext hplain _ hfinal

section

variable {docs : List Document} {work : Work} {s later : Session} {path? : Option FilePath} {e : WorkError}

theorem content_of_save_empty {path : FilePath} (h : s.save path "" = (.ok (), later)) :
    later.files.content? path.location = some [] := by
  have hempty : Text.Utf8.encode "" = [] := by decide +kernel
  rw [(Session.save_done h).2.2, hempty]

/-- Work that fails only adds to the log files, unless its text spells surrogates and is for a file: that may have
been emptied. -/
theorem Performs.failed (hexist : s.LogFilesExist) (h : Performs docs work s path? (.error e, later)) :
    Session.Touches (fun _ => True) s later ∧
      (Session.AddsTo s.LogsTo s later ∨
        ∃ path, path? = some path ∧ work.SpellsSurrogates docs ∧
          Session.Empties path.location s.LogsTo s later) := by
  have hlogged (entries : List (Int × String)) : Session.Touches (fun _ => True) s (s.logged entries) :=
    (Session.touches_logged hexist entries).mono fun _ _ => trivial
  have hadds (entries : List (Int × String)) := Session.addsTo_logged hexist entries
  cases h with
  | unrendered _ entries => exact ⟨hlogged entries, .inl (hadds entries)⟩
  | unshown _ _ entries => exact ⟨hlogged entries, .inl (hadds entries)⟩
  | unsaved _ _ entries hfinal =>
    have hend := Writer.finalize_failed hfinal
    exact ⟨(hlogged entries).trans (hend.mono fun _ => False.elim), .inl ((hadds entries).trans hend.addsTo)⟩
  | unopened _ entries hsave =>
    have hend := Session.save_failed hsave
    exact ⟨(hlogged entries).trans (hend.mono fun _ => False.elim), .inl ((hadds entries).trans hend.addsTo)⟩
  | @emptied path _ _ hspells entries hsave =>
    obtain ⟨hend, -⟩ := Session.save_done hsave
    have hempties : Session.Empties path.location s.LogsTo (s.logged entries) later :=
      ⟨hend.output, ⟨[], content_of_save_empty hsave, fun _ => rfl⟩, fun l hl => .inl (hend.files.content l hl)⟩
    exact ⟨(hlogged entries).trans (hend.mono fun _ _ => trivial),
      .inr ⟨path, rfl, hspells, .of_addsTo (hadds entries) hempties⟩⟩

theorem Performs.empties (hexist : s.LogFilesExist) (hnone : ∀ l, ¬s.LogsTo l) (hspells : work.SpellsSurrogates docs)
    {path : FilePath} (hcan : s.files.CanSave path) {result : Except WorkError Unit}
    (h : Performs docs work s (some path) (result, later)) : later.files.content? path.location = some [] := by
  cases h with
  | unrendered hfails =>
    obtain ⟨_, _, htext, -⟩ := hspells
    rw [htext] at hfails
    cases hfails
  | unsaved htext hplain => exact absurd hplain (hspells.not_plain htext)
  | saved htext hplain => exact absurd hplain (hspells.not_plain htext)
  | unopened _ entries hsave =>
    rw [← Session.files_logged hexist hnone entries] at hcan
    have hok : ((s.logged entries).save path "").1 = .ok () := Session.save_eq_ok_iff.2 hcan
    rw [hsave] at hok
    cases hok
  | emptied _ _ hsave => exact content_of_save_empty hsave

end

/-! ### Endings -/

/-- How a run with settings ends: the logger cannot be configured, or the work fails, or all is done. -/
inductive EndsIn (settings : Settings) (command : Command) (s : Session) : Outcome → Prop where
  | broken {e : LoggerError} {configured : Session}
      (hconfigure : s.configure (loggerOptions settings.log (command.work settings)) = (.error e, configured)) :
      EndsIn settings command s (.broken (.logger e) configured)
  | aborted {e : WorkError} {configured later : Session}
      (hconfigure : s.configure (loggerOptions settings.log (command.work settings)) = (.ok (), configured))
      (hperforms : Performs settings.documents (command.work settings) configured settings.outputPath?
        (.error e, later)) :
      EndsIn settings command s (.aborted (later.error e.message))
  | done {configured later : Session}
      (hconfigure : s.configure (loggerOptions settings.log (command.work settings)) = (.ok (), configured))
      (hperforms : Performs settings.documents (command.work settings) configured settings.outputPath?
        (.ok (), later)) :
      EndsIn settings command s (.done later)

theorem endsIn_runWith (settings : Settings) (command : Command) (s : Session) :
    EndsIn settings command s (command.runWith settings s) := by
  rw [runWith]
  split
  · next e configured hconfigure => exact .broken hconfigure
  · next configured hconfigure =>
    have hperforms := performs_perform settings.documents (command.work settings) configured settings.outputPath?
    rw [← settings.writer_eq] at hperforms
    split
    · next e later hperform =>
      rw [hperform] at hperforms
      exact .aborted hconfigure hperforms
    · next later hperform =>
      rw [hperform] at hperforms
      exact .done hconfigure hperforms

theorem addsTo_aborted {places : Location → Prop} {s later : Session} (h : Session.AddsTo places s later) :
    Session.AddsTo places s (Outcome.aborted later).session := ⟨h.output, h.files, h.grows⟩

theorem empties_aborted {m : Location} {places : Location → Prop} {s later : Session}
    (h : Session.Empties m places s later) : Session.Empties m places s (Outcome.aborted later).session :=
  ⟨h.output, h.emptied, h.others⟩

/-- Of a run with settings that fails, only what it has added to its log file is left, or it has emptied the file for
a text that spells surrogates. -/
theorem runWith_failed {settings : Settings} {command : Command} {s : Session}
    (h : (command.runWith settings s).exit ≠ 0) :
    Session.AddsTo (settings.KeepsLogIn (command.work settings) s) s (command.runWith settings s).session ∨
      ∃ m, settings.WritesTo m ∧ (command.work settings).SpellsSurrogates settings.documents ∧
        Session.Empties m (settings.KeepsLogIn (command.work settings) s) s
          (command.runWith settings s).session := by
  have hconfigures := Session.configures_configure s (loggerOptions settings.log (command.work settings))
  have hadds := (Session.addsTo_configure s (loggerOptions settings.log (command.work settings))).mono
    fun l hl => logPlace?_eq_some_iff.1 hl
  have hends := endsIn_runWith settings command s
  generalize command.runWith settings s = outcome at h hends ⊢
  cases hends with
  | broken hconfigure =>
    rw [hconfigure] at hadds
    exact .inl hadds
  | @aborted e configured later hconfigure hperforms =>
    rw [hconfigure] at hconfigures hadds
    have hplaces (l : Location) (hl : configured.LogsTo l) : settings.KeepsLogIn (command.work settings) s l :=
      logPlace?_eq_some_iff.1 (hconfigures.logsTo l hl)
    obtain ⟨htouches, hleft⟩ := hperforms.failed hconfigures.exist
    have htold := Session.addsTo_tell (htouches.logFilesExist hconfigures.exist) LogLevel.error e.message
    rw [htouches.logsTo_eq] at htold
    rcases hleft with hwork | ⟨path, hpath, hspells, hempties⟩
    · exact .inl (addsTo_aborted (hadds.trans ((hwork.trans htold).mono hplaces)))
    · have hemptied := hempties.addsTo htold
      exact .inr ⟨path.location, Settings.writesTo_of_outputPath? hpath, hspells,
        empties_aborted (.of_addsTo hadds (hemptied.mono hplaces))⟩
  | done => exact absurd rfl h

theorem loadFailed_adds (path : FilePath) (e : LoadError) (s : Session) :
    Session.AddsTo (fun _ => False) s (loadFailed path e s).session := by
  have hconfigures := Session.configures_configure s .default
  have hadds := Session.addsTo_configure s .default
  have htold := Session.addsTo_tell hconfigures.exist LogLevel.error
    ("Config load failed (" ++ path.text ++ "): " ++ e.message)
  have hnone (l : Location) : s.logPlace? .default ≠ some l := nofun
  rw [loadFailed]
  split
  · have hreported := htold.mono fun l hl => hnone l (hconfigures.logsTo l hl)
    exact addsTo_aborted ((hadds.mono hnone).trans hreported)
  · exact .refl s

section

variable {files : Workspace} {now : Moment} {command : Command} {path : FilePath}

theorem run_of_load_error {e : LoadError} (hload : Config.load files path = .error e) :
    command.run path (.start files now) = loadFailed path e (.start files now) := by
  simp only [run, Session.start, hload]

theorem run_of_load_ok {settings : Settings} (hload : Config.load files path = .ok settings) :
    command.run path (.start files now) = command.runWith settings (.start files now) := by
  simp only [run, Session.start, hload]

theorem output_run (h : (command.run path (.start files now)).exit ≠ 0) :
    (command.run path (.start files now)).session.output = "" := by
  cases hload : Config.load files path with
  | error e =>
    rw [run_of_load_error hload]
    exact (loadFailed_adds path e (.start files now)).output
  | ok settings =>
    rw [run_of_load_ok hload] at h ⊢
    rcases runWith_failed h with hadds | ⟨_, _, _, hempties⟩
    · exact hadds.output
    · exact hempties.output

end

end Command

end SearchRequest
