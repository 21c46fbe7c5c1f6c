import SearchRequest.Proofs.Command.Failure
import SearchRequest.Proofs.Config.Settings
import SearchRequest.Proofs.LogFile

/-!
# How a run ends

A run is answered for when all is done, or when its failure has been logged as an error and the run aborted
(`Outcome.IsAnswered`). `Command.run_answered_iff`: this is so unless a log file is asked for that cannot be opened, or
the text of the configuration has one of the few faults that are not foreseen. The logger is configured before
anything answers for failures, so one that cannot be configured breaks the run off.
-/

namespace SearchRequest

/-! ### Answers -/

/-- A failure is reported: a logger that has a console and lets errors pass has logged the message as an error, and the
run ends with the word that it was aborted. -/
inductive Outcome.Reports (message : String) : Outcome → Prop where
  | intro {s : Session} {threshold : Int} (hconsole : .console threshold ∈ s.logger.sinks)
      (hpasses : s.logger.passes LogLevel.error = true) : Reports message (.aborted (s.error message))

/-- All is done, or the failure is reported. -/
def Outcome.IsAnswered (o : Outcome) : Prop := o.ending = .done ∨ ∃ message, o.Reports message

/-- Whether a run was broken off. -/
def Ending.isBroken : Ending → Bool
  | .broken _ => true
  | _ => false

theorem Outcome.IsAnswered.isBroken_eq_false {o : Outcome} (h : o.IsAnswered) : o.ending.isBroken = false := by
  obtain hdone | ⟨message, hreports⟩ := h
  · rw [hdone]
    rfl
  · cases hreports
    rfl

theorem Outcome.not_isAnswered_broken (cause : Breakdown) (s : Session) : ¬(Outcome.broken cause s).IsAnswered :=
  fun h => Bool.noConfusion h.isBroken_eq_false

/-! ### The logger -/

theorem Logger.passes_error_of_level {logger : Logger} (h : logger.level ≤ LogLevel.debug) :
    logger.passes LogLevel.error = true := by
  have heffective : logger.effectiveLevel ≤ LogLevel.error := by
    rw [effectiveLevel]
    split
    · decide
    · exact Int.le_trans h (by decide)
  rw [passes, Bool.and_eq_true, decide_eq_true_eq, decide_eq_true_eq]
  exact ⟨by decide, heffective⟩

namespace Session

/-- The logger lets errors pass, and has a console. -/
def ShowsErrors (s : Session) : Prop :=
  (∃ threshold, .console threshold ∈ s.logger.sinks) ∧ s.logger.passes LogLevel.error = true

theorem ShowsErrors.reports {s : Session} (h : s.ShowsErrors) (message : String) :
    (Outcome.aborted (s.error message)).Reports message := by
  obtain ⟨⟨threshold, hconsole⟩, hpasses⟩ := h
  exact .intro hconsole hpasses

theorem ShowsErrors.of_logger_eq {s later : Session} (h : s.ShowsErrors) (hlogger : later.logger = s.logger) :
    later.ShowsErrors := by
  rw [ShowsErrors, hlogger]
  exact h

theorem showsErrors_of_configure {s configured : Session} {options : LoggerOptions}
    (h : s.configure options = (.ok (), configured)) : configured.ShowsErrors := by
  rw [configure] at h
  split at h
  · cases h
  · next level _ =>
    have hlevel : min LogLevel.debug level ≤ LogLevel.debug := Int.min_le_left _ _
    split at h
    · cases h
      exact ⟨⟨level, List.mem_cons_self⟩, Logger.passes_error_of_level hlevel⟩
    · split at h
      · cases h
      · cases h
        exact ⟨⟨level, List.mem_cons_self⟩, Logger.passes_error_of_level hlevel⟩

theorem configure_eq_ok_iff {s : Session} {options : LoggerOptions} {level : Int}
    (hlevel : options.consoleLevel = .ok level) :
    (s.configure options).1 = .ok () ↔
      ∀ action, options.fileAction? = some action → ∃ l, (s.openLogFile options.directory action).1 = .ok l := by
  rw [configure, hlevel]
  cases haction : options.fileAction? with
  | none => simp
  | some action =>
    cases hopened : s.openLogFile options.directory action with
    | mk result opened => cases result <;> simp [hopened]

end Session

theorem LoggerOptions.consoleLevel_congr {options : LoggerOptions} {level : String} (h : options.level = level) :
    options.consoleLevel = consoleLevel ⟨level, none, false, ""⟩ := by
  rw [consoleLevel, consoleLevel, h]

namespace Command

theorem loggerOptions_level (log : LogSettings) (work : Work) : (loggerOptions log work).level = log.level := rfl

theorem exists_consoleLevel {settings : Settings} (h : settings.WellFormed) (work : Work) :
    ∃ level, (loggerOptions settings.log work).consoleLevel = .ok level := by
  have hwords : ∀ word ∈ Config.logLevels,
      (LoggerOptions.consoleLevel ⟨word, none, false, ""⟩).toOption.isSome = true := by
    decide +kernel
  rw [LoggerOptions.consoleLevel_congr (loggerOptions_level settings.log work)]
  exact Outcome.exists_ok_of_isSome (hwords settings.log.level h.level)

theorem configure_loggerOptions_eq_ok_iff {settings : Settings} (h : settings.WellFormed) {work : Work} {s : Session} :
    (s.configure (loggerOptions settings.log work)).1 = .ok () ↔
      (settings.log.toFile = true → s.CanLog settings.log.directory work.action) := by
  obtain ⟨level, hlevel⟩ := exists_consoleLevel h work
  have haction : '/' ∉ work.action.toList := by cases work <;> decide
  have hcan := @Session.openLogFile_eq_ok_iff s settings.log.directory work.action haction
  rw [Session.configure_eq_ok_iff hlevel, fileAction?_loggerOptions]
  cases settings.log.toFile <;> simp [loggerOptions, hcan]

theorem loadFailed_isAnswered_iff {path : FilePath} {e : LoadError} {s : Session} :
    (loadFailed path e s).IsAnswered ↔ e.isReported = true := by
  rw [loadFailed]
  split
  · next hreported =>
    have hlevel : LoggerOptions.default.consoleLevel = .ok LogLevel.info := by decide +kernel
    have hok : (s.configure .default).1 = .ok () := by
      rw [Session.configure_eq_ok_iff hlevel]
      intro action haction
      cases haction
    have hconfigured : s.configure .default = (.ok (), (s.configure .default).2) := Prod.ext hok rfl
    exact iff_of_true (.inr ⟨_, (Session.showsErrors_of_configure hconfigured).reports _⟩) hreported
  · next hreported => exact iff_of_false (Outcome.not_isAnswered_broken _ _) hreported

theorem runWith_isAnswered_iff {settings : Settings} (h : settings.WellFormed) {command : Command} {s : Session} :
    (command.runWith settings s).IsAnswered ↔
      (settings.log.toFile = true → s.CanLog settings.log.directory (command.work settings).action) := by
  rw [← configure_loggerOptions_eq_ok_iff h]
  have hends := endsIn_runWith settings command s
  generalize command.runWith settings s = outcome at hends ⊢
  cases hends with
  | broken hconfigure =>
    rw [hconfigure]
    exact iff_of_false (Outcome.not_isAnswered_broken _ _) fun h => by cases h
  | @aborted e configured later hconfigure hperforms =>
    have hconfigures := Session.configures_configure s (loggerOptions settings.log (command.work settings))
    rw [hconfigure] at hconfigures ⊢
    have hlogger := (hperforms.failed hconfigures.exist).1.logger
    have hshows := (Session.showsErrors_of_configure hconfigure).of_logger_eq hlogger
    exact iff_of_true (.inr ⟨_, hshows.reports _⟩) rfl
  | done hconfigure =>
    rw [hconfigure]
    exact iff_of_true (.inl rfl) rfl

/-- **A run is answered for** unless its configuration has a fault that is not foreseen, or it wants a log file that
cannot be opened. -/
theorem run_answered_iff {files : Workspace} {now : Moment} {command : Command} {path : FilePath} :
    (command.run path (.start files now)).IsAnswered ↔
      (∀ e, Config.load files path = .error e → e.isReported = true) ∧
        ∀ settings, Config.load files path = .ok settings → settings.log.toFile = true →
          (Session.start files now).CanLog settings.log.directory (command.work settings).action := by
  cases hload : Config.load files path with
  | error e =>
    rw [run_of_load_error hload, loadFailed_isAnswered_iff]
    simp
  | ok settings =>
    rw [run_of_load_ok hload, runWith_isAnswered_iff (Config.wellFormed_of_load hload)]
    simp

/-- A file stands where the directory of the log files has to be. -/
theorem run_not_answered_for_log_file :
    let config := "log: \x7bto_file: true, dir: l\x7d\nqueries: [\x7bindex: i\x7d]\n"
    let files : Workspace :=
      ⟨[(["c.yml"], .file (Text.Utf8.encode config)), (["l"], .directory), (["l", "body"], .file [120])]⟩
    ¬(body.run (.ofString "c.yml") (.start files (Moment.ofUnixSeconds 0))).IsAnswered := by
  intro config files hanswered
  have hbroken : (body.run (.ofString "c.yml") (.start files (Moment.ofUnixSeconds 0))).ending.isBroken = true := by
    decide +kernel
  rw [hanswered.isBroken_eq_false] at hbroken
  cases hbroken

end Command

end SearchRequest
