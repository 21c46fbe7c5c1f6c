import SearchRequest.Proofs.Logger.Run

/-!
# From which level on messages are written

A word selects the level from which on messages are printed (`LogLevel.Selects`). The logger itself passes everything
that the console or the log file takes, with one exception: `NOTSET` gives the logger no level of its own, and that of
its surroundings holds.
-/

namespace SearchRequest

/-! ### Words -/

namespace LogLevel

/-- A word selects the level that it names, in upper or lower case, and that of information where it names none. -/
def Selects (word : String) (level : Int) : Prop :=
  (Text.upper word, level) ∈ names ∨ level = info ∧ ∀ entry ∈ names, entry.1 ≠ Text.upper word

/-- The level from which on messages are written where they are wanted from a level on, if the console has a threshold.
A threshold of zero leaves the choice to the surroundings. -/
def writtenFrom (threshold wanted : Int) : Int := if threshold = 0 then Logger.surroundingLevel else wanted

theorem Selects.eq_zero_or_debug_le {word : String} {level : Int} (h : Selects word level) :
    level = 0 ∨ debug ≤ level := by
  have hnames : ∀ entry ∈ names, entry.2 = 0 ∨ debug ≤ entry.2 := by decide
  obtain hnamed | ⟨rfl, -⟩ := h
  · exact hnames _ hnamed
  · exact .inr (by decide)

end LogLevel

theorem LoggerOptions.selects_of_consoleLevel {options : LoggerOptions} {threshold : Int}
    (h : options.consoleLevel = .ok threshold) : LogLevel.Selects options.level threshold := by
  by_cases hempty : options.level = ""
  · rw [consoleLevel, hempty] at h
    have hinfo : threshold = LogLevel.info := (Except.ok.inj h).symm
    rw [hempty, hinfo]
    exact .inr ⟨rfl, by decide⟩
  · have hword : (if options.level.isEmpty then "INFO" else options.level) = options.level :=
      if_neg (by rwa [String.isEmpty_iff])
    rw [consoleLevel, hword] at h
    split at h
    · cases h
    · split at h
      · cases h
      · split at h
        · next name level hfound =>
          cases h
          have hname := List.find?_some hfound
          rw [beq_iff_eq] at hname
          rw [LogLevel.Selects, ← hname]
          exact .inl (List.mem_of_find?_eq_some hfound)
        · next hnone =>
          cases h
          exact .inr ⟨rfl, fun entry hentry heq => by simpa [heq] using List.find?_eq_none.1 hnone entry hentry⟩

/-! ### Messages -/

namespace LogConfiguration

variable {c : LogConfiguration} {threshold : Int}

theorem effectiveLevel_logger (h : threshold = 0 ∨ LogLevel.debug ≤ threshold) :
    (c.logger threshold).effectiveLevel = LogLevel.writtenFrom threshold LogLevel.debug := by
  obtain rfl | h := h
  · rfl
  · have hlevel : (c.logger threshold).level = LogLevel.debug := Int.min_eq_left h
    have hpositive : LogLevel.debug ≠ 0 := by decide
    have hthreshold : threshold ≠ 0 := by
      rw [LogLevel.debug] at h
      omega
    rw [Logger.effectiveLevel, hlevel, if_neg hpositive, LogLevel.writtenFrom, if_neg hthreshold]

theorem passes_iff (h : threshold = 0 ∨ LogLevel.debug ≤ threshold) (level : Int) :
    (c.logger threshold).passes level = true ↔ LogLevel.writtenFrom threshold LogLevel.debug ≤ level := by
  rw [Logger.passes, effectiveLevel_logger h, Bool.and_eq_true, decide_eq_true_eq, decide_eq_true_eq]
  have hpositive : 0 < LogLevel.writtenFrom threshold LogLevel.debug := by
    rw [LogLevel.writtenFrom]
    split <;> decide
  omega

end LogConfiguration

namespace Session

variable {s : Session} {c : LogConfiguration} {threshold : Int}

theorem log_eq (hthreshold : threshold = 0 ∨ LogLevel.debug ≤ threshold) (hlogger : s.logger = c.logger threshold)
    (level : Int) (text : String) :
    (s.log level text).messages =
        s.messages ++ (if LogLevel.writtenFrom threshold threshold ≤ level then s.now.line level text else "") ∧
      (s.log level text).files =
        if LogLevel.writtenFrom threshold LogLevel.debug ≤ level then
          c.place?.elim s.files fun l => s.files.append l (Text.Utf8.encode (s.now.line level text))
        else s.files := by
  have hpasses := LogConfiguration.passes_iff (c := c) hthreshold level
  have hprinted : LogLevel.writtenFrom threshold threshold ≤ level ↔
      (c.logger threshold).passes level = true ∧ threshold ≤ level := by
    rw [hpasses]
    simp only [LogLevel.writtenFrom, Logger.surroundingLevel, LogLevel.warning, LogLevel.debug] at hthreshold ⊢
    split <;> omega
  have hcopied (h : (c.logger threshold).passes level = true) : LogLevel.debug ≤ level := by
    have hreached := hpasses.1 h
    simp only [LogLevel.writtenFrom, Logger.surroundingLevel, LogLevel.warning, LogLevel.debug] at hreached ⊢
    split at hreached <;> omega
  simp only [hprinted, ← hpasses]
  rw [log, hlogger]
  by_cases hpass : (c.logger threshold).passes level = true
  · simp only [hpass, true_and]
    have hsinks : (c.logger threshold).sinks = c.sinks threshold := rfl
    rw [hsinks, LogConfiguration.sinks, List.foldl_cons]
    have hline : s.line level text = s.now.line level text := rfl
    cases c.place? with
    | none =>
      by_cases hconsole : threshold ≤ level <;>
        simp [deliver, hconsole, hline]
    | some l =>
      by_cases hconsole : threshold ≤ level <;>
        simp [deliver, hconsole, hcopied hpass, hline]
  · simp [hpass]

/-- **What a configured logger writes for a message**: its line to the console, and to the log file where it has one. -/
theorem Stands.log_eq (h : s.Stands (some c)) :
    ∃ threshold, c.options.consoleLevel = .ok threshold ∧ ∀ (now : Moment) (level : Int) (text : String),
      ((s.atMoment now).log level text).messages =
          s.messages ++ (if LogLevel.writtenFrom threshold threshold ≤ level then now.line level text else "") ∧
        ∀ l, ((s.atMoment now).log level text).files.held l =
          s.files.held l ++
            if c.place? = some l ∧ LogLevel.writtenFrom threshold LogLevel.debug ≤ level then
              Text.Utf8.encode (now.line level text)
            else [] := by
  obtain ⟨threshold, hthreshold, hlogger, hexist⟩ := h
  have hselects := LoggerOptions.selects_of_consoleLevel hthreshold
  refine ⟨threshold, hthreshold, fun now level text => ?_⟩
  obtain ⟨hmessages, hfiles⟩ :=
    Session.log_eq (s := s.atMoment now) hselects.eq_zero_or_debug_le hlogger level text
  refine ⟨hmessages, fun l => ?_⟩
  rw [hfiles]
  by_cases hlevel : LogLevel.writtenFrom threshold LogLevel.debug ≤ level
  · simp only [hlevel, and_true, if_true]
    cases hplace : c.place? with
    | none => exact (List.append_nil _).symm
    | some place =>
      have hfile := hexist.not_directory (logsTo_of_place? hlogger hplace)
      simp only [Option.elim_some, Option.some.injEq]
      exact (Workspace.adds_append hfile _).held l
  · simp only [hlevel, and_false, if_false, List.append_nil]
    rfl

/-- **From which level on messages are written**, after any run: to the console from the level on that the word of the
latest configuration selects, and to its log file from the level for debugging on. Where the word takes away the level
of the logger, both start at the level of the surroundings. -/
theorem run_writes_from {files : Workspace} {start : Moment} {calls : List LogCall} {s : Session}
    {c : LogConfiguration} (hrun : (Session.start files start).run calls = .ok s)
    (hlatest : LogCall.latest none calls = some c) :
    ∃ threshold, LogLevel.Selects c.options.level threshold ∧ ∀ (now : Moment) (level : Int) (text : String),
      ((s.atMoment now).log level text).messages =
          s.messages ++
            (if (if threshold = 0 then Logger.surroundingLevel else threshold) ≤ level then now.line level text
              else "") ∧
        ∀ action, c.options.WantsFile action →
          ((s.atMoment now).log level text).files.held (logPlace c.options.directory action c.now.fileStamp) =
            s.files.held (logPlace c.options.directory action c.now.fileStamp) ++
              if (if threshold = 0 then Logger.surroundingLevel else LogLevel.debug) ≤ level then
                Text.Utf8.encode (now.line level text)
              else [] := by
  have hstands := stands_run (stands_start files start) hrun
  rw [hlatest] at hstands
  obtain ⟨threshold, hthreshold, hlog⟩ := hstands.log_eq
  refine ⟨threshold, LoggerOptions.selects_of_consoleLevel hthreshold, fun now level text => ?_⟩
  obtain ⟨hmessages, hfiles⟩ := hlog now level text
  refine ⟨hmessages, fun action haction => ?_⟩
  have hplace := LogConfiguration.place?_eq_some_iff.2 ⟨action, haction, rfl⟩
  rw [hfiles, hplace]
  simp only [true_and, LogLevel.writtenFrom]

/-- While only fatal errors are printed, a message for debugging goes to the log file alone. -/
theorem run_writes_from_of_fatal :
    let c : LogConfiguration := ⟨.ofUnixSeconds 0, "Fatal", some "body", true, ""⟩
    ∃ s, (Session.start .empty c.now).run
        [.configure ⟨c.now, .default⟩, .message c.now LogLevel.info "a", .configure c] = .ok s ∧
      ((s.atMoment c.now).log LogLevel.debug "b").messages = s.messages ∧
      ((s.atMoment c.now).log LogLevel.debug "b").files.held (logPlace "" "body" c.now.fileStamp) =
        s.files.held (logPlace "" "body" c.now.fileStamp) ++ Text.Utf8.encode (c.now.line LogLevel.debug "b") := by
  intro c
  have hruns : ((Session.start .empty c.now).run
      [.configure ⟨c.now, .default⟩, .message c.now LogLevel.info "a", .configure c]).toOption.isSome = true := by
    decide +kernel
  obtain ⟨s, hrun⟩ := Outcome.exists_ok_of_isSome hruns
  obtain ⟨threshold, hselects, hwrites⟩ := run_writes_from hrun (c := c) rfl
  have hupper : Text.upper c.options.level = "FATAL" := by decide +kernel
  have hfatal : threshold = LogLevel.critical := by
    rw [LogLevel.Selects, hupper] at hselects
    simpa [LogLevel.names] using hselects
  subst hfatal
  obtain ⟨hmessages, hfile⟩ := hwrites c.now LogLevel.debug "b"
  exact ⟨s, hrun, hmessages.trans (String.append_empty), hfile "body" ⟨rfl, rfl, by decide⟩⟩

/-- **Where everything is asked for, little is written**: with the level `NOTSET` a message for debugging goes neither
to the console nor to the log file. -/
theorem debug_not_written_of_notset :
    let c : LogConfiguration := ⟨.ofUnixSeconds 0, "NOTSET", some "body", true, "log"⟩
    LogLevel.Selects c.options.level 0 ∧ 0 ≤ LogLevel.debug ∧ c.options.WantsFile "body" ∧
      ∃ s, (Session.start .empty c.now).run [.configure c] = .ok s ∧
        ((s.atMoment c.now).log LogLevel.debug "x").messages = "" ∧
        ((s.atMoment c.now).log LogLevel.debug "x").files.held (logPlace "log" "body" c.now.fileStamp) = [] := by
  refine ⟨.inl (by decide), by decide, ⟨rfl, rfl, by decide⟩, _, rfl, ?_, ?_⟩
  · decide +kernel
  · decide +kernel

end Session

end SearchRequest
