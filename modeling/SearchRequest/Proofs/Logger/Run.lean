import SearchRequest.Proofs.Logger

/-!
# Runs of the logger

The logger is configured and gets messages, one call after another. What it does with a message is up to its latest
configuration alone: `Session.stands_run` says how the logger stands after any run, and `Session.log_eq` what a logger
that stands so writes.
-/

namespace SearchRequest

/-- The line of a message that is logged at a moment. -/
def Moment.line (now : Moment) (level : Int) (message : String) : String :=
  now.lineStamp ++ " [" ++ LogLevel.abbreviation level ++ "] " ++ message ++ "\n"

/-- The place of the log file of an action whose name shows a time stamp. -/
def logPlace (directory action stamp : String) : Location :=
  ((Session.logDirectory directory action).join
    (.ofString (action ++ "_" ++ stamp ++ ".log"))).collapsed.location

/-- When and how the logger is configured. -/
structure LogConfiguration where
  now : Moment
  options : LoggerOptions

/-- A call of the logger. -/
inductive LogCall where
  | configure (c : LogConfiguration)
  | message (now : Moment) (level : Int) (text : String)

namespace LogCall

/-- The latest configuration after calls, where `given` is the one before them. -/
def latest (given : Option LogConfiguration) : List LogCall → Option LogConfiguration
  | [] => given
  | .configure c :: calls => latest (some c) calls
  | .message _ _ _ :: calls => latest given calls

end LogCall

namespace Session

def atMoment (s : Session) (now : Moment) : Session := { s with now := now }

/-- The session after a call that returns. -/
def call (s : Session) : LogCall → Except LoggerError Session
  | .configure c =>
    match (s.atMoment c.now).configure c.options with
    | (.ok (), configured) => .ok configured
    | (.error e, _) => .error e
  | .message now level text => .ok ((s.atMoment now).log level text)

/-- The session after calls that all return. -/
def run (s : Session) (calls : List LogCall) : Except LoggerError Session := calls.foldlM call s

/-- What holds of the latest configuration, the calls to come and the session holds at the end of a run, if each call
keeps it. -/
theorem run_induction {P : Option LogConfiguration → List LogCall → Session → Prop}
    (hconfigure : ∀ given c calls s configured, P given (.configure c :: calls) s →
      (s.atMoment c.now).configure c.options = (.ok (), configured) → P (some c) calls configured)
    (hmessage : ∀ given now level text calls s, P given (.message now level text :: calls) s →
      P given calls ((s.atMoment now).log level text))
    {given : Option LogConfiguration} {calls : List LogCall} {s later : Session} (h : P given calls s)
    (hrun : s.run calls = .ok later) : P (LogCall.latest given calls) [] later := by
  induction calls generalizing given s with
  | nil =>
    cases hrun
    exact h
  | cons call calls ih =>
    rw [run, List.foldlM_cons, Outcome.bind_eq_ok] at hrun
    obtain ⟨next, hnext, hrun⟩ := hrun
    cases call with
    | configure c =>
      rw [Session.call] at hnext
      split at hnext
      · next configured hconfigured =>
        cases hnext
        exact ih (hconfigure given c calls s _ h hconfigured) hrun
      · cases hnext
    | message now level text =>
      cases hnext
      exact ih (hmessage given now level text calls s h) hrun

theorem grows_call {call : LogCall} {s next : Session} (h : s.call call = .ok next) :
    Workspace.Grows s.files next.files := by
  cases call with
  | configure c =>
    have hgrows := grows_configure (s.atMoment c.now) c.options
    rw [Session.call] at h
    split at h
    · next hconfigured =>
      cases h
      rw [hconfigured] at hgrows
      exact hgrows
    · cases h
  | message now level text =>
    cases h
    exact grows_log (s.atMoment now) level text

/-- **No run takes anything away** from any file. -/
theorem grows_run {calls : List LogCall} {s later : Session} (hrun : s.run calls = .ok later) :
    Workspace.Grows s.files later.files := by
  refine Outcome.foldlM_keeps (P := fun next => Workspace.Grows s.files next.files) ?_ (.refl _) hrun
  exact fun _ _ _ hnext hcall => hnext.trans (grows_call hcall)

end Session

/-! ### Configurations -/

namespace LoggerOptions

/-- A log file is wanted for an action. -/
def WantsFile (options : LoggerOptions) (action : String) : Prop :=
  options.toFile = true ∧ options.action = some action ∧ action ≠ ""

theorem fileAction?_eq_some_iff {options : LoggerOptions} {action : String} :
    options.fileAction? = some action ↔ options.WantsFile action := by
  rw [fileAction?, WantsFile]
  cases options.toFile <;> simp [Option.filter_eq_some_iff]

end LoggerOptions

namespace LogConfiguration

/-- The place of the log file that a configuration asks for. -/
def place? (c : LogConfiguration) : Option Location :=
  c.options.fileAction?.map fun action => logPlace c.options.directory action c.now.fileStamp

theorem place?_eq_some_iff {c : LogConfiguration} {l : Location} :
    c.place? = some l ↔
      ∃ action, c.options.WantsFile action ∧ logPlace c.options.directory action c.now.fileStamp = l := by
  simp only [place?, Option.map_eq_some_iff, LoggerOptions.fileAction?_eq_some_iff]

/-- The sinks that a configuration leaves, with the console from a threshold on. -/
def sinks (c : LogConfiguration) (threshold : Int) : List Sink :=
  .console threshold :: c.place?.toList.map fun l => .file l LogLevel.debug

/-- The logger that a configuration leaves. -/
def logger (c : LogConfiguration) (threshold : Int) : Logger := ⟨min LogLevel.debug threshold, c.sinks threshold⟩

end LogConfiguration

namespace Session

variable {s later : Session}

/-- The logger is as the latest configuration has left it, and the log file is there. -/
def Stands (s : Session) : Option LogConfiguration → Prop
  | none => s.logger = .initial
  | some c =>
    ∃ threshold, c.options.consoleLevel = .ok threshold ∧ s.logger = c.logger threshold ∧ s.LogFilesExist

theorem stands_start (files : Workspace) (now : Moment) : (Session.start files now).Stands none := rfl

theorem logsTo_of_place? {c : LogConfiguration} {threshold : Int} {l : Location}
    (hlogger : s.logger = c.logger threshold) (hplace : c.place? = some l) : s.LogsTo l :=
  ⟨LogLevel.debug, by simp [hlogger, LogConfiguration.logger, LogConfiguration.sinks, hplace]⟩

theorem openLogFile_silent (s : Session) (directory action : String) :
    (s.openLogFile directory action).2.messages = s.messages ∧
      ∀ l, (s.openLogFile directory action).2.files.held l = s.files.held l := by
  have hmade : Workspace.Changes (fun _ => False) s.files _ :=
    Workspace.changes_makeDirectories s.files (logDirectory directory action)
  have hheld (l : Location) :
      (s.files.makeDirectories (logDirectory directory action)).2.held l = s.files.held l := by
    rw [Workspace.held, Workspace.held, hmade.content l id]
  rw [openLogFile]
  split
  · next hfailed =>
    rw [hfailed] at hheld
    exact ⟨rfl, hheld⟩
  · next files hdirectories =>
    rw [hdirectories] at hheld
    split
    · exact ⟨rfl, hheld⟩
    · next place hplace =>
      obtain ⟨-, -, hfile⟩ := Workspace.place_eq_ok hplace
      refine ⟨rfl, fun l => ?_⟩
      rw [← hheld, (Workspace.adds_append hfile []).held, ite_self, List.append_nil]

/-- **What a configuration does**: the logger is new, and nothing is written. -/
theorem configure_eq_ok {c : LogConfiguration} (h : (s.atMoment c.now).configure c.options = (.ok (), later)) :
    later.Stands (some c) ∧ later.messages = s.messages ∧ ∀ l, later.files.held l = s.files.held l := by
  have hexist := (configures_configure (s.atMoment c.now) c.options).exist
  rw [h] at hexist
  rw [configure] at h
  split at h
  · cases h
  · next threshold hthreshold =>
    split at h
    · next hnone =>
      cases h
      refine ⟨⟨threshold, hthreshold, ?_, hexist⟩, rfl, fun l => rfl⟩
      rw [LogConfiguration.logger, LogConfiguration.sinks, LogConfiguration.place?, hnone]
      rfl
    · next action haction =>
      obtain ⟨hmessages, hheld⟩ := openLogFile_silent (s.atMoment c.now) c.options.directory action
      have hopens := (openLogFile_changes (s.atMoment c.now) c.options.directory action).2.2
      split at h
      · cases h
      · next l opened hopened =>
        rw [hopened] at hmessages hheld hopens
        cases h
        refine ⟨⟨threshold, hthreshold, ?_, hexist⟩, hmessages, hheld⟩
        obtain ⟨rfl, -⟩ := hopens l rfl
        rw [LogConfiguration.logger, LogConfiguration.sinks, LogConfiguration.place?, haction]
        rfl

theorem log_initial (h : s.logger = .initial) (level : Int) (text : String) : s.log level text = s := by
  rw [log, h]
  split <;> rfl

theorem Stands.log {given : Option LogConfiguration} (h : s.Stands given) (level : Int) (text : String) :
    (s.log level text).Stands given := by
  cases given with
  | none =>
    rw [log_initial h level text]
    exact h
  | some c =>
    obtain ⟨threshold, hthreshold, hlogger, hexist⟩ := h
    have htouches := touches_log hexist level text
    exact ⟨threshold, hthreshold, htouches.logger.trans hlogger, htouches.logFilesExist hexist⟩

theorem Stands.atMoment {given : Option LogConfiguration} (h : s.Stands given) (now : Moment) :
    (s.atMoment now).Stands given := by
  cases given <;> exact h

/-- **A run leaves the logger as its latest configuration does.** -/
theorem stands_run {given : Option LogConfiguration} {calls : List LogCall} (h : s.Stands given)
    (hrun : s.run calls = .ok later) : later.Stands (LogCall.latest given calls) := by
  refine run_induction (P := fun given _ next => next.Stands given) ?_ ?_ h hrun
  · exact fun _ _ _ _ _ _ hconfigured => (configure_eq_ok hconfigured).1
  · exact fun _ now level text _ _ hnext => (hnext.atMoment now).log level text

end Session

end SearchRequest
