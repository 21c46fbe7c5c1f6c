import SearchRequest.Logger
import SearchRequest.Proofs.Workspace

/-!
# What logging leaves alone

Messages go to the console and to the log files, and nowhere else: the output stays as it is, and of the files
only the log files change (`Session.touches_log`). For this the log files have to be there
(`Session.LogFilesExist`), as they are for a logger that has been configured
(`Session.configures_configure`). Log files are only ever added to (`Session.AddsTo`).
-/

namespace SearchRequest.Session

/-- The session with messages logged one after another, each with its level. -/
def logged (s : Session) (entries : List (Int × String)) : Session :=
  entries.foldl (fun s entry => s.tell entry.1 entry.2) s

theorem logged_cons (s : Session) (level : Int) (message : String) (entries : List (Int × String)) :
    s.logged ((level, message) :: entries) = (s.tell level message).logged entries := rfl

theorem logged_append (s : Session) (entries others : List (Int × String)) :
    s.logged (entries ++ others) = (s.logged entries).logged others := List.foldl_append

theorem debug_eq_logged (s : Session) (message : String) : s.debug message = s.logged [(LogLevel.debug, message)] :=
  rfl

/-- The places of the log files. -/
def LogsTo (s : Session) (l : Location) : Prop := ∃ threshold, Sink.file l threshold ∈ s.logger.sinks

/-- Every log file is there. -/
def LogFilesExist (s : Session) : Prop := ∀ l, s.LogsTo l → (s.files.content? l).isSome = true

theorem LogFilesExist.not_directory {s : Session} (h : s.LogFilesExist) {l : Location} (hl : s.LogsTo l) :
    s.files.get? l ≠ some .directory := by
  intro hdirectory
  have hcontent := h l hl
  rw [Workspace.content?, hdirectory] at hcontent
  cases hcontent

/-- A later session has the output and the logger of an earlier one, and other contents at some places at
most. -/
structure Touches (places : Location → Prop) (s later : Session) : Prop where
  output : later.output = s.output
  logger : later.logger = s.logger
  files : Workspace.Changes places s.files later.files

namespace Touches

variable {places others : Location → Prop} {s later last : Session}

theorem refl (s : Session) : Touches places s s := ⟨rfl, rfl, .refl _⟩

theorem trans (h : Touches places s later) (h' : Touches places later last) : Touches places s last :=
  ⟨h'.output.trans h.output, h'.logger.trans h.logger, h.files.trans h'.files⟩

theorem mono (h : Touches places s later) (himp : ∀ l, places l → others l) : Touches others s later :=
  ⟨h.output, h.logger, h.files.mono himp⟩

theorem logsTo_eq (h : Touches places s later) : later.LogsTo = s.LogsTo := by
  simp only [funext_iff, LogsTo, h.logger, implies_true]

theorem logFilesExist (h : Touches places s later) (hexist : s.LogFilesExist) : later.LogFilesExist := by
  intro l hl
  rw [h.logsTo_eq] at hl
  exact h.files.file l (hexist l hl)

end Touches

/-! ### Messages -/

theorem touches_deliver {s : Session} (hexist : s.LogFilesExist) {sink : Sink} (hsink : sink ∈ s.logger.sinks)
    (level : Int) (line : String) : Touches s.LogsTo s (deliver level line s sink) := by
  cases sink with
  | nowhere => exact .refl s
  | console threshold =>
    rw [deliver]
    split
    · exact ⟨rfl, rfl, .refl _⟩
    · exact .refl s
  | file l threshold =>
    rw [deliver]
    split
    · have hto : s.LogsTo l := ⟨threshold, hsink⟩
      exact ⟨rfl, rfl, (Workspace.changes_append (hexist.not_directory hto) _).mono fun m hm => hm ▸ hto⟩
    · exact .refl s

theorem touches_foldl_deliver {s : Session} (hexist : s.LogFilesExist) {sinks : List Sink}
    (hsinks : ∀ sink ∈ sinks, sink ∈ s.logger.sinks) (level : Int) (line : String) :
    Touches s.LogsTo s (sinks.foldl (deliver level line) s) := by
  induction sinks generalizing s with
  | nil => exact .refl s
  | cons sink sinks ih =>
    rw [List.forall_mem_cons] at hsinks
    have hfirst := touches_deliver hexist hsinks.1 level line
    have hothers := ih (hfirst.logFilesExist hexist) (by rw [hfirst.logger]; exact hsinks.2)
    rw [hfirst.logsTo_eq] at hothers
    exact hfirst.trans hothers

/-- **A message touches nothing but the log files.** -/
theorem touches_log {s : Session} (hexist : s.LogFilesExist) (level : Int) (message : String) :
    Touches s.LogsTo s (s.log level message) := by
  rw [log]
  split
  · exact touches_foldl_deliver hexist (fun _ h => h) level _
  · exact .refl s

theorem touches_tell {s : Session} (hexist : s.LogFilesExist) (level : Int) (message : String) :
    Touches s.LogsTo s (s.tell level message) := by
  have htouches := touches_log hexist level (Text.shown message)
  rw [tell]
  split
  · exact htouches
  · exact ⟨htouches.output, htouches.logger, .refl _⟩

theorem files_log {s : Session} (hnone : ∀ l, ¬s.LogsTo l) (level : Int) (message : String) :
    (s.log level message).files = s.files := by
  have hdelivered (sinks : List Sink) (hsinks : ∀ l threshold, .file l threshold ∉ sinks) (s : Session)
      (line : String) : (sinks.foldl (deliver level line) s).files = s.files := by
    induction sinks generalizing s with
    | nil => rfl
    | cons sink sinks ih =>
      rw [List.foldl_cons, ih fun l threshold h => hsinks l threshold (List.mem_cons_of_mem _ h)]
      cases sink with
      | nowhere => rfl
      | console threshold =>
        rw [deliver]
        split <;> rfl
      | file l threshold => exact absurd List.mem_cons_self (hsinks l threshold)
  rw [log]
  split
  · exact hdelivered _ (fun l threshold h => hnone l ⟨threshold, h⟩) s _
  · rfl

theorem files_tell {s : Session} (hnone : ∀ l, ¬s.LogsTo l) (level : Int) (message : String) :
    (s.tell level message).files = s.files := by
  rw [tell]
  split
  · exact files_log hnone level _
  · rfl

theorem files_logged {s : Session} (hexist : s.LogFilesExist) (hnone : ∀ l, ¬s.LogsTo l)
    (entries : List (Int × String)) : (s.logged entries).files = s.files := by
  induction entries generalizing s with
  | nil => rfl
  | cons entry entries ih =>
    have htouches := touches_tell hexist entry.1 entry.2
    rw [logged_cons, ih (htouches.logFilesExist hexist) (by rwa [htouches.logsTo_eq]), files_tell hnone]

theorem touches_logged {s : Session} (hexist : s.LogFilesExist) (entries : List (Int × String)) :
    Touches s.LogsTo s (s.logged entries) := by
  induction entries generalizing s with
  | nil => exact .refl s
  | cons entry entries ih =>
    have hfirst := touches_tell hexist entry.1 entry.2
    have hothers := ih (hfirst.logFilesExist hexist)
    rw [hfirst.logsTo_eq] at hothers
    exact hfirst.trans hothers

/-! ### Growth -/

theorem grows_deliver (level : Int) (line : String) (s : Session) (sink : Sink) :
    Workspace.Grows s.files (deliver level line s sink).files := by
  cases sink with
  | nowhere => exact .refl _
  | console threshold =>
    rw [deliver]
    split <;> exact .refl _
  | file l threshold =>
    rw [deliver]
    split
    · exact Workspace.grows_append _ _ _
    · exact .refl _

theorem grows_log (s : Session) (level : Int) (message : String) :
    Workspace.Grows s.files (s.log level message).files := by
  have hdelivered (sinks : List Sink) (s : Session) (line : String) :
      Workspace.Grows s.files (sinks.foldl (deliver level line) s).files := by
    induction sinks generalizing s with
    | nil => exact .refl _
    | cons sink sinks ih => exact (grows_deliver level line s sink).trans (ih _)
  rw [log]
  split
  · exact hdelivered _ s _
  · exact .refl _

theorem grows_tell (s : Session) (level : Int) (message : String) :
    Workspace.Grows s.files (s.tell level message).files := by
  rw [tell]
  split
  · exact grows_log s level _
  · exact .refl _

theorem grows_logged (s : Session) (entries : List (Int × String)) :
    Workspace.Grows s.files (s.logged entries).files := by
  induction entries generalizing s with
  | nil => exact .refl _
  | cons entry entries ih => exact (grows_tell s entry.1 entry.2).trans (ih _)

/-! ### Configuring -/

theorem openLogFile_changes (s : Session) (directory action : String) :
    (s.openLogFile directory action).2.output = s.output ∧
      Workspace.Changes (· = (s.logFile directory action).location) s.files
        (s.openLogFile directory action).2.files ∧
      ∀ l, (s.openLogFile directory action).1 = .ok l → (s.logFile directory action).location = l ∧
        ((s.openLogFile directory action).2.files.content? l).isSome = true := by
  have hdirectories : Workspace.Changes (· = (s.logFile directory action).location) s.files _ :=
    Workspace.changes_makeDirectories s.files (logDirectory directory action)
  rw [openLogFile]
  split
  · next files hmade =>
    rw [hmade] at hdirectories
    exact ⟨rfl, hdirectories, nofun⟩
  · next files hmade =>
    rw [hmade] at hdirectories
    split
    · exact ⟨rfl, hdirectories, nofun⟩
    · next place hplace =>
      obtain ⟨-, rfl, hfile⟩ := Workspace.place_eq_ok hplace
      refine ⟨rfl, hdirectories.trans (Workspace.changes_append hfile []), ?_⟩
      intro l hl
      obtain rfl := Except.ok.inj hl
      exact ⟨rfl, Option.isSome_of_eq_some
        (Workspace.content?_eq_some_iff.2 (Workspace.get?_set_self hfile _))⟩

/-- The place of the log file that options ask for. -/
def logPlace? (s : Session) (options : LoggerOptions) : Option Location :=
  options.fileAction?.map fun action => (s.logFile options.directory action).location

/-- A later session has the output of an earlier one and other contents in the log file that options ask for at
most. Its logger has no other log files, and those are there. -/
structure Configures (options : LoggerOptions) (s later : Session) : Prop where
  output : later.output = s.output
  files : Workspace.Changes (fun l => s.logPlace? options = some l) s.files later.files
  exist : later.LogFilesExist
  logsTo : ∀ l, later.LogsTo l → s.logPlace? options = some l

theorem Configures.of_no_file {options : LoggerOptions} {s later : Session} (houtput : later.output = s.output)
    (hfiles : Workspace.Changes (fun l => s.logPlace? options = some l) s.files later.files)
    (h : ∀ l threshold, Sink.file l threshold ∉ later.logger.sinks) : Configures options s later := by
  have hnone (l : Location) : ¬later.LogsTo l := fun ⟨threshold, hsink⟩ => h l threshold hsink
  exact ⟨houtput, hfiles, fun l hl => absurd hl (hnone l), fun l hl => absurd hl (hnone l)⟩

/-- **Configuring the logger** touches no file but the log file. -/
theorem configures_configure (s : Session) (options : LoggerOptions) :
    Configures options s (s.configure options).2 := by
  rw [configure]
  split
  · exact .of_no_file rfl (.refl _) (by simp [withSinks])
  · split
    · exact .of_no_file rfl (.refl _) (by simp)
    · next action haction =>
      obtain ⟨houtput, hchanges, hopens⟩ := openLogFile_changes s options.directory action
      have hplace : s.logPlace? options = some (s.logFile options.directory action).location := by
        rw [logPlace?, haction, Option.map_some]
      replace hchanges := hchanges.mono fun l (hl : l = _) => hplace.trans (congrArg some hl.symm)
      split
      · next opened hopened =>
        rw [hopened] at houtput hchanges
        exact .of_no_file houtput hchanges (by simp [withSinks])
      · next place opened hopened =>
        rw [hopened] at houtput hchanges hopens
        obtain ⟨hlocation, hexists⟩ := hopens place rfl
        refine ⟨houtput, hchanges, ?_, ?_⟩
        · rintro l ⟨threshold, hsink⟩
          simp only [List.mem_cons, reduceCtorEq, Sink.file.injEq, List.not_mem_nil, or_false, false_or] at hsink
          rw [hsink.1]
          exact hexists
        · rintro l ⟨threshold, hsink⟩
          simp only [List.mem_cons, reduceCtorEq, Sink.file.injEq, List.not_mem_nil, or_false, false_or] at hsink
          rw [hplace, hlocation, hsink.1]

theorem grows_openLogFile (s : Session) (directory action : String) :
    Workspace.Grows s.files (s.openLogFile directory action).2.files := by
  have hdirectories := (Workspace.changes_makeDirectories s.files (logDirectory directory action)).grows
  rw [openLogFile]
  split
  · next hmade =>
    rw [hmade] at hdirectories
    exact hdirectories
  · next hmade =>
    rw [hmade] at hdirectories
    split
    · exact hdirectories
    · exact hdirectories.trans (Workspace.grows_append _ _ _)

theorem grows_configure (s : Session) (options : LoggerOptions) :
    Workspace.Grows s.files (s.configure options).2.files := by
  rw [configure]
  split
  · exact .refl _
  · split
    · exact .refl _
    · next action _ =>
      have hopens := grows_openLogFile s options.directory action
      split
      · next hopened =>
        rw [hopened] at hopens
        exact hopens
      · next hopened =>
        rw [hopened] at hopens
        exact hopens

/-! ### Nothing but additions -/

/-- A later session has the output of an earlier one, and its files as well, but that more may have been added to
those at some places. -/
structure AddsTo (places : Location → Prop) (s later : Session) : Prop where
  output : later.output = s.output
  files : Workspace.Changes places s.files later.files
  grows : Workspace.Grows s.files later.files

namespace AddsTo

variable {places others : Location → Prop} {s later last : Session}

theorem refl (s : Session) : AddsTo places s s := ⟨rfl, .refl _, .refl _⟩

theorem trans (h : AddsTo places s later) (h' : AddsTo places later last) : AddsTo places s last :=
  ⟨h'.output.trans h.output, h.files.trans h'.files, h.grows.trans h'.grows⟩

theorem mono (h : AddsTo places s later) (himp : ∀ l, places l → others l) : AddsTo others s later :=
  ⟨h.output, h.files.mono himp, h.grows⟩

theorem content (h : AddsTo places s later) (l : Location) :
    later.files.content? l = s.files.content? l ∨
      places l ∧ ∃ more, later.files.content? l = some ((s.files.content? l).getD [] ++ more) := by
  by_cases hl : places l
  · cases hbefore : s.files.content? l with
    | none =>
      cases hafter : later.files.content? l with
      | none => exact .inl rfl
      | some more => exact .inr ⟨hl, more, by rw [Option.getD_none, List.nil_append]⟩
    | some before =>
      obtain ⟨more, hmore⟩ := h.grows l before hbefore
      exact .inr ⟨hl, more, by rw [hmore, Option.getD_some]⟩
  · exact .inl (h.files.content l hl)

end AddsTo

theorem Touches.addsTo {places : Location → Prop} {s later : Session} (h : Touches (fun _ => False) s later) :
    AddsTo places s later :=
  ⟨h.output, h.files.mono fun _ => False.elim, h.files.grows⟩

/-- A later session has the output of an earlier one. One file of it has been emptied; the others are as they were, but
that more may have been added to those at some places. -/
structure Empties (m : Location) (places : Location → Prop) (s later : Session) : Prop where
  output : later.output = s.output
  emptied : ∃ more, later.files.content? m = some more ∧ (¬places m → more = [])
  others : ∀ l, l ≠ m → later.files.content? l = s.files.content? l ∨
    places l ∧ ∃ more, later.files.content? l = some ((s.files.content? l).getD [] ++ more)

namespace Empties

variable {m : Location} {places others : Location → Prop} {s later last : Session}

theorem mono (h : Empties m places s later) (himp : ∀ l, places l → others l) : Empties m others s later where
  output := h.output
  emptied := h.emptied.imp fun _ hmore => ⟨hmore.1, fun hm => hmore.2 (mt (himp m) hm)⟩
  others l hl := (h.others l hl).imp_right (And.imp_left (himp l))

theorem others_trans {l : Location} {before between after : Option (List UInt8)}
    (h : between = before ∨ places l ∧ ∃ more, between = some (before.getD [] ++ more))
    (h' : after = between ∨ places l ∧ ∃ more, after = some (between.getD [] ++ more)) :
    after = before ∨ places l ∧ ∃ more, after = some (before.getD [] ++ more) := by
  rcases h' with rfl | ⟨hl, more, rfl⟩
  · exact h
  rcases h with rfl | ⟨-, first, rfl⟩
  · exact .inr ⟨hl, more, rfl⟩
  · exact .inr ⟨hl, first ++ more, by rw [Option.getD_some, List.append_assoc]⟩

theorem of_addsTo (h : AddsTo places s later) (h' : Empties m places later last) : Empties m places s last where
  output := h'.output.trans h.output
  emptied := h'.emptied
  others l hl := others_trans (h.content l) (h'.others l hl)

theorem addsTo (h : Empties m places s later) (h' : AddsTo places later last) : Empties m places s last where
  output := h'.output.trans h.output
  emptied := by
    obtain ⟨more, hmore, hnone⟩ := h.emptied
    rcases h'.content m with hsame | ⟨hm, further, hfurther⟩
    · exact ⟨more, hsame.trans hmore, hnone⟩
    · exact ⟨_, hfurther, fun hplaces => absurd hm hplaces⟩
  others l hl := others_trans (h.others l hl) (h'.content l)

end Empties

theorem addsTo_configure (s : Session) (options : LoggerOptions) :
    AddsTo (fun l => s.logPlace? options = some l) s (s.configure options).2 := by
  have hconfigures := configures_configure s options
  exact ⟨hconfigures.output, hconfigures.files, grows_configure s options⟩

theorem addsTo_logged {s : Session} (hexist : s.LogFilesExist) (entries : List (Int × String)) :
    AddsTo s.LogsTo s (s.logged entries) := by
  have htouches := touches_logged hexist entries
  exact ⟨htouches.output, htouches.files, grows_logged s entries⟩

theorem addsTo_tell {s : Session} (hexist : s.LogFilesExist) (level : Int) (message : String) :
    AddsTo s.LogsTo s (s.tell level message) := by
  have htouches := touches_tell hexist level message
  exact ⟨htouches.output, htouches.files, grows_tell s level message⟩

end SearchRequest.Session
