import Mathlib.Data.List.Basic
import SearchRequest.Proofs.Logger.Place
import SearchRequest.Proofs.Logger.Stamp
import SearchRequest.Proofs.Logger.Threshold

/-!
# What log files hold

Every line that is copied to a log file is copied for the latest configuration (`LogCall.journal`). After a run each
file holds the lines copied to it and nothing else that it did not hold before (`Session.held_run`). Within a calendar
year the files of an action, taken in the order of their time stamps, hold its lines in the order in which they were
logged (`Session.keepsLogs_run`); over New Year they do not (`Session.log_out_of_order`).
-/

namespace SearchRequest

/-! ### Lines -/

namespace LogConfiguration

/-- Messages of a level are copied to the log file. -/
def copies (c : LogConfiguration) (level : Int) : Bool :=
  c.place?.isSome &&
    c.options.consoleLevel.toOption.any fun threshold => LogLevel.writtenFrom threshold LogLevel.debug ≤ level

/-- The log file is one of an action in a directory, however the directory is spelled. -/
def isFor (directory action : String) (c : LogConfiguration) : Bool :=
  c.place? == some (logPlace directory action c.now.fileStamp)

theorem place?_eq_logPlace_iff {c : LogConfiguration} {directory action : String} {t : Moment} :
    c.place? = some (logPlace directory action t.fileStamp) ↔
      c.now.fileStamp = t.fileStamp ∧ c.isFor directory action = true := by
  rw [isFor, beq_iff_eq]
  constructor
  · intro h
    obtain ⟨own, -, hplace⟩ := place?_eq_some_iff.1 h
    have hstamp := stamp_eq_of_logPlace_eq hplace
    exact ⟨hstamp, by rw [hstamp, h]⟩
  · rintro ⟨hstamp, h⟩
    rw [h, hstamp]

end LogConfiguration

namespace LogCall

/-- The configurations among calls. -/
def configurations : List LogCall → List LogConfiguration
  | [] => []
  | .configure c :: calls => c :: configurations calls
  | .message _ _ _ :: calls => configurations calls

/-- The configurations whose log file is one of an action in a directory. -/
def configurationsFor (directory action : String) (calls : List LogCall) : List LogConfiguration :=
  (configurations calls).filter (·.isFor directory action)

/-- The line of a message that is copied to the log file, if it is, with the latest configuration. -/
def copied (latest : Option LogConfiguration) (now : Moment) (level : Int) (text : String) :
    List (LogConfiguration × String) :=
  (latest.filter (·.copies level)).toList.map fun c => (c, now.line level text)

/-- The lines that are copied to log files, each with the configuration that is the latest one then. Before the calls
this is the one `given`. -/
def journal (given : Option LogConfiguration) : List LogCall → List (LogConfiguration × String)
  | [] => []
  | .configure c :: calls => journal (some c) calls
  | .message now level text :: calls => copied given now level text ++ journal given calls

/-- The bytes that lines come to in the log file at a place. -/
def textAt (l : Location) (entries : List (LogConfiguration × String)) : List UInt8 :=
  (entries.filter fun copy => copy.1.place? == some l).flatMap fun copy => Text.Utf8.encode copy.2

/-- The lines that are copied while the log file is one of an action in a directory. -/
def linesFor (directory action : String) (calls : List LogCall) : List String :=
  ((journal none calls).filter fun copy => copy.1.isFor directory action).map (·.2)

variable {given : Option LogConfiguration} {calls : List LogCall}

theorem textAt_append (l : Location) (entries others : List (LogConfiguration × String)) :
    textAt l (entries ++ others) = textAt l entries ++ textAt l others := by
  rw [textAt, List.filter_append, List.flatMap_append, textAt, textAt]

theorem mem_of_mem_journal {copy : LogConfiguration × String} (h : copy ∈ journal given calls) :
    copy.1 ∈ given.toList ++ configurations calls := by
  induction calls generalizing given with
  | nil => cases h
  | cons call calls ih =>
    cases call with
    | configure c => exact List.mem_append_right _ (ih h)
    | message now level text =>
      rw [journal, copied, List.mem_append, List.mem_map] at h
      obtain ⟨c, hc, rfl⟩ | h := h
      · rw [Option.mem_toList, Option.filter_eq_some_iff] at hc
        exact List.mem_append_left _ (Option.mem_toList.2 hc.1)
      · exact ih h

theorem pairwise_journal {before : LogConfiguration → LogConfiguration → Prop} (hrefl : ∀ c, before c c)
    (h : (given.toList ++ configurations calls).Pairwise before) :
    ((journal given calls).map (·.1)).Pairwise before := by
  induction calls generalizing given with
  | nil => exact .nil
  | cons call calls ih =>
    cases call with
    | configure c => exact ih (List.pairwise_append.1 h).2.1
    | message now level text =>
      rw [journal, copied]
      cases given with
      | none => exact ih h
      | some c =>
        by_cases hc : c.copies level = true
        · simp only [Option.filter_some, hc, if_true, Option.toList_some, List.map_cons, List.map_nil,
            List.singleton_append]
          refine List.pairwise_cons.2 ⟨fun other hother => ?_, ih h⟩
          obtain ⟨copy, hcopy, rfl⟩ := List.mem_map.1 hother
          obtain hsame | hlater := List.mem_cons.1 (mem_of_mem_journal hcopy)
          · rw [hsame]
            exact hrefl c
          · exact (List.pairwise_cons.1 h).1 _ hlater
        · simp only [Option.filter_some, hc]
          exact ih h

end LogCall

/-! ### Files -/

namespace Session

variable {s later : Session}

theorem Stands.held_log {given : Option LogConfiguration} (h : s.Stands given) (now : Moment) (level : Int)
    (text : String) (l : Location) :
    ((s.atMoment now).log level text).files.held l =
      s.files.held l ++ LogCall.textAt l (LogCall.copied given now level text) := by
  cases given with
  | none =>
    rw [log_initial (h.atMoment now)]
    exact (List.append_nil _).symm
  | some c =>
    obtain ⟨threshold, hthreshold, hlog⟩ := h.log_eq
    have hcopies : c.copies level =
        (c.place?.isSome && decide (LogLevel.writtenFrom threshold LogLevel.debug ≤ level)) := by
      rw [LogConfiguration.copies, hthreshold]
      rfl
    rw [(hlog now level text).2]
    refine congrArg (s.files.held l ++ ·) ?_
    by_cases hplace : c.place? = some l <;>
      by_cases hlevel : LogLevel.writtenFrom threshold LogLevel.debug ≤ level <;>
        simp [LogCall.textAt, LogCall.copied, Option.filter_some, hcopies, hplace, hlevel]

/-- **After a run each file holds what it held before and the lines copied to it.** -/
theorem held_run {given : Option LogConfiguration} {calls : List LogCall} (h : s.Stands given)
    (hrun : s.run calls = .ok later) (l : Location) :
    later.files.held l = s.files.held l ++ LogCall.textAt l (LogCall.journal given calls) := by
  -- What is held already and what is still to come stay the same together from call to call.
  let whole := s.files.held l ++ LogCall.textAt l (LogCall.journal given calls)
  have hkept : later.Stands (LogCall.latest given calls) ∧ later.files.held l ++ LogCall.textAt l [] = whole := by
    refine run_induction (P := fun given calls next =>
      next.Stands given ∧ next.files.held l ++ LogCall.textAt l (LogCall.journal given calls) = whole)
      ?_ ?_ ⟨h, rfl⟩ hrun
    · intro _ c calls next configured ⟨_, hwhole⟩ hconfigured
      obtain ⟨hstands, -, hheld⟩ := configure_eq_ok hconfigured
      refine ⟨hstands, ?_⟩
      rw [hheld]
      exact hwhole
    · intro given now level text calls next ⟨hstands, hwhole⟩
      refine ⟨(hstands.atMoment now).log level text, ?_⟩
      rw [hstands.held_log, List.append_assoc, ← LogCall.textAt_append]
      exact hwhole
  exact (List.append_nil _).symm.trans hkept.2

end Session

/-! ### Logs -/

theorem flatMap_filter_key {α β : Type} [DecidableEq α] {before : α → α → Prop} [Std.Antisymm before] {keys : List α}
    (hkeys : keys.Pairwise before) (hnodup : keys.Nodup) (key : β → α) (entries : List β)
    (hentries : (entries.map key).Pairwise before) (hall : ∀ entry ∈ entries, key entry ∈ keys) :
    (keys.flatMap fun k => entries.filter fun entry => key entry = k) = entries := by
  induction entries with
  | nil => simp
  | cons entry entries ih =>
    rw [List.map_cons, List.pairwise_cons] at hentries
    rw [List.forall_mem_cons] at hall
    obtain ⟨front, back, rfl⟩ := List.append_of_mem hall.1
    have hwhole := ih hentries.2 hall.2
    rw [List.nodup_append, List.nodup_cons] at hnodup
    obtain ⟨-, ⟨hnotBack, -⟩, hapart⟩ := hnodup
    have hnotFront : ∀ k ∈ front, key entry ≠ k := fun k hk => (hapart k hk _ List.mem_cons_self).symm
    -- Nothing that comes later has a key that stands before the one of the first entry.
    have hlater : ∀ k ∈ front, entries.filter (fun other => key other = k) = [] := by
      intro k hk
      rw [List.filter_eq_nil_iff]
      intro other hother hkey
      rw [decide_eq_true_eq] at hkey
      have hforward := hentries.1 _ (List.mem_map_of_mem hother)
      rw [hkey] at hforward
      have hbackward := (List.pairwise_append.1 hkeys).2.2 k hk _ List.mem_cons_self
      exact hnotFront k hk (Std.Antisymm.antisymm _ _ hforward hbackward)
    have hskip {part : List α} (hpart : ∀ k ∈ part, key entry ≠ k) :
        (part.flatMap fun k => (entry :: entries).filter fun other => key other = k) =
          part.flatMap fun k => entries.filter fun other => key other = k :=
      List.flatMap_congr fun k hk => List.filter_cons_of_neg (by simpa using hpart k hk)
    have hbefore : (front.flatMap fun k => entries.filter fun other => key other = k) = [] :=
      List.flatMap_eq_nil_iff.2 hlater
    rw [List.flatMap_append, List.flatMap_cons, hbefore, List.nil_append] at hwhole
    rw [List.flatMap_append, List.flatMap_cons, hskip hnotFront, hbefore, List.nil_append,
      List.filter_cons_of_pos (by simp), hskip fun k hk heq => hnotBack (heq ▸ hk), List.cons_append, hwhole]

/-- Time stamps of log files in their order. -/
structure InTimeOrder (stamps : List String) : Prop where
  moments : ∀ stamp ∈ stamps, ∃ t : Moment, t.fileStamp = stamp
  sorted : stamps.Pairwise (· < ·)

namespace Session

variable {s : Session}

/-- What a message has written: its line at most once to the console, and at most once to a file, which is the log file
of the latest configuration. Before the first configuration nothing is written. -/
structure WritesOnce (latest : Option LogConfiguration) (line : String) (s later : Session) : Prop where
  console : later.messages = s.messages ∨ latest.isSome = true ∧ later.messages = s.messages ++ line
  file : later.files = s.files ∨ ∃ c action, latest = some c ∧ c.options.WantsFile action ∧
    Workspace.Adds (logPlace c.options.directory action c.now.fileStamp) (Text.Utf8.encode line) s.files later.files

/-- What holds of the logger and its files after calls, and of the next message. -/
structure KeepsLogs (files : Workspace) (calls : List LogCall) (s : Session) : Prop where
  /-- There is one console behind a configuration, and one log file if it asks for one. -/
  sinks : ∀ c, LogCall.latest none calls = some c → ∃ threshold,
    (∀ action, c.options.WantsFile action → s.logger.sinks =
      [.console threshold, .file (logPlace c.options.directory action c.now.fileStamp) LogLevel.debug]) ∧
    ((∀ action, ¬c.options.WantsFile action) → s.logger.sinks = [.console threshold])
  message : ∀ now level text, WritesOnce (LogCall.latest none calls) (now.line level text) (s.atMoment now)
    ((s.atMoment now).log level text)
  grows : ∀ more later, s.run more = .ok later → Workspace.Grows s.files later.files
  /-- The log of an action in a directory: what has been added to its files, taken in the order of their time stamps,
  is its lines in the order in which they have been logged. For this the clock must not go back from one configuration
  for the log to the next, nor go on to another calendar year, which the stamps would not show. -/
  log : ∀ year directory action stamps, InTimeOrder stamps →
    (∀ c ∈ LogCall.configurationsFor directory action calls, c.now.fileStamp ∈ stamps) →
    Clock year ((LogCall.configurationsFor directory action calls).map (·.now)) →
    (stamps.flatMap fun stamp => files.added s.files (logPlace directory action stamp)) =
      (LogCall.linesFor directory action calls).flatMap Text.Utf8.encode

theorem Stands.writesOnce {latest : Option LogConfiguration} (h : s.Stands latest) (level : Int) (text : String) :
    WritesOnce latest (s.now.line level text) s (s.log level text) := by
  cases latest with
  | none =>
    rw [log_initial h]
    exact ⟨.inl rfl, .inl rfl⟩
  | some c =>
    obtain ⟨threshold, hthreshold, hlogger, hexist⟩ := h
    have hselects := LoggerOptions.selects_of_consoleLevel hthreshold
    obtain ⟨hmessages, hfiles⟩ := Session.log_eq hselects.eq_zero_or_debug_le hlogger level text
    constructor
    · by_cases hprinted : LogLevel.writtenFrom threshold threshold ≤ level
      · rw [if_pos hprinted] at hmessages
        exact .inr ⟨rfl, hmessages⟩
      · rw [if_neg hprinted, String.append_empty] at hmessages
        exact .inl hmessages
    · by_cases hcopied : LogLevel.writtenFrom threshold LogLevel.debug ≤ level
      · rw [if_pos hcopied] at hfiles
        rw [hfiles]
        cases hplace : c.place? with
        | none => exact .inl rfl
        | some l =>
          have hfile := hexist.not_directory (logsTo_of_place? hlogger hplace)
          obtain ⟨action, haction, rfl⟩ := LogConfiguration.place?_eq_some_iff.1 hplace
          exact .inr ⟨c, action, rfl, haction, Workspace.adds_append hfile _⟩
      · rw [if_neg hcopied] at hfiles
        exact .inl hfiles

theorem Stands.sinks_eq {c : LogConfiguration} (h : s.Stands (some c)) :
    ∃ threshold,
      (∀ action, c.options.WantsFile action → s.logger.sinks =
        [.console threshold, .file (logPlace c.options.directory action c.now.fileStamp) LogLevel.debug]) ∧
      ((∀ action, ¬c.options.WantsFile action) → s.logger.sinks = [.console threshold]) := by
  obtain ⟨threshold, -, hlogger, -⟩ := h
  have hsinks : s.logger.sinks = c.sinks threshold := by
    rw [hlogger, LogConfiguration.logger]
  refine ⟨threshold, fun action haction => ?_, fun hnone => ?_⟩
  · rw [hsinks, LogConfiguration.sinks, LogConfiguration.place?_eq_some_iff.2 ⟨action, haction, rfl⟩]
    rfl
  · have hplace : c.place? = none := by
      rw [Option.eq_none_iff_forall_ne_some]
      intro l hl
      obtain ⟨action, haction, -⟩ := LogConfiguration.place?_eq_some_iff.1 hl
      exact hnone action haction
    rw [hsinks, LogConfiguration.sinks, hplace]
    rfl

section

variable {files : Workspace} {start : Moment} {calls : List LogCall}

theorem added_run (hrun : (Session.start files start).run calls = .ok s) (directory action : String)
    {stamp : String} (hstamp : ∃ t : Moment, t.fileStamp = stamp) :
    files.added s.files (logPlace directory action stamp) =
      (((LogCall.journal none calls).filter fun copy => copy.1.isFor directory action).filter
        fun copy => copy.1.now.fileStamp = stamp).flatMap fun copy => Text.Utf8.encode copy.2 := by
  obtain ⟨t, rfl⟩ := hstamp
  have hheld : s.files.held _ = files.held _ ++ _ :=
    held_run (stands_start files start) hrun (logPlace directory action t.fileStamp)
  rw [Workspace.added, hheld, List.drop_left, LogCall.textAt, List.filter_filter]
  refine congrArg (List.flatMap _) (List.filter_congr fun copy _ => ?_)
  rw [Bool.eq_iff_iff, beq_iff_eq, Bool.and_eq_true, decide_eq_true_eq]
  exact LogConfiguration.place?_eq_logPlace_iff

/-- **What has been logged after any run.** -/
theorem keepsLogs_run (hrun : (Session.start files start).run calls = .ok s) : KeepsLogs files calls s := by
  have hstands := stands_run (stands_start files start) hrun
  refine ⟨fun c hlatest => (hlatest ▸ hstands).sinks_eq,
    fun now level text => (hstands.atMoment now).writesOnce level text, fun _ _ => grows_run, ?_⟩
  intro year directory action stamps horder hall hclock
  have hadded := List.flatMap_congr fun stamp hstamp =>
    added_run hrun directory action (horder.moments stamp hstamp)
  have hstamps := hclock.pairwise_fileStamp
  rw [LogCall.configurationsFor, List.pairwise_map, List.pairwise_filter] at hstamps
  have hjournal : ((LogCall.journal none calls).map (·.1)).Pairwise _ :=
    LogCall.pairwise_journal (fun c _ _ => String.le_refl c.now.fileStamp) hstamps
  have hlines := flatMap_filter_key (horder.sorted.imp fun hlt => String.not_lt.1 (String.lt_asymm hlt))
    (horder.sorted.imp fun hlt => String.ne_of_lt hlt)
    (fun copy : LogConfiguration × String => copy.1.now.fileStamp)
    ((LogCall.journal none calls).filter fun copy => copy.1.isFor directory action) ?_ ?_
  · rw [hadded, ← List.flatMap_assoc, hlines, LogCall.linesFor, List.flatMap_map]
  · rw [List.pairwise_map] at hjournal ⊢
    exact List.pairwise_filter.2 hjournal
  · intro copy hcopy
    obtain ⟨hcopy, hfor⟩ := List.mem_filter.1 hcopy
    exact hall _ (List.mem_filter.2 ⟨LogCall.mem_of_mem_journal hcopy, hfor⟩)

/-- A log in two files, for which the directory is spelled in two ways. -/
theorem keepsLogs_run_of_two_files :
    let first : LogConfiguration := ⟨.ofUnixSeconds 0, "INFO", some "body", true, ""⟩
    let second : LogConfiguration := ⟨.ofUnixSeconds 1, "ERROR", some "body", true, "log"⟩
    let calls : List LogCall := [.message first.now LogLevel.error "lost", .configure first,
      .message first.now LogLevel.info "a", .configure second, .message second.now LogLevel.debug "b"]
    ∃ s, (Session.start .empty first.now).run calls = .ok s ∧ KeepsLogs .empty calls s ∧
      (["0101000000", "0101000001"].flatMap fun stamp =>
          Workspace.empty.added s.files (logPlace "log" "body" stamp)) =
        ["01-01 00:00:00 [INFO] a\n", "01-01 00:00:01 [DEBG] b\n"].flatMap Text.Utf8.encode := by
  intro first second calls
  have hruns : ((Session.start .empty first.now).run calls).toOption.isSome = true := by decide +kernel
  obtain ⟨s, hrun⟩ := Outcome.exists_ok_of_isSome hruns
  have hkeeps := keepsLogs_run hrun
  have hstamps : first.now.fileStamp = "0101000000" ∧ second.now.fileStamp = "0101000001" := by decide +kernel
  have hlines : LogCall.linesFor "log" "body" calls = ["01-01 00:00:00 [INFO] a\n", "01-01 00:00:01 [DEBG] b\n"] := by
    decide +kernel
  have hmoments : (LogCall.configurationsFor "log" "body" calls).map (·.now) = [first.now, second.now] := by
    decide +kernel
  refine ⟨s, hrun, hkeeps, ?_⟩
  rw [← hlines]
  refine hkeeps.log 1970 "log" "body" _ ⟨?_, ?_⟩ ?_ (hmoments ▸ ⟨?_, ?_, ?_⟩)
  · simp only [List.forall_mem_cons]
    exact ⟨⟨first.now, hstamps.1⟩, ⟨second.now, hstamps.2⟩, nofun⟩
  · decide
  · decide +kernel
  · decide +kernel
  · decide +kernel
  · simp only [List.forall_mem_cons]
    exact ⟨fun _ => Moment.lt_of_mem_shown_ofUnixSeconds, fun _ => Moment.lt_of_mem_shown_ofUnixSeconds, nofun⟩

/-- A message is logged in the last second of a year, and another one in the first second of the next: the later file
comes first. And of two actions that lead to the same file, each has the lines of both in its log. -/
theorem log_out_of_order :
    (let first : LogConfiguration := ⟨.ofUnixSeconds 1704067199, "INFO", some "body", true, "log"⟩
      let second : LogConfiguration := ⟨.ofUnixSeconds 1704067200, "INFO", some "body", true, "log"⟩
      let calls : List LogCall := [.configure first, .message first.now LogLevel.info "a", .configure second,
        .message second.now LogLevel.info "b"]
      first.now.Precedes second.now ∧ first.now.fileStamp = "1231235959" ∧ second.now.fileStamp = "0101000000" ∧
      LogCall.linesFor "log" "body" calls = ["12-31 23:59:59 [INFO] a\n", "01-01 00:00:00 [INFO] b\n"] ∧
      ∃ s, (Session.start .empty first.now).run calls = .ok s ∧
        (["0101000000", "1231235959"].flatMap fun stamp =>
            Workspace.empty.added s.files (logPlace "log" "body" stamp)) =
          ["01-01 00:00:00 [INFO] b\n", "12-31 23:59:59 [INFO] a\n"].flatMap Text.Utf8.encode) ∧
    (let now := Moment.ofUnixSeconds 0
      let calls : List LogCall := [.configure ⟨now, "INFO", some "a", true, "x"⟩, .message now LogLevel.info "m",
        .configure ⟨now, "INFO", some "a/../a", true, "x"⟩, .message now LogLevel.info "n"]
      ∃ s, (Session.start .empty now).run calls = .ok s ∧
        Workspace.empty.added s.files (logPlace "x" "a" "0101000000") =
          ["01-01 00:00:00 [INFO] m\n", "01-01 00:00:00 [INFO] n\n"].flatMap Text.Utf8.encode) := by
  refine ⟨⟨?_, ?_, ?_, ?_, Outcome.exists_ok_of_any ?_⟩, Outcome.exists_ok_of_any ?_⟩
  all_goals decide +kernel

end

end Session

end SearchRequest
