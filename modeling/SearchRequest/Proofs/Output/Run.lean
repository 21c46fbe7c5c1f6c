import SearchRequest.Proofs.Output

/-!
# Runs of writers

A writer is handed texts and told that actions have ended, in any order and any number of times. The console shows
each text at once. The writer of a file keeps them all: at each end the file gets them as its whole content, or it
cannot be written and no file changes (`Writer.run_delivers_texts`).
-/

namespace SearchRequest

/-- What a writer is asked to do. -/
inductive WriterStep where
  | write (text : String)
  | finalize (action : String)

namespace WriterStep

/-- The texts that steps write. -/
def texts (steps : List WriterStep) : List String :=
  steps.filterMap fun
    | .write text => some text
    | .finalize _ => none

theorem texts_write (text : String) (steps : List WriterStep) : texts (.write text :: steps) = text :: texts steps :=
  rfl

theorem texts_finalize (action : String) (steps : List WriterStep) : texts (.finalize action :: steps) = texts steps :=
  rfl

end WriterStep

namespace Writer

open WriterStep

/-- A writer and the session after a step, whether or not the step succeeds. -/
def step (state : Writer × Session) : WriterStep → Writer × Session
  | .write text => state.1.write text state.2
  | .finalize action => (state.1, (state.1.finalize action state.2).2)

/-- A writer and the session after steps. -/
def run (w : Writer) (steps : List WriterStep) (s : Session) : Writer × Session := steps.foldl step (w, s)

theorem run_write (w : Writer) (text : String) (steps : List WriterStep) (s : Session) :
    w.run (.write text :: steps) s = (w.write text s).1.run steps (w.write text s).2 := rfl

theorem run_finalize (w : Writer) (action : String) (steps : List WriterStep) (s : Session) :
    w.run (.finalize action :: steps) s = w.run steps (w.finalize action s).2 := rfl

/-! ### The console -/

/-- The texts are on the output, behind what it had, and no file has changed. -/
structure Shows (text : String) (s later : Session) : Prop where
  output : later.output = s.output ++ text
  files : later.files = s.files

theorem run_console {steps : List WriterStep} (hplain : ∀ text ∈ texts steps, '\x1b' ∉ text.toList) (s : Session) :
    Shows (String.join (texts steps)) s (console.run steps s).2 := by
  induction steps generalizing s with
  | nil => exact ⟨(String.append_empty).symm, rfl⟩
  | cons step steps ih =>
    cases step with
    | write text =>
      rw [texts_write, List.forall_mem_cons] at hplain
      obtain ⟨houtput, hfiles⟩ := ih hplain.2 (console.write text s).2
      rw [run_write, texts_write, String.join_cons]
      refine ⟨?_, hfiles⟩
      calc _ = s.output ++ ControlSequence.drop text ++ String.join (texts steps) := houtput
        _ = s.output ++ (text ++ String.join (texts steps)) := by
          rw [ControlSequence.drop_eq_self hplain.1, String.append_assoc]
    | finalize action => exact ih hplain s

/-! ### Files -/

section

variable {path : FilePath} {s : Session}

theorem run_file (path : FilePath) (held : String) (steps : List WriterStep) (s : Session) :
    ((file path held).run steps s).1 = .file path (held ++ String.join (texts steps)) := by
  induction steps generalizing held s with
  | nil => exact congrArg (file path) (String.append_empty).symm
  | cons step steps ih =>
    cases step with
    | write text => rw [run_write, write, ih, texts_write, String.join_cons, String.append_assoc]
    | finalize action => rw [run_finalize, ih, texts_finalize]

theorem run_file_of_writes {held : String} {steps : List WriterStep} (h : ∀ action, .finalize action ∉ steps) :
    ((file path held).run steps s).2 = s := by
  induction steps generalizing held with
  | nil => rfl
  | cons step steps ih =>
    cases step with
    | write text => exact ih fun action haction => h action (List.mem_cons_of_mem _ haction)
    | finalize action => exact absurd List.mem_cons_self (h action)

theorem touches_run_file (hexist : s.LogFilesExist) (held : String) (steps : List WriterStep) :
    Session.Touches (fun l => l = path.location ∨ s.LogsTo l) s ((file path held).run steps s).2 := by
  induction steps generalizing held s with
  | nil => exact .refl s
  | cons step steps ih =>
    cases step with
    | write text => exact ih hexist (held ++ text)
    | finalize action =>
      have hend : Session.Touches (fun l => l = path.location ∨ s.LogsTo l) s ((file path held).finalize action s).2 :=
        (finalize_file hexist rfl).1
      -- the log files are the same ones afterwards, so what the rest may touch is the same too
      have hrest := ih (hend.logFilesExist hexist) held
      rw [hend.logsTo_eq] at hrest
      exact hend.trans hrest

/-- How the writer of a file stands after steps that have begun in a session, and what the end of an action does
then. -/
structure Saves (path : FilePath) (steps : List WriterStep) (s : Session) (w : Writer) (later : Session) : Prop where
  /-- All texts are kept, whatever has become of the ends among the steps. -/
  held : w = .file path (String.join (texts steps))
  output : later.output = s.output
  waits : (∀ action, .finalize action ∉ steps) → later.files = s.files
  others : ∀ l, l ≠ path.location → ¬s.LogsTo l → later.files.content? l = s.files.content? l
  finalize_iff : ∀ action, (w.finalize action later).1 = .ok () ↔ later.files.CanSave path
  saved : ∀ action ended, w.finalize action later = (.ok (), ended) → ¬s.LogsTo path.location →
    ended.files.read path = .ok (Text.Utf8.encode (String.join (texts steps)))
  failed : ∀ action e ended, w.finalize action later = (.error e, ended) →
    ∀ l, ended.files.content? l = later.files.content? l

theorem saves_run (hexist : s.LogFilesExist) (path : FilePath) (steps : List WriterStep) :
    Saves path steps s ((file path "").run steps s).1 ((file path "").run steps s).2 := by
  have htouches : Session.Touches (fun l => l = path.location ∨ s.LogsTo l) s ((file path "").run steps s).2 :=
    touches_run_file hexist "" steps
  have hheld := run_file path "" steps s
  rw [String.empty_append] at hheld
  constructor
  case held => exact hheld
  case output => exact htouches.output
  case waits =>
    intro honly
    rw [run_file_of_writes honly]
  case others => exact fun l hl hlog => htouches.files.content l (not_or.2 ⟨hl, hlog⟩)
  case finalize_iff =>
    intro action
    rw [hheld]
    exact finalize_eq_ok_iff
  case saved =>
    intro action ended hended hlog
    rw [hheld] at hended
    rw [← htouches.logsTo_eq] at hlog
    exact (finalize_file (htouches.logFilesExist hexist) hended).2 rfl hlog
  case failed =>
    intro action e ended hended l
    exact (finalize_failed hended).files.content l id

end

/-! ### Both -/

theorem ofPath_of_blank {path : String} (h : Text.strip path = "") : ofPath path = .console := by
  rw [ofPath, h]
  rfl

theorem ofPath_of_not_blank {path : String} (h : Text.strip path ≠ "") : ofPath path = .file (.ofString path) "" :=
  if_neg (by rwa [String.isEmpty_iff])

/-- **What writers have delivered after any steps.** For a blank path all texts are on the output, each as soon as it
is written. For any other path the output stays as it is and no file changes before the first end of an action; an end
that succeeds leaves the file with all texts so far as its whole content, and one that fails changes no file and loses
no text. So after an end that succeeds the file has the text that the console shows. Files that messages are logged
to are left aside; they are there, as for every logger that has been configured. -/
theorem run_delivers_texts {s : Session} (hexist : s.LogFilesExist) {steps : List WriterStep}
    (hplain : ∀ text ∈ texts steps, '\x1b' ∉ text.toList) :
    (∀ blank : String, Text.strip blank = "" →
      Shows (String.join (texts steps)) s ((ofPath blank).run steps s).2) ∧
    (∀ path : String, Text.strip path ≠ "" →
      Saves (.ofString path) steps s ((ofPath path).run steps s).1 ((ofPath path).run steps s).2) ∧
    ∀ (blank path action : String) (terminal ended : Session), Text.strip blank = "" → Text.strip path ≠ "" →
      terminal.output = "" →
      ((ofPath path).run steps s).1.finalize action ((ofPath path).run steps s).2 = (.ok (), ended) →
      ¬s.LogsTo (FilePath.ofString path).location →
      ended.files.read (.ofString path) =
        .ok (Text.Utf8.encode ((ofPath blank).run steps terminal).2.output) := by
  have hshows (blank : String) (hblank : Text.strip blank = "") (terminal : Session) :
      Shows (String.join (texts steps)) terminal ((ofPath blank).run steps terminal).2 := by
    rw [ofPath_of_blank hblank]
    exact run_console hplain terminal
  have hsaves (path : String) (hpath : Text.strip path ≠ "") :
      Saves (.ofString path) steps s ((ofPath path).run steps s).1 ((ofPath path).run steps s).2 := by
    rw [ofPath_of_not_blank hpath]
    exact saves_run hexist _ steps
  refine ⟨fun blank hblank => hshows blank hblank s, hsaves, ?_⟩
  intro blank path action terminal ended hblank hpath hsilent hended hlog
  rw [(hsaves path hpath).saved action ended hended hlog, (hshows blank hblank terminal).output, hsilent,
    String.empty_append]

/-- A file that holds something already, an end between two texts, and a log file that tells of it. -/
theorem run_delivers_over_older_file :
    let files : Workspace := ⟨[(["l"], .file []), (["o"], .file [120])]⟩
    let s : Session := ⟨files, "", "", ⟨LogLevel.debug, [.file ["l"] LogLevel.debug]⟩, Moment.ofUnixSeconds 0⟩
    let steps : List WriterStep := [.write "a", .finalize "x", .write "b"]
    let later := (ofPath "o").run steps s
    Shows "ab" s ((ofPath " ").run steps s).2 ∧ Saves (.ofString "o") steps s later.1 later.2 ∧
      (later.1.finalize "x" later.2).2.files.read (.ofString "o") =
        .ok (Text.Utf8.encode ((ofPath " ").run steps s).2.output) := by
  intro files s steps later
  have hexist : s.LogFilesExist := by
    rintro l ⟨threshold, hsink⟩
    cases List.mem_singleton.1 hsink
    rfl
  have hplain : ∀ text ∈ texts steps, '\x1b' ∉ text.toList := by decide
  have hplace : (FilePath.ofString "o").location ≠ ["l"] := by decide +kernel
  have hlog : ¬s.LogsTo (FilePath.ofString "o").location := by
    rintro ⟨threshold, hsink⟩
    exact hplace (Sink.file.inj (List.mem_singleton.1 hsink)).1
  have hblank : Text.strip " " = "" := by decide +kernel
  have hpath : Text.strip "o" ≠ "" := by decide +kernel
  obtain ⟨⟨⟩, hends⟩ : ∃ u, (later.1.finalize "x" later.2).1 = .ok u :=
    Outcome.exists_ok_of_isSome (by decide +kernel)
  obtain ⟨hshows, hsaves, hsame⟩ := run_delivers_texts hexist hplain
  exact ⟨hshows " " hblank, hsaves "o" hpath, hsame " " "o" "x" s _ hblank hpath rfl (Prod.ext hends rfl) hlog⟩

end Writer

end SearchRequest
