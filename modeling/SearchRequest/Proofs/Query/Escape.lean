import SearchRequest.Query.Escape

/-!
# Reading escaped query text

A backslash makes the reserved character after it literal, and every other character stands for itself. The
reader refuses a reserved character without its backslash, a backslash in front of any other character, and a
backslash at the end. What `escape` writes it reads back (`unescape?_escape`).

`Scan` reads by the rule alone, character by character and without a look at which characters are reserved: a
backslash makes the next character literal. Whatever it meets, its marks and the backslash that still waits are all
that it has read (`Scan.source_scan`). So the texts in which it finds a backslash in front of the reserved characters
and in front of no other are those that `escape` writes (`escape_iff_read_cleanly`).
-/

namespace SearchRequest.Escape

/-- The characters that an escaped text stands for. -/
def unescapeChars? : List Char → Option (List Char)
  | [] => some []
  | '\\' :: c :: cs => if isReserved c then (unescapeChars? cs).map (c :: ·) else none
  | c :: cs => if isReserved c then none else (unescapeChars? cs).map (c :: ·)

/-- The text that an escaped text stands for. -/
def unescape? (s : String) : Option String := (unescapeChars? s.toList).map String.ofList

theorem isReserved_backslash : isReserved '\\' = true := by decide

theorem unescapeChars?_escapeChar_append (c : Char) (cs : List Char) :
    unescapeChars? (escapeChar c ++ cs) = (unescapeChars? cs).map (c :: ·) := by
  by_cases hc : isReserved c
  · simp [escapeChar, hc, unescapeChars?]
  · have hne : c ≠ '\\' := by
      rintro rfl
      exact hc isReserved_backslash
    simp [escapeChar, hc, unescapeChars?.eq_3 c cs (by simp [hne])]

theorem unescapeChars?_escapeChars (cs : List Char) : unescapeChars? (escapeChars cs) = some cs := by
  induction cs with
  | nil => rfl
  | cons c cs ih =>
    rw [escapeChars, List.flatMap_cons, unescapeChars?_escapeChar_append, ← escapeChars, ih]
    rfl

/-- **An escaped text reads back as the text.** -/
theorem unescape?_escape (s : String) : unescape? (escape s) = some s := by
  rw [unescape?, escape, String.toList_ofList, unescapeChars?_escapeChars]
  simp

/-! ### Reading character by character -/

/-- A character that has been read: literal by the backslash in front of it, or standing for itself. -/
inductive Mark where
  | literal (c : Char)
  | plain (c : Char)

namespace Mark

def char : Mark → Char
  | .literal c | .plain c => c

/-- The characters that are read as a mark. -/
def source : Mark → List Char
  | .literal c => ['\\', c]
  | .plain c => [c]

/-- The mark of a character in escaped text. -/
def due (c : Char) : Mark := if isReserved c then .literal c else .plain c

theorem char_due (c : Char) : (due c).char = c := by
  unfold due
  split <;> rfl

theorem due_eq_literal_iff {c : Char} : due c = .literal c ↔ isReserved c = true := by
  unfold due
  split <;> simp_all

theorem due_eq_plain_iff {c : Char} : due c = .plain c ↔ isReserved c = false := by
  unfold due
  split <;> simp_all

theorem source_due (c : Char) : (due c).source = escapeChar c := by
  unfold due escapeChar
  split <;> rfl

end Mark

/-- How far a text has been read, and whether a backslash waits for the character that it makes literal. -/
structure Scan where
  marks : List Mark
  waits : Bool

namespace Scan

def start : Scan := ⟨[], false⟩

/-- The next character read. -/
def step (s : Scan) (c : Char) : Scan :=
  if s.waits then ⟨s.marks ++ [.literal c], false⟩
  else if c = '\\' then ⟨s.marks, true⟩
  else ⟨s.marks ++ [.plain c], false⟩

def scan (s : Scan) (cs : List Char) : Scan := cs.foldl step s

/-- A whole text read. -/
def ofText (t : String) : Scan := start.scan t.toList

/-- The text that the characters which have been read make. -/
def text (s : Scan) : String := String.ofList (s.marks.map Mark.char)

/-- Nothing was read that escaped text does not have: no lone backslash at the end, no backslash in front of a
character that is not reserved, and no reserved character without its backslash. -/
structure IsClean (s : Scan) : Prop where
  closed : s.waits = false
  literal : ∀ c, .literal c ∈ s.marks → isReserved c = true
  plain : ∀ c, .plain c ∈ s.marks → isReserved c = false

/-- All characters that have been read, the backslashes among them. -/
def source (s : Scan) : List Char := s.marks.flatMap Mark.source ++ if s.waits then ['\\'] else []

theorem source_step (s : Scan) (c : Char) : (s.step c).source = s.source ++ [c] := by
  obtain ⟨marks, waits⟩ := s
  cases waits with
  | true => simp [step, source, Mark.source]
  | false =>
    by_cases hc : c = '\\'
    · simp [step, source, hc]
    · simp [step, source, Mark.source, hc]

theorem source_scan (s : Scan) (cs : List Char) : (s.scan cs).source = s.source ++ cs := by
  unfold scan
  induction cs generalizing s with
  | nil => simp
  | cons c cs ih => rw [List.foldl_cons, ih, source_step, List.append_assoc, List.singleton_append]

theorem scan_escapeChar (marks : List Mark) (c : Char) :
    scan ⟨marks, false⟩ (escapeChar c) = ⟨marks ++ [.due c], false⟩ := by
  by_cases hc : isReserved c = true
  · simp [scan, step, escapeChar, Mark.due, hc]
  · have hne : c ≠ '\\' := by
      intro heq
      rw [heq] at hc
      exact hc isReserved_backslash
    simp [scan, step, escapeChar, Mark.due, hc, hne]

theorem scan_escapeChars (marks : List Mark) (cs : List Char) :
    scan ⟨marks, false⟩ (escapeChars cs) = ⟨marks ++ cs.map .due, false⟩ := by
  induction cs generalizing marks with
  | nil => simp [scan, escapeChars]
  | cons c cs ih =>
    have hsplit : scan ⟨marks, false⟩ (escapeChars (c :: cs)) =
        (scan ⟨marks, false⟩ (escapeChar c)).scan (escapeChars cs) := by
      simp only [scan, escapeChars, List.flatMap_cons, List.foldl_append]
    rw [hsplit, scan_escapeChar, ih, List.append_assoc, List.singleton_append, List.map_cons]

theorem ofText_escape (t : String) : ofText (escape t) = ⟨t.toList.map .due, false⟩ := by
  rw [ofText, escape, String.toList_ofList, start, scan_escapeChars, List.nil_append]

theorem isClean_iff {s : Scan} : s.IsClean ↔ s.waits = false ∧ ∀ m ∈ s.marks, .due m.char = m := by
  constructor
  · intro h
    refine ⟨h.closed, fun m hm => ?_⟩
    cases m with
    | literal c => exact Mark.due_eq_literal_iff.2 (h.literal c hm)
    | plain c => exact Mark.due_eq_plain_iff.2 (h.plain c hm)
  · rintro ⟨hclosed, hdue⟩
    exact ⟨hclosed, fun c hc => Mark.due_eq_literal_iff.1 (hdue _ hc),
      fun c hc => Mark.due_eq_plain_iff.1 (hdue _ hc)⟩

theorem flatMap_source {marks : List Mark} (h : ∀ m ∈ marks, .due m.char = m) :
    marks.flatMap Mark.source = escapeChars (marks.map Mark.char) := by
  induction marks with
  | nil => rfl
  | cons m marks ih =>
    rw [List.forall_mem_cons] at h
    rw [List.flatMap_cons, ih h.2, List.map_cons, escapeChars, escapeChars, List.flatMap_cons, ← Mark.source_due, h.1]

theorem IsClean.source_eq {s : Scan} (h : s.IsClean) : s.source = escapeChars s.text.toList := by
  obtain ⟨hclosed, hdue⟩ := isClean_iff.1 h
  rw [source, text, String.toList_ofList, flatMap_source hdue]
  simp [hclosed]

end Scan

theorem escape_append (s t : String) : escape (s ++ t) = escape s ++ escape t := by
  rw [escape, escape, escape, escapeChars, String.toList_append, List.flatMap_append, String.ofList_append]
  rfl

/-- **Escaped text is read cleanly, as the text that was escaped, and it is all that is read cleanly.** Escaping goes
part by part, and no two texts are escaped alike. -/
theorem escape_iff_read_cleanly :
    (∀ s t, (Scan.ofText s).IsClean ∧ (Scan.ofText s).text = t ↔ s = escape t) ∧
    (∀ s t, escape (s ++ t) = escape s ++ escape t) ∧
    ∀ s t, escape s = escape t ↔ s = t := by
  have hyields (t : String) : (Scan.ofText (escape t)).text = t := by
    have hid : Mark.char ∘ Mark.due = id := funext Mark.char_due
    rw [Scan.ofText_escape, Scan.text, List.map_map, hid, List.map_id, String.ofList_toList]
  refine ⟨fun s t => ⟨?_, ?_⟩, escape_append, fun s t => ⟨fun h => ?_, congrArg escape⟩⟩
  · rintro ⟨hclean, rfl⟩
    have hsource : (Scan.ofText s).source = s.toList := Scan.source_scan Scan.start s.toList
    rw [escape, ← hclean.source_eq, hsource, String.ofList_toList]
  · rintro rfl
    refine ⟨?_, hyields t⟩
    rw [Scan.ofText_escape, Scan.isClean_iff]
    refine ⟨rfl, fun m hm => ?_⟩
    obtain ⟨c, -, rfl⟩ := List.mem_map.1 hm
    rw [Mark.char_due]
  · rw [← hyields s, h, hyields t]

end SearchRequest.Escape
