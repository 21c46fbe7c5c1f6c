import SearchRequest.Config.Entry
import Mathlib.Logic.Basic
import SearchRequest.Proofs.Json.Encode

/-!
# The entries of a mapping

What the checks on single entries say when they succeed. A key has a name only if it is a text, and the names
that a configuration knows are plain words: the text that a message gives of any other key is none of them. So
a mapping without unknown names is one whose keys are all known names (`unknownNames_isEmpty_iff`).
-/

namespace SearchRequest

/-! ### Looking up a name -/

theorem Value.sameKey_str_iff {k : Value} {name : String} : k.sameKey (.str name) = true ↔ k = .str name := by
  cases k <;> simp [sameKey, sameNumber, whole?]

namespace Entries

theorem find?_cons_self (name : String) (v : Value) (rest : Entries) :
    find? ((.str name, v) :: rest) name = some v := by
  simp [find?, get?, Value.sameKey]

theorem find?_cons_of_ne {k : Value} {name : String} (h : k ≠ .str name) (v : Value) (rest : Entries) :
    find? ((k, v) :: rest) name = find? rest name := by
  rw [find?, get?, if_neg (mt Value.sameKey_str_iff.1 h), find?]

theorem mem_of_find? {entries : Entries} {name : String} {v : Value} (h : find? entries name = some v) :
    (.str name, v) ∈ entries := by
  induction entries with
  | nil => cases h
  | cons entry rest ih =>
    obtain ⟨k, w⟩ := entry
    by_cases hk : k = .str name
    · subst hk
      rw [find?_cons_self] at h
      cases h
      exact List.mem_cons_self
    · rw [find?_cons_of_ne hk] at h
      exact List.mem_cons_of_mem _ (ih h)

/-- Every key is one of the names. -/
def KeysAmong (names : List String) (entries : Entries) : Prop :=
  ∀ entry ∈ entries, ∃ name ∈ names, entry.1 = .str name

theorem KeysAmong.find?_eq_none {names : List String} {entries : Entries} (h : KeysAmong names entries)
    {name : String} (hname : name ∉ names) : find? entries name = none := by
  cases hfound : find? entries name with
  | none => rfl
  | some v =>
    obtain ⟨known, hknown, heq⟩ := h _ (mem_of_find? hfound)
    cases heq
    exact absurd hknown hname

end Entries

/-! ### Names in messages -/

namespace Text

/-- Whether a character may stand in a word. -/
def isWordChar (c : Char) : Bool := c.isLower || c == '_'

/-- A text of small letters that is no name of a number. -/
def IsWord (s : String) : Prop := s.toList.all isWordChar = true ∧ s ≠ "inf" ∧ s ≠ "nan"

instance (s : String) : Decidable (IsWord s) := inferInstanceAs (Decidable (_ ∧ _ ∧ _))

theorem not_isWord_of_mem {s : String} {c : Char} (hc : c ∈ s.toList) (hword : isWordChar c = false) :
    ¬IsWord s := by
  rintro ⟨hall, -⟩
  rw [List.all_eq_true.1 hall c hc] at hword
  cases hword

theorem not_isWord_append (s : String) {t : String} {c : Char} (hc : c ∈ t.toList)
    (hword : isWordChar c = false) : ¬IsWord (s ++ t) :=
  not_isWord_of_mem (by rw [String.toList_append]; exact List.mem_append_right _ hc) hword

theorem isLower_iff {c : Char} : c.isLower = true ↔ 'a'.toNat ≤ c.toNat ∧ c.toNat ≤ 'z'.toNat := by
  have hbounds : c.isLower = (decide ('a'.toNat ≤ c.toNat) && decide (c.toNat ≤ 'z'.toNat)) := rfl
  rw [hbounds, Bool.and_eq_true, decide_eq_true_eq, decide_eq_true_eq]

theorem isDigit_iff {c : Char} : c.isDigit = true ↔ '0'.toNat ≤ c.toNat ∧ c.toNat ≤ '9'.toNat := by
  have hbounds : c.isDigit = (decide ('0'.toNat ≤ c.toNat) && decide (c.toNat ≤ '9'.toNat)) := rfl
  rw [hbounds, Bool.and_eq_true, decide_eq_true_eq, decide_eq_true_eq]

theorem not_isWordChar_of_isDigit {c : Char} (h : c.isDigit = true) : isWordChar c = false := by
  have hdigit : c.toNat < 'a'.toNat := Nat.lt_of_le_of_lt (isDigit_iff.1 h).2 (by decide)
  have hlower : c.isLower = false := by
    rw [Bool.eq_false_iff, Ne, isLower_iff]
    exact fun hlower => absurd hlower.1 (Nat.not_le_of_lt hdigit)
  rw [isWordChar, hlower, Bool.false_or, beq_eq_false_iff_ne]
  rintro rfl
  exact absurd h (by decide)

theorem not_isWord_number {token : List Char} (h : Json.IsNumber token) : ¬IsWord (String.ofList token) := by
  obtain ⟨c, rest, rfl, hc⟩ := h.head
  refine not_isWord_of_mem (c := c) (by simp) ?_
  rcases hc with rfl | hc
  · decide
  · exact not_isWordChar_of_isDigit hc

end Text

namespace Value

open Text

theorem not_isWord_boolText (b : Bool) : ¬IsWord (boolText b) := by
  cases b
  · exact not_isWord_of_mem (c := 'F') (by simp [boolText]) (by decide)
  · exact not_isWord_of_mem (c := 'T') (by simp [boolText]) (by decide)

theorem not_isWord_toString (n : Int) : ¬IsWord (toString n) := by
  rw [← String.ofList_toList (s := toString n), ← Json.intToken_eq]
  exact not_isWord_number (Json.isNumber_intToken n)

theorem not_isWord_float (x : Binary64) : ¬IsWord (String.ofList x.written) := by
  cases x with
  | nan mark => exact fun h => h.2.2 rfl
  | infinity negative => cases negative <;> decide
  | finite negative m e => exact not_isWord_number (Json.isNumber_written rfl)

theorem not_isWord_iso_append (d : Date) (s : String) : ¬IsWord (d.iso ++ s) :=
  not_isWord_of_mem (c := '-') (by simp [Date.iso]) (by decide)

theorem not_isWord_inBraces (s : String) : ¬IsWord (inBraces s) :=
  not_isWord_append _ (c := '\x7d') (by simp) (by decide)

theorem not_isWord_inParentheses (texts : List String) : ¬IsWord (inParentheses texts) := by
  refine not_isWord_of_mem (c := '(') ?_ (by decide)
  rw [inParentheses.eq_def]
  split <;> simp

theorem not_isWord_of_quote (cs : List Char) {chars : List Char} (h : quoteFor cs ∈ chars) :
    ¬IsWord (String.ofList chars) := by
  refine not_isWord_of_mem (c := quoteFor cs) (by rwa [String.toList_ofList]) ?_
  rw [quoteFor]
  split <;> decide

theorem not_isWord_written (k : Value) : ¬IsWord k.written := by
  cases k with
  | null => exact not_isWord_of_mem (s := "None") (c := 'N') (by simp) (by decide)
  | bool b => exact not_isWord_boolText b
  | int n => exact not_isWord_toString n
  | float x => exact not_isWord_float x
  | str s => exact not_isWord_of_quote s.toList List.mem_cons_self
  | list xs => exact not_isWord_append _ (t := "]") (c := ']') (by simp) (by decide)
  | tuple xs => exact not_isWord_inParentheses (writtenList xs)
  | dict entries => exact not_isWord_inBraces (commaSeparated (writtenEntries entries))
  | date d => exact not_isWord_append _ (t := ")") (c := ')') (by simp) (by decide)
  | moment t => exact not_isWord_append _ (t := ")") (c := ')') (by simp) (by decide)
  | bytes bs =>
    exact not_isWord_of_quote (bs.map fun b => Char.ofNat b.toNat)
      (List.mem_cons_of_mem _ List.mem_cons_self)
  | set xs =>
    cases xs with
    | nil => exact not_isWord_of_mem (s := "set()") (c := '(') (by simp) (by decide)
    | cons x xs => exact not_isWord_inBraces (commaSeparated (written x :: writtenList xs))
  | clauses c =>
    obtain ⟨must, mustNot, should, filter⟩ := c
    exact not_isWord_append _ (t := ")") (c := ')') (by simp) (by decide)
  | enclosing => exact not_isWord_of_mem (s := "[...]") (c := '[') (by simp) (by decide)

theorem eq_str_of_isWord_display {k : Value} (h : IsWord k.display) : k = .str k.display := by
  cases k with
  | str s => rfl
  | date d =>
    rw [display, ← String.append_empty (s := d.iso)] at h
    exact absurd h (not_isWord_iso_append d _)
  | moment t =>
    rw [display, String.append_assoc] at h
    exact absurd h (not_isWord_iso_append t.date _)
  | _ => exact absurd h (not_isWord_written _)

end Value

namespace Config

theorem unknownNames_isEmpty_iff {known : List String} {entries : Entries}
    (h : ∀ name ∈ known, Text.IsWord name) :
    (unknownNames known entries).isEmpty = true ↔ Entries.KeysAmong known entries := by
  have hempty : (unknownNames known entries).isEmpty = true ↔
      ∀ entry ∈ entries, entry.1.display ∈ known := by
    rw [unknownNames, (List.mergeSort_perm _ _).isEmpty_eq, List.isEmpty_iff,
      List.eq_nil_iff_forall_not_mem]
    simp only [List.mem_eraseDups, List.mem_filter, List.mem_map, Bool.not_eq_true', List.contains_eq_mem,
      decide_eq_false_iff_not, not_and, not_not, forall_exists_index, and_imp, forall_apply_eq_imp_iff₂]
  rw [hempty]
  constructor
  · intro hknown entry hentry
    have hmem := hknown entry hentry
    exact ⟨_, hmem, Value.eq_str_of_isWord_display (h _ hmem)⟩
  · intro hkeys entry hentry
    obtain ⟨name, hname, hkey⟩ := hkeys entry hentry
    rw [hkey]
    exact hname

end Config

end SearchRequest
