import SearchRequest.Text.Surrogate
import SearchRequest.Yaml.Load

/-!
# Spelled texts

Code points are read back from their spelling (`Text.codePoints_flatMap_spelling`), so texts that differ have different
spellings, and characters other than the announcer spell themselves (`Text.codePoints_eq_map`). A text can be encoded
when it spells characters only, and these are then the text (`Text.plain_eq_ok_iff`). A configuration as it stands in
its file is its own spelling (`Yaml.plain_of_load`).
-/

namespace SearchRequest

namespace Text

namespace CodePoint

theorem toNat_letter (n : Fin 0x800) : (Char.ofNat (firstLetter + n)).toNat = firstLetter + n := by
  have hvalid : (firstLetter + n.val).isValidChar :=
    .inr ⟨by unfold firstLetter; omega, by unfold firstLetter; omega⟩
  rw [Char.ofNat, dif_pos hvalid]
  rfl

theorem announced?_letter (n : Fin 0x800) : announced? (Char.ofNat (firstLetter + n)) = some (.surrogate n) := by
  have hletter := toNat_letter n
  have hne : Char.ofNat (firstLetter + n) ≠ announcer := by
    intro h
    have hlarge : announcer.toNat = 0xFFFF := by decide
    rw [← h, hletter, firstLetter] at hlarge
    omega
  rw [announced?, if_neg hne, dif_pos ⟨by omega, by omega⟩]
  simp [hletter]

theorem eq_of_announced?_eq_character {c d : Char} (h : announced? d = some (.character c)) : c = announcer := by
  rw [announced?] at h
  split at h
  · cases h
    rfl
  · split at h <;> cases h

end CodePoint

open CodePoint

/-! ### Code points -/

theorem codePoints_cons {c : Char} (h : c ≠ announcer) (cs : List Char) :
    codePoints (c :: cs) = .character c :: codePoints cs := by
  cases cs with
  | nil => rfl
  | cons d rest => rw [codePoints, if_neg h]

theorem codePoints_announced {d : Char} {p : CodePoint} (h : announced? d = some p) (rest : List Char) :
    codePoints (announcer :: d :: rest) = p :: codePoints rest := by
  rw [codePoints, if_pos rfl, h]

theorem codePoints_spelling_append (p : CodePoint) (cs : List Char) :
    codePoints (p.spelling ++ cs) = p :: codePoints cs := by
  cases p with
  | character c =>
    rw [spelling]
    split
    · next h =>
      subst h
      exact codePoints_announced (if_pos rfl) cs
    · next h => exact codePoints_cons h cs
  | surrogate n => exact codePoints_announced (announced?_letter n) cs

/-- **Code points are read back from their spelling.** -/
theorem codePoints_flatMap_spelling (ps : List CodePoint) : codePoints (ps.flatMap spelling) = ps := by
  induction ps with
  | nil => rfl
  | cons p ps ih => rw [List.flatMap_cons, codePoints_spelling_append, ih]

theorem codePoints_eq_map {cs : List Char} (h : announcer ∉ cs) : codePoints cs = cs.map .character := by
  induction cs with
  | nil => rfl
  | cons c cs ih =>
    rw [List.mem_cons, not_or] at h
    rw [codePoints_cons (Ne.symm h.1), ih h.2, List.map_cons]

theorem mem_of_character_mem {c : Char} {cs : List Char} (h : .character c ∈ codePoints cs) : c ∈ cs := by
  fun_induction codePoints cs with
  | case1 => cases h
  | case2 d =>
    cases List.mem_singleton.1 h
    exact List.mem_singleton_self _
  | case3 d rest p hp ih =>
    rcases List.mem_cons.1 h with rfl | h
    · rw [eq_of_announced?_eq_character hp]
      exact List.mem_cons_self
    · exact List.mem_cons_of_mem _ (List.mem_cons_of_mem _ (ih h))
  | case4 d rest _ ih =>
    rcases List.mem_cons.1 h with heq | h
    · cases heq
      exact List.mem_cons_self
    · exact List.mem_cons_of_mem _ (ih h)
  | case5 d e rest _ ih =>
    rcases List.mem_cons.1 h with heq | h
    · cases heq
      exact List.mem_cons_self
    · exact List.mem_cons_of_mem _ (ih h)

theorem surrogate_mem_append {n : Fin 0x800} {cs : List Char} (h : .surrogate n ∈ codePoints cs) (ds : List Char) :
    .surrogate n ∈ codePoints (cs ++ ds) := by
  fun_induction codePoints cs with
  | case1 => cases h
  | case2 d => cases List.mem_singleton.1 h
  | case3 d rest p hp ih =>
    rw [List.cons_append, List.cons_append, codePoints_announced hp]
    rcases List.mem_cons.1 h with rfl | h
    · exact List.mem_cons_self
    · exact List.mem_cons_of_mem _ (ih h)
  | case4 d rest hnone ih =>
    rw [List.cons_append, List.cons_append, codePoints, if_pos rfl, hnone]
    exact List.mem_cons_of_mem _ (ih ((List.mem_cons.1 h).resolve_left nofun))
  | case5 d e rest hne ih =>
    rw [List.cons_append, codePoints_cons hne]
    exact List.mem_cons_of_mem _ (ih ((List.mem_cons.1 h).resolve_left nofun))

/-! ### Encoding -/

theorem surrogateError?_eq_none_iff {isAllowed : CodePoint → Bool} {position : Nat} {ps : List CodePoint} :
    surrogateError? isAllowed position ps = none ↔ ∀ n, .surrogate n ∈ ps → isAllowed (.surrogate n) = true := by
  induction ps generalizing position with
  | nil => simp [surrogateError?]
  | cons p ps ih =>
    cases p with
    | character c => simp [surrogateError?, ih]
    | surrogate n =>
      rw [surrogateError?]
      split
      · next hallowed => simp [ih, hallowed]
      · next hallowed => simp [hallowed]

theorem pathError?_eq_none_iff {s : String} :
    pathError? s = none ↔ ∀ n, .surrogate n ∈ codePoints s.toList → isForPaths (.surrogate n) = true :=
  surrogateError?_eq_none_iff

theorem pathError?_of_append {s more : String} (h : pathError? (s ++ more) = none) : pathError? s = none := by
  rw [pathError?_eq_none_iff] at h ⊢
  intro n hn
  exact h n (by rw [String.toList_append]; exact surrogate_mem_append hn _)

theorem flatMap_shown_map_character (cs : List Char) : (cs.map .character).flatMap CodePoint.shown = cs := by
  induction cs with
  | nil => rfl
  | cons c cs ih => rw [List.map_cons, List.flatMap_cons, ih, CodePoint.shown, List.singleton_append]

theorem map_character_flatMap_shown {ps : List CodePoint} (h : ∀ n, .surrogate n ∉ ps) :
    (ps.flatMap CodePoint.shown).map .character = ps := by
  induction ps with
  | nil => rfl
  | cons p ps ih =>
    have hrest := ih fun n hn => h n (List.mem_cons_of_mem _ hn)
    cases p with
    | character c => rw [List.flatMap_cons, List.map_append, hrest, CodePoint.shown, List.map_singleton,
        List.singleton_append]
    | surrogate n => exact absurd List.mem_cons_self (h n)

/-- **A text can be encoded when it spells characters only**, and it is then those characters. -/
theorem plain_eq_ok_iff {s text : String} : plain s = .ok text ↔ codePoints s.toList = text.toList.map .character := by
  rw [plain]
  split
  · next e herror =>
    refine iff_of_false nofun fun h => ?_
    have hnone : surrogateError? (!·.isSurrogate) 0 (codePoints s.toList) = none := by
      refine surrogateError?_eq_none_iff.2 fun n hn => ?_
      rw [h] at hn
      obtain ⟨c, -, hc⟩ := List.mem_map.1 hn
      cases hc
    rw [hnone] at herror
    cases herror
  · next hnone =>
    rw [surrogateError?_eq_none_iff] at hnone
    have hcharacters := map_character_flatMap_shown fun n hn => Bool.noConfusion (hnone n hn)
    constructor
    · intro h
      cases h
      rw [shown, String.toList_ofList, hcharacters]
    · intro h
      rw [shown, h, flatMap_shown_map_character, String.ofList_toList]

theorem plain_spell (s : String) : plain (spell s) = .ok s := by
  rw [plain_eq_ok_iff, spell, String.toList_ofList, codePoints_flatMap_spelling]

theorem plain_eq_self {s : String} (h : announcer ∉ s.toList) : plain s = .ok s :=
  plain_eq_ok_iff.2 (codePoints_eq_map h)

theorem mem_of_mem_plain {s text : String} (h : plain s = .ok text) {c : Char} (hc : c ∈ text.toList) :
    c ∈ s.toList := by
  refine mem_of_character_mem ?_
  rw [plain_eq_ok_iff.1 h]
  exact List.mem_map_of_mem hc

end Text

/-! ### Configurations -/

/-- **A text that can be read as a configuration spells itself**: the announcer may not stand in it. -/
theorem Yaml.plain_of_load {text : String} {v : Value} (h : load text = .ok v) : Text.plain text = .ok text := by
  refine Text.plain_eq_self fun hmem => ?_
  have hnone : ¬text.toList.all isAllowed = true := fun hall =>
    absurd (List.all_eq_true.1 hall _ hmem) (by decide)
  rw [load, Token.ofText, if_neg hnone] at h
  cases h

end SearchRequest
