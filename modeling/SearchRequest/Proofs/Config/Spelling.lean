import SearchRequest.Proofs.Config.Entries
import SearchRequest.Text.Blank
import SearchRequest.Text.Case

/-!
# Spellings of words

A word of small letters may be written with capitals and with blanks around it. Taking the blanks away and
lowering the letters gives the word back (`lower_strip_of_spells`). Of the tables of blanks and capitals only
the first 128 characters matter: no other character becomes a letter of a word when its case is dropped.
-/

namespace SearchRequest.Text

/-- Whether a text is a word in some letter case. -/
def IsCased (word s : String) : Prop := s.toList.map Char.toLower = word.toList

instance (word s : String) : Decidable (IsCased word s) := inferInstanceAs (Decidable (_ = _))

/-- Whether a text is a word in some letter case, with blanks around it. -/
def Spells (word s : String) : Prop :=
  ∃ before inner after : List Char, s.toList = before ++ inner ++ after ∧
    (∀ c ∈ before, isBlank c = true) ∧ (∀ c ∈ after, isBlank c = true) ∧
      inner.map Char.toLower = word.toList

/-! ### Blanks -/

section

variable {p : Char → Bool} {before inner after : List Char}

theorem dropWhile_append (hb : ∀ c ∈ before, p c = true) (h : ∀ c, inner.head? = some c → p c = false) :
    (before ++ inner).dropWhile p = inner := by
  rw [List.dropWhile_append_of_pos hb]
  cases inner with
  | nil => rfl
  | cons c cs => rw [List.dropWhile_cons_of_neg (by simp [h c rfl])]

theorem stripWhile_append (hne : inner ≠ []) (hb : ∀ c ∈ before, p c = true)
    (ha : ∀ c ∈ after, p c = true) (h : ∀ c ∈ inner, p c = false) :
    stripWhile p (before ++ inner ++ after) = inner := by
  obtain ⟨first, hfirst⟩ := Option.ne_none_iff_exists'.1 (mt List.head?_eq_none_iff.1 hne)
  have hfront : (before ++ inner ++ after).dropWhile p = inner ++ after := by
    rw [List.append_assoc]
    refine dropWhile_append hb fun c hc => ?_
    rw [List.head?_append, hfirst] at hc
    cases hc
    exact h first (List.mem_of_mem_head? hfirst)
  have hback : (after.reverse ++ inner.reverse).dropWhile p = inner.reverse := by
    refine dropWhile_append (by simpa using ha) fun c hc => ?_
    exact h c (List.mem_reverse.1 (List.mem_of_mem_head? hc))
  rw [stripWhile, hfront, List.reverse_append, hback, List.reverse_reverse]

end

/-! ### Letters -/

theorem toLower_of_le {c : Char} (h : 128 ≤ c.toNat) : c.toLower = c := by
  have hcapital : ¬('A'.val ≤ c.val ∧ c.val ≤ 'Z'.val) := by
    rintro ⟨-, hz⟩
    have hle : c.toNat ≤ 'Z'.toNat := hz
    exact absurd (Nat.le_trans h hle) (by decide)
  exact dif_neg hcapital

theorem toNat_lt_of_isWordChar {c : Char} (h : isWordChar c = true) : c.toNat < 128 := by
  rw [isWordChar, Bool.or_eq_true, isLower_iff, beq_iff_eq] at h
  rcases h with ⟨-, hz⟩ | rfl
  · exact Nat.lt_of_le_of_lt hz (by decide)
  · decide

theorem basicLetters : ∀ n < 128, isWordChar (Char.ofNat n).toLower = true →
    lowerChar (Char.ofNat n) = [(Char.ofNat n).toLower] ∧ isBlank (Char.ofNat n) = false ∧
      Char.ofNat n ≠ capitalSigma := by
  decide +kernel

theorem letter_of_isWordChar_toLower {c : Char} (h : isWordChar c.toLower = true) :
    lowerChar c = [c.toLower] ∧ isBlank c = false ∧ c ≠ capitalSigma := by
  have hlt : c.toNat < 128 := by
    refine Nat.lt_of_not_le fun hle => ?_
    rw [toLower_of_le hle] at h
    exact absurd (toNat_lt_of_isWordChar h) (Nat.not_lt_of_le hle)
  have hbasic := basicLetters c.toNat hlt
  rw [Char.ofNat_toNat] at hbasic
  exact hbasic h

theorem lowerAfter_eq_map {cs : List Char} (h : ∀ c ∈ cs, isWordChar c.toLower = true) (before : List Char) :
    lowerAfter before cs = cs.map Char.toLower := by
  induction cs generalizing before with
  | nil => rfl
  | cons c cs ih =>
    rw [List.forall_mem_cons] at h
    obtain ⟨hlower, -, hsigma⟩ := letter_of_isWordChar_toLower h.1
    rw [lowerAfter, ih h.2, if_neg hsigma, hlower]
    rfl

/-! ### Words -/

theorem isWordChar_of_map_toLower {word : String} (hword : IsWord word) {cs : List Char}
    (h : cs.map Char.toLower = word.toList) : ∀ c ∈ cs, isWordChar c.toLower = true := by
  have hall := hword.1
  rwa [← h, List.all_map, List.all_eq_true] at hall

theorem lower_of_isCased {word s : String} (hword : IsWord word) (h : IsCased word s) : lower s = word := by
  rw [lower, lowerChars, lowerAfter_eq_map (isWordChar_of_map_toLower hword h), h, String.ofList_toList]

theorem lower_strip_of_spells {word s : String} (hword : IsWord word) (hne : word ≠ "") (h : Spells word s) :
    lower (strip s) = word := by
  obtain ⟨before, inner, after, hs, hbefore, hafter, hinner⟩ := h
  have hletters := isWordChar_of_map_toLower hword hinner
  have hstrip : strip s = String.ofList inner := by
    rw [strip, hs, stripChars, stripWhile_append _ hbefore hafter fun c hc =>
      (letter_of_isWordChar_toLower (hletters c hc)).2.1]
    rintro rfl
    exact hne (String.toList_inj.1 hinner.symm)
  rw [hstrip]
  exact lower_of_isCased hword (by rwa [IsCased, String.toList_ofList])

end SearchRequest.Text
