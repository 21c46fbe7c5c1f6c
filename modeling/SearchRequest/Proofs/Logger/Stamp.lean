import SearchRequest.Logger

/-!
# Time stamps

A time stamp shows a moment from the month to the second, two digits for each part, and leaves out the year. So within
one calendar year the stamps of later moments are not before those of earlier ones (`Moment.fileStamp_le`); from one
year to the next they start over.
-/

namespace SearchRequest

namespace Moment

/-- What a time stamp shows of a moment. -/
def shown (t : Moment) : List Nat := [t.date.month, t.date.day, t.hour, t.minute, t.second]

/-- A clock shows a moment before another. -/
def Precedes (t u : Moment) : Prop := List.Lex (· < ·) (t.date.year :: t.shown) (u.date.year :: u.shown)

instance (t u : Moment) : Decidable (t.Precedes u) := inferInstanceAs (Decidable (List.Lex _ _ _))

end Moment

/-- Moments of one calendar year, shown one after another by a clock that does not go back. Two digits are enough for
each part of them, as for all that a clock shows (`Moment.lt_of_mem_shown_ofUnixSeconds`). -/
structure Clock (year : Nat) (moments : List Moment) : Prop where
  ascends : moments.Pairwise fun t u => ¬u.Precedes t
  year : ∀ t ∈ moments, t.date.year = year
  short : ∀ t ∈ moments, ∀ n ∈ t.shown, n < 100

namespace Calendar

theorem toList_padded_two {n : Nat} (h : n < 100) :
    (padded 2 n).toList = [Nat.digitChar (n / 10), Nat.digitChar (n % 10)] := by
  rw [padded, String.toList_ofList]
  revert n
  decide

theorem lt_of_digitChar_lt {m n : Nat} (hm : m < 10) (hn : n < 10) (h : Nat.digitChar m < Nat.digitChar n) :
    m < n := by
  have hall : ∀ m < 10, ∀ n < 10, Nat.digitChar m < Nat.digitChar n → m < n := by decide
  exact hall m hm n hn h

theorem eq_of_digitChar_eq {m n : Nat} (hm : m < 10) (hn : n < 10) (h : Nat.digitChar m = Nat.digitChar n) :
    m = n := by
  have hall : ∀ m < 10, ∀ n < 10, Nat.digitChar m = Nat.digitChar n → m = n := by decide
  exact hall m hm n hn h

theorem lex_of_lex_flatMap_padded {ms ns : List Nat} (hlength : ms.length = ns.length) (hms : ∀ m ∈ ms, m < 100)
    (hns : ∀ n ∈ ns, n < 100)
    (h : List.Lex (· < ·) (ms.flatMap fun m => (padded 2 m).toList) (ns.flatMap fun n => (padded 2 n).toList)) :
    List.Lex (· < ·) ms ns := by
  induction ms generalizing ns with
  | nil =>
    rw [List.length_nil, eq_comm, List.length_eq_zero_iff] at hlength
    rw [hlength] at h
    cases h
  | cons m ms ih =>
    cases ns with
    | nil => cases hlength
    | cons n ns =>
      rw [List.forall_mem_cons] at hms hns
      rw [List.flatMap_cons, List.flatMap_cons, toList_padded_two hms.1, toList_padded_two hns.1] at h
      simp only [List.cons_append, List.nil_append, List.cons_lex_cons_iff] at h ⊢
      have htens : m / 10 < 10 ∧ n / 10 < 10 := by omega
      have hones : m % 10 < 10 ∧ n % 10 < 10 := by omega
      obtain hlt | ⟨hsame, hlt | ⟨hboth, hrest⟩⟩ := h
      · have hlt := lt_of_digitChar_lt htens.1 htens.2 hlt
        exact .inl (by omega)
      · have hsame := eq_of_digitChar_eq htens.1 htens.2 hsame
        have hlt := lt_of_digitChar_lt hones.1 hones.2 hlt
        exact .inl (by omega)
      · have hsame := eq_of_digitChar_eq htens.1 htens.2 hsame
        have hboth := eq_of_digitChar_eq hones.1 hones.2 hboth
        exact .inr ⟨by omega, ih (Nat.succ.inj hlength) hms.2 hns.2 hrest⟩

end Calendar

namespace Moment

theorem lt_of_mem_shown_ofUnixSeconds {seconds n : Nat} (h : n ∈ (ofUnixSeconds seconds).shown) : n < 100 := by
  simp only [shown, ofUnixSeconds, Date.ofDayOfEra, List.mem_cons, List.not_mem_nil, or_false] at h
  have hday : (seconds / 86400 + 719468) % 146097 < 146097 := Nat.mod_lt _ (by decide)
  generalize (seconds / 86400 + 719468) % 146097 = day at hday h
  obtain rfl | rfl | rfl | rfl | rfl := h
  · split <;> omega
  all_goals omega

theorem toList_fileStamp (t : Moment) :
    t.fileStamp.toList = t.shown.flatMap fun n => (Calendar.padded 2 n).toList := by
  simp [fileStamp, shown]

/-- **Within a year time stamps come in the order of their moments.** -/
theorem fileStamp_le {t u : Moment} (ht : ∀ n ∈ t.shown, n < 100) (hu : ∀ n ∈ u.shown, n < 100)
    (hyear : t.date.year = u.date.year) (h : ¬u.Precedes t) : t.fileStamp ≤ u.fileStamp := by
  intro hbefore
  refine h (List.cons_lex_cons_iff.2 (.inr ⟨hyear.symm, ?_⟩))
  refine Calendar.lex_of_lex_flatMap_padded rfl hu ht ?_
  rw [← toList_fileStamp, ← toList_fileStamp]
  exact hbefore

end Moment

theorem Clock.pairwise_fileStamp {year : Nat} {moments : List Moment} (h : Clock year moments) :
    moments.Pairwise fun t u => t.fileStamp ≤ u.fileStamp := by
  refine h.ascends.imp_of_mem fun {t u} ht hu hnot => ?_
  exact Moment.fileStamp_le (h.short t ht) (h.short u hu) ((h.year t ht).trans (h.year u hu).symm) hnot

end SearchRequest
