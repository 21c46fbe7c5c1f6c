import SearchRequest.Proofs.LogFile
import SearchRequest.Proofs.Logger.Run

/-!
# The places of log files

The name of a log file ends with a time stamp, behind whatever directories the action leads to. So log files with
different time stamps are different files (`stamp_eq_of_logPlace_eq`), whatever their directories and actions are.
-/

namespace SearchRequest

namespace FilePath

theorem exists_splitOn_append (cs : List Char) :
    ∃ front last, ∀ more : List Char, '/' ∉ more → (cs ++ more).splitOn '/' = front ++ [last ++ more] := by
  induction cs with
  | nil => exact ⟨[], [], fun more h => List.splitOn_eq_singleton h⟩
  | cons c cs ih =>
    obtain ⟨front, last, hsplit⟩ := ih
    by_cases hslash : c = '/'
    · subst hslash
      refine ⟨[] :: front, last, fun more h => ?_⟩
      rw [List.cons_append, List.splitOn_cons_eq_if_modifyHead, hsplit more h]
      rfl
    · have hne : ¬(c == '/') = true := by rwa [beq_iff_eq]
      cases front with
      | nil =>
        refine ⟨[], c :: last, fun more h => ?_⟩
        rw [List.cons_append, List.splitOn_cons_eq_if_modifyHead, if_neg hne, hsplit more h]
        rfl
      | cons part front =>
        refine ⟨(c :: part) :: front, last, fun more h => ?_⟩
        rw [List.cons_append, List.splitOn_cons_eq_if_modifyHead, if_neg hne, hsplit more h]
        rfl

theorem rootOf_append_cons {c : Char} (h : c ≠ '/') (cs more : List Char) :
    rootOf (cs ++ c :: more) = rootOf (cs ++ [c]) := by
  have hstop (more : List Char) : (c :: more).takeWhile (· == '/') = [] := by
    rw [List.takeWhile_cons, if_neg (by rwa [beq_iff_eq])]
  rw [rootOf, rootOf, List.takeWhile_append, List.takeWhile_append, hstop, hstop]

theorem exists_ofString_eq (action : String) :
    ∃ root parts segment, ∀ stamp, '/' ∉ stamp.toList →
      ofString (action ++ "_" ++ stamp ++ ".log") = ⟨root, parts ++ [segment ++ "_" ++ stamp ++ ".log"]⟩ := by
  obtain ⟨front, last, hsplit⟩ := exists_splitOn_append action.toList
  refine ⟨rootOf (action.toList ++ ['_']),
    (front.filter fun part => part != [] && part != ['.']).map String.ofList, String.ofList last,
    fun stamp hstamp => ?_⟩
  have hchars : (action ++ "_" ++ stamp ++ ".log").toList =
      action.toList ++ '_' :: (stamp.toList ++ ".log".toList) := by
    simp
  have hfree : '/' ∉ '_' :: (stamp.toList ++ ".log".toList) := by
    simp [hstamp]
  have hkept (part : List Char) (h : '_' ∈ part) : (part != [] && part != ['.']) = true := by
    rw [Bool.and_eq_true, bne_iff_ne, bne_iff_ne]
    constructor <;> rintro rfl <;> revert h <;> decide
  rw [ofString, hchars, rootOf_append_cons (by decide), hsplit _ hfree]
  rw [List.filter_append, List.filter_cons, if_pos (hkept _ (by simp)), List.filter_nil, List.map_append,
    List.map_cons, List.map_nil]
  congr 3
  rw [← String.toList_inj]
  simp

theorem location_concat {root name : String} {parts : List String} (h : name ≠ "..") :
    (⟨root, parts ++ [name]⟩ : FilePath).location = (⟨root, parts⟩ : FilePath).location ++ [name] := by
  rw [location, List.foldl_append, List.foldl_cons, List.foldl_nil, Workspace.child, if_neg h, location]

end FilePath

theorem Moment.isDigit_of_mem_fileStamp {t : Moment} {c : Char} (h : c ∈ t.fileStamp.toList) : c.isDigit = true := by
  simp only [fileStamp, String.toList_append, List.mem_append] at h
  obtain (((h | h) | h) | h) | h := h <;> exact Calendar.isDigit_of_mem_padded h

theorem not_mem_fileStamp {c : Char} (h : c.isDigit = false) (t : Moment) : c ∉ t.fileStamp.toList := by
  intro hmem
  rw [Moment.isDigit_of_mem_fileStamp hmem] at h
  cases h

theorem exists_logPlace_eq (directory action : String) :
    ∃ base segment, ∀ t : Moment, logPlace directory action t.fileStamp =
      base ++ [segment ++ "_" ++ t.fileStamp ++ ".log"] := by
  obtain ⟨root, parts, segment, hname⟩ := FilePath.exists_ofString_eq action
  have hplace (t : Moment) : logPlace directory action t.fileStamp =
      ((Session.logDirectory directory action).join
        ⟨root, parts ++ [segment ++ "_" ++ t.fileStamp ++ ".log"]⟩).location := by
    rw [logPlace, FilePath.location_collapsed, hname _ (not_mem_fileStamp (by decide) t)]
    exact FilePath.slash_not_mem_join (Session.slash_not_mem_logDirectory directory action)
      (FilePath.slash_not_mem_ofString _)
  have hne (t : Moment) : segment ++ "_" ++ t.fileStamp ++ ".log" ≠ ".." := by
    intro heq
    have hscore : '_' ∈ (segment ++ "_" ++ t.fileStamp ++ ".log").toList := by simp
    rw [heq] at hscore
    revert hscore
    decide
  simp only [FilePath.join] at hplace
  split at hplace
  · simp only [← List.append_assoc] at hplace
    exact ⟨_, segment, fun t => (hplace t).trans (FilePath.location_concat (hne t))⟩
  · exact ⟨_, segment, fun t => (hplace t).trans (FilePath.location_concat (hne t))⟩

theorem stamp_eq_of_name_eq {segment other stamp otherStamp : String} (hstamp : '_' ∉ stamp.toList)
    (hother : '_' ∉ otherStamp.toList)
    (h : segment ++ "_" ++ stamp ++ ".log" = other ++ "_" ++ otherStamp ++ ".log") : stamp = otherStamp := by
  have hchars : segment.toList ++ '_' :: stamp.toList = other.toList ++ '_' :: otherStamp.toList := by
    have hwhole := congrArg String.toList h
    simp only [String.toList_append] at hwhole
    simpa using List.append_cancel_right hwhole
  have htail {more stamp otherStamp : List Char} (hfree : '_' ∉ stamp)
      (heq : '_' :: stamp = more ++ '_' :: otherStamp) : stamp = otherStamp := by
    cases more with
    | nil => exact List.tail_eq_of_cons_eq heq
    | cons c more =>
      rw [(List.cons.inj heq).2] at hfree
      exact absurd (List.mem_append_right more List.mem_cons_self) hfree
  rw [← String.toList_inj]
  obtain ⟨more, -, heq⟩ | ⟨more, -, heq⟩ := List.append_eq_append_iff.1 hchars
  · exact htail hstamp heq
  · exact (htail hother heq).symm

/-- **Log files with different time stamps are different files.** -/
theorem stamp_eq_of_logPlace_eq {directory action other otherAction : String} {t u : Moment}
    (h : logPlace directory action t.fileStamp = logPlace other otherAction u.fileStamp) :
    t.fileStamp = u.fileStamp := by
  obtain ⟨base, segment, hplace⟩ := exists_logPlace_eq directory action
  obtain ⟨otherBase, otherSegment, hother⟩ := exists_logPlace_eq other otherAction
  rw [hplace, hother] at h
  have hname := (List.append_inj' h rfl).2
  exact stamp_eq_of_name_eq (not_mem_fileStamp (by decide) t) (not_mem_fileStamp (by decide) u)
    (List.singleton_inj.1 hname)

end SearchRequest
