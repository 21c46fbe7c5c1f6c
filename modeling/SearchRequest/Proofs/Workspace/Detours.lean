import Mathlib.Data.List.Induction
import SearchRequest.Proofs.Workspace.Directories

/-!
# Paths without detours

A part that leads upwards and the part in front of it can be left out of a path: the path then leads to the same
place (`FilePath.location_collapsed`), and through no place that it did not lead through before
(`FilePath.passes_of_passes_collapsed`).
-/

namespace SearchRequest

namespace FilePath

/-! ### One part after another -/

/-- The parts behind which another one has been put, the last of them first. -/
def push (hasRoot : Bool) (before : List String) (part : String) : List String :=
  (collapseParts hasRoot before [part]).reverse

theorem push_of_ne {hasRoot : Bool} {before : List String} {part : String} (h : part ≠ "..") :
    push hasRoot before part = part :: before := by
  simp [push, collapseParts]

theorem push_up_nil (hasRoot : Bool) : push hasRoot [] ".." = if hasRoot then [] else [".."] := by
  cases hasRoot <;> rfl

theorem push_up_up (hasRoot : Bool) (before : List String) :
    push hasRoot (".." :: before) ".." = ".." :: ".." :: before := by
  simp [push, collapseParts]

theorem push_up_of_ne {hasRoot : Bool} {before : List String} {part : String} (h : part ≠ "..") :
    push hasRoot (part :: before) ".." = before := by
  simp [push, collapseParts]

theorem collapseParts_cons (hasRoot : Bool) (before : List String) (part : String) (parts : List String) :
    collapseParts hasRoot before (part :: parts) = collapseParts hasRoot (push hasRoot before part) parts := by
  by_cases hup : part = ".."
  · subst hup
    cases before with
    | nil => rw [push_up_nil, collapseParts]
    | cons last before =>
      by_cases hlast : last = ".."
      · subst hlast
        rw [push_up_up, collapseParts]
      · rw [push_up_of_ne hlast]
        simp [collapseParts]
  · rw [push_of_ne hup]
    simp [collapseParts]

theorem collapseParts_eq_foldl (hasRoot : Bool) (before parts : List String) :
    collapseParts hasRoot before parts = (parts.foldl (push hasRoot) before).reverse := by
  induction parts generalizing before with
  | nil => rfl
  | cons part parts ih => rw [collapseParts_cons, ih, List.foldl_cons]

/-! ### Parts without detours -/

/-- Parts, the last of them first, of which only those at the start lead upwards, and none from a root. -/
inductive IsStraight (hasRoot : Bool) : List String → Prop where
  | nil : IsStraight hasRoot []
  | up {before : List String} (hroot : hasRoot = false) (hups : ∀ part ∈ before, part = "..") :
      IsStraight hasRoot (".." :: before)
  | name {part : String} {before : List String} (hpart : part ≠ "..") (hplain : part ≠ "/")
      (h : IsStraight hasRoot before) : IsStraight hasRoot (part :: before)

/-- The place that a path starts from, if it has a root and if not. -/
def startOf (hasRoot : Bool) : Location := if hasRoot then ["/"] else []

theorem isStraight_push {hasRoot : Bool} {before : List String} (h : IsStraight hasRoot before) {part : String}
    (hpart : part ≠ "/") :
    IsStraight hasRoot (push hasRoot before part) ∧
      Workspace.child (startOf hasRoot ++ before.reverse) part =
        startOf hasRoot ++ (push hasRoot before part).reverse := by
  by_cases hup : part = ".."
  · subst hup
    cases h with
    | nil =>
      cases hasRoot with
      | false => exact ⟨.up rfl nofun, rfl⟩
      | true => exact ⟨.nil, rfl⟩
    | @up before hroot hups =>
      subst hroot
      rw [push_up_up]
      refine ⟨.up rfl (by simpa using hups), ?_⟩
      have hall : (startOf false ++ (".." :: before).reverse).all (· == "..") = true := by
        simpa [startOf] using hups
      rw [Workspace.child, if_pos rfl, if_pos hall]
      simp [startOf]
    | @name last before hlast hplain h =>
      rw [push_up_of_ne hlast]
      refine ⟨h, ?_⟩
      have hlist : startOf hasRoot ++ (last :: before).reverse = startOf hasRoot ++ before.reverse ++ [last] := by
        rw [List.reverse_cons, List.append_assoc]
      have hall : ¬(startOf hasRoot ++ before.reverse ++ [last]).all (· == "..") = true := by
        simp [hlast]
      have hroot : startOf hasRoot ++ before.reverse ++ [last] ≠ ["/"] := by
        intro heq
        have hsame := congrArg List.getLast? heq
        rw [List.getLast?_concat, List.getLast?_singleton, Option.some.injEq] at hsame
        exact hplain hsame
      rw [hlist, Workspace.child, if_pos rfl, if_neg hall, if_neg hroot, List.dropLast_concat]
  · rw [push_of_ne hup]
    refine ⟨.name hup hpart h, ?_⟩
    rw [Workspace.child, if_neg hup, List.reverse_cons, List.append_assoc]

theorem foldl_child {hasRoot : Bool} {before : List String} (h : IsStraight hasRoot before) {parts : List String}
    (hparts : "/" ∉ parts) :
    IsStraight hasRoot (parts.foldl (push hasRoot) before) ∧
      parts.foldl Workspace.child (startOf hasRoot ++ before.reverse) =
        startOf hasRoot ++ (parts.foldl (push hasRoot) before).reverse := by
  induction parts generalizing before with
  | nil => exact ⟨h, rfl⟩
  | cons part parts ih =>
    rw [List.mem_cons, not_or] at hparts
    obtain ⟨hpushed, hchild⟩ := isStraight_push h (Ne.symm hparts.1)
    rw [List.foldl_cons, List.foldl_cons, hchild]
    exact ih hpushed hparts.2

theorem isStraight_of_ups {before : List String} (h : ∀ part ∈ before, part = "..") : IsStraight false before := by
  cases before with
  | nil => exact .nil
  | cons part before =>
    rw [List.forall_mem_cons] at h
    obtain ⟨rfl, hups⟩ := h
    exact .up rfl hups

theorem isStraight_of_append {hasRoot : Bool} {last before : List String} (h : IsStraight hasRoot (last ++ before)) :
    IsStraight hasRoot before := by
  induction last with
  | nil => exact h
  | cons part last ih =>
    cases h with
    | up hroot hups =>
      subst hroot
      exact isStraight_of_ups fun part hpart => hups part (List.mem_append_right last hpart)
    | name _ _ h => exact ih h

theorem foldl_child_reverse {hasRoot : Bool} {before : List String} (h : IsStraight hasRoot before) :
    before.reverse.foldl Workspace.child (startOf hasRoot) = startOf hasRoot ++ before.reverse := by
  induction before with
  | nil => rw [List.reverse_nil, List.foldl_nil, List.append_nil]
  | cons part before ih =>
    rw [List.reverse_cons, List.foldl_append, List.foldl_cons, List.foldl_nil]
    cases h with
    | up hroot hups =>
      subst hroot
      have hall : (startOf false ++ before.reverse).all (· == "..") = true := by
        simpa [startOf] using hups
      rw [ih (isStraight_of_ups hups), Workspace.child, if_pos rfl, if_pos hall, List.append_assoc]
    | name hpart hplain h =>
      rw [ih h, Workspace.child, if_neg hpart, List.append_assoc]

/-! ### Whole paths -/

theorem start_eq (path : FilePath) : path.start = startOf (!path.root.isEmpty) := by
  rw [start, startOf]
  cases path.root.isEmpty <;> rfl

theorem collapsed_parts (path : FilePath) :
    path.collapsed.parts = (path.parts.foldl (push (!path.root.isEmpty)) []).reverse :=
  collapseParts_eq_foldl _ _ _

theorem isStraight_nil (path : FilePath) : IsStraight (!path.root.isEmpty) [] := .nil

theorem location_eq {path : FilePath} (h : "/" ∉ path.parts) :
    path.location = startOf (!path.root.isEmpty) ++ path.collapsed.parts := by
  have hchild := (foldl_child path.isStraight_nil h).2
  rw [List.reverse_nil, List.append_nil, ← start_eq] at hchild
  rw [collapsed_parts, ← start_eq]
  exact hchild

/-- **A path leads where it leads without its detours.** -/
theorem location_collapsed {path : FilePath} (h : "/" ∉ path.parts) : path.collapsed.location = path.location := by
  have hspelled := foldl_child_reverse (foldl_child path.isStraight_nil h).1
  rw [← collapsed_parts, ← start_eq] at hspelled
  rw [location_eq h, ← start_eq]
  exact hspelled

theorem kept_of_push {hasRoot : Bool} {before : List String} {part : String} {kept : List String}
    (h : kept <+: (push hasRoot before part).reverse) :
    kept <+: before.reverse ∨ kept = (push hasRoot before part).reverse := by
  have hbehind (last : String) (before : List String) (hkept : kept <+: (last :: before).reverse) :
      kept <+: before.reverse ∨ kept = (last :: before).reverse := by
    rw [List.reverse_cons] at hkept ⊢
    exact (List.prefix_concat_iff.1 hkept).symm
  by_cases hup : part = ".."
  · subst hup
    cases before with
    | nil =>
      rw [push_up_nil] at h ⊢
      cases hasRoot with
      | false => exact hbehind ".." [] h
      | true => exact .inl h
    | cons last before =>
      by_cases hlast : last = ".."
      · subst hlast
        rw [push_up_up] at h ⊢
        exact hbehind ".." (".." :: before) h
      · rw [push_up_of_ne hlast] at h
        rw [List.reverse_cons]
        exact .inl (h.trans (List.prefix_append before.reverse [last]))
  · rw [push_of_ne hup] at h ⊢
    exact hbehind part before h

theorem exists_foldl_child {hasRoot : Bool} {parts kept : List String} (h : "/" ∉ parts)
    (hkept : kept <+: (parts.foldl (push hasRoot) []).reverse) :
    ∃ before, before <+: parts ∧ before.foldl Workspace.child (startOf hasRoot) = startOf hasRoot ++ kept := by
  induction parts using List.reverseRecOn with
  | nil =>
    obtain rfl := List.prefix_nil.1 hkept
    exact ⟨[], List.prefix_rfl, by simp⟩
  | append_singleton parts part ih =>
    have hparts : "/" ∉ parts := fun hmem => h (List.mem_append_left [part] hmem)
    have hfold : (parts ++ [part]).foldl (push hasRoot) [] = push hasRoot (parts.foldl (push hasRoot) []) part := by
      rw [List.foldl_append, List.foldl_cons, List.foldl_nil]
    rw [hfold] at hkept
    obtain hold | rfl := kept_of_push hkept
    · obtain ⟨before, hbefore, hplace⟩ := ih hparts hold
      exact ⟨before, hbefore.trans (List.prefix_append parts [part]), hplace⟩
    · refine ⟨parts ++ [part], List.prefix_rfl, ?_⟩
      have hchild := (foldl_child (IsStraight.nil : IsStraight hasRoot []) h).2
      rw [List.reverse_nil, List.append_nil, hfold] at hchild
      exact hchild

theorem passes_of_passes_collapsed {path : FilePath} (h : "/" ∉ path.parts) {l : Location}
    (hl : path.collapsed.Passes l) : path.Passes l := by
  obtain ⟨kept, hkept, rfl⟩ := hl
  rw [collapsed_parts] at hkept
  obtain ⟨before, hbefore, hplace⟩ := exists_foldl_child h hkept
  refine ⟨before, hbefore, ?_⟩
  have hstraight : IsStraight (!path.root.isEmpty) kept.reverse := by
    obtain ⟨rest, hrest⟩ := hkept
    have hwhole := (foldl_child path.isStraight_nil h).1
    rw [← List.reverse_reverse (path.parts.foldl _ _), ← hrest, List.reverse_append] at hwhole
    exact isStraight_of_append hwhole
  have hspelled := foldl_child_reverse hstraight
  rw [List.reverse_reverse, ← start_eq] at hspelled
  rw [start_eq, hplace, ← start_eq]
  exact hspelled.symm

end FilePath

end SearchRequest
