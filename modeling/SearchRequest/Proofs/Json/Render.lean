import Mathlib.Tactic.SplitIfs
import SearchRequest.Proofs.Json.Number

/-!
# The text of a tree

The trees whose numbers are number tokens, and what their compact text looks like: an array or an object is
its opening character and a series of parts (`render_array`, `render_object`), and no control character stands
anywhere in the text, whatever the texts and names of the tree are (`noControl_render`).
-/

namespace SearchRequest.Json

/-- A tree whose numbers are number tokens. -/
inductive Proper : Json → Prop where
  | null : Proper .null
  | bool (b : Bool) : Proper (.bool b)
  | number {token : List Char} (h : IsNumber token) : Proper (.number token)
  | str (s : List Char) : Proper (.str s)
  | array {xs : List Json} (h : ∀ x ∈ xs, Proper x) : Proper (.array xs)
  | object {members : List (List Char × Json)} (h : ∀ m ∈ members, Proper m.2) : Proper (.object members)

def renderMember (m : List Char × Json) : List Char := quoted m.1 ++ ':' :: render m.2

/-- The parts of a collection with a comma between two of them, and the closing character. -/
def renderSeries {α : Type} (write : α → List Char) (close : Char) : List α → List Char
  | [] => [close]
  | x :: xs => write x ++ (xs.flatMap (fun y => ',' :: write y) ++ [close])

theorem renderElements_eq (xs : List Json) :
    renderElements xs = xs.flatMap (fun x => ',' :: render x) ++ [']'] := by
  induction xs with
  | nil => rfl
  | cons x xs ih => rw [renderElements, ih, List.flatMap_cons, List.append_assoc, List.cons_append]

theorem renderMembers_eq (members : List (List Char × Json)) :
    renderMembers members = members.flatMap (fun m => ',' :: renderMember m) ++ ['}'] := by
  induction members with
  | nil => rfl
  | cons m members ih =>
    rw [renderMembers, ih, List.flatMap_cons, List.append_assoc, List.cons_append, renderMember,
      List.append_assoc, List.cons_append]

theorem render_array (xs : List Json) : render (.array xs) = '[' :: renderSeries render ']' xs := by
  cases xs with
  | nil => rw [render, renderSeries]
  | cons x xs => rw [render, renderElements_eq, renderSeries]

theorem render_object (members : List (List Char × Json)) :
    render (.object members) = '{' :: renderSeries renderMember '}' members := by
  cases members with
  | nil => rw [render, renderSeries]
  | cons m members =>
    rw [render, renderMembers_eq, renderSeries, renderMember, List.append_assoc, List.cons_append]

theorem length_le_length_renderSeries {α : Type} (write : α → List Char) (close : Char) {x : α} {xs : List α}
    (h : x ∈ xs) : (write x).length ≤ (renderSeries write close xs).length := by
  cases xs with
  | nil => cases h
  | cons y ys =>
    rw [renderSeries, List.length_append, List.length_append]
    rcases List.mem_cons.1 h with rfl | h
    · omega
    · have hpart : (',' :: write x).Sublist (ys.flatMap fun z => ',' :: write z) :=
        List.sublist_flatten_of_mem (List.mem_map_of_mem h)
      have hlength := hpart.length_le
      rw [List.length_cons] at hlength
      omega

theorem length_lt_length_renderSeries {α : Type} (write : α → List Char) (close : Char) (x : α)
    (xs : List α) : xs.length < (renderSeries write close (x :: xs)).length := by
  have hcommas : xs.length ≤ (xs.flatMap fun y => ',' :: write y).length := by
    induction xs with
    | nil => exact Nat.le_refl 0
    | cons y ys ih =>
      rw [List.flatMap_cons, List.length_append, List.length_cons, List.length_cons]
      omega
  rw [renderSeries, List.length_append, List.length_append, List.length_singleton]
  omega

/-! ### Control characters -/

/-- No control character is among the characters of a text. -/
def NoControl (cs : List Char) : Prop := ∀ c ∈ cs, 0x20 ≤ c.toNat

instance (cs : List Char) : Decidable (NoControl cs) := List.decidableBAll _ cs

theorem noControl_nil : NoControl [] := fun _ h => absurd h List.not_mem_nil

theorem noControl_cons {c : Char} {cs : List Char} (hc : 0x20 ≤ c.toNat) (hcs : NoControl cs) :
    NoControl (c :: cs) := List.forall_mem_cons.2 ⟨hc, hcs⟩

theorem NoControl.append {cs ds : List Char} (hcs : NoControl cs) (hds : NoControl ds) :
    NoControl (cs ++ ds) := List.forall_mem_append.2 ⟨hcs, hds⟩

theorem noControl_flatMap {α : Type} {f : α → List Char} {xs : List α} (h : ∀ x ∈ xs, NoControl (f x)) :
    NoControl (xs.flatMap f) := by
  intro c hc
  obtain ⟨x, hx, hmem⟩ := List.mem_flatMap.1 hc
  exact h x hx c hmem

theorem le_toNat_hexDigit : ∀ n < 16, 0x20 ≤ (hexDigit n).toNat := by decide

theorem noControl_escapeChar (c : Char) : NoControl (escapeChar c) := by
  rw [escapeChar]
  split_ifs with _ _ _ _ _ _ _ hcontrol
  · decide
  · decide
  · decide
  · decide
  · decide
  · decide
  · decide
  · have hprefix : NoControl ['\\', 'u', '0', '0'] := by decide
    have hhigh := le_toNat_hexDigit (c.toNat / 16) (by omega)
    have hlow := le_toNat_hexDigit (c.toNat % 16) (by omega)
    exact hprefix.append (noControl_cons hhigh (noControl_cons hlow noControl_nil))
  · exact noControl_cons (Nat.le_of_not_lt hcontrol) noControl_nil

theorem noControl_quoted (s : List Char) : NoControl (quoted s) := by
  refine noControl_cons (by decide) (.append (noControl_flatMap fun c _ => noControl_escapeChar c) ?_)
  decide

theorem Digits.noControl {ds : List Char} (h : Digits ds) : NoControl ds := by
  intro c hc
  have hdigit := h.isDigit c hc
  simp only [Char.isDigit, Bool.and_eq_true, decide_eq_true_eq, UInt32.le_iff_toNat_le] at hdigit
  have hzero : ('0' : Char).val.toNat = 48 := rfl
  have hval : c.val.toNat = c.toNat := rfl
  omega

theorem IsNumber.noControl {token : List Char} (h : IsNumber token) : NoControl token := by
  obtain ⟨hminus, ⟨hwhole, hfraction, hexponent⟩⟩ := h
  refine .append ?_ (.append hwhole.noControl (.append ?_ ?_))
  · rcases hminus with rfl | rfl <;> decide
  · cases hfraction with
    | none => exact noControl_nil
    | some hds => exact noControl_cons (by decide) hds.noControl
  · cases hexponent with
    | none => exact noControl_nil
    | some hmark hsign hds =>
      refine noControl_cons ?_ (.append ?_ hds.noControl)
      · rcases hmark with rfl | rfl <;> decide
      · rcases hsign with rfl | rfl | rfl <;> decide

theorem noControl_renderSeries {α : Type} {write : α → List Char} {close : Char} (hclose : 0x20 ≤ close.toNat)
    {xs : List α} (h : ∀ x ∈ xs, NoControl (write x)) : NoControl (renderSeries write close xs) := by
  have hend : NoControl [close] := noControl_cons hclose noControl_nil
  cases xs with
  | nil => exact hend
  | cons x xs =>
    refine .append (h x List.mem_cons_self) (.append (noControl_flatMap fun y hy => ?_) hend)
    exact noControl_cons (by decide) (h y (List.mem_cons_of_mem x hy))

/-- **No control character stands in the text of a tree**, whatever its texts and names are. -/
theorem noControl_render {tree : Json} (h : tree.Proper) : NoControl (render tree) := by
  induction h with
  | null =>
    rw [render]
    decide
  | bool b => cases b <;> rw [render] <;> decide
  | number h =>
    rw [render]
    exact h.noControl
  | str s =>
    rw [render]
    exact noControl_quoted s
  | array _ ih =>
    rw [render_array]
    exact noControl_cons (by decide) (noControl_renderSeries (by decide) ih)
  | object _ ih =>
    rw [render_object]
    refine noControl_cons (by decide) (noControl_renderSeries (by decide) fun m hm => ?_)
    exact .append (noControl_quoted m.1) (noControl_cons (by decide) (ih m hm))

end SearchRequest.Json
