import SearchRequest.Proofs.Json.Render

/-!
# A strict reader of JSON

`parse?` reads a text that is one JSON document, with spaces around its tokens, as the tree of that document.
It keeps the order of members, members of one name and the tokens of numbers as they are, and it refuses

* a number that the grammar does not have, such as one with a zero in front;
* a control character between quotes, an escape that there is none of, half of a surrogate pair;
* a comma without a part on both sides, and a name without quotes;
* whatever follows the document other than spaces.

`parse?_render` says that the compact text of a tree is read as that tree, if the numbers in it are number
tokens. The induction is on the tree: what is shown of a part holds in front of every text that may follow it.
-/

namespace SearchRequest.Json

/-! ### Spaces and words -/

def isSpace (c : Char) : Bool := c == ' ' || c == '\t' || c == '\n' || c == '\r'

def skipSpace (cs : List Char) : List Char := cs.dropWhile isSpace

/-- The tree that a word stands for, and what follows the word. -/
def word? (word : List Char) (tree : Json) (cs : List Char) : Option (Json × List Char) :=
  if word.isPrefixOf cs then some (tree, cs.drop word.length) else none

theorem skipSpace_cons {c : Char} (h : isSpace c = false) (cs : List Char) : skipSpace (c :: cs) = c :: cs :=
  List.dropWhile_cons_of_neg (by simp [h])

theorem word?_append (word : List Char) (tree : Json) (cs : List Char) :
    word? word tree (word ++ cs) = some (tree, cs) := by
  rw [word?, if_pos (List.isPrefixOf_iff_prefix.2 (List.prefix_append word cs)), List.drop_left]

/-! ### Texts between quotes -/

def hexValue? (c : Char) : Option Nat :=
  if '0' ≤ c ∧ c ≤ '9' then some (c.toNat - '0'.toNat)
  else if 'a' ≤ c ∧ c ≤ 'f' then some (c.toNat - 'a'.toNat + 10)
  else if 'A' ≤ c ∧ c ≤ 'F' then some (c.toNat - 'A'.toNat + 10)
  else none

/-- The number that four hexadecimal digits stand for, and what follows them. -/
def codeUnit? : List Char → Option (Nat × List Char)
  | a :: b :: c :: d :: cs => do
    let a ← hexValue? a
    let b ← hexValue? b
    let c ← hexValue? c
    let d ← hexValue? d
    some (((a * 16 + b) * 16 + c) * 16 + d, cs)
  | _ => none

/-- The second half of a surrogate pair, written as an escape of its own, and what follows it. -/
def lowSurrogate? : List Char → Option (Nat × List Char)
  | '\\' :: 'u' :: cs => do
    let (low, rest) ← codeUnit? cs
    if 0xDC00 ≤ low ∧ low < 0xE000 then some (low, rest) else none
  | _ => none

/-- The character of an escape by number, of which the digits come next, and what follows it. -/
def numbered? (cs : List Char) : Option (Char × List Char) := do
  let (n, rest) ← codeUnit? cs
  if 0xD800 ≤ n ∧ n < 0xDC00 then do
    let (low, rest) ← lowSurrogate? rest
    some (Char.ofNat (0x10000 + (n - 0xD800) * 0x400 + (low - 0xDC00)), rest)
  else if 0xDC00 ≤ n ∧ n < 0xE000 then none
  else some (Char.ofNat n, rest)

/-- The character of an escape by one letter. -/
def lettered? : Char → Option Char
  | '"' => some '"'
  | '\\' => some '\\'
  | '/' => some '/'
  | 'b' => some '\x08'
  | 'f' => some '\x0c'
  | 'n' => some '\n'
  | 'r' => some '\r'
  | 't' => some '\t'
  | _ => none

/-- The character of an escape, after its backslash, and what follows it. -/
def escape? : List Char → Option (Char × List Char)
  | 'u' :: cs => numbered? cs
  | letter :: cs => do
    let c ← lettered? letter
    some (c, cs)
  | [] => none

/-- The character in front of a text between quotes, and what follows it. -/
def character? : List Char → Option (Char × List Char)
  | '\\' :: cs => escape? cs
  | c :: cs => if c.toNat < 0x20 then none else some (c, cs)
  | [] => none

/-- The characters up to the closing quote, and what follows the quote. -/
def characters? : Nat → List Char → Option (List Char × List Char)
  | _, '"' :: cs => some ([], cs)
  | 0, _ => none
  | more + 1, cs => do
    let (c, rest) ← character? cs
    let (s, rest) ← characters? more rest
    some (c :: s, rest)

/-- A text after its opening quote, and what follows it. -/
def string? (cs : List Char) : Option (List Char × List Char) := characters? cs.length cs

theorem hexValue?_hexDigit : ∀ n < 16, hexValue? (hexDigit n) = some n := by decide

theorem numbered?_control {n : Nat} (h : n < 0x20) (cs : List Char) :
    numbered? ('0' :: '0' :: hexDigit (n / 16) :: hexDigit (n % 16) :: cs) = some (Char.ofNat n, cs) := by
  have hunit : codeUnit? ('0' :: '0' :: hexDigit (n / 16) :: hexDigit (n % 16) :: cs) = some (n, cs) := by
    have hzero : hexValue? '0' = some 0 := rfl
    have hsum : ((0 * 16 + 0) * 16 + n / 16) * 16 + n % 16 = n := by omega
    rw [codeUnit?, hzero, hexValue?_hexDigit (n / 16) (by omega), hexValue?_hexDigit (n % 16) (by omega)]
    simp only [Option.bind_eq_bind, Option.bind_some, hsum]
  rw [numbered?, hunit]
  simp only [Option.bind_eq_bind, Option.bind_some]
  rw [if_neg (by omega), if_neg (by omega)]

theorem character?_escapeChar_append (c : Char) (cs : List Char) :
    character? (escapeChar c ++ cs) = some (c, cs) := by
  rw [escapeChar]
  split_ifs with hquote hbackslash hnewline hreturn htab hbackspace hformfeed hcontrol
  · rw [hquote]
    rfl
  · rw [hbackslash]
    rfl
  · rw [hnewline]
    rfl
  · rw [hreturn]
    rfl
  · rw [htab]
    rfl
  · rw [hbackspace]
    rfl
  · rw [hformfeed]
    rfl
  · have hread := numbered?_control hcontrol cs
    rw [Char.ofNat_toNat] at hread
    simpa only [List.cons_append, List.nil_append, character?, escape?] using hread
  · -- the character stands for itself, and is not the backslash that the reader tries first
    rw [List.cons_append, List.nil_append, character?, if_neg hcontrol]
    exact hbackslash

theorem head?_escapeChar_append (c : Char) (cs : List Char) : (escapeChar c ++ cs).head? ≠ some '"' := by
  rw [escapeChar]
  split_ifs <;> simp [*]

theorem length_le_length_escaped (s : List Char) : s.length ≤ (s.flatMap escapeChar).length := by
  induction s with
  | nil => exact Nat.le_refl 0
  | cons c s ih =>
    have hone : 1 ≤ (escapeChar c).length := by
      rw [escapeChar]
      split_ifs <;> simp
    rw [List.flatMap_cons, List.length_append, List.length_cons]
    omega

theorem characters?_escaped {s : List Char} {n : Nat} (hn : s.length ≤ n) (cs : List Char) :
    characters? n (s.flatMap escapeChar ++ '"' :: cs) = some (s, cs) := by
  induction s generalizing n with
  | nil => rw [List.flatMap_nil, List.nil_append, characters?]
  | cons c s ih =>
    obtain ⟨n, rfl⟩ : ∃ m, n = m + 1 := Nat.exists_eq_succ_of_ne_zero (by rintro rfl; cases hn)
    have hs : s.length ≤ n := Nat.le_of_succ_le_succ hn
    rw [List.flatMap_cons, List.append_assoc, characters?, character?_escapeChar_append]
    · simp only [Option.bind_eq_bind, Option.bind_some, ih hs]
    · intro cs' hquote
      exact head?_escapeChar_append c _ (by rw [hquote]; rfl)

theorem string?_escaped (s cs : List Char) : string? (s.flatMap escapeChar ++ '"' :: cs) = some (s, cs) := by
  have hlength := length_le_length_escaped s
  refine characters?_escaped ?_ cs
  rw [List.length_append]
  omega

/-! ### Documents -/

/-- The parts up to the closing character, with a comma between two of them, and what follows. -/
def series? {α : Type} (part? : List Char → Option (α × List Char)) (close : Char) :
    Nat → List Char → Option (List α × List Char)
  | 0, _ => none
  | more + 1, cs => do
    let (x, rest) ← part? cs
    match skipSpace rest with
    | [] => none
    | c :: rest =>
      if c = close then some ([x], rest)
      else if c = ',' then do
        let (xs, rest) ← series? part? close more rest
        some (x :: xs, rest)
      else none

/-- The parts of a collection after its opening character, and what follows the closing one. -/
def collection? {α : Type} (part? : List Char → Option (α × List Char)) (close : Char) (cs : List Char) :
    Option (List α × List Char) :=
  match skipSpace cs with
  | [] => none
  | c :: rest => if c = close then some ([], rest) else series? part? close cs.length (c :: rest)

/-- The name and the tree of a member, and what follows it. -/
def member? (value? : List Char → Option (Json × List Char)) (cs : List Char) :
    Option ((List Char × Json) × List Char) :=
  match skipSpace cs with
  | '"' :: rest => do
    let (name, rest) ← string? rest
    match skipSpace rest with
    | ':' :: rest => do
      let (x, rest) ← value? rest
      some ((name, x), rest)
    | _ => none
  | _ => none

/-- The tree of a text that begins with the character `c`, and what follows it. -/
def begun? (value? : List Char → Option (Json × List Char)) (c : Char) (cs : List Char) :
    Option (Json × List Char) :=
  if c = '"' then do
    let (s, rest) ← string? cs
    some (.str s, rest)
  else if c = '[' then do
    let (xs, rest) ← collection? value? ']' cs
    some (.array xs, rest)
  else if c = '{' then do
    let (members, rest) ← collection? (member? value?) '}' cs
    some (.object members, rest)
  else if c = 'n' then word? ['u', 'l', 'l'] .null cs
  else if c = 't' then word? ['r', 'u', 'e'] (.bool true) cs
  else if c = 'f' then word? ['a', 'l', 's', 'e'] (.bool false) cs
  else do
    let (token, rest) ← number? (c :: cs)
    some (.number token, rest)

/-- The tree in front of a text, with at most so many levels, and what follows it. -/
def value? : Nat → List Char → Option (Json × List Char)
  | 0, _ => none
  | levels + 1, cs =>
    match skipSpace cs with
    | [] => none
    | c :: rest => begun? (value? levels) c rest

/-- The tree of a text that is one document. A text has fewer levels than characters. -/
def parse? (cs : List Char) : Option Json := do
  let (tree, rest) ← value? cs.length cs
  if skipSpace rest = [] then some tree else none

/-! ### Reading back -/

/-- What may follow a part of a document: nothing, another part or the end of the collection. -/
def EndsPart (cs : List Char) : Prop :=
  ∀ c, cs.head? = some c → c = ',' ∨ c = ']' ∨ c = '}'

theorem EndsPart.endsNumber {cs : List Char} (h : EndsPart cs) : EndsNumber cs := by
  intro c hc
  rcases h c hc with rfl | rfl | rfl <;> decide

theorem endsPart_cons {c : Char} (h : c = ',' ∨ c = ']' ∨ c = '}') (cs : List Char) : EndsPart (c :: cs) := by
  rintro c' ⟨⟩
  exact h

/-- A part reads back in front of every text that may follow it. -/
def ReadsBack {α : Type} (part? : List Char → Option (α × List Char)) (write : α → List Char) (x : α) :
    Prop :=
  ∀ cs, EndsPart cs → part? (write x ++ cs) = some (x, cs)

section Series

variable {α : Type} {part? : List Char → Option (α × List Char)} {write : α → List Char} {close : Char}

theorem series?_append (hclose : close = ']' ∨ close = '}') {x : α} {xs : List α}
    (hx : ReadsBack part? write x) (hxs : ∀ y ∈ xs, ReadsBack part? write y)
    {n : Nat} (hn : xs.length < n) (cs : List Char) :
    series? part? close n (write x ++ (xs.flatMap (fun y => ',' :: write y) ++ close :: cs))
      = some (x :: xs, cs) := by
  have hcomma : close ≠ ',' := by rcases hclose with rfl | rfl <;> decide
  have hspace : isSpace close = false := by rcases hclose with rfl | rfl <;> decide
  induction xs generalizing x n with
  | nil =>
    obtain ⟨n, rfl⟩ := Nat.exists_eq_succ_of_ne_zero (Nat.ne_of_gt hn)
    rw [List.flatMap_nil, List.nil_append, series?, hx _ (endsPart_cons (.inr hclose) cs)]
    simp only [Option.bind_eq_bind, Option.bind_some, skipSpace_cons hspace, if_true]
  | cons y ys ih =>
    obtain ⟨n, rfl⟩ := Nat.exists_eq_succ_of_ne_zero (Nat.ne_of_gt (Nat.zero_lt_of_lt hn))
    have hrest := ih (hxs y List.mem_cons_self) (fun z hz => hxs z (List.mem_cons_of_mem y hz))
      (Nat.lt_of_succ_lt_succ hn)
    have hspace' : isSpace ',' = false := rfl
    rw [List.flatMap_cons, List.cons_append, List.cons_append, List.append_assoc, series?,
      hx _ (endsPart_cons (.inl rfl) _)]
    simp only [Option.bind_eq_bind, Option.bind_some, skipSpace_cons hspace', if_neg hcomma.symm, if_true,
      hrest]

/-- What is written begins neither with a space nor with the closing character. -/
def Begins (close : Char) (cs : List Char) : Prop :=
  ∃ c rest, cs = c :: rest ∧ isSpace c = false ∧ c ≠ close

theorem collection?_append (hclose : close = ']' ∨ close = '}') {xs : List α}
    (hreads : ∀ x ∈ xs, ReadsBack part? write x) (hbegins : ∀ x ∈ xs, Begins close (write x))
    (cs : List Char) : collection? part? close (renderSeries write close xs ++ cs) = some (xs, cs) := by
  cases xs with
  | nil =>
    have hspace : isSpace close = false := by rcases hclose with rfl | rfl <;> decide
    rw [renderSeries, List.cons_append, List.nil_append, collection?, skipSpace_cons hspace]
    exact if_pos rfl
  | cons x xs =>
    obtain ⟨c, rest, heq, hspace, hc⟩ := hbegins x List.mem_cons_self
    have hlength : xs.length < (renderSeries write close (x :: xs) ++ cs).length := by
      have hlt := length_lt_length_renderSeries write close x xs
      rw [List.length_append]
      omega
    have hseries := series?_append hclose (hreads x List.mem_cons_self)
      (fun y hy => hreads y (List.mem_cons_of_mem x hy)) hlength cs
    have htext : renderSeries write close (x :: xs) ++ cs
        = write x ++ (xs.flatMap (fun y => ',' :: write y) ++ close :: cs) := by
      simp only [renderSeries, List.append_assoc, List.cons_append, List.nil_append]
    rw [← htext] at hseries
    rw [collection?]
    rw [renderSeries, heq, List.cons_append, List.cons_append] at hseries ⊢
    rw [skipSpace_cons hspace]
    exact (if_neg hc).trans hseries

end Series

theorem string?_quoted (s cs : List Char) :
    ∃ rest, quoted s ++ cs = '"' :: rest ∧ string? rest = some (s, cs) := by
  refine ⟨s.flatMap escapeChar ++ '"' :: cs, ?_, string?_escaped s cs⟩
  simp only [quoted, List.cons_append, List.append_assoc, List.nil_append]

theorem member?_append {part? : List Char → Option (Json × List Char)} {m : List Char × Json}
    (h : ReadsBack part? render m.2) : ReadsBack (member? part?) renderMember m := by
  intro cs hcs
  obtain ⟨rest, heq, hname⟩ := string?_quoted m.1 (':' :: (render m.2 ++ cs))
  have hquote : isSpace '"' = false := rfl
  have hcolon : isSpace ':' = false := rfl
  rw [renderMember, List.append_assoc, List.cons_append, heq, member?, skipSpace_cons hquote]
  simp only [hname, Option.bind_eq_bind, Option.bind_some, skipSpace_cons hcolon, h cs hcs]

theorem render_begins {tree : Json} (h : tree.Proper) : Begins ']' (render tree) := by
  cases h with
  | null => exact ⟨'n', _, by rw [render], rfl, by decide⟩
  | bool b =>
    cases b
    · exact ⟨'f', _, by rw [render], rfl, by decide⟩
    · exact ⟨'t', _, by rw [render], rfl, by decide⟩
  | number h =>
    obtain ⟨c, rest, heq, hc⟩ := h.head
    refine ⟨c, rest, by rw [render, heq], ?_, ?_⟩
    · rw [Bool.eq_false_iff]
      intro hspace
      simp only [isSpace, Bool.or_eq_true, beq_iff_eq] at hspace
      rcases hspace with ((rfl | rfl) | rfl) | rfl <;> revert hc <;> decide
    · rintro rfl
      revert hc
      decide
  | str s => exact ⟨'"', _, by rw [render, quoted], rfl, by decide⟩
  | array _ => exact ⟨'[', _, render_array _, rfl, by decide⟩
  | object _ => exact ⟨'{', _, render_object _, rfl, by decide⟩

theorem begun?_number (part? : List Char → Option (Json × List Char)) {c : Char} {cs token rest : List Char}
    (hc : c = '-' ∨ c.isDigit = true) (h : number? (c :: cs) = some (token, rest)) :
    begun? part? c cs = some (.number token, rest) := by
  have hne : ∀ d : Char, ¬ (d = '-' ∨ d.isDigit = true) → c ≠ d := by
    rintro d hd rfl
    exact hd hc
  rw [begun?, if_neg (hne _ (by decide)), if_neg (hne _ (by decide)), if_neg (hne _ (by decide)),
    if_neg (hne _ (by decide)), if_neg (hne _ (by decide)), if_neg (hne _ (by decide)), h]
  rfl

theorem readsBack_of_begun? {tree : Json} (h : tree.Proper) {levels : Nat}
    (hlevels : (render tree).length ≤ levels)
    (hbegun : ∀ n c rest, levels = n + 1 → render tree = c :: rest →
      ∀ cs, EndsPart cs → begun? (value? n) c (rest ++ cs) = some (tree, cs)) :
    ReadsBack (value? levels) render tree := by
  intro cs hcs
  obtain ⟨c, rest, heq, hspace, -⟩ := render_begins h
  rw [heq, List.length_cons] at hlevels
  obtain ⟨n, rfl⟩ := Nat.exists_eq_succ_of_ne_zero (Nat.ne_of_gt (Nat.zero_lt_of_lt hlevels))
  rw [heq, List.cons_append, value?, skipSpace_cons hspace]
  exact hbegun n c rest rfl heq cs hcs

theorem value?_render {tree : Json} (h : tree.Proper) :
    ∀ {levels : Nat}, (render tree).length ≤ levels → ReadsBack (value? levels) render tree := by
  induction h with
  | null =>
    intro levels hlevels
    refine readsBack_of_begun? .null hlevels fun n c rest _ heq cs _ => ?_
    rw [render] at heq
    cases heq
    exact word?_append ['u', 'l', 'l'] .null cs
  | bool b =>
    intro levels hlevels
    refine readsBack_of_begun? (.bool b) hlevels fun n c rest _ heq cs _ => ?_
    cases b
    · rw [render] at heq
      cases heq
      exact word?_append ['a', 'l', 's', 'e'] (.bool false) cs
    · rw [render] at heq
      cases heq
      exact word?_append ['r', 'u', 'e'] (.bool true) cs
  | number h =>
    intro levels hlevels
    refine readsBack_of_begun? (.number h) hlevels fun n c rest _ heq cs hcs => ?_
    rw [render] at heq
    obtain ⟨c', rest', heq', hc⟩ := h.head
    obtain ⟨rfl, rfl⟩ := List.cons.inj (heq'.symm.trans heq)
    have hread := number?_append h hcs.endsNumber
    rw [heq] at hread ⊢
    exact begun?_number _ hc hread
  | str s =>
    intro levels hlevels
    refine readsBack_of_begun? (.str s) hlevels fun n c rest _ heq cs _ => ?_
    rw [render, quoted] at heq
    cases heq
    rw [List.append_assoc, List.cons_append, List.nil_append, begun?, if_pos rfl, string?_escaped]
    rfl
  | @array xs hxs ih =>
    intro levels hlevels
    refine readsBack_of_begun? (.array hxs) hlevels fun n c rest hn heq cs _ => ?_
    rw [render_array] at heq hlevels
    cases heq
    rw [hn, List.length_cons] at hlevels
    -- the bracket takes one character and one level, so what is left is enough for every element
    have hreads : ∀ x ∈ xs, ReadsBack (value? n) render x := by
      intro x hx
      have hlength := length_le_length_renderSeries render ']' hx
      exact ih x hx (by omega)
    have hread := collection?_append (.inl rfl) hreads (fun x hx => render_begins (hxs x hx)) cs
    rw [begun?, if_neg (by decide), if_pos rfl, hread]
    rfl
  | @object members hmembers ih =>
    intro levels hlevels
    refine readsBack_of_begun? (.object hmembers) hlevels fun n c rest hn heq cs _ => ?_
    rw [render_object] at heq hlevels
    cases heq
    rw [hn, List.length_cons] at hlevels
    have hreads : ∀ m ∈ members, ReadsBack (member? (value? n)) renderMember m := by
      intro m hm
      have hlength := length_le_length_renderSeries renderMember '}' hm
      have hvalue : (renderMember m).length = (quoted m.1).length + ((render m.2).length + 1) := by
        rw [renderMember, List.length_append, List.length_cons]
      exact member?_append (ih m hm (by omega))
    have hbegins : ∀ m ∈ members, Begins '}' (renderMember m) :=
      fun m _ => ⟨'"', _, by rw [renderMember, quoted, List.cons_append], rfl, by decide⟩
    have hread := collection?_append (.inr rfl) hreads hbegins cs
    rw [begun?, if_neg (by decide), if_neg (by decide), if_pos rfl, hread]
    rfl

/-- **The text of a tree reads back**, all of it, as the tree. -/
theorem parse?_render {tree : Json} (h : tree.Proper) : parse? (render tree) = some tree := by
  have hread := value?_render h (Nat.le_refl _) [] (fun c hc => by cases hc)
  rw [List.append_nil] at hread
  rw [parse?, hread]
  rfl

example : (parse? "[1, \"\\ud83d\\ude00\"]".toList).isSome = true := by decide

example : (parse? "[1,]".toList).isNone = true := by decide

example : (parse? "[01]".toList).isNone = true := by decide

end SearchRequest.Json
