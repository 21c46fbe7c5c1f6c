import SearchRequest.Json.Encode

/-!
# Number tokens

The tokens that JSON has for numbers: a minus or none, whole digits without a zero in front, and a fraction
and an exponent or none. `number?` reads the longest token in front of a text, and gives a token back as it is
when nothing that could extend it follows (`number?_append`). The digits of every whole number are a token
(`isNumber_intToken`), and so is the text of every finite number (`isNumber_written`).
-/

namespace SearchRequest.Json

/-! ### The grammar of numbers -/

/-- One or more digits. -/
structure Digits (ds : List Char) : Prop where
  ne_nil : ds ≠ []
  isDigit : ∀ c ∈ ds, c.isDigit = true

/-- The whole part of a number. Only a single zero begins with a zero. -/
structure IsWhole (ds : List Char) : Prop extends Digits ds where
  zero : ds.head? = some '0' → ds = ['0']

inductive IsFraction : List Char → Prop where
  | none : IsFraction []
  | some {ds : List Char} (h : Digits ds) : IsFraction ('.' :: ds)

inductive IsExponent : List Char → Prop where
  | none : IsExponent []
  | some {mark : Char} {sign ds : List Char} (hmark : mark = 'e' ∨ mark = 'E')
      (hsign : sign = [] ∨ sign = ['+'] ∨ sign = ['-']) (h : Digits ds) : IsExponent (mark :: (sign ++ ds))

/-- A number without a sign. -/
inductive IsUnsigned : List Char → Prop where
  | mk {whole fraction exponent : List Char} (hwhole : IsWhole whole) (hfraction : IsFraction fraction)
      (hexponent : IsExponent exponent) : IsUnsigned (whole ++ (fraction ++ exponent))

inductive IsNumber : List Char → Prop where
  | mk {minus token : List Char} (hminus : minus = [] ∨ minus = ['-']) (h : IsUnsigned token) :
      IsNumber (minus ++ token)

/-! ### Reading numbers -/

/-- All digits in front of a text, of which there must be one, and what follows them. -/
def digits? (cs : List Char) : Option (List Char × List Char) :=
  match cs.takeWhile Char.isDigit with
  | [] => none
  | d :: ds => some (d :: ds, cs.dropWhile Char.isDigit)

def whole? : List Char → Option (List Char × List Char)
  | '0' :: cs => some (['0'], cs)
  | cs => digits? cs

def fraction? : List Char → Option (List Char × List Char)
  | '.' :: cs => do
    let (ds, rest) ← digits? cs
    some ('.' :: ds, rest)
  | cs => some ([], cs)

/-- A sign, if there is one, and what follows it. -/
def sign : List Char → List Char × List Char
  | '+' :: cs => (['+'], cs)
  | '-' :: cs => (['-'], cs)
  | cs => ([], cs)

def exponent? : List Char → Option (List Char × List Char)
  | [] => some ([], [])
  | c :: cs =>
    if c = 'e' ∨ c = 'E' then do
      let (ds, rest) ← digits? (sign cs).2
      some (c :: ((sign cs).1 ++ ds), rest)
    else some ([], c :: cs)

/-- A minus, if there is one, and what follows it. -/
def minus : List Char → List Char × List Char
  | '-' :: cs => (['-'], cs)
  | cs => ([], cs)

/-- The number token in front of a text, and what follows it. -/
def number? (cs : List Char) : Option (List Char × List Char) := do
  let (whole, afterWhole) ← whole? (minus cs).2
  let (fraction, afterFraction) ← fraction? afterWhole
  let (exponent, rest) ← exponent? afterFraction
  some ((minus cs).1 ++ (whole ++ (fraction ++ exponent)), rest)

/-- Nothing in front of a text extends a number token. -/
def EndsNumber (cs : List Char) : Prop :=
  ∀ c, cs.head? = some c → c.isDigit = false ∧ c ≠ '.' ∧ c ≠ 'e' ∧ c ≠ 'E'

theorem digits?_append {ds cs : List Char} (hds : Digits ds)
    (hcs : ∀ c, cs.head? = some c → c.isDigit = false) : digits? (ds ++ cs) = some (ds, cs) := by
  have htake : cs.takeWhile Char.isDigit = [] := by
    cases cs with
    | nil => rfl
    | cons c cs => exact List.takeWhile_cons_of_neg (by simp [hcs c rfl])
  have hdrop : cs.dropWhile Char.isDigit = cs := by
    cases cs with
    | nil => rfl
    | cons c cs => exact List.dropWhile_cons_of_neg (by simp [hcs c rfl])
  rw [digits?, List.takeWhile_append_of_pos hds.isDigit, List.dropWhile_append_of_pos hds.isDigit, htake,
    hdrop, List.append_nil]
  cases ds with
  | nil => exact absurd rfl hds.ne_nil
  | cons d ds => rfl

theorem whole?_append {ds cs : List Char} (hds : IsWhole ds)
    (hcs : ∀ c, cs.head? = some c → c.isDigit = false) : whole? (ds ++ cs) = some (ds, cs) := by
  by_cases hzero : ds.head? = some '0'
  · rw [hds.zero hzero]
    rfl
  · have hread := digits?_append hds.toDigits hcs
    obtain ⟨d, ds, rfl⟩ := List.exists_cons_of_ne_nil hds.ne_nil
    rw [← hread, List.cons_append, whole?]
    rintro cs' ⟨⟩
    exact hzero rfl

theorem fraction?_append {ds cs : List Char} (hds : IsFraction ds)
    (hcs : ∀ c, cs.head? = some c → c.isDigit = false ∧ c ≠ '.') : fraction? (ds ++ cs) = some (ds, cs) := by
  cases hds with
  | none =>
    rw [List.nil_append, fraction?]
    rintro cs' rfl
    exact (hcs '.' rfl).2 rfl
  | some h =>
    rw [List.cons_append, fraction?, digits?_append h fun c hc => (hcs c hc).1]
    rfl

theorem sign_append {ds cs : List Char} (hsign : ds = [] ∨ ds = ['+'] ∨ ds = ['-'])
    (hcs : ∃ c, cs.head? = some c ∧ c.isDigit = true) : sign (ds ++ cs) = (ds, cs) := by
  rcases hsign with rfl | rfl | rfl
  · obtain ⟨c, hc, hdigit⟩ := hcs
    rw [List.nil_append, sign]
    · rintro cs' rfl
      cases hc
      cases hdigit
    · rintro cs' rfl
      cases hc
      cases hdigit
  · rfl
  · rfl

theorem exponent?_append {ds cs : List Char} (hds : IsExponent ds) (hcs : EndsNumber cs) :
    exponent? (ds ++ cs) = some (ds, cs) := by
  cases hds with
  | none =>
    cases cs with
    | nil => rfl
    | cons c cs =>
      obtain ⟨-, -, he, hE⟩ := hcs c rfl
      rw [List.nil_append, exponent?, if_neg (not_or.2 ⟨he, hE⟩)]
  | @some mark sgn ds hmark hsign h =>
    have hhead : ∃ c, (ds ++ cs).head? = some c ∧ c.isDigit = true := by
      obtain ⟨d, ds, rfl⟩ := List.exists_cons_of_ne_nil h.ne_nil
      exact ⟨d, rfl, h.isDigit d List.mem_cons_self⟩
    rw [List.cons_append, exponent?, if_pos hmark, List.append_assoc, sign_append hsign hhead,
      digits?_append h fun c hc => (hcs c hc).1]
    rfl

theorem minus_append {ds cs : List Char} (hminus : ds = [] ∨ ds = ['-'])
    (hcs : ∃ c, cs.head? = some c ∧ c.isDigit = true) : minus (ds ++ cs) = (ds, cs) := by
  rcases hminus with rfl | rfl
  · obtain ⟨c, hc, hdigit⟩ := hcs
    rw [List.nil_append, minus]
    rintro cs' rfl
    cases hc
    cases hdigit
  · rfl

theorem endsNumber_exponent_append {ds cs : List Char} (hds : IsExponent ds) (hcs : EndsNumber cs) :
    ∀ c, (ds ++ cs).head? = some c → c.isDigit = false ∧ c ≠ '.' := by
  intro c hc
  cases hds with
  | none => exact ⟨(hcs c hc).1, (hcs c hc).2.1⟩
  | some hmark _ _ =>
    cases hc
    rcases hmark with rfl | rfl <;> decide

theorem isDigit_head_fraction_append {ds cs : List Char} (hds : IsFraction ds)
    (hcs : ∀ c, cs.head? = some c → c.isDigit = false) :
    ∀ c, (ds ++ cs).head? = some c → c.isDigit = false := by
  intro c hc
  cases hds with
  | none => exact hcs c hc
  | some _ =>
    cases hc
    rfl

theorem isDigit_head_append {ds : List Char} (hds : Digits ds) (cs : List Char) :
    ∃ c, (ds ++ cs).head? = some c ∧ c.isDigit = true := by
  obtain ⟨d, ds, rfl⟩ := List.exists_cons_of_ne_nil hds.ne_nil
  exact ⟨d, rfl, hds.isDigit d List.mem_cons_self⟩

theorem IsNumber.head {token : List Char} (h : IsNumber token) :
    ∃ c rest, token = c :: rest ∧ (c = '-' ∨ c.isDigit = true) := by
  obtain ⟨hminus, ⟨hwhole, -, -⟩⟩ := h
  obtain ⟨d, ds, rfl⟩ := List.exists_cons_of_ne_nil hwhole.ne_nil
  rcases hminus with rfl | rfl
  · exact ⟨d, _, rfl, .inr (hwhole.isDigit d List.mem_cons_self)⟩
  · exact ⟨'-', _, rfl, .inl rfl⟩

/-- **A number token reads back**, if nothing that follows extends it. -/
theorem number?_append {token cs : List Char} (h : IsNumber token) (hcs : EndsNumber cs) :
    number? (token ++ cs) = some (token, cs) := by
  obtain ⟨hminus, ⟨hwhole, hfraction, hexponent⟩⟩ := h
  have hafterFraction := endsNumber_exponent_append hexponent hcs
  have hafterWhole := isDigit_head_fraction_append hfraction fun c hc => (hafterFraction c hc).1
  have hhead := isDigit_head_append hwhole.toDigits
  simp only [List.append_assoc]
  rw [number?, minus_append hminus (hhead _)]
  simp only [whole?_append hwhole hafterWhole, fraction?_append hfraction hafterFraction,
    exponent?_append hexponent hcs, Option.bind_eq_bind, Option.bind_some]

/-! ### Whole numbers -/

theorem digits_toDigits (n : Nat) : Digits (Nat.toDigits 10 n) :=
  ⟨Nat.toDigits_ne_nil, fun _ hc => Nat.isDigit_of_mem_toDigits (by decide) (by decide) hc⟩

theorem head?_toDigits_ne_zero {n : Nat} (h : n ≠ 0) : (Nat.toDigits 10 n).head? ≠ some '0' := by
  induction n using Nat.strongRecOn with
  | ind n ih =>
    by_cases hlt : n < 10
    · rw [Nat.toDigits_of_lt_base hlt]
      simpa using h
    · have hhead := ih (n / 10) (by omega) (by omega)
      rw [Nat.toDigits_of_base_le (by decide) (by omega), List.head?_append]
      rcases hfirst : (Nat.toDigits 10 (n / 10)).head? with _ | d
      · exact absurd (List.head?_eq_none_iff.1 hfirst) Nat.toDigits_ne_nil
      · rwa [hfirst] at hhead

theorem Digits.isWhole {ds : List Char} (hds : Digits ds) (hzero : ds.head? ≠ some '0') : IsWhole ds :=
  ⟨hds, fun h => absurd h hzero⟩

theorem isWhole_zero : IsWhole ['0'] :=
  ⟨⟨List.cons_ne_nil _ _, List.forall_mem_singleton.2 rfl⟩, fun _ => rfl⟩

theorem isWhole_toDigits (n : Nat) : IsWhole (Nat.toDigits 10 n) := by
  by_cases h : n = 0
  · subst h
    exact isWhole_zero
  · exact (digits_toDigits n).isWhole (head?_toDigits_ne_zero h)

theorem IsWhole.isUnsigned {ds : List Char} (h : IsWhole ds) : IsUnsigned ds := by
  simpa using IsUnsigned.mk h .none .none

theorem isNumber_intToken (n : Int) : IsNumber (intToken n) := by
  cases n with
  | ofNat n => exact .mk (.inl rfl) (isWhole_toDigits n).isUnsigned
  | negSucc n => exact .mk (.inr rfl) (isWhole_toDigits (n + 1)).isUnsigned

/-! ### Floating-point numbers -/

theorem Digits.append {ds es : List Char} (hds : Digits ds) (hes : ∀ c ∈ es, c.isDigit = true) :
    Digits (ds ++ es) := by
  refine ⟨List.append_ne_nil_of_left_ne_nil hds.ne_nil _, fun c hc => ?_⟩
  rcases List.mem_append.1 hc with hc | hc
  · exact hds.isDigit c hc
  · exact hes c hc

theorem isDigit_of_mem_replicate {n : Nat} {c : Char} (hc : c ∈ List.replicate n '0') : c.isDigit = true := by
  rw [List.eq_of_mem_replicate hc]
  rfl

theorem Digits.replicate_append {ds : List Char} (hds : Digits ds) (n : Nat) :
    Digits (List.replicate n '0' ++ ds) := by
  refine ⟨List.append_ne_nil_of_right_ne_nil _ hds.ne_nil, fun c hc => ?_⟩
  rcases List.mem_append.1 hc with hc | hc
  · exact isDigit_of_mem_replicate hc
  · exact hds.isDigit c hc

theorem digits_padLeft {ds : List Char} (hds : Digits ds) (width : Nat) :
    Digits (NumberLayout.padLeft width ds) := hds.replicate_append _

theorem isUnsigned_positional {ds : List Char} (hds : Digits ds) (hzero : ds.head? ≠ some '0')
    (leading : Int) : IsUnsigned (NumberLayout.positional ds leading) := by
  obtain ⟨d, rest, rfl⟩ := List.exists_cons_of_ne_nil hds.ne_nil
  rw [NumberLayout.positional]
  split
  next =>
    have hfraction := IsFraction.some (hds.replicate_append (leading.natAbs - 1))
    simpa using IsUnsigned.mk isWhole_zero hfraction .none
  next =>
    dsimp only
    split
    next =>
      have hwhole : IsWhole (d :: rest ++ List.replicate (leading.natAbs + 1 - (d :: rest).length) '0') :=
        (hds.append fun c hc => isDigit_of_mem_replicate hc).isWhole hzero
      simpa using IsUnsigned.mk hwhole (.some isWhole_zero.toDigits) .none
    next hlong =>
      have hwhole : IsWhole ((d :: rest).take (leading.natAbs + 1)) :=
        Digits.isWhole ⟨List.cons_ne_nil _ _, fun c hc => hds.isDigit c (List.mem_of_mem_take hc)⟩ hzero
      have hfraction : Digits ((d :: rest).drop (leading.natAbs + 1)) := by
        refine ⟨fun h => ?_, fun c hc => hds.isDigit c (List.mem_of_mem_drop hc)⟩
        have hlength := List.drop_eq_nil_iff.1 h
        omega
      simpa using IsUnsigned.mk hwhole (.some hfraction) .none

theorem isUnsigned_scientific (layout : NumberLayout) {ds : List Char} (hds : Digits ds)
    (hzero : ds.head? ≠ some '0') (leading : Int) : IsUnsigned (layout.scientific ds leading) := by
  have hexponent : IsExponent ('e' :: ([if leading < 0 then '-' else '+'] ++
      NumberLayout.padLeft layout.exponentDigits (NumberLayout.digitChars leading.natAbs))) := by
    refine .some (.inl rfl) ?_ (digits_padLeft (digits_toDigits _) _)
    split
    · exact .inr (.inr rfl)
    · exact .inr (.inl rfl)
  obtain ⟨d, rest, rfl⟩ := List.exists_cons_of_ne_nil hds.ne_nil
  have hwhole : IsWhole [d] :=
    Digits.isWhole ⟨List.cons_ne_nil _ _, by simpa using hds.isDigit d List.mem_cons_self⟩ hzero
  cases rest with
  | nil => exact .mk hwhole .none hexponent
  | cons e rest =>
    have hfraction : Digits (e :: rest) :=
      ⟨List.cons_ne_nil _ _, fun c hc => hds.isDigit c (List.mem_cons_of_mem _ hc)⟩
    exact .mk hwhole (.some hfraction) hexponent

theorem isUnsigned_write (layout : NumberLayout) (d : Decimal) : IsUnsigned (layout.write d) := by
  rw [NumberLayout.write]
  split
  next => exact .mk isWhole_zero (.some isWhole_zero.toDigits) .none
  next h =>
    have hdigits : Digits (NumberLayout.digitChars d.digits) := digits_toDigits d.digits
    have hzero := head?_toDigits_ne_zero h
    dsimp only
    split
    · exact isUnsigned_positional hdigits hzero _
    · exact isUnsigned_scientific layout hdigits hzero _

theorem isNumber_written {x : Binary64} (h : x.isFinite = true) : IsNumber x.written := by
  cases x with
  | nan mark => cases h
  | infinity negative => cases h
  | finite negative m e =>
    rw [Binary64.written]
    refine .mk ?_ (isUnsigned_write _ _)
    cases negative
    · exact .inl rfl
    · exact .inr rfl

end SearchRequest.Json
