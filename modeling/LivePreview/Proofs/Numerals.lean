import LivePreview.Proofs.Cutting

/-!
# Numbers are cut off as they were printed

A printed number is a run of digits, perhaps with a fraction and an exponent, and it ends where no
letter and no digit follows. An integer is read back as itself. Of a binary fraction only this much
is shown: its text has digits where it needs them, and so is the text of some such number.
-/

namespace LivePreview.Code

/-! ## Runs of digits -/

theorem isDigitIn_ten (c : Char) : isDigitIn 10 c = isDecimal c := by
  refine ascii_cases (p := fun c => isDigitIn 10 c = isDecimal c) (by decide +kernel) ?_ c
  intro c hc
  have hdecimal : isDecimal c = false := by
    have hnine : ¬ c ≤ '9' := fun h => absurd (Nat.le_trans hc h) (by decide)
    simp [isDecimal, hnine]
  have hlower : ¬ ('a' ≤ c ∧ c ≤ 'f') := fun h => absurd (Nat.le_trans hc h.2) (by decide)
  have hupper : ¬ ('A' ≤ c ∧ c ≤ 'F') := fun h => absurd (Nat.le_trans hc h.2) (by decide)
  rw [isDigitIn, digitValue, hdecimal, if_neg Bool.false_ne_true, if_neg hlower, if_neg hupper]
  rfl

/-- At least one decimal digit, and nothing else. -/
structure Digits (ds : List Char) : Prop where
  ne_nil : ds ≠ []
  isDecimal : ∀ c ∈ ds, isDecimal c = true

theorem digits_zero : Digits ['0'] := ⟨nofun, List.forall_mem_singleton.mpr (by decide)⟩

/-- The character does not go on with a run of digits. -/
def EndsDigits (c : Char) : Prop := isDecimal c = false ∧ c ≠ '_'

theorem digitRun_append {ds rest : List Char} (hds : ∀ c ∈ ds, isDecimal c = true)
    (hrest : ∀ c ∈ rest.head?, EndsDigits c) : digitRun 10 (ds ++ rest) = some (ds, rest) := by
  induction ds with
  | nil =>
    cases rest with
    | nil => rw [List.append_nil, digitRun]
    | cons c rest =>
      obtain ⟨hdecimal, hline⟩ := hrest c rfl
      rw [List.nil_append, digitRun, isDigitIn_ten, hdecimal, if_neg Bool.false_ne_true]
      · exact fun _ _ h _ => hline h
      · exact fun h _ => hline h
  | cons c ds ih =>
    obtain ⟨hc, hds⟩ := List.forall_mem_cons.mp hds
    have hline : c ≠ '_' := by
      rintro rfl
      cases hc
    rw [List.cons_append, digitRun, isDigitIn_ten, if_pos hc, ih hds, Option.map_some]
    · exact fun _ _ h _ => hline h
    · exact fun h _ => hline h

/-! ## Fractions and exponents -/

/-- The text of a number from its parts; an exponent may have a sign first. -/
def numberText (whole : List Char) (fraction : Option (List Char))
    (exponent : Option (List Char × List Char)) : List Char :=
  whole ++ fraction.elim [] ('.' :: ·) ++ exponent.elim [] fun (sign, ds) => 'e' :: (sign ++ ds)

/-- The number that an exponent stands for. -/
def exponentValue (exponent : Option (List Char × List Char)) : Option Int :=
  exponent.map fun (sign, ds) => (if sign = ['-'] then -1 else 1) * valueIn 10 ds

/-- The parts of a number are digits where there have to be some. -/
structure IsNumber (whole : List Char) (fraction : Option (List Char))
    (exponent : Option (List Char × List Char)) : Prop where
  whole : Digits whole
  fraction : ∀ f ∈ fraction, Digits f
  exponent : ∀ e ∈ exponent, e.1 ∈ [[], ['+'], ['-']] ∧ Digits e.2

/-- The character does not go on with a number that has a fraction or an exponent. -/
def EndsParts (c : Char) : Prop := EndsDigits c ∧ c ≠ 'e' ∧ c ≠ 'E'

theorem fractionPart_append {fraction : Option (List Char)} (hf : ∀ f ∈ fraction, Digits f)
    {rest : List Char} (hrest : ∀ c ∈ rest.head?, EndsDigits c ∧ (fraction = none → c ≠ '.')) :
    fractionPart (fraction.elim [] ('.' :: ·) ++ rest) = some (fraction, rest) := by
  cases fraction with
  | none =>
    rw [Option.elim_none, List.nil_append]
    cases rest with
    | nil => rfl
    | cons c rest =>
      have hc := (hrest c rfl).2 rfl
      unfold fractionPart
      split
      · next h => exact absurd (List.cons.inj h).1 hc
      · next h => exact absurd (List.cons.inj h).1 hc
      · rfl
  | some f =>
    obtain ⟨hne, hdecimal⟩ := hf f rfl
    obtain ⟨d, ds, rfl⟩ := List.exists_cons_of_ne_nil hne
    have hrun := digitRun_append hdecimal fun c hc => (hrest c hc).1
    rw [List.cons_append] at hrun
    rw [Option.elim_some, List.cons_append, List.cons_append, fractionPart,
      if_pos (hdecimal d List.mem_cons_self), hrun, Option.map_some]

theorem exponentPart_append {exponent : Option (List Char × List Char)}
    (he : ∀ e ∈ exponent, e.1 ∈ [[], ['+'], ['-']] ∧ Digits e.2) {rest : List Char}
    (hrest : ∀ c ∈ rest.head?, EndsParts c) :
    exponentPart ((exponent.elim [] fun (sign, ds) => 'e' :: (sign ++ ds)) ++ rest) =
      some (exponentValue exponent, rest) := by
  cases exponent with
  | none =>
    rw [Option.elim_none, List.nil_append]
    cases rest with
    | nil => rfl
    | cons c rest =>
      obtain ⟨-, hlower, hupper⟩ := hrest c rfl
      rw [exponentPart.eq_def]
      exact if_neg (by simp [hlower, hupper])
  | some e =>
    obtain ⟨sign, ds⟩ := e
    obtain ⟨hsign, hne, hdecimal⟩ := he _ rfl
    obtain ⟨d, ds, rfl⟩ := List.exists_cons_of_ne_nil hne
    have hrun := digitRun_append hdecimal fun c hc => (hrest c hc).1
    rw [List.cons_append] at hrun
    have hd := hdecimal d List.mem_cons_self
    have hsigned (sign : Int) : exponentPart.signed sign (d :: (ds ++ rest)) =
        some (some (sign * valueIn 10 (d :: ds)), rest) := by
      rw [exponentPart.signed, hrun, Option.map_some]
    have hword : sign = [] ∨ sign = ['+'] ∨ sign = ['-'] := by simpa using hsign
    rcases hword with rfl | rfl | rfl
    · refine Eq.trans ?_ (hsigned 1)
      change exponentPart ('e' :: d :: (ds ++ rest)) = _
      rw [exponentPart.eq_def]
      have hplus : d ≠ '+' := by rintro rfl; cases hd
      have hminus : d ≠ '-' := by rintro rfl; cases hd
      simp only [true_or, if_true]
      split
      · next heq => exact absurd (List.cons.inj heq).1 hplus
      · next heq => exact absurd (List.cons.inj heq).1 hminus
      · next heq => exact absurd (List.cons.inj heq).1 hplus
      · next heq => exact absurd (List.cons.inj heq).1 hminus
      · next heq =>
        obtain ⟨rfl, rfl⟩ := List.cons.inj heq
        exact if_pos hd
      · next heq => cases heq
    · exact (if_pos hd).trans (hsigned 1)
    · exact (if_pos hd).trans (hsigned (-1))

/-- The parts of a number are found one after the other. -/
theorem parts_numberText {whole : List Char} {fraction : Option (List Char)}
    {exponent : Option (List Char × List Char)} (h : IsNumber whole fraction exponent)
    {rest : List Char} (hrest : ∀ c ∈ rest.head?, EndsParts c)
    (hpoint : fraction = none → exponent = none → rest.head? ≠ some '.') :
    ∃ behindWhole behindFraction,
      digitRun 10 (numberText whole fraction exponent ++ rest) = some (whole, behindWhole) ∧
      fractionPart behindWhole = some (fraction, behindFraction) ∧
      exponentPart behindFraction = some (exponentValue exponent, rest) := by
  obtain ⟨hwhole, hfraction, hexponent⟩ := h
  have hvalue := exponentPart_append hexponent hrest
  generalize htail : (exponent.elim [] fun (sign, ds) => 'e' :: (sign ++ ds)) ++ rest = tail
    at hvalue
  have htailHead : ∀ c ∈ tail.head?, EndsDigits c ∧ (fraction = none → c ≠ '.') := by
    cases exponent with
    | none =>
      rw [Option.elim_none, List.nil_append] at htail
      rw [← htail]
      refine fun c hc => ⟨(hrest c hc).1, fun hnone hcpoint => hpoint hnone rfl ?_⟩
      rw [hcpoint] at hc
      exact hc
    | some e =>
      rw [← htail]
      intro c hc
      cases hc
      exact ⟨⟨rfl, by decide⟩, fun _ => by decide⟩
  have hwholeHead : ∀ c ∈ (fraction.elim [] ('.' :: ·) ++ tail).head?, EndsDigits c := by
    cases fraction with
    | none => exact fun c hc => (htailHead c hc).1
    | some f =>
      intro c hc
      cases hc
      exact ⟨rfl, by decide⟩
  refine ⟨fraction.elim [] ('.' :: ·) ++ tail, tail, ?_,
    fractionPart_append hfraction htailHead, hvalue⟩
  rw [numberText, List.append_assoc, List.append_assoc, htail]
  exact digitRun_append hwhole.isDecimal hwholeHead

/-! ## Whole numerals -/

/-- A decimal number is no number of another base. -/
theorem numeral_eq_decimalNumeral {cs : List Char}
    (h : ∀ c ∈ cs.tail.head?, c ∉ ['x', 'X', 'o', 'O', 'b', 'B']) :
    numeral cs = decimalNumeral cs := by
  unfold numeral
  split
  · next c cs =>
    have hc := h c rfl
    simp only [List.mem_cons, List.not_mem_nil, or_false, not_or] at hc
    obtain ⟨hx, hX, ho, hO, hb, hB⟩ := hc
    rw [if_neg (by simp [hx, hX]), if_neg (by simp [ho, hO]), if_neg (by simp [hb, hB])]
  · rfl

/-- The character ends a number. -/
def EndsNumber (c : Char) : Prop := isNameChar c = false

instance : DecidablePred EndsNumber := fun _ => inferInstanceAs (Decidable (_ = _))

theorem EndsNumber.endsParts {c : Char} (h : EndsNumber c) : EndsParts c := by
  have hdecimal : isDecimal c = false := by
    rw [EndsNumber, isNameChar, Bool.or_assoc, Bool.or_assoc, Bool.or_assoc,
      Bool.or_eq_false_iff] at h
    exact h.1
  refine ⟨⟨hdecimal, ?_⟩, ?_, ?_⟩ <;> rintro rfl <;> exact absurd h (by decide)

theorem EndsNumber.notMem {c : Char} (h : EndsNumber c) :
    c ∉ ['x', 'X', 'o', 'O', 'b', 'B'] ∧ c ≠ 'j' ∧ c ≠ 'J' := by
  have hletters : ∀ d ∈ ['x', 'X', 'o', 'O', 'b', 'B'], isNameChar d = true :=
    List.all_eq_true.mp (by decide)
  refine ⟨fun hmem => Bool.eq_false_iff.mp h (hletters c hmem), ?_, ?_⟩ <;> rintro rfl <;>
    exact absurd h (by decide)

theorem endsNumber_of_head {rest : List Char} (h : ∀ c ∈ rest.head?, EndsNumber c) :
    endsNumber rest = true := by
  have hnone : rest.head?.any isNameChar = false := by
    rw [Option.any_eq_false]
    exact fun c hc => Bool.eq_false_iff.mpr (Bool.eq_false_iff.mp (h c hc))
  rw [endsNumber, hnone, Bool.not_false, Bool.or_true]

theorem head_numberText {whole : List Char} {fraction : Option (List Char)}
    {exponent : Option (List Char × List Char)} (h : IsNumber whole fraction exponent)
    {rest : List Char} (hrest : ∀ c ∈ rest.head?, c ∉ ['x', 'X', 'o', 'O', 'b', 'B']) :
    ∀ c ∈ (numberText whole fraction exponent ++ rest).tail.head?,
      c ∉ ['x', 'X', 'o', 'O', 'b', 'B'] := by
  obtain ⟨d, ds, rfl⟩ := List.exists_cons_of_ne_nil h.whole.ne_nil
  rw [numberText, List.append_assoc, List.append_assoc, List.cons_append, List.tail_cons]
  intro c hc
  cases ds with
  | cons e ds =>
    cases hc
    have he := h.whole.isDecimal c (List.mem_cons_of_mem _ List.mem_cons_self)
    have hother : ∀ c ∈ ['x', 'X', 'o', 'O', 'b', 'B'], (!isDecimal c) = true :=
      List.all_eq_true.mp (by decide)
    exact fun hmem => absurd he (by simpa using hother c hmem)
  | nil =>
    cases fraction with
    | some f =>
      cases hc
      decide
    | none =>
      cases exponent with
      | some e =>
        cases hc
        decide
      | none => exact hrest c hc

section Numerals

variable {whole : List Char} {fraction : Option (List Char)}
  {exponent : Option (List Char × List Char)}

/-- The number that the parts of a text stand for. -/
def numberOf (whole : List Char) (fraction : Option (List Char))
    (exponent : Option (List Char × List Char)) : Binary64 :=
  .ofDecimal (valueIn 10 (whole ++ fraction.getD []))
    ((exponentValue exponent).getD 0 - (fraction.getD []).length)

/-- A number with a fraction or an exponent is real. -/
theorem numeral_real (h : IsNumber whole fraction exponent)
    (hparts : (fraction.isSome || exponent.isSome) = true) {rest : List Char}
    (hrest : ∀ c ∈ rest.head?, EndsNumber c) :
    numeral (numberText whole fraction exponent ++ rest) =
      some (.real (numberOf whole fraction exponent), rest) := by
  have hpoint : fraction = none → exponent = none → rest.head? ≠ some '.' := by
    rintro rfl rfl
    cases hparts
  obtain ⟨behindWhole, behindFraction, hwhole, hfraction, hexponent⟩ :=
    parts_numberText h (fun c hc => (hrest c hc).endsParts) hpoint
  have hsome : (exponentValue exponent).isSome = exponent.isSome := Option.isSome_map
  have hends := endsNumber_of_head hrest
  rw [numeral_eq_decimalNumeral (head_numberText h fun c hc => (hrest c hc).notMem.1),
    decimalNumeral, hwhole]
  simp only [Option.bind_eq_bind, Option.bind_some, hfraction, hexponent, hsome, hparts]
  split
  · exact absurd rfl (hrest 'j' rfl).notMem.2.1
  · exact absurd rfl (hrest 'J' rfl).notMem.2.2
  · rw [hends]
    rfl

/-- With its mark behind it, a number is imaginary. -/
theorem numeral_imaginary (h : IsNumber whole fraction exponent) {rest : List Char}
    (hrest : ∀ c ∈ rest.head?, EndsNumber c) :
    numeral (numberText whole fraction exponent ++ 'j' :: rest) =
      some (.imaginary (numberOf whole fraction exponent), rest) := by
  have hmark : ∀ c ∈ ('j' :: rest).head?, EndsParts c ∧
      c ∉ ['x', 'X', 'o', 'O', 'b', 'B'] := by
    rintro c hc
    cases hc
    exact ⟨⟨⟨rfl, by decide⟩, by decide, by decide⟩, by decide⟩
  obtain ⟨behindWhole, behindFraction, hwhole, hfraction, hexponent⟩ :=
    parts_numberText h (fun c hc => (hmark c hc).1) (fun _ _ => by simp)
  rw [numeral_eq_decimalNumeral (head_numberText h fun c hc => (hmark c hc).2), decimalNumeral,
    hwhole]
  simp only [Option.bind_eq_bind, Option.bind_some, hfraction, hexponent,
    endsNumber_of_head hrest, if_true]
  rfl

end Numerals

/-! ## Integers -/

theorem isDecimal_of_isDigit {c : Char} (h : c.isDigit = true) : isDecimal c = true := by
  rw [Char.isDigit] at h
  exact h

theorem digits_toDigits (n : Nat) : Digits (Nat.toDigits 10 n) where
  ne_nil := Nat.toDigits_ne_nil
  isDecimal := fun _ hc =>
    isDecimal_of_isDigit (Nat.isDigit_of_mem_toDigits (by decide) (by decide) hc)

theorem valueIn_eq_ofDigitChars {ds : List Char} (hds : ∀ c ∈ ds, isDecimal c = true) (n : Nat) :
    ds.foldl (fun n c => 10 * n + digitValue c) n = Nat.ofDigitChars 10 ds n := by
  induction ds generalizing n with
  | nil => rfl
  | cons c ds ih =>
    obtain ⟨hc, hds⟩ := List.forall_mem_cons.mp hds
    rw [List.foldl_cons, ih hds, Nat.ofDigitChars_cons, digitValue, if_pos hc]
    rfl

theorem valueIn_toDigits (n : Nat) : valueIn 10 (Nat.toDigits 10 n) = n := by
  rw [valueIn, valueIn_eq_ofDigitChars (digits_toDigits n).isDecimal,
    Nat.ofDigitChars_toDigits (by decide) (by decide)]

/-- No zero leads. -/
theorem head_toDigits {n : Nat} (hn : 0 < n) : (Nat.toDigits 10 n).head? ≠ some '0' := by
  induction n using Nat.strongRecOn with
  | ind n ih =>
    rw [Nat.toDigits_eq_if (by decide)]
    split
    · next hlt =>
      have hall : ∀ d < 10, 0 < d → d.digitChar ≠ '0' := by decide
      exact fun h => hall n hlt hn (Option.some.inj h)
    · next hge =>
      have hless : n / 10 < n := Nat.div_lt_self hn (by decide)
      have hpos : 0 < n / 10 := Nat.div_pos (Nat.not_lt.mp hge) (by decide)
      rw [List.head?_append, Option.or_of_isSome (by simp [Nat.toDigits_ne_nil])]
      exact ih _ hless hpos

theorem numeral_integer {n : Nat} (hn : n < 10 ^ integerDigitLimit) {rest : List Char}
    (hrest : ∀ c ∈ rest.head?, EndsNumber c ∧ c ≠ '.') :
    numeral (Nat.toDigits 10 n ++ rest) = some (.integer n, rest) := by
  have hnumber : IsNumber (Nat.toDigits 10 n) none none := ⟨digits_toDigits n, nofun, nofun⟩
  have htext : Nat.toDigits 10 n = numberText (Nat.toDigits 10 n) none none := by
    rw [numberText, Option.elim_none, Option.elim_none, List.append_nil, List.append_nil]
  have hpoint : rest.head? ≠ some '.' := fun h => (hrest '.' h).2 rfl
  have hlength : (Nat.toDigits 10 n).length ≤ integerDigitLimit :=
    (Nat.length_toDigits_le_iff (by decide) (by decide)).mpr hn
  obtain ⟨behindWhole, behindFraction, hwhole, hfraction, hexponent⟩ :=
    parts_numberText hnumber (fun c hc => (hrest c hc).1.endsParts) fun _ _ => hpoint
  have hbase : ∀ c ∈ (Nat.toDigits 10 n ++ rest).tail.head?,
      c ∉ ['x', 'X', 'o', 'O', 'b', 'B'] := by
    rw [htext]
    exact head_numberText hnumber fun c hc => (hrest c hc).1.notMem.1
  have hends := endsNumber_of_head fun c hc => (hrest c hc).1
  rw [← htext] at hwhole
  rw [numeral_eq_decimalNumeral hbase, decimalNumeral, hwhole]
  simp only [Option.bind_eq_bind, Option.bind_some, hfraction, hexponent, valueIn_toDigits]
  split
  · exact absurd rfl (hrest 'j' rfl).1.notMem.2.1
  · exact absurd rfl (hrest 'J' rfl).1.notMem.2.2
  · rw [hends]
    by_cases hzero : n = 0
    · simp [hzero, exponentValue]
    · have hlead := head_toDigits (Nat.pos_of_ne_zero hzero)
      simp [hzero, exponentValue, hlead, Nat.not_lt.mpr hlength]

/-! ## Binary fractions -/

namespace Binary64

theorem power_pos {base : Nat} (hbase : 0 < base) (e : Int) :
    0 < (Fraction.power base e).num ∧ 0 < (Fraction.power base e).den := by
  unfold Fraction.power
  split
  · exact ⟨Nat.pow_pos hbase, Nat.one_pos⟩
  · exact ⟨Nat.one_pos, Nat.pow_pos hbase⟩

/-- Zero lies in no interval above zero. -/
theorem onGrid_ne_zero {x low high : Fraction} {closed : Bool} {place : Int} {n : Nat}
    (hlow : 0 < low.num) (h : onGrid x low high closed place = some n) : n ≠ 0 := by
  obtain ⟨-, hden⟩ := power_pos (show 0 < 10 by decide) place
  have hpos : 0 < low.num * (Fraction.power 10 place).den := Nat.mul_pos hlow hden
  have houtside : (if closed then
      low.le ((Fraction.power 10 place).scale 0) && ((Fraction.power 10 place).scale 0).le high
      else low.lt ((Fraction.power 10 place).scale 0) &&
        ((Fraction.power 10 place).scale 0).lt high) = false := by
    have hzero : ((Fraction.power 10 place).scale 0).num = 0 := Nat.zero_mul _
    have hle : low.le ((Fraction.power 10 place).scale 0) = false := by
      rw [Fraction.le, decide_eq_false_iff_not, hzero, Nat.zero_mul]
      exact Nat.not_le.mpr hpos
    have hlt : low.lt ((Fraction.power 10 place).scale 0) = false := by
      rw [Fraction.lt, decide_eq_false_iff_not, hzero, Nat.zero_mul]
      exact Nat.not_lt_zero _
    rw [hle, hlt, Bool.false_and, Bool.false_and, ite_self]
  rintro rfl
  unfold onGrid at h
  extract_lets unit quotient below within at h
  have hwithin : within 0 = false := houtside
  split at h
  · next hbelow _ =>
    rw [Option.some.inj h, hwithin] at hbelow
    cases hbelow
  · cases h
  · cases h
  · next hbelow _ =>
    have hne : below ≠ 0 := by
      intro hzero
      rw [hzero, hwithin] at hbelow
      cases hbelow
    have hresult : below = 0 ∨ below + 1 = 0 := by
      repeat' split at h
      · exact .inl (Option.some.inj h)
      · exact .inr (Option.some.inj h)
      · exact .inl (Option.some.inj h)
      · exact .inr (Option.some.inj h)
    exact hresult.elim hne nofun

theorem digits_trimZeros {n : Nat} (hn : n ≠ 0) : Digits (trimZeros (Nat.toDigits 10 n)) where
  ne_nil := by
    intro h
    rw [trimZeros, List.reverse_eq_nil_iff] at h
    obtain ⟨d, ds, hcons⟩ := List.exists_cons_of_ne_nil (Nat.toDigits_ne_nil (n := n) (b := 10))
    have hd : d ≠ '0' := by
      rintro rfl
      exact head_toDigits (Nat.pos_of_ne_zero hn) (by rw [hcons, List.head?_cons])
    rw [hcons, List.reverse_cons] at h
    rw [List.dropWhile_append] at h
    split at h
    · rw [List.dropWhile_cons_of_neg (by simpa using hd)] at h
      cases h
    · exact absurd (List.append_eq_nil_iff.mp h).2 nofun
  isDecimal := by
    intro c hc
    rw [trimZeros, List.mem_reverse] at hc
    exact (digits_toDigits n).isDecimal c
      (List.mem_reverse.mp ((List.dropWhile_sublist _).subset hc))

theorem digits_shortestFrom {x low high : Fraction} {closed : Bool} (hlow : 0 < low.num)
    (top : Int) (fuel digits : Nat) :
    Digits (shortestFrom x low high closed top fuel digits).digits := by
  induction fuel generalizing digits with
  | zero => exact ⟨by simp [shortestFrom], by simp [shortestFrom]; decide⟩
  | succ fuel ih =>
    rw [shortestFrom]
    split
    · next n h => exact digits_trimZeros (onGrid_ne_zero hlow h)
    · exact ih (digits + 1)

theorem digits_shortest (mantissa : Nat) (exponent : Int) :
    Digits (shortest mantissa exponent).digits := by
  unfold shortest
  split
  · exact ⟨by simp, by simp; decide⟩
  · next hzero =>
    obtain ⟨hnum, -⟩ := power_pos Nat.zero_lt_two (exponent - 2)
    refine digits_shortestFrom ?_ _ _ _
    split <;> exact Nat.mul_pos (by omega) hnum

theorem digits_zeros_append (n : Int) {ds : List Char} (h : Digits ds) :
    Digits (zeros n ++ ds) ∧ Digits (ds ++ zeros n) := by
  have hzeros : ∀ c ∈ zeros n, isDecimal c = true := by
    intro c hc
    rw [List.eq_of_mem_replicate hc]
    rfl
  exact ⟨⟨List.append_ne_nil_of_right_ne_nil _ h.ne_nil,
      List.forall_mem_append.mpr ⟨hzeros, h.isDecimal⟩⟩,
    ⟨List.append_ne_nil_of_left_ne_nil h.ne_nil _,
      List.forall_mem_append.mpr ⟨h.isDecimal, hzeros⟩⟩⟩

/-- The exponent that is written has at least two digits. -/
def writtenExponent (e : Int) : List Char × List Char :=
  ([if e < 0 then '-' else '+'],
    if (Nat.toDigits 10 e.natAbs).length < 2 then '0' :: Nat.toDigits 10 e.natAbs
    else Nat.toDigits 10 e.natAbs)

theorem isNumber_writtenExponent (e : Int) : ∀ p ∈ some (writtenExponent e),
    p.1 ∈ [[], ['+'], ['-']] ∧ Digits p.2 := by
  rintro p hp
  cases hp
  have hdigits := digits_toDigits e.natAbs
  constructor
  · rw [writtenExponent]
    by_cases he : e < 0
    · rw [if_pos he]
      exact List.mem_of_mem_drop (i := 2) List.mem_cons_self
    · rw [if_neg he]
      exact List.mem_cons_of_mem _ List.mem_cons_self
  · rw [writtenExponent]
    by_cases hlength : (Nat.toDigits 10 e.natAbs).length < 2
    · rw [if_pos hlength]
      exact ⟨nofun, List.forall_mem_cons.mpr ⟨rfl, hdigits.isDecimal⟩⟩
    · rw [if_neg hlength]
      exact hdigits

/-- A decimal is written as a number, with a fraction or an exponent if it has to have one. -/
theorem exists_numberText {ds : List Char} (h : Digits ds) (point : Int) (pointed : Bool) :
    ∃ whole fraction exponent,
      Decimal.text pointed ⟨ds, point⟩ = numberText whole fraction exponent ∧
      IsNumber whole fraction exponent ∧
      (pointed = true → (fraction.isSome || exponent.isSome) = true) := by
  have hsome {f : List Char} (hf : Digits f) : ∀ g ∈ some f, Digits g := by
    rintro g hg
    cases hg
    exact hf
  rw [Decimal.text]
  dsimp only
  split
  · obtain ⟨c, cs, rfl⟩ := List.exists_cons_of_ne_nil h.ne_nil
    obtain ⟨hc, hcs⟩ := List.forall_mem_cons.mp h.isDecimal
    have hwhole : Digits [c] := ⟨nofun, List.forall_mem_singleton.mpr hc⟩
    have hexponent := isNumber_writtenExponent (point - 1)
    cases cs with
    | nil => exact ⟨[c], none, _, rfl, ⟨hwhole, nofun, hexponent⟩, fun _ => rfl⟩
    | cons d cs =>
      refine ⟨[c], some (d :: cs), _, ?_, ⟨hwhole, hsome ⟨nofun, hcs⟩, hexponent⟩, fun _ => rfl⟩
      simp [numberText, writtenExponent]
  split
  · refine ⟨['0'], some (zeros (-point) ++ ds), none, ?_,
      ⟨digits_zero, hsome (digits_zeros_append _ h).1, nofun⟩, fun _ => rfl⟩
    simp [numberText]
  split
  · have hwhole := (digits_zeros_append (point - ds.length) h).2
    cases pointed with
    | false => exact ⟨_, none, none, by simp [numberText], ⟨hwhole, nofun, nofun⟩, nofun⟩
    | true =>
      exact ⟨_, some ['0'], none, by simp [numberText],
        ⟨hwhole, hsome digits_zero, nofun⟩, fun _ => rfl⟩
  · have hpoint : 0 < point.toNat ∧ point.toNat < ds.length := by omega
    refine ⟨ds.take point.toNat, some (ds.drop point.toNat), none, by simp [numberText],
      ⟨⟨?_, fun c hc => h.isDecimal c (List.mem_of_mem_take hc)⟩,
        hsome ⟨?_, fun c hc => h.isDecimal c (List.mem_of_mem_drop hc)⟩, nofun⟩, fun _ => rfl⟩
    · rw [Ne, List.take_eq_nil_iff, not_or]
      exact ⟨Nat.ne_of_gt hpoint.1, h.ne_nil⟩
    · rw [Ne, List.drop_eq_nil_iff]
      omega

theorem text_eq_numberText (x : Binary64) (pointed : Bool) :
    ∃ whole fraction exponent, x.text pointed = numberText whole fraction exponent ∧
      IsNumber whole fraction exponent ∧
      (pointed = true → (fraction.isSome || exponent.isSome) = true) := by
  cases x with
  | finite m e => exact exists_numberText (digits_shortest m e) _ pointed
  | infinite =>
    refine ⟨['1'], none, some ([], ['3', '0', '9']), rfl,
      ⟨⟨nofun, List.all_eq_true.mp (by decide)⟩, nofun, ?_⟩, fun _ => rfl⟩
    rintro p hp
    cases hp
    exact ⟨by decide, nofun, List.all_eq_true.mp (by decide)⟩

end Binary64

/-! ## Numbers as tokens -/

theorem isNameStart_of_isDecimal {c : Char} (h : isDecimal c = true) : isNameStart c = false := by
  rw [isNameStart, h, Bool.not_true, Bool.and_false]

theorem isNameChar_of_isDecimal {c : Char} (h : isDecimal c = true) : isNameChar c = true := by
  rw [isNameChar, h, Bool.true_or, Bool.true_or, Bool.true_or, Bool.true_or]

/-- A text that starts with a digit and is a number is one token. -/
theorem cut_numeral {P : Char → Prop} {cs : List Char} {value : Constant}
    (hhead : cs.head?.any isDecimal = true) (hclean : ∀ d ∈ cs, ¬ NeverWritten d)
    (h : ∀ rest : List Char, (∀ d ∈ rest.head?, P d) →
      numeral (cs ++ rest) = some (value, rest)) :
    Cut P cs [.constant value] := by
  obtain ⟨c, hhead, hc⟩ := (Option.any_eq_true ..).mp hhead
  obtain ⟨cs, rfl⟩ := List.head?_eq_some_iff.mp hhead
  obtain ⟨hs, hd, hhash, hline, -, hslash, -, hspace⟩ :=
    ne_of_isNameChar (isNameChar_of_isDecimal hc)
  refine .single ⟨hspace, hline, hhash, hslash⟩ hclean fun rest hrest => ?_
  have hstart := isNameStart_of_isDecimal hc
  rw [nextToken, literalStart_of_head hstart hs hd]
  dsimp only
  rw [List.headD_cons, hstart, if_neg Bool.false_ne_true, if_pos (by rw [hc, Bool.true_or]),
    ← List.cons_append, h rest hrest, Option.map_some]

theorem head_digits {ds : List Char} (h : Digits ds) (rest : List Char) :
    (ds ++ rest).head?.any isDecimal = true := by
  obtain ⟨d, ds, rfl⟩ := List.exists_cons_of_ne_nil h.ne_nil
  exact h.isDecimal d List.mem_cons_self

theorem head_digit_numberText {whole : List Char} {fraction : Option (List Char)}
    {exponent : Option (List Char × List Char)} (h : IsNumber whole fraction exponent)
    (rest : List Char) :
    (numberText whole fraction exponent ++ rest).head?.any isDecimal = true := by
  rw [numberText, List.append_assoc, List.append_assoc]
  exact head_digits h.whole _

theorem clean_numberText {whole : List Char} {fraction : Option (List Char)}
    {exponent : Option (List Char × List Char)} (h : IsNumber whole fraction exponent) :
    ∀ c ∈ numberText whole fraction exponent, ¬ NeverWritten c := by
  have hdigits {ds : List Char} (hds : Digits ds) : ∀ c ∈ ds, ¬ NeverWritten c := fun c hc =>
    not_neverWritten_of_isNameChar (isNameChar_of_isDecimal (hds.isDecimal c hc))
  refine List.forall_mem_append.mpr ⟨List.forall_mem_append.mpr ⟨hdigits h.whole, ?_⟩, ?_⟩
  · cases fraction with
    | none => exact fun c hc => absurd hc List.not_mem_nil
    | some f => exact List.forall_mem_cons.mpr ⟨by decide, hdigits (h.fraction f rfl)⟩
  · cases exponent with
    | none => exact fun c hc => absurd hc List.not_mem_nil
    | some e =>
      obtain ⟨hsign, hds⟩ := h.exponent e rfl
      have hsigns : ∀ s ∈ [[], ['+'], ['-']], (s.all fun c => decide (¬ NeverWritten c)) = true := by
        decide
      have hclean : ∀ c ∈ e.1, ¬ NeverWritten c := fun c hc =>
        of_decide_eq_true (List.all_eq_true.mp (hsigns e.1 hsign) c hc)
      exact List.forall_mem_cons.mpr ⟨by decide,
        List.forall_mem_append.mpr ⟨hclean, hdigits hds⟩⟩

/-- What a constant is when its text is read again: a fraction goes through its digits. -/
def Constant.reread : Constant → Constant
  | .real x => ((numeral (x.text Bool.true)).map (·.1)).getD (.real x)
  | .imaginary x => ((numeral (x.text Bool.false ++ ['j'])).map (·.1)).getD (.imaginary x)
  | c => c

theorem cut_integer {n : Nat} (hn : n < 10 ^ integerDigitLimit) :
    Cut (fun c => EndsNumber c ∧ c ≠ '.') (Nat.toDigits 10 n) [.constant (.integer n)] := by
  have hdigits := digits_toDigits n
  refine cut_numeral ?_ (fun c hc => ?_) fun rest hrest => numeral_integer hn hrest
  · have hhead := head_digits hdigits []
    rwa [List.append_nil] at hhead
  · exact not_neverWritten_of_isNameChar (isNameChar_of_isDecimal (hdigits.isDecimal c hc))

theorem cut_real (x : Binary64) :
    Cut EndsNumber (x.text true) [.constant (Constant.reread (.real x))] := by
  obtain ⟨whole, fraction, exponent, htext, hnumber, hparts⟩ := x.text_eq_numberText true
  have hread (rest : List Char) (hrest : ∀ c ∈ rest.head?, EndsNumber c) :=
    numeral_real hnumber (hparts rfl) hrest
  have halone := hread [] nofun
  have hhead := head_digit_numberText hnumber []
  rw [List.append_nil] at halone hhead
  rw [Constant.reread, htext, halone, Option.map_some, Option.getD_some]
  exact cut_numeral hhead (clean_numberText hnumber) hread

theorem cut_imaginary (x : Binary64) :
    Cut EndsNumber (x.text false ++ ['j']) [.constant (Constant.reread (.imaginary x))] := by
  obtain ⟨whole, fraction, exponent, htext, hnumber, -⟩ := x.text_eq_numberText false
  have halone : numeral (numberText whole fraction exponent ++ ['j']) =
      some (.imaginary (numberOf whole fraction exponent), []) := numeral_imaginary hnumber nofun
  have hclean : ∀ c ∈ numberText whole fraction exponent ++ ['j'], ¬ NeverWritten c :=
    List.forall_mem_append.mpr ⟨clean_numberText hnumber, List.forall_mem_singleton.mpr (by decide)⟩
  rw [Constant.reread, htext, halone, Option.map_some, Option.getD_some]
  refine cut_numeral (head_digit_numberText hnumber _) hclean fun rest hrest => ?_
  rw [List.append_assoc]
  exact numeral_imaginary hnumber hrest

end LivePreview.Code
