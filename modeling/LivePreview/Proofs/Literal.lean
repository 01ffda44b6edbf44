import LivePreview.Code.Layout
import LivePreview.Code.Literal
import LivePreview.Code.Quoted
import Mathlib.Algebra.Group.Nat.Defs

/-!
# Literals are read back

A text is written between quotes and read again by looking for the quote that ends it and undoing
the escapes. Both forms of a literal give back the text for whatever it holds, and write no null
character and no carriage return; of the open form this is shown for triple quotes and a text that
does not end with a quote. Bytes are given back as well. Nothing is said here about the literals
that hold fields.
-/

namespace LivePreview.Code

open LivePreview.Text (Points isPrintable occurs)

/-! ## Escapes -/

theorem digitValue_hexDigitChar : ∀ d < 16, digitValue (hexDigitChar d) = d := by decide

theorem length_hexDigits (width n : Nat) : (hexDigits width n).length = width := by
  induction width generalizing n with
  | zero => rfl
  | succ width ih => rw [hexDigits, List.length_append, ih]; rfl

theorem mem_hexDigits {width n : Nat} {c : Char} (h : c ∈ hexDigits width n) :
    ∃ d < 16, c = hexDigitChar d := by
  induction width generalizing n with
  | zero => cases h
  | succ width ih =>
    rw [hexDigits, List.mem_append, List.mem_singleton] at h
    rcases h with h | h
    · exact ih h
    · exact ⟨n % 16, Nat.mod_lt n (by decide), h⟩

theorem valueIn_hexDigits (width n : Nat) : valueIn 16 (hexDigits width n) = n % 16 ^ width := by
  induction width generalizing n with
  | zero => rw [Nat.pow_zero, Nat.mod_one]; rfl
  | succ width ih =>
    have hsplit : valueIn 16 (hexDigits width (n / 16) ++ [hexDigitChar (n % 16)]) =
        16 * valueIn 16 (hexDigits width (n / 16)) + digitValue (hexDigitChar (n % 16)) :=
      List.foldl_append
    rw [hexDigits, hsplit, ih, digitValue_hexDigitChar _ (Nat.mod_lt n (by decide)), Nat.pow_succ,
      Nat.mul_comm (16 ^ width) 16, Nat.mod_mul]
    omega

theorem numberEscape?_hexDigits {width n : Nat} (hw : n < 16 ^ width) (hn : n ≤ 0x10ffff)
    (rest : List Char) :
    numberEscape? width (hexDigits width n ++ rest) = some ⟨[n], width + 1⟩ := by
  have htake : (hexDigits width n ++ rest).take width = hexDigits width n :=
    List.take_left' (length_hexDigits width n)
  have hdigits : (hexDigits width n).all (isDigitIn 16) = true := by
    rw [List.all_eq_true]
    intro c hc
    obtain ⟨d, hd, rfl⟩ := mem_hexDigits hc
    rw [isDigitIn, digitValue_hexDigitChar d hd]
    exact decide_eq_true hd
  have hfixed : fixedHex? width (hexDigits width n ++ rest) = some n := by
    simp only [fixedHex?, htake, length_hexDigits, hdigits, decide_true, Bool.and_self, if_true,
      valueIn_hexDigits, Nat.mod_eq_of_lt hw]
  simp only [numberEscape?, hfixed, Option.bind_eq_bind, Option.bind_some]
  rw [if_neg (Nat.not_lt.mpr hn)]

/-- An escape is a backslash, a letter and perhaps digits, and stands for its code point. -/
theorem pointEscape_spec {p : Nat} (hp : p ≤ 0x10ffff) :
    ∃ c ds, pointEscape p = '\\' :: c :: ds ∧ (∀ d ∈ ds, ∃ n < 16, d = hexDigitChar n) ∧
      ∀ rest, textEscape? (c :: (ds ++ rest)) = some ⟨[p], ds.length + 1⟩ := by
  have hdigits (width : Nat) : ∀ d ∈ hexDigits width p, ∃ n < 16, d = hexDigitChar n :=
    fun _ => mem_hexDigits
  have hnone : ∀ d ∈ ([] : List Char), ∃ n < 16, d = hexDigitChar n := fun d hd => by cases hd
  unfold pointEscape
  split
  · next h => subst h; exact ⟨'t', [], rfl, hnone, fun _ => rfl⟩
  split
  · next h => subst h; exact ⟨'n', [], rfl, hnone, fun _ => rfl⟩
  split
  · next h => subst h; exact ⟨'r', [], rfl, hnone, fun _ => rfl⟩
  split
  · next h => subst h; exact ⟨'\\', [], rfl, hnone, fun _ => rfl⟩
  split
  · next h =>
    refine ⟨'x', _, rfl, hdigits 2, fun rest => ?_⟩
    rw [length_hexDigits]
    exact numberEscape?_hexDigits h hp rest
  split
  · next h =>
    refine ⟨'u', _, rfl, hdigits 4, fun rest => ?_⟩
    rw [length_hexDigits]
    exact numberEscape?_hexDigits h hp rest
  · refine ⟨'U', _, rfl, hdigits 8, fun rest => ?_⟩
    rw [length_hexDigits]
    exact numberEscape?_hexDigits (by omega) hp rest

theorem unescapeFrom_append (escape? : List Char → Option Escape) (skipped rest : List Char) :
    unescapeFrom escape? skipped.length (skipped ++ rest) = unescapeFrom escape? 0 rest := by
  induction skipped with
  | nil => rfl
  | cons c cs ih => exact ih

theorem unescape_escape {escape? : List Char → Option Escape} {p : Nat} {c : Char}
    {ds : List Char} (hread : ∀ rest, escape? (c :: (ds ++ rest)) = some ⟨[p], ds.length + 1⟩)
    (rest : List Char) :
    unescapeFrom escape? 0 ('\\' :: c :: (ds ++ rest)) =
      (unescapeFrom escape? 0 rest).map (p :: ·) := by
  have hskip : unescapeFrom escape? (ds.length + 1) (c :: (ds ++ rest)) =
      unescapeFrom escape? 0 rest := unescapeFrom_append escape? (c :: ds) rest
  rw [unescapeFrom, if_pos rfl, hread rest]
  simp only [Option.bind_eq_bind, Option.bind_some, hskip]
  cases unescapeFrom escape? 0 rest <;> rfl

theorem unescape_pointEscape {p : Nat} (hp : p ≤ 0x10ffff) (rest : List Char) :
    unescapeFrom textEscape? 0 (pointEscape p ++ rest) =
      (unescapeFrom textEscape? 0 rest).map (p :: ·) := by
  obtain ⟨c, ds, heq, -, hread⟩ := pointEscape_spec hp
  rw [heq, List.cons_append, List.cons_append, unescape_escape hread]

theorem unescape_cons {c : Char} (hc : c ≠ '\\') (escape? : List Char → Option Escape)
    (rest : List Char) :
    unescapeFrom escape? 0 (c :: rest) = (unescapeFrom escape? 0 rest).map (c.toNat :: ·) := by
  rw [unescapeFrom, if_neg hc]

/-! ## The end of a literal -/

/-- A text that stays inside a literal which `size` quotes end, after `run` quotes. The quotes in it
are escaped or too few to end the literal, and none stands last. -/
inductive Inside (quote : Char) (size : Nat) : Nat → List Char → Prop
  | nil : Inside quote size 0 []
  | quote {run : Nat} {cs : List Char} : run + 1 < size → Inside quote size (run + 1) cs →
      Inside quote size run (quote :: cs)
  | escape {run : Nat} {c : Char} {cs : List Char} : Inside quote size 0 cs →
      Inside quote size run ('\\' :: c :: cs)
  | plain {run : Nat} {c : Char} {cs : List Char} : c ≠ quote → c ≠ '\\' →
      (size = 1 → c ≠ '\n') → Inside quote size 0 cs → Inside quote size run (c :: cs)

theorem literalBody_ended (quote : Char) (size : Nat) (rest : List Char) :
    literalBody quote size size rest = some ([], rest) := by
  cases rest with
  | nil => rw [literalBody, if_pos rfl]
  | cons c cs => rw [literalBody.eq_def]; exact if_pos rfl

theorem literalBody_quote {quote : Char} {size run : Nat} (hrun : run < size) (cs : List Char) :
    literalBody quote size run (quote :: cs) =
      (literalBody quote size (run + 1) cs).map (literalBody.addTo quote) := by
  rw [literalBody.eq_def]
  simp only [if_neg (Nat.ne_of_lt hrun), if_true]

theorem literalBody_escape {quote : Char} {size run : Nat} (hq : quote ≠ '\\') (hrun : run < size)
    (c : Char) (cs : List Char) :
    literalBody quote size run ('\\' :: c :: cs) =
      (literalBody quote size 0 cs).map fun (body, rest) => ('\\' :: c :: body, rest) := by
  rw [literalBody, if_neg (Nat.ne_of_lt hrun), if_neg hq.symm,
    if_neg (fun h => absurd h.2 (by decide)), if_pos rfl]

theorem literalBody_plain {quote c : Char} {size run : Nat} (hrun : run < size) (hc : c ≠ quote)
    (hb : c ≠ '\\') (hn : size = 1 → c ≠ '\n') (cs : List Char) :
    literalBody quote size run (c :: cs) =
      (literalBody quote size 0 cs).map (literalBody.addTo c) := by
  have hbreak : ¬ (size = 1 ∧ c = '\n') := fun h => hn h.1 h.2
  rw [literalBody.eq_def]
  simp only [if_neg (Nat.ne_of_lt hrun), if_neg hc, if_neg hb, if_neg hbreak]

theorem literalBody_quotes (quote : Char) (missing run : Nat) (rest : List Char) :
    literalBody quote (run + missing) run (List.replicate missing quote ++ rest) =
      some (List.replicate missing quote, rest) := by
  induction missing generalizing run with
  | zero => exact literalBody_ended quote run rest
  | succ missing ih =>
    have hnext := ih (run + 1)
    rw [Nat.add_right_comm] at hnext
    rw [List.replicate_succ, List.cons_append, literalBody_quote (by omega), ← Nat.add_assoc, hnext]
    rfl

/-- A literal ends at the first quotes behind a text that stays inside of it. -/
theorem literalBody_of_inside {quote : Char} {size run : Nat} {body : List Char}
    (hq : quote ≠ '\\') (hrun : run < size) (h : Inside quote size run body) (rest : List Char) :
    literalBody quote size run (body ++ (List.replicate size quote ++ rest)) =
      some (body ++ List.replicate size quote, rest) := by
  induction h with
  | nil => simpa using literalBody_quotes quote size 0 rest
  | quote hlt _ ih =>
    rw [List.cons_append, literalBody_quote hrun, ih hlt]
    rfl
  | escape _ ih =>
    rw [List.cons_append, List.cons_append, literalBody_escape hq hrun, ih (Nat.zero_lt_of_lt hrun)]
    rfl
  | plain hc hb hn _ ih =>
    rw [List.cons_append, literalBody_plain hrun hc hb hn, ih (Nat.zero_lt_of_lt hrun)]
    rfl

/-! ## Plain literals -/

def IsQuote (c : Char) : Prop := c = '\'' ∨ c = '"'

instance : DecidablePred IsQuote := fun _ => inferInstanceAs (Decidable (_ ∨ _))

theorem isQuote_plainQuote (ps : List Nat) : IsQuote (plainQuote ps) := by
  unfold plainQuote
  split
  · exact Or.inr rfl
  · exact Or.inl rfl

theorem IsQuote.ne_backslash {quote : Char} (hq : IsQuote quote) : quote ≠ '\\' := by
  rcases hq with rfl | rfl <;> decide

theorem hexDigitChar_ne {quote : Char} (hq : IsQuote quote) {n : Nat} (hn : n < 16) :
    hexDigitChar n ≠ quote ∧ hexDigitChar n ≠ '\\' ∧ hexDigitChar n ≠ '\n' := by
  have hall : ∀ n < 16, hexDigitChar n ≠ '\'' ∧ hexDigitChar n ≠ '"' ∧ hexDigitChar n ≠ '\\' ∧
      hexDigitChar n ≠ '\n' := by decide
  obtain ⟨h1, h2, h3⟩ := hall n hn
  rcases hq with rfl | rfl
  · exact ⟨h1, h3⟩
  · exact ⟨h2, h3⟩

theorem toNat_le (c : Char) : c.toNat ≤ 0x10ffff := by
  have h := c.valid
  simp only [UInt32.isValidChar, Nat.isValidChar] at h
  simp only [Char.toNat]
  omega

/-- The points of a text; a value may hold others, which are no characters. -/
theorem le_of_mem_ofChars {cs : List Char} {p : Nat} (hp : p ∈ Points.ofChars cs) :
    p ≤ 0x10ffff := by
  obtain ⟨c, -, rfl⟩ := List.mem_map.mp hp
  exact toNat_le c

/-- Between two boundaries nothing changes. -/
theorem inside_congr {bs : List Nat} {a b : Nat} (hab : a ≤ b)
    (h : ∀ x ∈ bs, x ≤ a ∨ b < x) : Text.inside bs a = Text.inside bs b := by
  induction bs with
  | nil => rfl
  | cons x bs ih =>
    obtain ⟨hx, hbs⟩ := List.forall_mem_cons.mp h
    rw [Text.inside, Text.inside, ih hbs]
    rcases hx with hx | hx
    · rw [if_neg (by omega), if_neg (by omega)]
    · rw [if_pos (by omega), if_pos (by omega)]

/-- A code point is a character, or a surrogate, which is never shown. -/
theorem point_cases {p : Nat} (hp : p ≤ 0x10ffff) :
    (∃ c : Char, p = c.toNat) ∨ isPrintable p = false := by
  by_cases hvalid : p.isValidChar
  · refine .inl ⟨Char.ofNat p, ?_⟩
    rw [Char.ofNat, dif_pos hvalid]
    rfl
  · right
    rw [Nat.isValidChar] at hvalid
    have hgap : ∀ x ∈ Text.printableBoundaries, x ≤ 0xd800 ∨ 0xdfff < x := by decide +kernel
    have hsame := inside_congr (a := 0xd800) (b := p) (by omega)
      fun x hx => (hgap x hx).imp_right fun h => by omega
    rw [isPrintable, ← hsame]
    decide +kernel

theorem inside_pointEscape {quote : Char} {size : Nat} (hq : IsQuote quote) {p : Nat}
    (hp : p ≤ 0x10ffff) (run : Nat) {cs : List Char} (h : Inside quote size 0 cs) :
    Inside quote size run (pointEscape p ++ cs) := by
  obtain ⟨c, ds, heq, hds, -⟩ := pointEscape_spec hp
  have hdigits : Inside quote size 0 (ds ++ cs) := by
    clear heq
    induction ds with
    | nil => exact h
    | cons d ds ih =>
      obtain ⟨n, hn, rfl⟩ := hds d List.mem_cons_self
      obtain ⟨h1, h2, h3⟩ := hexDigitChar_ne hq hn
      exact .plain h1 h2 (fun _ => h3) (ih fun e he => hds e (List.mem_cons_of_mem _ he))
  rw [heq]
  exact .escape hdigits

theorem not_isPrintable_newline : isPrintable 10 = false := by decide

/-- A character that a literal shows as it stands, or its escape, keeps a text inside. -/
theorem inside_quotedPoint {quote : Char} {size : Nat} (hq : IsQuote quote) {p : Nat}
    (hp : p ≤ 0x10ffff) {cs : List Char} (h : Inside quote size 0 cs) :
    Inside quote size 0 (quotedPoint quote p ++ cs) := by
  rw [quotedPoint]
  split
  · exact .escape h
  · next hne =>
    rw [escapedUnless]
    split
    · next hplain =>
      rw [Bool.and_eq_true, decide_eq_true_eq] at hplain
      rcases point_cases hp with ⟨c, rfl⟩ | hhidden
      · rw [Char.ofNat_toNat]
        refine .plain (fun he => hne (he ▸ rfl)) (fun he => ?_) (fun _ he => ?_) h
        · subst he; exact hplain.1 rfl
        · subst he; exact absurd (not_isPrintable_newline ▸ hplain.2) (by decide)
      · exact absurd hplain.2 (Bool.eq_false_iff.mp hhidden)
    · exact inside_pointEscape hq hp 0 h

theorem inside_quotedBody {quote : Char} (hq : IsQuote quote) (size : Nat) {ps : Points}
    (hps : ∀ p ∈ ps, p ≤ 0x10ffff) : Inside quote size 0 (ps.flatMap (quotedPoint quote)) := by
  induction ps with
  | nil => exact .nil
  | cons p ps ih =>
    obtain ⟨hp, hps⟩ := List.forall_mem_cons.mp hps
    rw [List.flatMap_cons]
    exact inside_quotedPoint hq hp (ih hps)

theorem unescape_escapedUnless {plain : Nat → Bool} (hplain : plain 92 = false) {p : Nat}
    (hp : p ≤ 0x10ffff) (hchar : plain p = true → ∃ c : Char, p = c.toNat) (rest : List Char) :
    unescapeFrom textEscape? 0 (escapedUnless plain p ++ rest) =
      (unescapeFrom textEscape? 0 rest).map (p :: ·) := by
  rw [escapedUnless]
  split
  · next h =>
    obtain ⟨c, rfl⟩ := hchar h
    rw [Char.ofNat_toNat, List.singleton_append, unescape_cons]
    rintro rfl
    exact absurd (hplain ▸ h) (by decide)
  · exact unescape_pointEscape hp rest

theorem unescape_quotedPoint {quote : Char} (hq : IsQuote quote) {p : Nat} (hp : p ≤ 0x10ffff)
    (rest : List Char) :
    unescapeFrom textEscape? 0 (quotedPoint quote p ++ rest) =
      (unescapeFrom textEscape? 0 rest).map (p :: ·) := by
  rw [quotedPoint]
  split
  · next h =>
    rw [h]
    rcases hq with rfl | rfl <;> exact Option.map_eq_bind.symm
  · refine unescape_escapedUnless rfl hp (fun hplain => ?_) rest
    rcases point_cases hp with hchar | hhidden
    · exact hchar
    · exact absurd (Bool.and_eq_true_iff.mp hplain).2 (Bool.eq_false_iff.mp hhidden)

/-- What undoes the escape of every point undoes the escapes of a text. -/
theorem unescape_flatMap (escape? : List Char → Option Escape) (write : Nat → List Char)
    {ps : Points}
    (h : ∀ p ∈ ps, ∀ rest : List Char, unescapeFrom escape? 0 (write p ++ rest) =
      (unescapeFrom escape? 0 rest).map (p :: ·)) :
    unescapeFrom escape? 0 (ps.flatMap write) = some ps := by
  induction ps with
  | nil => rfl
  | cons p ps ih =>
    obtain ⟨hp, hps⟩ := List.forall_mem_cons.mp h
    rw [List.flatMap_cons, hp, ih hps]
    rfl

/-- The text between the quotes of a plain literal shows its value. -/
theorem textValue?_quotedBody {ps : Points} (hps : ∀ p ∈ ps, p ≤ 0x10ffff) :
    textValue? false (quotedBody ps) = some ps :=
  unescape_flatMap textEscape? _ fun p hp => unescape_quotedPoint (isQuote_plainQuote ps) (hps p hp)

/-- A literal of one quote is read up to its own end, unless another quote follows it. -/
theorem literalFrom_inside {quote : Char} (hq : IsQuote quote) {body : List Char}
    (hin : Inside quote 1 0 body) {rest : List Char} (hrest : rest.head? ≠ some quote) :
    literalFrom quote (body ++ quote :: rest) = some (body, rest) := by
  have hbody := literalBody_of_inside hq.ne_backslash Nat.one_pos hin rest
  cases body with
  | nil =>
    cases rest with
    | nil => simp [literalFrom]
    | cons d ds =>
      have hd : d ≠ quote := fun h => hrest (by rw [h]; rfl)
      simp [literalFrom, hd]
  | cons c body =>
    have hc : c ≠ quote := by
      cases hin with
      | quote hlt => exact absurd hlt (by decide)
      | escape => exact hq.ne_backslash.symm
      | plain h => exact h
    obtain ⟨d, ds, hd⟩ : ∃ d ds, body ++ quote :: rest = d :: ds := by
      cases body <;> exact ⟨_, _, rfl⟩
    rw [List.cons_append, hd, literalFrom, if_neg (fun h => hc h.1), if_neg hc, ← hd]
    change (literalBody quote 1 0 (c :: body ++ (List.replicate 1 quote ++ rest))).map _ = _
    rw [hbody]
    simp only [Option.map_some, List.replicate_one, List.dropLast_concat]

theorem literalFrom_quoted {ps : Points} (hps : ∀ p ∈ ps, p ≤ 0x10ffff) {rest : List Char}
    (hrest : rest.head? ≠ some (plainQuote ps)) :
    literalFrom (plainQuote ps) (quotedBody ps ++ plainQuote ps :: rest) =
      some (quotedBody ps, rest) :=
  have hq := isQuote_plainQuote ps
  literalFrom_inside hq (inside_quotedBody hq 1 hps) hrest

/-! ## Literals of bytes -/

theorem pointEscape_byte {b : Nat} (hb : b < 256) :
    ∃ c ds, pointEscape b = '\\' :: c :: ds ∧
      ∀ rest, byteEscape? (c :: (ds ++ rest)) = some ⟨[b], ds.length + 1⟩ := by
  unfold pointEscape
  split
  · next h => subst h; exact ⟨'t', [], rfl, fun _ => rfl⟩
  split
  · next h => subst h; exact ⟨'n', [], rfl, fun _ => rfl⟩
  split
  · next h => subst h; exact ⟨'r', [], rfl, fun _ => rfl⟩
  split
  · next h => subst h; exact ⟨'\\', [], rfl, fun _ => rfl⟩
  · refine ⟨'x', _, rfl, fun rest => ?_⟩
    rw [length_hexDigits]
    exact numberEscape?_hexDigits hb (by omega) rest

/-- A byte that is shown as it stands is a character. -/
theorem toNat_ofNat_byte {b : Nat} (hb : b < 127) : (Char.ofNat b).toNat = b := by
  rw [Char.ofNat, dif_pos (by rw [Nat.isValidChar]; omega)]
  rfl

theorem inside_quotedBytes {quote : Char} (hq : IsQuote quote) {bs : List Nat}
    (hbs : ∀ b ∈ bs, b < 256) : Inside quote 1 0 (bs.flatMap (quotedByte quote)) := by
  induction bs with
  | nil => exact .nil
  | cons b bs ih =>
    obtain ⟨hb, hbs⟩ := List.forall_mem_cons.mp hbs
    rw [List.flatMap_cons, quotedByte]
    split
    · exact .escape (ih hbs)
    · next hne =>
      rw [escapedUnless]
      split
      · next hplain =>
        simp only [Bool.and_eq_true, decide_eq_true_eq] at hplain
        obtain ⟨⟨hslash, hlow⟩, hhigh⟩ := hplain
        have hnat := toNat_ofNat_byte hhigh
        refine .plain (fun he => hne ?_) (fun he => hslash ?_) (fun _ he => ?_) (ih hbs)
        · rw [← hnat, he]
        · rw [← hnat, he]
          rfl
        · rw [he] at hnat
          change 10 = b at hnat
          omega
      · exact inside_pointEscape hq (by omega) 0 (ih hbs)

theorem unescape_quotedByte {quote : Char} (hq : IsQuote quote) {b : Nat} (hb : b < 256)
    (rest : List Char) :
    unescapeFrom byteEscape? 0 (quotedByte quote b ++ rest) =
      (unescapeFrom byteEscape? 0 rest).map (b :: ·) := by
  rw [quotedByte]
  split
  · next h =>
    rw [h]
    rcases hq with rfl | rfl <;> exact Option.map_eq_bind.symm
  · rw [escapedUnless]
    split
    · next hplain =>
      simp only [Bool.and_eq_true, decide_eq_true_eq] at hplain
      have hnat := toNat_ofNat_byte hplain.2
      rw [List.singleton_append, unescape_cons, hnat]
      intro he
      rw [he] at hnat
      exact hplain.1.1 hnat.symm
    · obtain ⟨c, ds, heq, hread⟩ := pointEscape_byte hb
      rw [heq, List.cons_append, List.cons_append, unescape_escape hread]

/-- Bytes are written with nothing but visible characters and blanks. -/
theorem visible_of_mem_quotedBytes {quote : Char} (hq : IsQuote quote) {bs : List Nat}
    (hbs : ∀ b ∈ bs, b < 256) {c : Char} (hc : c ∈ bs.flatMap (quotedByte quote)) :
    32 ≤ c.toNat ∧ c.toNat < 128 := by
  have hall : ∀ b < 256, (['\'', '"'].all fun q => (quotedByte q b).all fun c =>
      decide (32 ≤ c.toNat ∧ c.toNat < 128)) = true := by
    decide +kernel
  have hquote : quote ∈ ['\'', '"'] := by rcases hq with rfl | rfl <;> decide
  obtain ⟨b, hb, hc⟩ := List.mem_flatMap.mp hc
  have hbyte := List.all_eq_true.mp (hall b (hbs b hb)) quote hquote
  exact of_decide_eq_true (List.all_eq_true.mp hbyte c hc)

theorem bytesValue?_quotedBytes {quote : Char} (hq : IsQuote quote) {bs : List Nat}
    (hbs : ∀ b ∈ bs, b < 256) :
    bytesValue? false (bs.flatMap (quotedByte quote)) = some bs := by
  have hascii : (bs.flatMap (quotedByte quote)).all (fun c => c.toNat < 128) = true := by
    rw [List.all_eq_true]
    exact fun c hc => decide_eq_true (visible_of_mem_quotedBytes hq hbs hc).2
  rw [bytesValue?, if_pos hascii]
  exact unescape_flatMap byteEscape? _ fun b hb => unescape_quotedByte hq (hbs b hb)

/-! ## Literals between triple quotes -/

theorem occurs_append {mark : List Char} (before : List Char) {cs : List Char}
    (h : occurs mark (before ++ cs) = false) : occurs mark cs = false := by
  induction before with
  | nil => exact h
  | cons c before ih =>
    rw [List.cons_append, occurs, Bool.or_eq_false_iff] at h
    exact ih h.2

theorem occurs_self_append (mark cs : List Char) : occurs mark (mark ++ cs) = true := by
  cases mark with
  | nil => cases cs <;> rfl
  | cons m mark =>
    have hprefix : (m :: mark).isPrefixOf (m :: mark ++ cs) = true :=
      List.isPrefixOf_iff_prefix.mpr (List.prefix_append _ _)
    rw [List.cons_append, occurs, ← List.cons_append, hprefix, Bool.true_or]

theorem getLast?_ne_of_append {before cs : List Char} {q : Char}
    (h : (before ++ cs).getLast? ≠ some q) : cs.getLast? ≠ some q := by
  intro hcs
  rw [List.getLast?_append, hcs] at h
  exact h rfl

/-- What stands as it is in open form with line breaks left in place. -/
def openPlain (p : Nat) : Bool := (!false && (p = 9 || p = 10)) || (p ≠ 92 && isPrintable p)

theorem openPlain_quote {quote : Char} (hq : IsQuote quote) : openPlain quote.toNat = true := by
  rcases hq with rfl | rfl <;> decide

theorem openBody_cons (c : Char) (cs : List Char) :
    openBody false (Points.ofChars (c :: cs)) =
      escapedUnless openPlain c.toNat ++ openBody false (Points.ofChars cs) := rfl

/-- A text in open form stays inside triple quotes that do not occur in it, unless a quote stands
last. The quotes just seen count as part of the text. -/
theorem inside_openBody {quote : Char} (hq : IsQuote quote) (cs : List Char) :
    ∀ run, run < 3 →
      occurs [quote, quote, quote]
        (List.replicate run quote ++ openBody false (Points.ofChars cs)) = false →
      (List.replicate run quote ++ openBody false (Points.ofChars cs)).getLast? ≠ some quote →
      Inside quote 3 run (openBody false (Points.ofChars cs)) := by
  induction cs with
  | nil =>
    intro run hrun _ hlast
    cases run with
    | zero => exact .nil
    | succ run =>
      refine absurd ?_ hlast
      rw [List.replicate_succ', List.append_assoc, List.getLast?_append]
      rfl
  | cons c cs ih =>
    intro run hrun hocc hlast
    have hrest (unit : List Char) (h : openBody false (Points.ofChars (c :: cs)) =
          unit ++ openBody false (Points.ofChars cs)) :
        Inside quote 3 0 (openBody false (Points.ofChars cs)) := by
      rw [h, ← List.append_assoc] at hocc hlast
      exact ih 0 (by decide) (occurs_append _ hocc) (getLast?_ne_of_append hlast)
    by_cases hc : c = quote
    · subst hc
      have hunit : openBody false (Points.ofChars (c :: cs)) =
          c :: openBody false (Points.ofChars cs) := by
        rw [openBody_cons, escapedUnless, if_pos (openPlain_quote hq), Char.ofNat_toNat]
        rfl
      have hmove : List.replicate run c ++ c :: openBody false (Points.ofChars cs) =
          List.replicate (run + 1) c ++ openBody false (Points.ofChars cs) := by
        rw [List.replicate_succ', List.append_assoc]
        rfl
      rw [hunit, hmove] at hocc hlast
      have hlt : run + 1 < 3 := by
        rcases Nat.lt_or_ge (run + 1) 3 with h | h
        · exact h
        · obtain rfl : run = 2 := by omega
          exact absurd (occurs_self_append [c, c, c] _) (Bool.eq_false_iff.mp hocc)
      rw [hunit]
      exact .quote hlt (ih (run + 1) hlt hocc hlast)
    · have hbody := hrest _ (openBody_cons c cs)
      rw [openBody_cons, escapedUnless]
      split
      · next hplain =>
        rw [Char.ofNat_toNat]
        refine .plain hc (fun he => ?_) (fun h => absurd h (by decide)) hbody
        subst he
        exact absurd hplain (by decide)
      · exact inside_pointEscape hq (toNat_le c) run hbody

theorem textValue?_openBody (cs : List Char) :
    textValue? false (openBody false (Points.ofChars cs)) = some (Points.ofChars cs) := by
  refine unescape_flatMap textEscape? (escapedUnless openPlain) fun p hp => ?_
  obtain ⟨c, -, rfl⟩ := List.mem_map.mp hp
  exact unescape_escapedUnless (by decide) (toNat_le c) fun _ => ⟨c, rfl⟩

/-- A literal is read up to the triple quotes behind a text that stays inside of them. -/
theorem literalFrom_triple {quote : Char} (hq : IsQuote quote) {body : List Char}
    (hin : Inside quote 3 0 body) (rest : List Char) :
    literalFrom quote (quote :: quote :: (body ++ (List.replicate 3 quote ++ rest))) =
      some (body, rest) := by
  have hbody := literalBody_of_inside hq.ne_backslash (by decide) hin rest
  have hdrop : (body ++ List.replicate 3 quote).dropLast.dropLast.dropLast = body := by
    have h : body ++ List.replicate 3 quote = body ++ [quote] ++ [quote] ++ [quote] := by
      simp [List.replicate]
    rw [h, List.dropLast_concat, List.dropLast_concat, List.dropLast_concat]
  rw [literalFrom, if_pos ⟨rfl, rfl⟩, hbody, Option.map_some]
  simp only [hdrop]

theorem isQuote_of_mem_tripleQuotes {q : Quote} (h : q ∈ tripleQuotes) :
    IsQuote q.mark ∧ q.text = List.replicate 3 q.mark := by
  rw [tripleQuotes, List.mem_cons, List.mem_singleton] at h
  rcases h with rfl | rfl
  · exact ⟨Or.inr rfl, rfl⟩
  · exact ⟨Or.inl rfl, rfl⟩

theorem preferApart_of_ne {last : Char} {qs : List Quote} (h : ∀ q ∈ qs, q.mark ≠ last) :
    preferApart last qs = qs := by
  have hkept : qs.filter (fun q => decide (q.mark ≠ last)) = qs :=
    List.filter_eq_self.mpr fun q hq => decide_eq_true (h q hq)
  have hnone : qs.filter (fun q => decide (q.mark = last)) = [] :=
    List.filter_eq_nil_iff.mpr fun q hq => by simpa using h q hq
  rw [preferApart, hkept, hnone, List.append_nil]

/-- When one of the triple quotes fits, the first that does is taken and the text stays open; when
none does, the text is escaped as in plain form. -/
theorem openLiteral_triple (ps : Points)
    (hlast : ∀ q, IsQuote q → (openBody false ps).getLast? ≠ some q) :
    (∃ q qs, q ∈ tripleQuotes ∧ occurs q.text (openBody false ps) = false ∧
      openLiteral tripleQuotes false ps = (openBody false ps, q :: qs)) ∨
    openLiteral tripleQuotes false ps = (quotedBody ps, [⟨plainQuote ps, true⟩]) := by
  have hall : (if (openBody false ps).contains '\n' then tripleQuotes.filter (·.triple)
      else tripleQuotes) = tripleQuotes := by split <;> rfl
  unfold openLiteral
  simp only [hall]
  split
  · next hnone =>
    right
    rcases isQuote_plainQuote ps with h | h <;> rw [h] <;> rfl
  · next q qs hfit =>
    left
    have hmem : ∀ r ∈ q :: qs, r ∈ tripleQuotes ∧ occurs r.text (openBody false ps) = false := by
      intro r hr
      rw [← hfit, List.mem_filter, Bool.not_eq_true'] at hr
      exact hr
    refine ⟨q, qs, (hmem q List.mem_cons_self).1, (hmem q List.mem_cons_self).2, ?_⟩
    rw [hfit]
    split
    · rfl
    · next last hl =>
      have hmark : ∀ r ∈ q :: qs, r.mark ≠ last := by
        rintro r hr rfl
        exact hlast _ (isQuote_of_mem_tripleQuotes (hmem r hr).1).1 hl
      rw [preferApart_of_ne hmark, if_neg]
      intro h
      exact hmark q List.mem_cons_self (Option.some.inj h)

/-! ## Characters that are never written -/

/-- The null character and the carriage return are only written as escapes. -/
def NeverWritten (c : Char) : Prop := c = '\x00' ∨ c = '\r'

instance : DecidablePred NeverWritten := fun _ => inferInstanceAs (Decidable (_ ∨ _))

section NeverWritten

variable {bare : Char}

theorem NeverWritten.hexDigitChar_ne (hbare : NeverWritten bare) {d : Nat} (hd : d < 16) :
    bare ≠ hexDigitChar d := by
  have hall : ∀ d < 16, '\x00' ≠ hexDigitChar d ∧ '\r' ≠ hexDigitChar d := by decide
  rcases hbare with rfl | rfl
  · exact (hall d hd).1
  · exact (hall d hd).2

theorem NeverWritten.ne_quote (hbare : NeverWritten bare) {quote : Char} (hq : IsQuote quote) :
    bare ≠ quote := by
  rcases hbare with rfl | rfl <;> rcases hq with rfl | rfl <;> decide

theorem NeverWritten.notMem_hexDigits (hbare : NeverWritten bare) (width n : Nat) :
    bare ∉ hexDigits width n := by
  intro h
  obtain ⟨d, hd, heq⟩ := mem_hexDigits h
  exact hbare.hexDigitChar_ne hd heq

theorem NeverWritten.notMem_pointEscape (hbare : NeverWritten bare) (p : Nat) :
    bare ∉ pointEscape p := by
  have hletter {letter : Char} (hl : letter ∈ ['\\', 't', 'n', 'r', 'x', 'u', 'U']) :
      bare ≠ letter := by
    rcases hbare with rfl | rfl <;> rintro rfl <;> revert hl <;> decide
  have hpair (letter : Char) (hl : letter ∈ ['\\', 't', 'n', 'r', 'x', 'u', 'U']) :
      bare ∉ ['\\', letter] := by
    simp only [List.mem_cons, List.not_mem_nil, or_false, not_or]
    exact ⟨hletter (by decide), hletter hl⟩
  have hdigits (letter : Char) (width : Nat)
      (hl : letter ∈ ['\\', 't', 'n', 'r', 'x', 'u', 'U']) :
      bare ∉ '\\' :: letter :: hexDigits width p := by
    simp only [List.mem_cons, not_or]
    exact ⟨hletter (by decide), hletter hl, hbare.notMem_hexDigits width p⟩
  unfold pointEscape
  repeat' split
  · exact hpair 't' (by decide)
  · exact hpair 'n' (by decide)
  · exact hpair 'r' (by decide)
  · exact hpair '\\' (by decide)
  · exact hdigits 'x' 2 (by decide)
  · exact hdigits 'u' 4 (by decide)
  · exact hdigits 'U' 8 (by decide)

theorem NeverWritten.notMem_escapedUnless (hbare : NeverWritten bare) {plain : Nat → Bool}
    (hplain : plain bare.toNat = false) {p : Nat}
    (hchar : plain p = true → ∃ c : Char, p = c.toNat) : bare ∉ escapedUnless plain p := by
  rw [escapedUnless]
  split
  · next h =>
    obtain ⟨c, rfl⟩ := hchar h
    rw [Char.ofNat_toNat, List.mem_singleton]
    rintro rfl
    exact absurd (hplain.symm.trans h) (by decide)
  · exact hbare.notMem_pointEscape p

theorem NeverWritten.notMem_quotedBody (hbare : NeverWritten bare) {ps : Points}
    (hps : ∀ p ∈ ps, p ≤ 0x10ffff) : bare ∉ quotedBody ps := by
  rw [quotedBody, List.mem_flatMap]
  rintro ⟨p, hp, hmem⟩
  rw [quotedPoint] at hmem
  split at hmem
  · rw [List.mem_cons, List.mem_singleton] at hmem
    rcases hmem with rfl | rfl
    · rcases hbare with h | h <;> cases h
    · exact hbare.ne_quote (isQuote_plainQuote ps) rfl
  · refine hbare.notMem_escapedUnless ?_ (fun hplain => ?_) hmem
    · rcases hbare with rfl | rfl <;> decide
    · rcases point_cases (hps p hp) with hchar | hhidden
      · exact hchar
      · exact absurd (Bool.and_eq_true_iff.mp hplain).2 (Bool.eq_false_iff.mp hhidden)

theorem NeverWritten.notMem_openBody (hbare : NeverWritten bare) (cs : List Char) :
    bare ∉ openBody false (Points.ofChars cs) := by
  rw [openBody, List.mem_flatMap]
  rintro ⟨p, hp, hmem⟩
  obtain ⟨c, -, rfl⟩ := List.mem_map.mp hp
  refine hbare.notMem_escapedUnless ?_ (fun _ => ⟨c, rfl⟩) hmem
  rcases hbare with rfl | rfl <;> decide

end NeverWritten

/-! ## Documentation -/

/-- Documentation stands between triple quotes, and the text between them shows its value. -/
theorem openQuoted_spec (cs : List Char)
    (hlast : ∀ q, IsQuote q → (openBody false (Points.ofChars cs)).getLast? ≠ some q) :
    ∃ quote body, IsQuote quote ∧
      openQuoted tripleQuotes (Points.ofChars cs) =
        List.replicate 3 quote ++ body ++ List.replicate 3 quote ∧
      Inside quote 3 0 body ∧ textValue? false body = some (Points.ofChars cs) ∧
      ∀ bare, NeverWritten bare → bare ∉ body := by
  rcases openLiteral_triple (Points.ofChars cs) hlast with ⟨q, qs, hq, hocc, heq⟩ | heq
  · obtain ⟨hmark, htext⟩ := isQuote_of_mem_tripleQuotes hq
    refine ⟨q.mark, _, hmark, ?_, ?_, textValue?_openBody cs,
      fun _ hbare => hbare.notMem_openBody cs⟩
    · rw [openQuoted, heq, ← htext]
      rfl
    · rw [htext] at hocc
      exact inside_openBody hmark cs 0 (by decide) hocc (hlast _ hmark)
  · have hq := isQuote_plainQuote (Points.ofChars cs)
    have hps : ∀ p ∈ Points.ofChars cs, p ≤ 0x10ffff := fun _ => le_of_mem_ofChars
    refine ⟨plainQuote (Points.ofChars cs), _, hq, ?_, inside_quotedBody hq 3 hps,
      textValue?_quotedBody hps, fun _ hbare => hbare.notMem_quotedBody hps⟩
    rw [openQuoted, heq]
    rfl

/-- Documentation ends with a full stop, which no quote can be taken for. -/
theorem documentation_spec (s : String) : ∃ quote body, IsQuote quote ∧
    openQuoted tripleQuotes (Points.ofString (s ++ ".")) =
      List.replicate 3 quote ++ body ++ List.replicate 3 quote ∧
    Inside quote 3 0 body ∧ textValue? false body = some (Points.ofString (s ++ ".")) ∧
    ∀ bare, NeverWritten bare → bare ∉ body := by
  have hpoints : Points.ofString (s ++ ".") = Points.ofChars (s.toList ++ ['.']) := by
    rw [Points.ofString, String.toList_append]
    rfl
  have hbody : openBody false (Points.ofChars (s.toList ++ ['.'])) =
      openBody false (Points.ofChars s.toList) ++ ['.'] := by
    rw [openBody, Points.ofChars, List.map_append, List.flatMap_append]
    rfl
  rw [hpoints]
  refine openQuoted_spec (s.toList ++ ['.']) ?_
  rw [hbody, List.getLast?_concat]
  rintro q (rfl | rfl) <;> decide

end LivePreview.Code
