import LivePreview.Template.Reading

/-!
# Reading in two ways

The declarations of a template are read as a part of the whole template or alone. Both go through
the same lexemes, and only the whole reading looks at markup. So what the whole reading accepts, the
reading of the declarations accepts, with the same parameters and modules; it may accept more.
-/

namespace LivePreview

/-- A sequence of two steps succeeds when both do. -/
theorem bind_eq_ok_iff {ε α β : Type} {x : Except ε α} {f : α → Except ε β} {b : β} :
    (x >>= f) = .ok b ↔ ∃ a, x = .ok a ∧ f a = .ok b := by
  cases x with
  | error e => simp [bind, Except.bind]
  | ok a => simp [bind, Except.bind]

/-- A sequence of two steps fails with the first one, or with the second one behind it. -/
theorem bind_eq_error_iff {ε α β : Type} {x : Except ε α} {f : α → Except ε β} {e : ε} :
    (x >>= f) = .error e ↔ x = .error e ∨ ∃ a, x = .ok a ∧ f a = .error e := by
  cases x with
  | error e => simp [bind, Except.bind]
  | ok a => simp [bind, Except.bind]

namespace Template

/-! ## Directive lines -/

/-- A parameter line is read where it can be split, its name can be that of a parameter, and its
clauses are expressions. -/
theorem readParam_eq_ok_iff {mark : Position} {args : List Char} {p : Param} :
    readParam mark args = .ok p ↔ ∃ line hint default, paramLine? args = some line ∧
      isUnusableParam (String.ofList line.name) = false ∧
      clauseExpression (mark.after ('@' :: DirectiveKind.param.word)) line.hint = .ok hint ∧
      clauseExpression (mark.after ('@' :: DirectiveKind.param.word)) line.default = .ok default ∧
      p = ⟨mark, String.ofList line.name, hint, default⟩ := by
  unfold readParam
  cases paramLine? args with
  | none => simp [fail]
  | some line =>
    dsimp only
    cases husable : isUnusableParam (String.ofList line.name) with
    | true =>
      refine iff_of_false nofun ?_
      rintro ⟨line, hint, default, hline, hname, -⟩
      cases hline
      rw [husable] at hname
      cases hname
    | false =>
      rw [if_neg Bool.false_ne_true]
      constructor
      · intro h
        obtain ⟨hint, hhint, h⟩ := bind_eq_ok_iff.mp h
        obtain ⟨default, hdefault, h⟩ := bind_eq_ok_iff.mp h
        cases h
        exact ⟨line, hint, default, rfl, husable, hhint, hdefault, rfl⟩
      · rintro ⟨line, hint, default, hline, -, hhint, hdefault, rfl⟩
        cases hline
        exact bind_eq_ok_iff.mpr ⟨hint, hhint, bind_eq_ok_iff.mpr ⟨default, hdefault, rfl⟩⟩

theorem place_of_readParam {mark : Position} {args : List Char} {p : Param}
    (h : readParam mark args = .ok p) : p.place = mark := by
  obtain ⟨line, hint, default, -, -, -, -, rfl⟩ := readParam_eq_ok_iff.mp h
  rfl

theorem place_of_readUsing {mark : Position} {args : List Char} {u : Using}
    (h : readUsing mark args = .ok u) : u.place = mark := by
  unfold readUsing at h
  split at h <;> cases h
  rfl

namespace Reading

/-! ## Runs -/

/-- What the step of every lexeme in a list keeps is kept by reading them all. -/
theorem readAll_keeps_of_mem {P : Reading → Prop}
    {step : Reading → Position → Lexeme → Checked Reading} {ls : List Lexeme}
    (hstep : ∀ r place l next, l ∈ ls → P r → step r place l = .ok next → P next) :
    ∀ place r last, P r → readAll step place r ls = .ok last → P last := by
  induction ls with
  | nil =>
    intro place r last hr h
    cases h
    exact hr
  | cons l ls ih =>
    intro place r last hr h
    obtain ⟨next, hnext, hlast⟩ := bind_eq_ok_iff.mp h
    refine ih (fun r place m next hm => hstep r place m next (List.mem_cons_of_mem l hm)) _ next last
      (hstep r place l next List.mem_cons_self hr hnext) hlast

/-- What every step keeps is kept by reading all lexemes. -/
theorem readAll_keeps {P : Reading → Prop} {step : Reading → Position → Lexeme → Checked Reading}
    (hstep : ∀ r place l next, P r → step r place l = .ok next → P next) (ls : List Lexeme) :
    ∀ place r last, P r → readAll step place r ls = .ok last → P last :=
  readAll_keeps_of_mem fun r place l next _ => hstep r place l next

/-- Where one way of reading follows every step of another, it follows the other to the end. -/
theorem readAll_follows {R : Reading → Reading → Prop}
    {step follow : Reading → Position → Lexeme → Checked Reading}
    (hstep : ∀ r s place l next, R r s → step r place l = .ok next →
      ∃ other, follow s place l = .ok other ∧ R next other) (ls : List Lexeme) :
    ∀ place r s last, R r s → readAll step place r ls = .ok last →
      ∃ other, readAll follow place s ls = .ok other ∧ R last other := by
  induction ls with
  | nil =>
    intro place r s last hr h
    cases h
    exact ⟨s, rfl, hr⟩
  | cons l ls ih =>
    intro place r s last hr h
    obtain ⟨next, hnext, hlast⟩ := bind_eq_ok_iff.mp h
    obtain ⟨other, hother, hnext⟩ := hstep r s place l next hr hnext
    obtain ⟨closing, hclosing, hlast⟩ := ih _ next other last hnext hlast
    exact ⟨closing, bind_eq_ok_iff.mpr ⟨other, hother, hclosing⟩, hlast⟩

/-! ## What markup leaves alone -/

/-- The readings have met the same declarations. -/
structure SameDeclarations (r s : Reading) : Prop where
  params : r.params = s.params
  usings : r.usings = s.usings

theorem SameDeclarations.refl (r : Reading) : SameDeclarations r r := ⟨rfl, rfl⟩

theorem SameDeclarations.trans {r s t : Reading} (h : SameDeclarations r s)
    (h' : SameDeclarations s t) : SameDeclarations r t :=
  ⟨h.params.trans h'.params, h.usings.trans h'.usings⟩

theorem declarations_add (r : Reading) (node : Node) : SameDeclarations (r.add node) r := by
  unfold add
  split
  · exact ⟨rfl, rfl⟩
  · exact ⟨rfl, rfl⟩

variable {r next : Reading} {place : Position}

theorem declarations_readText {cs : List Char} (h : r.readText place cs = .ok next) :
    SameDeclarations next r := by
  unfold readText at h
  split at h
  · cases h
  · cases h
    exact declarations_add r _

theorem declarations_openElement {tag : List Char} {attributes : List AttributeText}
    {slash : Bool} (h : r.openElement place tag attributes slash = .ok next) :
    SameDeclarations next r := by
  unfold openElement at h
  extract_lets name at h
  obtain ⟨read, -, h⟩ := bind_eq_ok_iff.mp h
  dsimp only at h
  split at h
  · cases h
  · split at h
    · cases h
      exact declarations_add r _
    · split at h
      · cases h
        exact declarations_add r _
      · cases h
        exact ⟨rfl, rfl⟩

theorem declarations_closeElement {tag : List Char} (h : r.closeElement place tag = .ok next) :
    SameDeclarations next r := by
  unfold closeElement at h
  extract_lets name at h
  split at h
  · cases h
  · split at h
    · cases h
      exact (declarations_add _ _).trans ⟨rfl, rfl⟩
    · cases h

/-- A step that accepts markup leaves the declarations as they were. -/
theorem declarations_read {l : Lexeme}
    (hmarkup : ∀ indent kind args ended, l ≠ .directive indent kind args ended)
    (h : r.read place l = .ok next) : SameDeclarations next r := by
  cases l with
  | text cs => exact declarations_readText h
  | directive indent kind args ended => exact absurd rfl (hmarkup indent kind args ended)
  | comment body =>
    cases h
    exact declarations_add r _
  | output body =>
    obtain ⟨e, -, h⟩ := bind_eq_ok_iff.mp h
    cases h
    exact declarations_add r _
  | closeTag name blanks => exact declarations_closeElement h
  | openTag name attributes blanks slash => exact declarations_openElement h

/-! ## Directives -/

/-- A directive is accepted or refused for what was declared before it, and for nothing else. -/
theorem readDirective_follows {r s next : Reading} {place : Position} {indent args : List Char}
    {kind : DirectiveKind} (hsame : SameDeclarations r s)
    (h : r.readDirective place indent args kind = .ok next) :
    ∃ other, s.readDirective place indent args kind = .ok other ∧ SameDeclarations next other := by
  cases kind with
  | param =>
    obtain ⟨p, hp, h⟩ := bind_eq_ok_iff.mp h
    unfold addParam at h
    split at h
    · cases h
    · next hnew =>
      cases h
      rw [hsame.params] at hnew
      have hadd : s.addParam (place.after indent) p = .ok { s with params := s.params ++ [p] } :=
        if_neg hnew
      exact ⟨_, bind_eq_ok_iff.mpr ⟨p, hp, hadd⟩, by rw [hsame.params], hsame.usings⟩
  | module =>
    obtain ⟨u, hu, h⟩ := bind_eq_ok_iff.mp h
    cases h
    exact ⟨_, bind_eq_ok_iff.mpr ⟨u, hu, rfl⟩, hsame.params, by rw [hsame.usings]⟩

/-- Every step of the whole reading is followed by the reading of the declarations. -/
theorem readDeclaration_follows (r s : Reading) (place : Position) (l : Lexeme) (next : Reading)
    (hsame : SameDeclarations r s) (h : r.read place l = .ok next) :
    ∃ other, s.readDeclaration place l = .ok other ∧ SameDeclarations next other := by
  cases l with
  | directive indent kind args ended => exact readDirective_follows hsame h
  | _ => exact ⟨s, rfl, (declarations_read (by simp) h).trans hsame⟩

end Reading

/-! ## Whole templates -/

/-- Where a template can be read, its declarations can be read alone, and are the same. -/
theorem declarationsOfChars_of_ofChars {cs : List Char} {t : Template} (h : ofChars cs = .ok t) :
    declarationsOfChars cs = .ok ⟨t.params, t.usings, []⟩ := by
  obtain ⟨r, hr, hfinish⟩ := bind_eq_ok_iff.mp h
  obtain ⟨s, hs, hsame⟩ := Reading.readAll_follows Reading.readDeclaration_follows _ _ _ _ _
    (.refl .empty) hr
  unfold Reading.finish at hfinish
  split at hfinish
  · cases hfinish
    refine bind_eq_ok_iff.mpr ⟨s, hs, ?_⟩
    rw [hsame.params, hsame.usings]
    rfl
  · cases hfinish

theorem declarationsOfText_of_ofText {source : String} {filename : Option String} {t : Template}
    (h : ofText source filename = .ok t) :
    declarationsOfText source filename = .ok ⟨t.params, t.usings, []⟩ := by
  unfold ofText at h
  cases hread : ofChars source.toList with
  | error objection =>
    rw [hread] at h
    cases h
  | ok u =>
    rw [hread] at h
    cases h
    rw [declarationsOfText, declarationsOfChars_of_ofChars hread]
    rfl

end Template

end LivePreview
