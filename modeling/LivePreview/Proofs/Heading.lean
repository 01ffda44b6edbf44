import LivePreview.Component.Shape
import LivePreview.Proofs.Lexemes
import LivePreview.Proofs.Reading

/-!
# Declarations at the head of a text

Directive lines at the head of a text are lexemes of their own, whatever follows them: no comment,
output or tag can begin before the line break that ends the last of them. The lexemes behind are
those of the rest alone. So a rest without directives never shows in the declarations, and the
declarations of any other rest are read as if it stood alone, only further down; but a parameter
that the head declares cannot be declared again.
-/

namespace LivePreview

namespace Template

open LivePreview.Text (behind? behind?_append isWord)
open LivePreview.Component (Shape)

/-- A directive line with the line break that ends it. -/
structure DirectiveLine where
  indent : List Char
  kind : DirectiveKind
  args : List Char
  indented : ∀ c ∈ indent, isIndent c = true
  /-- The word of the directive ends where the arguments begin. -/
  bounded : args.head?.any isWord = false
  unbroken : '\n' ∉ args

namespace DirectiveLine

def lexeme (l : DirectiveLine) : Lexeme := .directive l.indent l.kind l.args true

def chars (l : DirectiveLine) : List Char := l.lexeme.chars

end DirectiveLine

/-- The text of some lines. -/
def headText (lines : List DirectiveLine) : List Char := lines.flatMap DirectiveLine.chars

def Lexeme.isDirective : Lexeme → Bool
  | directive .. => true
  | _ => false

/-! ## The lexemes of a head -/

/-- Each word of a directive is found, as the other one does not begin so. -/
theorem directiveKind?_word (kind : DirectiveKind) {args : List Char}
    (hargs : args.head?.any isWord = false) :
    directiveKind? (kind.word ++ args) = some (kind, args) := by
  have hnot : ¬ args.head?.any isWord = true := by rw [hargs]; exact nofun
  cases kind with
  | param =>
    have hfound : behind? DirectiveKind.param.word (DirectiveKind.param.word ++ args) = some args :=
      behind?_append _ _
    simp only [directiveKind?, List.findSome?_cons, hfound]
    simp [hnot]
  | module =>
    have hother : behind? DirectiveKind.param.word (DirectiveKind.module.word ++ args) = none := rfl
    have hfound : behind? DirectiveKind.module.word (DirectiveKind.module.word ++ args) = some args :=
      behind?_append _ _
    simp only [directiveKind?, List.findSome?_cons, hother, hfound]
    simp [hnot]

theorem directive?_line (l : DirectiveLine) (rest : List Char) :
    directive? (l.chars ++ rest) = some (l.lexeme, rest) := by
  obtain ⟨indent, kind, args, hindent, hbounded, hunbroken⟩ := l
  have hchars : (DirectiveLine.mk indent kind args hindent hbounded hunbroken).chars ++ rest =
      indent ++ '@' :: (kind.word ++ (args ++ '\n' :: rest)) := by
    simp [DirectiveLine.chars, DirectiveLine.lexeme, Lexeme.chars]
  have hmark : isIndent '@' = false := by decide
  have htake : (indent ++ '@' :: (kind.word ++ (args ++ '\n' :: rest))).takeWhile isIndent =
      indent := by
    rw [List.takeWhile_append_of_pos hindent, List.takeWhile_cons_of_neg (by simp [hmark]),
      List.append_nil]
  have hdrop : (indent ++ '@' :: (kind.word ++ (args ++ '\n' :: rest))).dropWhile isIndent =
      '@' :: (kind.word ++ (args ++ '\n' :: rest)) := by
    rw [List.dropWhile_append_of_pos hindent, List.dropWhile_cons_of_neg (by simp [hmark])]
  have hargs : ∀ c ∈ args, decide (c ≠ '\n') = true := fun c hc =>
    decide_eq_true fun heq => hunbroken (heq ▸ hc)
  have hkind : directiveKind? (kind.word ++ (args ++ '\n' :: rest)) =
      some (kind, args ++ '\n' :: rest) := by
    refine directiveKind?_word kind ?_
    cases args with
    | nil => rfl
    | cons c cs => exact hbounded
  have hat : behind? ['@'] ('@' :: (kind.word ++ (args ++ '\n' :: rest))) =
      some (kind.word ++ (args ++ '\n' :: rest)) := behind?_append ['@'] _
  have hbefore : (args ++ '\n' :: rest).takeWhile (· ≠ '\n') = args := by
    rw [List.takeWhile_append_of_pos hargs]
    simp
  have hbehind : (args ++ '\n' :: rest).dropWhile (· ≠ '\n') = '\n' :: rest := by
    rw [List.dropWhile_append_of_pos hargs]
    simp
  rw [hchars]
  simp only [directive?, hdrop, hat, hkind, htake, hbefore, hbehind, Option.bind_eq_bind,
    Option.bind_some, DirectiveLine.lexeme]

/-- More rounds than characters change nothing. -/
theorem lexemesFrom_of_le : ∀ (n m : Nat) (lineStart : Bool) (cs : List Char), cs.length ≤ n →
    cs.length ≤ m → lexemesFrom n lineStart cs = lexemesFrom m lineStart cs := by
  intro n
  induction n with
  | zero =>
    intro m lineStart cs hn hm
    obtain rfl : cs = [] := List.length_eq_zero_iff.mp (Nat.le_zero.mp hn)
    simp only [lexemesFrom]
  | succ n ih =>
    intro m lineStart cs hn hm
    cases cs with
    | nil => simp only [lexemesFrom]
    | cons c cs =>
      obtain ⟨m, rfl⟩ : ∃ k, m = k + 1 := ⟨m - 1, by rw [List.length_cons] at hm; omega⟩
      rw [List.length_cons] at hn hm
      rw [lexemesFrom, lexemesFrom]
      split
      · next l rest hl =>
        have hrest := length_lt_of_lexeme? hl
        rw [List.length_cons] at hrest
        rw [ih m _ rest (by omega) (by omega)]
      · rw [ih m _ cs (by omega) (by omega)]

/-- A directive line is a lexeme, and those behind it are those of the rest alone. -/
theorem lexemes_line (l : DirectiveLine) (rest : List Char) :
    lexemes (l.chars ++ rest) = l.lexeme :: lexemes rest := by
  have hfound : lexeme? true (l.chars ++ rest) = some (l.lexeme, rest) := by
    rw [lexeme?, if_pos rfl, directive?_line]
    rfl
  have hshorter := length_lt_of_lexeme? hfound
  have hends : l.lexeme.endsLine = true := by
    rw [Lexeme.endsLine, DirectiveLine.lexeme, Lexeme.chars, if_pos rfl, List.getLast?_append]
    rfl
  rw [lexemes]
  generalize l.chars ++ rest = cs at hfound hshorter ⊢
  cases cs with
  | nil => exact absurd hshorter (Nat.not_lt_zero _)
  | cons c cs =>
    rw [List.length_cons] at hshorter ⊢
    rw [lexemesFrom, hfound]
    dsimp only
    rw [hends, lexemes, lexemesFrom_of_le cs.length rest.length true rest (by omega) (Nat.le_refl _)]

/-- The lexemes of a head and any rest are the lines of the head and the lexemes of the rest. -/
theorem lexemes_head (lines : List DirectiveLine) (rest : List Char) :
    lexemes (headText lines ++ rest) = lines.map DirectiveLine.lexeme ++ lexemes rest := by
  induction lines with
  | nil => rfl
  | cons l lines ih =>
    rw [headText, List.flatMap_cons, List.append_assoc, lexemes_line, ← headText, ih]
    rfl

/-- A head moves what is behind it down by its lines. -/
theorem after_head (lines : List DirectiveLine) (line : Nat) :
    Position.after ⟨line, 0⟩ (headText lines) = ⟨line + lines.length, 0⟩ := by
  induction lines generalizing line with
  | nil => rfl
  | cons l lines ih =>
    have hstay : ∀ (cs : List Char) (p : Position), '\n' ∉ cs → (p.after cs).line = p.line := by
      intro cs
      induction cs with
      | nil => exact fun _ _ => rfl
      | cons c cs ih =>
        intro p hcs
        rw [List.mem_cons, not_or] at hcs
        have hstep : (p.step c).line = p.line := by rw [Position.step, if_neg (Ne.symm hcs.1)]
        exact (ih (p.step c) hcs.2).trans hstep
    have hindent : '\n' ∉ l.indent := fun h => absurd (l.indented _ h) (by decide)
    have hword : '\n' ∉ l.kind.word := by cases l.kind <;> decide
    have hchars : l.chars = (l.indent ++ '@' :: (l.kind.word ++ l.args)) ++ ['\n'] := by
      simp [DirectiveLine.chars, DirectiveLine.lexeme, Lexeme.chars]
    have hfront : '\n' ∉ l.indent ++ '@' :: (l.kind.word ++ l.args) := by
      simp [hindent, hword, l.unbroken]
    rw [headText, List.flatMap_cons, Position.after_append, hchars, Position.after_append]
    generalize hplace : Position.after ⟨line, 0⟩ (l.indent ++ '@' :: (l.kind.word ++ l.args)) = place
    have hline : place.line = line := by
      rw [← hplace]
      exact hstay _ _ hfront
    have hbreak : place.after ['\n'] = ⟨line + 1, 0⟩ := by
      rw [← hline]
      rfl
    rw [hbreak, ← headText, ih, List.length_cons, Nat.add_assoc, Nat.add_comm 1]

/-! ## Reading further down -/

def Position.down (k : Nat) (p : Position) : Position := ⟨p.line + k, p.column⟩

def Objection.down (k : Nat) : Objection → Objection
  | .problem place what => .problem (place.down k) what
  | .nullInExpression => .nullInExpression

def Param.down (k : Nat) (p : Param) : Param := { p with place := p.place.down k }

def Using.down (k : Nat) (u : Using) : Using := { u with place := u.place.down k }

/-- What is read of a text that stands `k` lines further down; `move` does the same to a result. -/
def Checked.down {α : Type} (k : Nat) (move : α → α) : Checked α → Checked α
  | .ok a => .ok (move a)
  | .error o => .error (o.down k)

section Down

variable (k : Nat)

theorem Position.after_down (p : Position) (cs : List Char) :
    (p.down k).after cs = (p.after cs).down k := by
  induction cs generalizing p with
  | nil => rfl
  | cons c cs ih =>
    have hstep : (p.down k).step c = (p.step c).down k := by
      by_cases hc : c = '\n'
      · rw [Position.step, Position.step, if_pos hc, if_pos hc, Position.down, Position.down,
          Nat.add_right_comm]
      · rw [Position.step, Position.step, if_neg hc, if_neg hc]
        rfl
    exact (congrArg (Position.after · cs) hstep).trans (ih (p.step c))

theorem fail_down {α : Type} (move : α → α) (place : Position) (what : Problem) :
    fail (place.down k) what = Checked.down k move (fail place what) := rfl

theorem expressionAt_down (place : Position) (text : List Char) :
    expressionAt (place.down k) text = Checked.down k id (expressionAt place text) := by
  unfold expressionAt
  extract_lets source
  split
  · rfl
  · split <;> rfl

theorem clauseExpression_down (place : Position) (clause? : Option Clause) :
    clauseExpression (place.down k) clause? =
      Checked.down k id (clauseExpression place clause?) := by
  cases clause? with
  | none => rfl
  | some c =>
    have hstart : c.start (place.down k) = (c.start place).down k := Position.after_down ..
    rw [clauseExpression, clauseExpression, hstart, expressionAt_down]
    cases expressionAt (c.start place) c.text <;> rfl

theorem readParam_down (place : Position) (args : List Char) :
    readParam (place.down k) args = Checked.down k (Param.down k) (readParam place args) := by
  unfold readParam
  cases paramLine? args with
  | none => rfl
  | some line =>
    dsimp only
    split
    · rfl
    · rw [Position.after_down, clauseExpression_down, clauseExpression_down]
      cases clauseExpression (place.after ('@' :: DirectiveKind.param.word)) line.hint with
      | error o => rfl
      | ok hint =>
        cases clauseExpression (place.after ('@' :: DirectiveKind.param.word)) line.default <;> rfl

theorem readUsing_down (place : Position) (args : List Char) :
    readUsing (place.down k) args = Checked.down k (Using.down k) (readUsing place args) := by
  unfold readUsing
  split <;> rfl

end Down

namespace Reading

/-- The declarations of `r` and, `k` lines further down, those of `s`. -/
def behind (k : Nat) (r s : Reading) : Reading :=
  { r with
    params := r.params ++ s.params.map (Param.down k)
    usings := r.usings ++ s.usings.map (Using.down k) }

/-- Whether a parameter of this name is declared. -/
def declares (r : Reading) (p : Param) : Bool := r.params.any (·.name = p.name)

/-- The objection to a parameter that was declared before. -/
def repeated {α : Type} (p : Param) : Checked α :=
  fail (p.place.after ['@']) (.duplicateParameter p.name)

/-- The parameter that a lexeme declares. -/
def paramOf? (place : Position) : Lexeme → Option Param
  | .directive indent .param args _ => (readParam (place.after indent) args).toOption
  | _ => none

variable {k : Nat} {r s : Reading} {place : Position} {l : Lexeme}

theorem behind_empty (k : Nat) (r : Reading) : behind k r .empty = r := by
  simp [behind, empty]

/-- A parameter that stands at a mark is objected to there when its name is taken. -/
theorem addParam_eq (r : Reading) (p : Param) : r.addParam p.place p =
    if r.declares p then repeated p else .ok { r with params := r.params ++ [p] } := rfl

theorem declares_behind (p : Param) :
    (behind k r s).declares (p.down k) = (r.declares p || s.declares p) := by
  rw [declares, behind, List.any_append, List.any_map]
  rfl

theorem repeated_down {α : Type} (move : α → α) (p : Param) :
    repeated (p.down k) = Checked.down k move (repeated p) := by
  rw [repeated, repeated, ← fail_down, ← Position.after_down]
  rfl

/-- What a step over a parameter line comes to, once the line is read. -/
theorem readDeclaration_param {indent args : List Char} {ended : Bool} {p : Param}
    (h : readParam (place.after indent) args = .ok p) (r : Reading) :
    r.readDeclaration place (.directive indent .param args ended) =
      if r.declares p then repeated p else .ok { r with params := r.params ++ [p] } := by
  rw [← addParam_eq, place_of_readParam h, readDeclaration, readDirective, h]
  rfl

theorem fresh_or_declares (r : Reading) (place : Position) (l : Lexeme) :
    (∀ p, paramOf? place l = some p → r.declares p = false) ∨
      ∃ p, paramOf? place l = some p ∧ r.declares p = true := by
  cases hparam : paramOf? place l with
  | none => exact .inl nofun
  | some p =>
    cases hdeclares : r.declares p with
    | false =>
      refine .inl fun q hq => ?_
      cases hq
      exact hdeclares
    | true => exact .inr ⟨p, rfl, hdeclares⟩

/-- A step over a lexeme that declares no parameter of `r` is one of `s`, further down. -/
theorem readDeclaration_behind (h : ∀ p, paramOf? place l = some p → r.declares p = false) :
    (behind k r s).readDeclaration (place.down k) l =
      Checked.down k (behind k r) (s.readDeclaration place l) := by
  cases l with
  | directive indent kind args ended =>
    have hmark : (place.down k).after indent = (place.after indent).down k :=
      Position.after_down k place indent
    cases kind with
    | param =>
      cases hparam : readParam (place.after indent) args with
      | error o =>
        simp only [readDeclaration, readDirective, hmark, readParam_down, hparam]
        rfl
      | ok p =>
        have hdown : readParam ((place.down k).after indent) args = .ok (p.down k) := by
          rw [hmark, readParam_down, hparam]
          rfl
        have hfresh : r.declares p = false := h p (by rw [paramOf?, hparam]; rfl)
        rw [readDeclaration_param hdown, readDeclaration_param hparam, declares_behind, hfresh,
          Bool.false_or]
        split
        · exact repeated_down _ p
        · simp [Checked.down, behind]
    | module =>
      simp only [readDeclaration, readDirective, hmark, readUsing_down]
      cases readUsing (place.after indent) args with
      | error o => rfl
      | ok u => simp [Checked.down, behind, bind, Except.bind, pure, Except.pure]
  | _ => rfl

/-- A step over a lexeme that declares a parameter of `r` again is refused. -/
theorem readDeclaration_behind_of_declares {p : Param} (hp : paramOf? place l = some p)
    (hr : r.declares p = true) :
    (behind k r s).readDeclaration (place.down k) l = repeated (p.down k) := by
  unfold paramOf? at hp
  split at hp
  · next indent args ended =>
    cases hparam : readParam (place.after indent) args with
    | error o =>
      rw [hparam] at hp
      cases hp
    | ok q =>
      rw [hparam] at hp
      cases hp
      have hdown : readParam ((place.down k).after indent) args = .ok (p.down k) := by
        rw [Position.after_down, readParam_down, hparam]
        rfl
      rw [readDeclaration_param hdown, declares_behind, hr, Bool.true_or, if_pos rfl]
  · cases hp

/-- A step adds the parameter that its lexeme declares. -/
theorem params_readDeclaration {next : Reading} (h : s.readDeclaration place l = .ok next) :
    next.params = s.params ++ (paramOf? place l).toList := by
  cases l with
  | directive indent kind args ended =>
    cases kind with
    | param =>
      obtain ⟨p, hparam, hadd⟩ := bind_eq_ok_iff.mp h
      have hnext : s.readDeclaration place (.directive indent .param args ended) = _ :=
        readDeclaration_param hparam s
      rw [h] at hnext
      split at hnext
      · cases hnext
      · cases hnext
        rw [paramOf?, hparam]
        rfl
    | module =>
      obtain ⟨u, -, hadd⟩ := bind_eq_ok_iff.mp h
      cases hadd
      exact (List.append_nil _).symm
  | _ =>
    cases h
    exact (List.append_nil _).symm

/-! ## All lexemes of the rest -/

/-- What reading further down comes to when the parameters `added` were read there. -/
def behindAll (k : Nat) (r : Reading) (added : List Param) (last : Reading) : Checked Reading :=
  match added.find? r.declares with
  | some p => repeated (p.down k)
  | none => .ok (behind k r last)

theorem readAll_behind_ok (ls : List Lexeme) : ∀ (place : Position) (s last : Reading),
    readAll readDeclaration place s ls = .ok last →
    ∃ added, last.params = s.params ++ added ∧
      readAll readDeclaration (place.down k) (behind k r s) ls = behindAll k r added last := by
  induction ls with
  | nil =>
    intro place s last h
    cases h
    exact ⟨[], (List.append_nil _).symm, rfl⟩
  | cons l ls ih =>
    intro place s last h
    obtain ⟨next, hnext, hlast⟩ := bind_eq_ok_iff.mp h
    obtain ⟨added, hadded, hrest⟩ := ih _ next last hlast
    refine ⟨(paramOf? place l).toList ++ added, ?_, ?_⟩
    · rw [hadded, params_readDeclaration hnext, List.append_assoc]
    · rcases fresh_or_declares r place l with hfresh | ⟨p, hparam, hdeclares⟩
      · have hsame : behindAll k r ((paramOf? place l).toList ++ added) last =
            behindAll k r added last := by
          cases hparam : paramOf? place l with
          | none => rfl
          | some p =>
            rw [behindAll, behindAll, Option.toList_some, List.singleton_append,
              List.find?_cons_of_neg (by simp [hfresh p hparam])]
        rw [hsame, ← hrest, readAll, readDeclaration_behind hfresh, hnext]
        simp only [Checked.down, Position.after_down]
        rfl
      · rw [readAll, readDeclaration_behind_of_declares hparam hdeclares, behindAll, hparam,
          Option.toList_some, List.singleton_append, List.find?_cons_of_pos hdeclares]
        rfl

theorem readAll_behind_error {o : Objection} (ls : List Lexeme) :
    ∀ (place : Position) (s : Reading), readAll readDeclaration place s ls = .error o →
    ∃ o', readAll readDeclaration (place.down k) (behind k r s) ls = .error o' := by
  induction ls with
  | nil =>
    intro place s h
    cases h
  | cons l ls ih =>
    intro place s h
    rcases fresh_or_declares r place l with hfresh | ⟨p, hparam, hdeclares⟩
    · rw [readAll, readDeclaration_behind hfresh]
      rcases bind_eq_error_iff.mp h with hfirst | ⟨next, hnext, hrest⟩
      · rw [hfirst]
        exact ⟨_, rfl⟩
      · obtain ⟨o', ho'⟩ := ih _ next hrest
        rw [hnext]
        rw [← Position.after_down] at ho'
        exact ⟨o', ho'⟩
    · rw [readAll, readDeclaration_behind_of_declares hparam hdeclares]
      exact ⟨_, rfl⟩

theorem readAll_append {step : Reading → Position → Lexeme → Checked Reading}
    (ls ms : List Lexeme) : ∀ (place : Position) (r : Reading),
    readAll step place r (ls ++ ms) = readAll step place r ls >>= fun next =>
      readAll step (place.after (ls.flatMap Lexeme.chars)) next ms := by
  induction ls with
  | nil => exact fun _ _ => rfl
  | cons l ls ih =>
    intro place r
    rw [List.cons_append, readAll, readAll]
    cases step r place l with
    | error o => rfl
    | ok next =>
      rw [List.flatMap_cons, Position.after_append]
      exact ih (place.after l.chars) next

/-- Lexemes that are no directives are passed over. -/
theorem readAll_of_not_directive {ls : List Lexeme} (h : ∀ l ∈ ls, l.isDirective = false) :
    ∀ (place : Position) (r : Reading), readAll readDeclaration place r ls = .ok r := by
  induction ls with
  | nil => exact fun _ _ => rfl
  | cons l ls ih =>
    intro place r
    have hl : r.readDeclaration place l = .ok r := by
      have hnot := h l List.mem_cons_self
      cases l with
      | directive indent kind args ended => cases hnot
      | _ => rfl
    rw [readAll, hl]
    exact ih (fun m hm => h m (List.mem_cons_of_mem l hm)) _ r

end Reading

/-! ## Declarations behind a head -/

section Behind

open Reading

variable (lines : List DirectiveLine) {k : Nat}

/-- The declarations of two templates, those of the second one `k` lines further down. -/
def declarationsBehind (k : Nat) (t u : Template) : Template :=
  ⟨t.params ++ u.params.map (Param.down k), t.usings ++ u.usings.map (Using.down k), []⟩

/-- Declarations come from a reading of all lexemes. -/
theorem declarationsOfChars_eq_ok {cs : List Char} {t : Template} :
    declarationsOfChars cs = .ok t ↔ ∃ r, readAll readDeclaration .start .empty (lexemes cs) = .ok r ∧
      t = ⟨r.params, r.usings, []⟩ := by
  rw [declarationsOfChars, bind_eq_ok_iff]
  constructor
  · rintro ⟨r, hr, h⟩
    cases h
    exact ⟨r, hr, rfl⟩
  · rintro ⟨r, hr, rfl⟩
    exact ⟨r, hr, rfl⟩

/-- A text with a head is read by reading the head and then, further down, the rest. -/
theorem readAll_head (rest : List Char) :
    readAll readDeclaration .start .empty (lexemes (headText lines ++ rest)) =
      readAll readDeclaration .start .empty (lexemes (headText lines)) >>= fun r =>
        readAll readDeclaration (Position.start.down lines.length) r (lexemes rest) := by
  have hhead : lexemes (headText lines) = lines.map DirectiveLine.lexeme := by
    have hlexemes := lexemes_head lines []
    rwa [List.append_nil, show lexemes [] = [] from rfl, List.append_nil] at hlexemes
  have hplace : Position.start.after ((lines.map DirectiveLine.lexeme).flatMap Lexeme.chars) =
      Position.start.down lines.length := by
    rw [List.flatMap_map]
    exact after_head lines 1
  rw [lexemes_head, readAll_append, hhead, hplace]

/-- A rest without directives does not show. -/
theorem declarations_of_undirected {rest : List Char}
    (h : ∀ l ∈ lexemes rest, l.isDirective = false) :
    declarationsOfChars (headText lines ++ rest) = declarationsOfChars (headText lines) := by
  rw [declarationsOfChars, declarationsOfChars, readAll_head]
  cases readAll readDeclaration .start .empty (lexemes (headText lines)) with
  | error o => rfl
  | ok r =>
    change (readAll readDeclaration _ r (lexemes rest) >>= _) = _
    rw [readAll_of_not_directive h]

/-- What fails in the head fails with any rest, and what fails in the rest fails behind any head. -/
theorem declarations_head_error {rest : List Char} {o : Objection}
    (h : declarationsOfChars (headText lines) = .error o) :
    declarationsOfChars (headText lines ++ rest) = .error o := by
  rw [declarationsOfChars, bind_eq_error_iff] at h
  rcases h with h | ⟨r, -, h⟩
  · rw [declarationsOfChars, readAll_head, h]
    rfl
  · cases h

theorem declarations_rest_error {rest : List Char} {o : Objection}
    (h : declarationsOfChars rest = .error o) :
    ∃ o', declarationsOfChars (headText lines ++ rest) = .error o' := by
  rw [declarationsOfChars, bind_eq_error_iff] at h
  rcases h with h | ⟨r, -, h⟩
  · rw [declarationsOfChars, readAll_head]
    cases readAll readDeclaration .start .empty (lexemes (headText lines)) with
    | error o => exact ⟨o, rfl⟩
    | ok r =>
      obtain ⟨o', ho'⟩ := readAll_behind_error (k := lines.length) (r := r) _ _ _ h
      rw [behind_empty] at ho'
      refine ⟨o', ?_⟩
      change (readAll readDeclaration _ r (lexemes rest) >>= _) = _
      rw [ho']
      rfl
  · cases h

/-- Behind a head that declares nothing of it, a rest is read as if it stood alone, further down; its
first parameter that the head declares is objected to. -/
theorem declarations_behind {rest : List Char} {t u : Template}
    (ht : declarationsOfChars (headText lines) = .ok t) (hu : declarationsOfChars rest = .ok u) :
    declarationsOfChars (headText lines ++ rest) =
      match u.params.find? fun p => t.params.any (·.name = p.name) with
      | some p => repeated (p.down lines.length)
      | none => .ok (declarationsBehind lines.length t u) := by
  obtain ⟨r, hr, rfl⟩ := declarationsOfChars_eq_ok.mp ht
  obtain ⟨s, hs, rfl⟩ := declarationsOfChars_eq_ok.mp hu
  obtain ⟨added, hadded, hrest⟩ := readAll_behind_ok (k := lines.length) (r := r) _ _ _ _ hs
  rw [behind_empty] at hrest
  have hparams : s.params = added := hadded
  rw [declarationsOfChars, readAll_head, hr]
  change (readAll readDeclaration _ r (lexemes rest) >>= _) = _
  rw [hrest, behindAll, hparams]
  change _ = match added.find? r.declares with
    | some p => repeated (p.down lines.length)
    | none => .ok (declarationsBehind lines.length ⟨r.params, r.usings, []⟩ ⟨added, s.usings, []⟩)
  cases added.find? r.declares with
  | some p => rfl
  | none => rw [declarationsBehind, ← hparams]; rfl

/-- Directive lines at the head of a text are read whatever follows them. Rests without directives
all give the same shape or failure. Behind the head any rest is read as if it stood alone, only
further down: both have to be readable, and no parameter of the head may be declared again, which is
objected to where it is. -/
theorem declarations_at_head (rest : List Char) :
    (∀ (path : String) (b₁ b₂ : List Char), (∀ l ∈ lexemes b₁, l.isDirective = false) →
      (∀ l ∈ lexemes b₂, l.isDirective = false) →
      Shape.extract path (String.ofList (headText lines ++ b₁)) =
        Shape.extract path (String.ofList (headText lines ++ b₂))) ∧
    (∀ v, declarationsOfChars (headText lines ++ rest) = .ok v ↔
      ∃ t u, declarationsOfChars (headText lines) = .ok t ∧ declarationsOfChars rest = .ok u ∧
        (∀ p ∈ u.params, ∀ q ∈ t.params, q.name ≠ p.name) ∧
        v = declarationsBehind lines.length t u) ∧
    (∀ o, declarationsOfChars (headText lines) = .error o →
      declarationsOfChars (headText lines ++ rest) = .error o) ∧
    ∀ t u p, declarationsOfChars (headText lines) = .ok t → declarationsOfChars rest = .ok u →
      u.params.find? (fun p => t.params.any (·.name = p.name)) = some p →
      declarationsOfChars (headText lines ++ rest) =
        fail ((p.place.down lines.length).after ['@']) (.duplicateParameter p.name) := by
  refine ⟨fun path b₁ b₂ h₁ h₂ => ?_, fun v => ⟨fun hv => ?_, ?_⟩,
    fun o ho => declarations_head_error lines ho, fun t u p ht hu hp => ?_⟩
  · rw [Shape.extract, Shape.extract, String.toList_ofList, String.toList_ofList,
      declarations_of_undirected lines h₁, declarations_of_undirected lines h₂]
  · cases ht : declarationsOfChars (headText lines) with
    | error o =>
      rw [declarations_head_error lines ht] at hv
      cases hv
    | ok t =>
      cases hu : declarationsOfChars rest with
      | error o =>
        obtain ⟨o', ho'⟩ := declarations_rest_error lines hu
        rw [ho'] at hv
        cases hv
      | ok u =>
        rw [declarations_behind lines ht hu] at hv
        split at hv
        · cases hv
        · next hnone =>
          cases hv
          refine ⟨t, u, rfl, rfl, fun p hp q hq hname => ?_, rfl⟩
          refine List.find?_eq_none.mp hnone p hp (List.any_eq_true.mpr ⟨q, hq, ?_⟩)
          exact decide_eq_true hname
  · rintro ⟨t, u, ht, hu, hapart, rfl⟩
    have hnone : u.params.find? (fun p => t.params.any (·.name = p.name)) = none := by
      rw [List.find?_eq_none]
      intro p hp hany
      obtain ⟨q, hq, hname⟩ := List.any_eq_true.mp hany
      exact hapart p hp q hq (of_decide_eq_true hname)
    rw [declarations_behind lines ht hu, hnone]
  · rw [declarations_behind lines ht hu, hp]
    rfl

end Behind

/-- A head and a rest can both be readable and not be so together: here both declare a parameter of
one name. -/
theorem declarations_repeated_at_head :
    ¬ ∀ (lines : List DirectiveLine) (rest : List Char) (t u : Template),
      declarationsOfChars (headText lines) = .ok t → declarationsOfChars rest = .ok u →
      declarationsOfChars (headText lines ++ rest) = .ok (declarationsBehind lines.length t u) := by
  intro hclaim
  let line : DirectiveLine := ⟨[], .param, [' ', 'x'], nofun, by decide, by decide⟩
  have hhead : (declarationsOfChars (headText [line])).toBool = true := by decide +kernel
  have hrest : (declarationsOfChars "@param x".toList).toBool = true := by decide +kernel
  have hboth : (declarationsOfChars (headText [line] ++ "@param x".toList)).toBool = false := by
    decide +kernel
  cases ht : declarationsOfChars (headText [line]) with
  | error o =>
    rw [ht] at hhead
    cases hhead
  | ok t =>
    cases hu : declarationsOfChars "@param x".toList with
    | error o =>
      rw [hu] at hrest
      cases hrest
    | ok u =>
      rw [hclaim [line] "@param x".toList t u ht hu] at hboth
      cases hboth

end Template

end LivePreview
