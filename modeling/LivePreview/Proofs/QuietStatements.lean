import LivePreview.Code.Outline
import LivePreview.Proofs.Quiet

/-!
# What statements take besides imports

All that stands in a statement apart from its blocks is quiet, and so is a statement that neither
imports nor has blocks. Patterns are quiet by induction on their depth.
-/

namespace LivePreview.Code

open Reader Outline

/-! ## Parts of statements -/

section Parts

variable {α : Type}

theorem quiet_commaList {item : Reader α} (hitem : Quiet item) (rounds : Nat) :
    Quiet (commaList rounds item) :=
  have hnext : Quiet (do if ← acceptSymbol "," then return some (← item) else return none) :=
    (quiet_acceptSymbol _).bind fun _ => .ite (hitem.bind fun _ => quiet_pure _) (quiet_pure _)
  hitem.bind fun _ => (hnext.gather _).bind fun _ => quiet_pure _

theorem quiet_dottedName (rounds : Nat) : Quiet (dottedName rounds) :=
  have hnext : Quiet (do if ← acceptSymbol "." then return some (← name) else return none) :=
    (quiet_acceptSymbol _).bind fun _ => .ite (quiet_name.bind fun _ => quiet_pure _) (quiet_pure _)
  quiet_name.bind fun _ => (hnext.gather _).bind fun _ => quiet_pure _

theorem quiet_otherName : Quiet otherName :=
  (quiet_acceptKeyword (by decide)).bind fun _ => .ite quiet_name.discard (quiet_pure _)

theorem quiet_importNames (rounds : Nat) : Quiet (importNames rounds) :=
  have hmodule : Quiet (do
      let m ← dottedName rounds
      otherName
      return m) :=
    (quiet_dottedName _).bind fun _ => quiet_otherName.bind fun _ => quiet_pure _
  (quiet_commaList hmodule _).bind fun _ => quiet_pure _

theorem quiet_importedItem : Quiet importedItem :=
  quiet_name.discard.bind fun _ => quiet_otherName

theorem quiet_importTargets (rounds : Nat) : Quiet (importTargets rounds) :=
  (quiet_acceptSymbol _).bind fun _ => .ite (quiet_pure _)
    ((quiet_acceptSymbol _).bind fun _ => .ite
      (((quiet_isSymbolNext _).sequence quiet_importedItem _).bind fun _ =>
        (quiet_require _).bind fun _ => quiet_expectSymbol _)
      (quiet_commaList quiet_importedItem _).discard)

theorem quiet_isStatementEnd : Quiet isStatementEnd :=
  (quiet_isSymbolNext _).bind fun _ => (quiet_isNext _).bind fun _ => quiet_pure _

variable {w : Within} (hw : w.Quiet)

include hw

theorem quiet_assigned : Quiet (assigned w) :=
  (quiet_isKeywordNext _).bind fun _ => .ite (quiet_yield hw) (quiet_items hw)

theorem quiet_assignments (e : Expr) : Quiet (assignments w e) :=
  (quiet_acceptSymbol _).bind fun _ => .ite
    ((quiet_require _).bind fun _ => (quiet_assigned hw).bind fun _ => quiet_pure _) (quiet_pure _)

theorem quiet_expressionStatement : Quiet (expressionStatement w) := by
  refine (quiet_items hw).bind fun e => (quiet_acceptSymbol _).bind fun _ => .ite ?_ ?_
  · exact (quiet_require _).bind fun _ => (quiet_expression hw).discard.bind fun _ =>
      (quiet_acceptSymbol _).bind fun _ => .ite (quiet_assigned hw).discard (quiet_pure _)
  · refine quiet_peek_bind fun found => ?_
    split
    · next s =>
      split
      · exact quietAt_skip_bind (.symbol s) nofun
          ((quiet_require _).bind fun _ => (quiet_assigned hw).discard)
      · exact (Quiet.extend (quiet_assignments hw) _ _).discard.at _
    · exact (quiet_pure _).at _

theorem quiet_deletion : Quiet (deletion w) :=
  have htarget : Quiet (do
      let e ← w.primary
      require (isDeletable e)) :=
    (quiet_primary hw).bind fun _ => quiet_require _
  (quiet_isStatementEnd.sequence htarget _).bind fun _ => quiet_require _

theorem quiet_raised : Quiet (raised w) :=
  quiet_isStatementEnd.bind fun _ => .ite (quiet_pure _)
    ((quiet_expression hw).bind fun _ => (quiet_acceptKeyword (by decide)).bind fun _ =>
      .ite ((quiet_expression hw).discard.bind fun _ => quiet_pure _) (quiet_pure _))

theorem quiet_asserted : Quiet (asserted w) :=
  (quiet_expression hw).discard.bind fun _ => (quiet_acceptSymbol _).bind fun _ =>
    .ite (quiet_expression hw).discard (quiet_pure _)

theorem quiet_plain : Quiet (plain w) := by
  have hnames : Quiet (discard (commaList w.bound name)) := (quiet_commaList quiet_name _).discard
  unfold plain
  refine (quiet_acceptKeyword (by decide)).bind fun _ => .ite ?_ ?_
  · exact quiet_isStatementEnd.bind fun _ => .ite (quiet_pure _) (quiet_items hw).discard
  refine (quiet_acceptKeyword (by decide)).bind fun _ => .ite (quiet_deletion hw) ?_
  refine (quiet_acceptKeyword (by decide)).bind fun _ => .ite (quiet_asserted hw) ?_
  refine (quiet_acceptKeyword (by decide)).bind fun _ => .ite (quiet_pure _) ?_
  refine (quiet_acceptKeyword (by decide)).bind fun _ => .ite (quiet_pure _) ?_
  refine (quiet_acceptKeyword (by decide)).bind fun _ => .ite (quiet_pure _) ?_
  refine (quiet_acceptKeyword (by decide)).bind fun _ => .ite hnames ?_
  refine (quiet_acceptKeyword (by decide)).bind fun _ => .ite hnames ?_
  exact (quiet_isKeywordNext _).bind fun _ =>
    .ite (quiet_yield hw).discard (quiet_expressionStatement hw)

theorem quiet_withItem : Quiet (withItem w) :=
  (quiet_expression hw).discard.bind fun _ => (quiet_acceptKeyword (by decide)).bind fun _ =>
    .ite (quiet_target hw).discard (quiet_pure _)

theorem quiet_withParenthesized : Quiet (withParenthesized w) :=
  (quiet_expectSymbol _).bind fun _ =>
    ((quiet_isSymbolNext _).sequence (quiet_withItem hw) _).bind fun _ =>
    (quiet_require _).bind fun _ => (quiet_expectSymbol _).bind fun _ =>
    (quiet_isSymbolNext _).bind fun _ => quiet_require _

theorem quiet_paramHint (collecting : Bool) : Quiet (paramHint w collecting) :=
  (quiet_acceptSymbol _).bind fun _ => .ite
    (.ite (quiet_starExpression hw).discard (quiet_expression hw).discard) (quiet_pure _)

theorem quiet_matchSubject : Quiet (matchSubject w) :=
  (quiet_starItem hw).bind fun _ => (quiet_acceptSymbol _).bind fun _ =>
    .ite ((quiet_isSymbolNext _).sequence (quiet_starItem hw) _).discard (quiet_require _)

end Parts

/-! ## Patterns -/

section Patterns

open Pattern

theorem quiet_acceptWord (s : String) : Quiet (acceptWord s) := quiet_accept nofun

theorem quiet_plainNumber : Quiet signedNumber.plainNumber :=
  quiet_peek_bind fun found => by
    split
    · next text => exact quietAt_skip_bind (.constant (.imaginary text)) nofun (quiet_pure _)
    · next value _ => exact quietAt_skip_bind (.constant value) nofun (quiet_pure _)
    · exact quiet_failure.at _

theorem quiet_signedNumber : Quiet signedNumber :=
  (quiet_acceptSymbol _).discard.bind fun _ => quiet_plainNumber

theorem quiet_number : Quiet number :=
  have hsign : Quiet acceptSign :=
    (quiet_acceptSymbol _).bind fun _ => .ite (quiet_pure _) (quiet_acceptSymbol _)
  quiet_signedNumber.bind fun _ => hsign.bind fun _ => .ite
    (quiet_plainNumber.bind fun _ => quiet_require _) (quiet_pure _)

theorem quiet_isNumberNext : Quiet isNumberNext :=
  quiet_peek.bind fun found => by
    split
    · exact quiet_pure _
    · exact quiet_pure _
    · exact quiet_pure _

theorem quiet_capture : Quiet capture :=
  quiet_peek.bind fun _ => (quiet_require _).bind fun _ => quiet_name.discard.bind fun _ =>
    (quiet_isSymbolNext _).bind fun _ => (quiet_isSymbolNext _).bind fun _ =>
    (quiet_isSymbolNext _).bind fun _ => quiet_require _

theorem quiet_starPattern : Quiet starPattern :=
  (quiet_acceptWord _).bind fun _ => .ite (quiet_pure _) quiet_capture

variable {w : Within} (hw : w.Quiet)

include hw

theorem quiet_literal : Quiet (literal w) := by
  refine quiet_isNumberNext.bind fun _ => .ite (quiet_number.bind fun _ => quiet_pure _) ?_
  refine quiet_peek_bind fun found => ?_
  split
  · exact ((quiet_atom hw).discard.bind fun _ => quiet_pure _).at _
  · next s =>
    split
    · next hs =>
      have hne : s ≠ "import" := by
        rintro rfl
        exact absurd hs (by decide)
      exact quietAt_skip_bind (.keyword s) (keyword_ne_importMark hne) (quiet_pure _)
    · exact (quiet_pure _).at _
  · exact (quiet_pure _).at _

omit hw

variable {p : Inner} (hp : p.within.Quiet) (hread : Quiet p.read)

include hread

theorem quiet_item : Quiet p.item :=
  (quiet_acceptSymbol _).bind fun _ => .ite (quiet_starPattern.bind fun _ => quiet_pure _)
    (hread.bind fun _ => quiet_pure _)

theorem quiet_classArguments : ∀ rounds seenName, Quiet (p.classArguments rounds seenName)
  | 0, _ => quiet_failure
  | rounds + 1, seenName => by
    have hvalue (byName : Bool) : Quiet (do
        p.read
        if ← acceptSymbol "," then p.classArguments rounds (seenName || byName)
        else expectSymbol ")") :=
      hread.bind fun _ => (quiet_acceptSymbol _).bind fun _ =>
        .ite (quiet_classArguments rounds _) (quiet_expectSymbol _)
    rw [Inner.classArguments]
    refine (quiet_acceptSymbol _).bind fun _ => .ite (quiet_pure _) ?_
    exact quiet_isNameBefore_bind (fun _ ts b rest h => hvalue true ts b rest h)
      ((quiet_require _).bind fun _ => hvalue false)

theorem quiet_namedPattern : Quiet p.named := by
  refine (quiet_isNameBefore _).bind fun _ => .ite ?value ?_
  case value =>
    exact (quiet_dottedName _).discard.bind fun _ => (quiet_acceptSymbol _).bind fun _ =>
      .ite (quiet_classArguments hread _ _) ((quiet_isSymbolNext _).bind fun _ => quiet_require _)
  exact quiet_isNameBefore_bind
    (fun _ ts b rest h => quiet_classArguments hread p.within.bound false ts b rest h)
    ((quiet_acceptWord _).bind fun _ => .ite (quiet_pure _) quiet_capture)

theorem quiet_sequenceUpTo (closing : String) (grouping : Bool) :
    Quiet (p.sequenceUpTo closing grouping) :=
  (quiet_acceptSymbol _).bind fun _ => .ite (quiet_pure _)
    ((quiet_item hread).bind fun _ => (quiet_acceptSymbol _).bind fun _ => .ite
      (((quiet_isSymbolNext _).sequence (quiet_item hread) _).discard.bind fun _ =>
        quiet_expectSymbol _)
      ((quiet_require _).bind fun _ => quiet_expectSymbol _))

include hp

theorem quiet_entry : Quiet p.entry := by
  have hvalue : Quiet (do
      expectSymbol ":"
      p.read) := (quiet_expectSymbol _).bind fun _ => hread
  refine (quiet_literal hp).bind fun _ => .ite hvalue ?_
  exact (quiet_isNameBefore _).bind fun _ => (quiet_require _).bind fun _ =>
    (quiet_dottedName _).discard.bind fun _ => hvalue

theorem quiet_entries : ∀ rounds, Quiet (p.entries rounds)
  | 0 => quiet_failure
  | rounds + 1 => by
    rw [Inner.entries]
    refine (quiet_acceptSymbol _).bind fun _ => .ite (quiet_pure _) ?_
    refine (quiet_acceptSymbol _).bind fun _ => .ite ?_ ?_
    · exact quiet_capture.bind fun _ => (quiet_acceptSymbol _).discard.bind fun _ =>
        quiet_expectSymbol _
    · exact (quiet_entry hp hread).bind fun _ => (quiet_acceptSymbol _).bind fun _ =>
        .ite (quiet_entries rounds) (quiet_expectSymbol _)

theorem quiet_closed : Quiet p.closed := by
  refine (quiet_literal hp).bind fun _ => .ite (quiet_pure _) ?_
  refine quiet_peek_bind fun found => ?_
  split
  · exact (quiet_namedPattern hread).at _
  · next s =>
    exact quietAt_skip_bind (.symbol s) nofun (.ite (quiet_sequenceUpTo hread _ _)
      (.ite (quiet_sequenceUpTo hread _ _) (.ite (quiet_entries hp hread _) quiet_failure)))
  · exact quiet_failure.at _

theorem quiet_patternStep : Quiet p.step := by
  have hnext : Quiet (do if ← acceptSymbol "|" then return some (← p.closed) else return none) :=
    (quiet_acceptSymbol _).bind fun _ =>
      .ite ((quiet_closed hp hread).bind fun _ => quiet_pure _) (quiet_pure _)
  exact (quiet_closed hp hread).bind fun _ => (hnext.gather _).discard.bind fun _ =>
    (quiet_acceptKeyword (by decide)).bind fun _ => .ite quiet_capture (quiet_pure _)

omit hp hread

include hw

theorem quiet_patternAt : ∀ depth, Quiet (Pattern.readAt w depth)
  | 0 => quiet_failure
  | depth + 1 => quiet_patternStep (p := ⟨w, Pattern.readAt w depth⟩) hw (quiet_patternAt depth)

theorem quiet_patterns : Quiet (patterns w) := by
  have hitem : Quiet (Inner.item ⟨w, Pattern.readAt w w.bound⟩) :=
    quiet_item (quiet_patternAt hw _)
  have hend : Quiet (do return (← isSymbolNext ":") || (← isKeywordNext "if")) :=
    (quiet_isSymbolNext _).bind fun _ => (quiet_isKeywordNext _).bind fun _ => quiet_pure _
  exact hitem.bind fun _ => (quiet_acceptSymbol _).bind fun _ =>
    .ite (hend.sequence hitem _).discard (quiet_require _)

end Patterns

end LivePreview.Code
