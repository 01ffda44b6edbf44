import LivePreview.Proofs.Files
import LivePreview.Proofs.Lexemes
import LivePreview.Proofs.Uses
import LivePreview.Proofs.Walk

/-!
# Names in templates

The name of a component tag begins with an ASCII letter, and each of its segments is an identifier.
The letter is seen where the text is cut into lexemes, the segments where the tag is opened. The name
of a parameter is no reserved word and has no underscore at its front.
-/

namespace LivePreview.Template

/-! ## Tags as lexemes -/

/-- An opening tag has a letter at the front of its name. -/
def Lexeme.LetterFirst : Lexeme → Prop
  | .openTag name _ _ _ => ∃ c, name.head? = some c ∧ isLetter c = true
  | _ => True

theorem letterFirst_of_tagName? {cs name rest : List Char} (h : tagName? cs = some (name, rest)) :
    ∃ c, name.head? = some c ∧ isLetter c = true := by
  cases cs with
  | nil => cases h
  | cons c cs =>
    rw [tagName?] at h
    split at h
    · next hletter =>
      obtain ⟨rfl, -⟩ := Prod.mk.inj (Option.some.inj h)
      exact ⟨c, rfl, hletter⟩
    · cases h

section Cutting

variable {cs rest : List Char} {l : Lexeme}

theorem letterFirst_openTag (h : openTag? cs = some (l, rest)) : l.LetterFirst := by
  obtain ⟨inner, -, h⟩ := Option.bind_eq_some_iff.mp h
  obtain ⟨⟨name, afterName⟩, hname, h⟩ := Option.bind_eq_some_iff.mp h
  obtain ⟨⟨slash, behind⟩, -, h⟩ := Option.bind_eq_some_iff.mp h
  obtain ⟨rfl, -⟩ := Prod.mk.inj (Option.some.inj h)
  exact letterFirst_of_tagName? hname

theorem letterFirst_directive (h : directive? cs = some (l, rest)) : l.LetterFirst := by
  obtain ⟨line, -, h⟩ := Option.bind_eq_some_iff.mp h
  obtain ⟨⟨kind, behind⟩, -, h⟩ := Option.bind_eq_some_iff.mp h
  dsimp only at h
  split at h
  · obtain ⟨rfl, -⟩ := Prod.mk.inj (Option.some.inj h)
    trivial
  · obtain ⟨rfl, -⟩ := Prod.mk.inj (Option.some.inj h)
    trivial

theorem letterFirst_comment (h : comment? cs = some (l, rest)) : l.LetterFirst := by
  obtain ⟨inner, -, h⟩ := Option.bind_eq_some_iff.mp h
  obtain ⟨⟨body, behind⟩, -, h⟩ := Option.bind_eq_some_iff.mp h
  obtain ⟨rfl, -⟩ := Prod.mk.inj (Option.some.inj h)
  trivial

theorem letterFirst_output (h : output? cs = some (l, rest)) : l.LetterFirst := by
  obtain ⟨inner, -, h⟩ := Option.bind_eq_some_iff.mp h
  obtain ⟨⟨body, behind⟩, -, h⟩ := Option.bind_eq_some_iff.mp h
  obtain ⟨rfl, -⟩ := Prod.mk.inj (Option.some.inj h)
  trivial

theorem letterFirst_closeTag (h : closeTag? cs = some (l, rest)) : l.LetterFirst := by
  obtain ⟨inner, -, h⟩ := Option.bind_eq_some_iff.mp h
  obtain ⟨⟨name, afterName⟩, -, h⟩ := Option.bind_eq_some_iff.mp h
  obtain ⟨behind, -, h⟩ := Option.bind_eq_some_iff.mp h
  obtain ⟨rfl, -⟩ := Prod.mk.inj (Option.some.inj h)
  trivial

theorem letterFirst_lexeme {lineStart : Bool} (h : lexeme? lineStart cs = some (l, rest)) :
    l.LetterFirst := by
  rcases lexeme?_cases h with h | h | h | h | h
  · exact letterFirst_directive h
  · exact letterFirst_comment h
  · exact letterFirst_output h
  · exact letterFirst_closeTag h
  · exact letterFirst_openTag h

theorem letterFirst_lexemes (cs : List Char) : ∀ l ∈ lexemes cs, l.LetterFirst :=
  forall_mem_lexemes (fun _ _ => trivial) (fun _ _ _ _ h => letterFirst_lexeme h) cs

end Cutting

/-! ## Tags as nodes -/

/-- A name that a component tag can have. -/
structure TagName (name : String) : Prop where
  letter : ∃ c, name.toList.head? = some c ∧ isLetter c = true
  segments : ∀ s ∈ Module.dottedParts name, Text.isIdentifier s.toList = true

theorem tagName_of_isComponentName {tag : List Char} {c : Char} (hhead : tag.head? = some c)
    (hletter : isLetter c = true) (h : Reading.isComponentName tag = true) :
    TagName (String.ofList tag) := by
  refine ⟨⟨c, by rw [String.toList_ofList]; exact hhead, hletter⟩, fun s hs => ?_⟩
  rw [Module.dottedParts, String.toList_ofList] at hs
  obtain ⟨piece, hpiece, rfl⟩ := List.mem_map.mp hs
  rw [String.toList_ofList]
  exact List.all_eq_true.mp h piece hpiece

/-- The component tag that a walk meets. -/
def Visit.uses : Visit → List Use
  | .enter place name attributes _ =>
    if isComponentTag name then [⟨place, name, attributes⟩] else []
  | _ => []

mutual

theorem uses_node (n : Node) : n.uses = n.visits.flatMap Visit.uses := by
  cases n with
  | data place text => rfl
  | output place e => rfl
  | element place name attributes body closing =>
    rw [Node.uses, Node.visits, List.flatMap_cons, List.flatMap_append, uses_body body]
    exact congrArg (Visit.uses (.enter place name attributes closing) ++ ·)
      (List.append_nil _).symm

/-- The tags of a body are those that the walk over it meets. -/
theorem uses_body (ns : List Node) : bodyUses ns = (bodyVisits ns).flatMap Visit.uses := by
  cases ns with
  | nil => rfl
  | cons n ns => rw [bodyUses, bodyVisits, List.flatMap_append, uses_node n, uses_body ns]

end

/-- A component tag has a name that such a tag can have. -/
theorem tagName_of_effect {place : Position} {l : Lexeme} {e : Effect} (hl : l.LetterFirst)
    (h : l.effect place = .ok e) : ∀ u ∈ e.visits.flatMap Visit.uses, TagName u.name := by
  cases yields_of_effect h with
  | @openTag tag _ _ slash read _ hname =>
    obtain ⟨c, hhead, hletter⟩ := hl
    have hleave : (tagLeave (String.ofList tag)
        (tagClosing (String.ofList tag) slash)).flatMap Visit.uses = [] := by
      cases tagClosing (String.ofList tag) slash <;> rfl
    intro u hu
    rw [visits_tagEffect, List.flatMap_cons, hleave, List.append_nil, Visit.uses] at hu
    split at hu
    · next htag =>
      rw [List.mem_singleton.mp hu]
      exact tagName_of_isComponentName hhead hletter (hname htag)
    · exact absurd hu List.not_mem_nil
  | _ => exact fun u hu => absurd hu List.not_mem_nil

theorem usable_of_readParam {place : Position} {args : List Char} {p : Param}
    (h : readParam place args = .ok p) : isUnusableParam p.name = false := by
  obtain ⟨line, hint, default, -, husable, -, -, rfl⟩ := readParam_eq_ok_iff.mp h
  exact husable

/-- All names in a template that was read are fit for what they name. -/
theorem wellNamed_of_read {cs : List Char} {t : Template} (h : ofChars cs = .ok t) :
    (∀ p ∈ t.params, isUnusableParam p.name = false) ∧ ∀ u ∈ t.uses, TagName u.name := by
  constructor
  · obtain ⟨es, hes, hparams, -⟩ := declarations_of_read h
    intro p hp
    rw [hparams] at hp
    obtain ⟨e, he, hp⟩ := List.mem_flatMap.mp hp
    obtain ⟨l, -, here, heffect⟩ := exists_effect_of_mem hes e he
    cases yields_of_effect heffect with
    | param hread =>
      rw [List.mem_singleton.mp hp]
      exact usable_of_readParam hread
    | openTag _ _ =>
      rw [(declarations_tagEffect ..).1] at hp
      exact absurd hp List.not_mem_nil
    | _ => exact absurd hp List.not_mem_nil
  · obtain ⟨es, hes, hvisits⟩ := visits_of_read h
    intro u hu
    rw [uses, uses_body, hvisits, Visit.flatMap_foldl_join fun _ _ _ _ => rfl, List.flatMap_nil,
      List.nil_append, List.flatMap_assoc] at hu
    obtain ⟨e, he, hu⟩ := List.mem_flatMap.mp hu
    obtain ⟨l, hl, here, heffect⟩ := exists_effect_of_mem hes e he
    exact tagName_of_effect (letterFirst_lexemes cs l hl) heffect u hu

end LivePreview.Template
