import LivePreview.Proofs.Lexemes
import LivePreview.Proofs.Walk
import Mathlib.Data.List.Chain

/-!
# Text of a body

The text of a body is what its source leaves when all directives, outputs and tags are taken out;
comments stay. Where two pieces of text come together they are one node, so that no text is empty
and none stands beside other text, at any depth.
-/

namespace LivePreview

namespace Template

/-! ## Text in normal form -/

/-- One of two neighbours is not text. -/
def Node.Apart (n m : Node) : Prop := n.isData = false ∨ m.isData = false

mutual

/-- No text in the node is empty or stands beside other text. -/
def Node.Neat : Node → Prop
  | .data _ text => text ≠ ""
  | .output _ _ => True
  | .element _ _ _ body _ => BodyNeat body

def BodyNeat : List Node → Prop
  | [] => True
  | n :: ns => n.Neat ∧ (∀ m ∈ ns.head?, n.Apart m) ∧ BodyNeat ns

end

namespace Visit

/-- What a visit shows of the text of a body. -/
def text : Visit → List Char
  | data _ text => text.toList
  | _ => []

/-- A visit to text meets some. -/
def Shown (v : Visit) : Prop := v.isData = true → v.text ≠ []

/-- No text that a walk meets is empty or follows other text. -/
structure Neat (vs : List Visit) : Prop where
  apart : vs.IsChain fun v w => v.isData = false ∨ w.isData = false
  shown : ∀ v ∈ vs, v.Shown

theorem neat_nil : Neat [] := ⟨.nil, fun _ hv => absurd hv List.not_mem_nil⟩

theorem Neat.left {vs ws : List Visit} (h : Neat (vs ++ ws)) : Neat vs :=
  ⟨h.apart.left_of_append, fun v hv => h.shown v (List.mem_append_left ws hv)⟩

theorem Neat.right {vs ws : List Visit} (h : Neat (vs ++ ws)) : Neat ws :=
  ⟨h.apart.right_of_append, fun v hv => h.shown v (List.mem_append_right vs hv)⟩

theorem Neat.join {vs : List Visit} (h : Neat vs) {v : Visit} (hv : v.Shown) :
    Neat (join vs v) := by
  rcases join_cases vs v with ⟨others, place, before, other, more, rfl, rfl, heq⟩ | ⟨heq, hlast⟩
  · -- The last text only grows, so that its neighbour is still none of text.
    rw [heq]
    constructor
    case apart =>
      have hchain := List.isChain_append.mp h.apart
      refine List.isChain_append.mpr ⟨hchain.1, .singleton _, fun w hw u hu => ?_⟩
      obtain rfl := Option.mem_some_iff.mp hu
      exact hchain.2.2 w hw (data place before) rfl
    case shown =>
      intro w hw
      rcases List.mem_append.mp hw with hw | hw
      · exact h.left.shown w hw
      · rw [List.mem_singleton.mp hw]
        intro _
        have hmore := hv rfl
        simp [text] at hmore ⊢
        exact fun _ => hmore
  · rw [heq]
    constructor
    case apart =>
      refine List.isChain_append.mpr ⟨h.apart, .singleton _, fun w hw u hu => ?_⟩
      obtain rfl := Option.mem_some_iff.mp hu
      exact hlast w hw
    case shown =>
      intro w hw
      rcases List.mem_append.mp hw with hw | hw
      · exact h.shown w hw
      · rw [List.mem_singleton.mp hw]
        exact hv

theorem neat_foldl_join {vs : List Visit} (hvs : ∀ v ∈ vs, v.Shown) :
    ∀ {ws : List Visit}, Neat ws → Neat (vs.foldl Visit.join ws) := by
  induction vs with
  | nil => exact fun h => h
  | cons v vs ih =>
    intro ws h
    obtain ⟨hv, hvs⟩ := List.forall_mem_cons.mp hvs
    exact ih hvs (h.join hv)

end Visit

mutual

theorem neat_of_visits_node (n : Node) (h : Visit.Neat n.visits) : n.Neat := by
  cases n with
  | data place text =>
    have hshown := h.shown (.data place text) (List.mem_singleton_self _) rfl
    rw [Node.Neat]
    rintro rfl
    exact hshown rfl
  | output place e => trivial
  | element place name attributes body closing =>
    have hinner : Visit.Neat (bodyVisits body ++ [.leave name closing]) :=
      (show Visit.Neat ([.enter place name attributes closing] ++ _) from h).right
    exact neat_of_visits_body body hinner.left

/-- A body is neat when the walk over it is. -/
theorem neat_of_visits_body (ns : List Node) (h : Visit.Neat (bodyVisits ns)) : BodyNeat ns := by
  cases ns with
  | nil => trivial
  | cons n ns =>
    rw [bodyVisits] at h
    refine ⟨neat_of_visits_node n h.left, fun m hm => ?_, neat_of_visits_body ns h.right⟩
    cases n with
    | data place text =>
      cases ns with
      | nil => cases hm
      | cons k ns =>
        cases hm
        cases m with
        | data other more =>
          rcases (List.isChain_cons_cons.mp h.apart).1 with hdata | hdata
          · cases hdata
          · cases hdata
        | output other e => exact .inr rfl
        | element other name attributes body closing => exact .inr rfl
    | output place e => exact .inl rfl
    | element place name attributes body closing => exact .inl rfl

end

/-! ## What lexemes leave -/

/-- Whether the lexeme stays in the text of a body. -/
def Lexeme.isKept : Lexeme → Bool
  | .text _ | .comment _ => true
  | .directive .. | .output _ | .openTag .. | .closeTag .. => false

section Lexemes

variable {place : Position} {l : Lexeme} {e : Effect}

theorem effect_of_kept (h : l.effect place = .ok e) (hl : l.isKept = true) :
    e = .text place (String.ofList l.chars) := by
  cases yields_of_effect h with
  | text _ => rfl
  | comment => rfl
  | _ => cases hl

theorem not_isData_of_effect (h : l.effect place = .ok e) (hl : l.isKept = false) :
    ∀ v ∈ e.visits, v.isData = false := by
  cases yields_of_effect h with
  | text _ => cases hl
  | comment => cases hl
  | @openTag tag _ _ slash read _ _ =>
    rw [visits_tagEffect]
    cases tagClosing (String.ofList tag) slash <;> simp [tagLeave, Visit.isData]
  | _ => simp [Effect.visits, Visit.isData]

/-- A lexeme that is kept adds its characters, and any other lexeme adds no text. -/
theorem text_of_effect (h : l.effect place = .ok e) :
    e.visits.flatMap Visit.text = if l.isKept then l.chars else [] := by
  cases hl : l.isKept with
  | true =>
    rw [effect_of_kept h hl]
    simp [Effect.visits, Visit.text]
  | false =>
    refine List.flatMap_eq_nil_iff.mpr fun v hv => ?_
    have hdata := not_isData_of_effect h hl v hv
    cases v with
    | data other more => cases hdata
    | _ => rfl

theorem shown_of_effect (hl : l.chars ≠ []) (h : l.effect place = .ok e) :
    ∀ v ∈ e.visits, v.Shown := by
  intro v hv hdata
  cases hkept : l.isKept with
  | true =>
    rw [effect_of_kept h hkept] at hv
    rw [List.mem_singleton.mp hv, Visit.text, String.toList_ofList]
    exact hl
  | false =>
    rw [not_isData_of_effect h hkept v hv] at hdata
    cases hdata

theorem shown_of_effects {cs : List Char} {es : List Effect}
    (h : effects .start (lexemes cs) = .ok es) : ∀ v ∈ es.flatMap Effect.visits, v.Shown := by
  intro v hv
  obtain ⟨e, he, hv⟩ := List.mem_flatMap.mp hv
  obtain ⟨l, hl, here, heffect⟩ := exists_effect_of_mem h e he
  exact shown_of_effect (chars_ne_nil_of_mem_lexemes cs l hl) heffect v hv

end Lexemes

/-! ## Whole texts -/

/-- The text of a body, in the order of the source. -/
def bodyText (ns : List Node) : List Char := (bodyVisits ns).flatMap Visit.text

/-- Where a source is read, no text in the tree is empty or stands beside other text, and all text
together is the source without its directives, outputs and tags. -/
theorem text_conserved {source : String} {filename : Option String} {t : Template}
    (h : ofText source filename = .ok t) :
    BodyNeat t.body ∧
      (lexemes source.toList).flatMap Lexeme.chars = source.toList ∧
      bodyText t.body =
        ((lexemes source.toList).filter Lexeme.isKept).flatMap Lexeme.chars := by
  obtain ⟨es, hes, hvisits⟩ := visits_of_read (ofText_eq_ok_iff.mp h)
  have hkept (ls : List Lexeme) : (ls.filter Lexeme.isKept).flatMap Lexeme.chars =
      ls.flatMap fun l => if l.isKept then l.chars else [] := by
    induction ls with
    | nil => rfl
    | cons l ls ih =>
      rw [List.filter_cons, List.flatMap_cons, ← ih]
      split <;> simp
  refine ⟨neat_of_visits_body t.body ?_, flatMap_chars_lexemes _, ?_⟩
  · rw [hvisits]
    exact Visit.neat_foldl_join (shown_of_effects hes) Visit.neat_nil
  · rw [bodyText, hvisits, Visit.flatMap_foldl_join fun _ _ _ _ => String.toList_append,
      List.flatMap_assoc, hkept]
    exact flatMap_effects (fun l _ _ e he => text_of_effect he) hes

theorem text_conserved_mixedPage : ∃ t, ofText mixedPage none = .ok t ∧ BodyNeat t.body ∧
    bodyText t.body =
      ((lexemes mixedPage.toList).filter Lexeme.isKept).flatMap Lexeme.chars ∧
    bodyText t.body = "a\n<!-- c -->e".toList := by
  obtain ⟨t, ht, htext⟩ := exists_of_map_eq_some mixedPage
    (f := fun t => bodyText t.body) (b := "a\n<!-- c -->e".toList) (by decide +kernel) none
  obtain ⟨hneat, -, hkept⟩ := text_conserved ht
  exact ⟨t, ht, hneat, hkept, htext⟩

end Template

end LivePreview
