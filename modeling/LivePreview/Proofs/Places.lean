import LivePreview.Proofs.Attributes
import LivePreview.Proofs.BodyText

/-!
# Where the parts of a template stand

Every part of a template that was read has a place, and this place is one in the source at which the
part can be seen: the bracket and name of a tag, the name of an attribute, the marks of an output or
directive, the first character of text. Along a walk over the body the places only go forwards, and
so they do along the parameters and along the modules.
-/

namespace LivePreview

namespace Template

/-! ## Places and offsets -/

namespace Position

theorem line_after (p : Position) (cs : List Char) :
    (p.after cs).line = p.line + cs.count '\n' := by
  induction cs generalizing p with
  | nil => rfl
  | cons c cs ih =>
    have hstep : (p.after (c :: cs)).line = ((p.step c).after cs).line := rfl
    rw [hstep, ih, List.count_cons, step]
    by_cases hc : c = '\n'
    · simp [hc]
      omega
    · simp [hc]

theorem column_after (cs : List Char) :
    (start.after cs).column = (cs.reverse.takeWhile (· ≠ '\n')).length := by
  have hback : ∀ cs : List Char,
      (start.after cs.reverse).column = (cs.takeWhile (· ≠ '\n')).length := by
    intro cs
    induction cs with
    | nil => rfl
    | cons c cs ih =>
      rw [List.reverse_cons, after_append]
      change ((start.after cs.reverse).step c).column = _
      rw [step]
      by_cases hc : c = '\n'
      · simp [hc]
      · simp [hc, ih]
  rw [← hback, List.reverse_reverse]

end Position

/-- Something to be seen in a source, and its place. -/
structure Sight where
  place : Position
  shown : List Char

/-- The source shows something at an offset: its line counts the newlines before, its column the
characters since the last of them. -/
structure Shows (cs : List Char) (k : Nat) (s : Sight) : Prop where
  line : s.place.line = (cs.take k).count '\n' + 1
  column : s.place.column = ((cs.take k).reverse.takeWhile (· ≠ '\n')).length
  shown : s.shown <+: cs.drop k
  visible : s.shown ≠ []

theorem shows_of_split (before : List Char) {shown : List Char} (behind : List Char)
    (h : shown ≠ []) :
    Shows (before ++ (shown ++ behind)) before.length ⟨Position.start.after before, shown⟩ := by
  constructor
  · rw [List.take_left, Position.line_after, Nat.add_comm]
    rfl
  · rw [List.take_left, Position.column_after]
  · rw [List.drop_left]
    exact List.prefix_append shown behind
  · exact h

/-- A place belongs to one offset only. -/
theorem offset_unique {cs : List Char} {k m : Nat} {s u : Sight} (hs : Shows cs k s)
    (hu : Shows cs m u) (h : s.place = u.place) : k = m := by
  have hinside {k : Nat} {s : Sight} (hs : Shows cs k s) : k < cs.length := by
    have hlength := hs.shown.length_le
    have := List.length_pos_iff.mpr hs.visible
    rw [List.length_drop] at hlength
    omega
  -- Behind an offset the line grows, or no newline follows and the column does.
  have hgrows {k m : Nat} {s u : Sight} (hs : Shows cs k s) (hu : Shows cs m u)
      (h : s.place = u.place) : ¬ k < m := by
    intro hlt
    have htake : cs.take m = cs.take k ++ (cs.drop k).take (m - k) := by
      rw [← List.take_add]
      congr 1
      omega
    have hline : ((cs.drop k).take (m - k)).count '\n' = 0 := by
      have hsame := hs.line.symm.trans ((congrArg Position.line h).trans hu.line)
      rw [htake, List.count_append] at hsame
      omega
    have hcolumn := hs.column.symm.trans ((congrArg Position.column h).trans hu.column)
    have hplain : ∀ c ∈ ((cs.drop k).take (m - k)).reverse, decide (c ≠ '\n') = true := by
      intro c hc
      refine decide_eq_true fun heq => ?_
      exact List.count_eq_zero.mp hline (heq ▸ List.mem_reverse.mp hc)
    rw [htake, List.reverse_append, List.takeWhile_append_of_pos hplain, List.length_append,
      List.length_reverse, List.length_take, List.length_drop] at hcolumn
    have := hinside hu
    omega
  have hleft := hgrows hs hu h
  have hright := hgrows hu hs h.symm
  omega

/-- The source shows some things one behind another, from an offset to another one. -/
def Ascends (cs : List Char) (low high : Nat) (ss : List Sight) : Prop :=
  ∃ offsets : List (Nat × Sight), offsets.map (·.2) = ss ∧
    (offsets.map (·.1)).Pairwise (· < ·) ∧
    ∀ x ∈ offsets, low ≤ x.1 ∧ x.1 < high ∧ Shows cs x.1 x.2

namespace Ascends

variable {cs : List Char} {low mid high : Nat} {ss us : List Sight}

theorem nil : Ascends cs low high [] :=
  ⟨[], rfl, .nil, fun _ hx => absurd hx List.not_mem_nil⟩

theorem singleton {k : Nat} {s : Sight} (hs : Shows cs k s) (hlow : low ≤ k) (hhigh : k < high) :
    Ascends cs low high [s] :=
  ⟨[(k, s)], rfl, List.pairwise_singleton _ _, List.forall_mem_singleton.mpr ⟨hlow, hhigh, hs⟩⟩

theorem append (hss : Ascends cs low mid ss) (hus : Ascends cs mid high us) (hlow : low ≤ mid)
    (hhigh : mid ≤ high) : Ascends cs low high (ss ++ us) := by
  obtain ⟨xs, rfl, hxs, hfirst⟩ := hss
  obtain ⟨ys, rfl, hys, hsecond⟩ := hus
  refine ⟨xs ++ ys, List.map_append, ?_, fun x hx => ?_⟩
  · rw [List.map_append, List.pairwise_append]
    refine ⟨hxs, hys, fun k hk m hm => ?_⟩
    obtain ⟨x, hx, rfl⟩ := List.mem_map.mp hk
    obtain ⟨y, hy, rfl⟩ := List.mem_map.mp hm
    have hbelow := (hfirst x hx).2.1
    have habove := (hsecond y hy).1
    omega
  · rcases List.mem_append.mp hx with hx | hx
    · obtain ⟨h₁, h₂, hshows⟩ := hfirst x hx
      exact ⟨h₁, by omega, hshows⟩
    · obtain ⟨h₁, h₂, hshows⟩ := hsecond x hx
      exact ⟨by omega, h₂, hshows⟩

theorem cons {k : Nat} {s : Sight} (hs : Shows cs k s) (hlow : low ≤ k) (hk : k < mid)
    (hhigh : mid ≤ high) (h : Ascends cs mid high ss) : Ascends cs low high (s :: ss) :=
  (singleton hs hlow hk).append h (by omega) hhigh

theorem widen (h : Ascends cs low mid ss) (hhigh : mid ≤ high) : Ascends cs low high ss := by
  obtain ⟨xs, rfl, hxs, hall⟩ := h
  refine ⟨xs, rfl, hxs, fun x hx => ?_⟩
  obtain ⟨h₁, h₂, hshows⟩ := hall x hx
  exact ⟨h₁, by omega, hshows⟩

theorem sublist (h : Ascends cs low high ss) (hus : us.Sublist ss) : Ascends cs low high us := by
  obtain ⟨xs, rfl, hxs, hall⟩ := h
  obtain ⟨ys, hys, rfl⟩ := List.sublist_map_iff.mp hus
  exact ⟨ys, rfl, hxs.sublist (hys.map _), fun y hy => hall y (hys.subset hy)⟩

end Ascends

/-! ## What is to be seen of a template -/

def Attribute.sight (a : Attribute) : Sight := ⟨a.place, a.name.toList⟩

def Param.sight (p : Param) : Sight := ⟨p.place, '@' :: DirectiveKind.param.word⟩

def Using.sight (u : Using) : Sight := ⟨u.place, '@' :: DirectiveKind.module.word⟩

/-- What is to be seen where a walk goes: the first character of text, the mark of an output, the
bracket and name of a tag and then the names of its attributes. -/
def Visit.sights : Visit → List Sight
  | .data place text => [⟨place, text.toList.take 1⟩]
  | .output place _ => [⟨place, ['\x7b', '\x7b']⟩]
  | .enter place name attributes _ => ⟨place, '<' :: name.toList⟩ :: attributes.map Attribute.sight
  | .leave _ _ => []

/-- What is to be seen of a body, each element before its attributes and these before its content.
-/
def bodySights (ns : List Node) : List Sight := (bodyVisits ns).flatMap Visit.sights

/-- Joining text hides sights, but shows no other ones. -/
theorem sights_foldl_join {vs : List Visit} (hvs : ∀ v ∈ vs, v.Shown) : ∀ {ws : List Visit},
    Visit.Neat ws → ((vs.foldl Visit.join ws).flatMap Visit.sights).Sublist
      (ws.flatMap Visit.sights ++ vs.flatMap Visit.sights) := by
  induction vs with
  | nil =>
    intro ws _
    rw [List.foldl_nil, List.flatMap_nil, List.append_nil]
  | cons v vs ih =>
    intro ws hws
    obtain ⟨hv, hvs⟩ := List.forall_mem_cons.mp hvs
    have hjoin : ((Visit.join ws v).flatMap Visit.sights).Sublist
        (ws.flatMap Visit.sights ++ v.sights) := by
      rcases Visit.join_cases ws v with ⟨others, place, text, other, more, rfl, rfl, heq⟩ | ⟨heq, -⟩
      · have hfirst : (text ++ more).toList.take 1 = text.toList.take 1 := by
          have hmem : Visit.data place text ∈ others ++ [.data place text] :=
            List.mem_append_right _ List.mem_cons_self
          have hshown := hws.shown _ hmem rfl
          obtain ⟨c, cs, hcons⟩ := List.exists_cons_of_ne_nil hshown
          change text.toList = _ at hcons
          rw [String.toList_append, hcons]
          rfl
        rw [heq, List.flatMap_append, List.flatMap_append, List.flatMap_singleton,
          List.flatMap_singleton, Visit.sights, Visit.sights, hfirst]
        exact List.sublist_append_left _ _
      · rw [heq, List.flatMap_append, List.flatMap_singleton]
    rw [List.foldl_cons, List.flatMap_cons, ← List.append_assoc]
    exact (ih hvs (hws.join hv)).trans (hjoin.append (List.Sublist.refl _))

/-! ## Sights of lexemes -/

section Lexemes

variable {cs : List Char}

/-- The attributes of a tag are seen one behind another in their text. -/
theorem ascends_of_readAttributes {as : List AttributeText} (has : ∀ a ∈ as, a.Proper) :
    ∀ {before behind : List Char} {seen : List String} {read : List Attribute},
      cs = before ++ (attributeChars as ++ behind) →
      readAttributes (Position.start.after before) seen as = .ok read →
        Ascends cs before.length (before.length + (attributeChars as).length)
          (read.map Attribute.sight) := by
  induction as with
  | nil =>
    intro before behind seen read _ h
    cases h
    exact .nil
  | cons a as ih =>
    intro before behind seen read hcs h
    obtain ⟨ha, has⟩ := List.forall_mem_cons.mp has
    obtain ⟨-, value, rest, -, hrest, rfl⟩ := readAttributes_cons_eq_ok_iff.mp h
    have hchars : attributeChars (a :: as) = a.chars ++ attributeChars as := List.flatMap_cons
    have hparts : a.chars = a.gap ++ (a.name ++ a.valueChars) :=
      List.append_assoc a.gap a.name a.valueChars
    have hfirst : Shows cs (before ++ a.gap).length
        ⟨Position.start.after (before ++ a.gap), a.name⟩ := by
      have hsplit := shows_of_split (before ++ a.gap)
        (a.valueChars ++ (attributeChars as ++ behind)) ha.named
      rw [hcs, hchars, hparts]
      simpa only [List.append_assoc] using hsplit
    have hbehind : Ascends cs (before ++ a.chars).length
        ((before ++ a.chars).length + (attributeChars as).length) (rest.map Attribute.sight) := by
      have hsplit : cs = (before ++ a.chars) ++ (attributeChars as ++ behind) := by
        rw [hcs, hchars]
        simp only [List.append_assoc]
      exact ih has hsplit (by rw [Position.after_append]; exact hrest)
    have hname := List.length_pos_iff.mpr ha.named
    have hlengths := congrArg List.length hparts
    simp only [List.length_append] at hlengths hbehind
    rw [← Position.after_append, hchars, List.length_append, List.map_cons, ← Nat.add_assoc]
    refine .cons (k := (before ++ a.gap).length) ?_ (by simp) ?_ (by omega) hbehind
    · rw [Attribute.sight, String.toList_ofList]
      exact hfirst
    · rw [List.length_append]
      omega

/-- What a lexeme adds to a walk is seen in the lexeme. -/
theorem ascends_of_effect {before behind : List Char} {l : Lexeme} {e : Effect} (hl : l.Proper)
    (hchars : l.chars ≠ []) (hcs : cs = before ++ (l.chars ++ behind))
    (h : l.effect (Position.start.after before) = .ok e) :
    Ascends cs before.length (before.length + l.chars.length) (e.visits.flatMap Visit.sights) := by
  have hlength := List.length_pos_iff.mpr hchars
  -- Something that the lexeme begins with is seen where the lexeme begins.
  have hfront (shown : List Char) {rest : List Char} (hshown : shown ≠ [])
      (hsplit : l.chars = shown ++ rest) :
      Ascends cs before.length (before.length + l.chars.length)
        [⟨Position.start.after before, shown⟩] := by
    refine .singleton (k := before.length) ?_ (Nat.le_refl _) (by omega)
    rw [hcs, hsplit, List.append_assoc]
    exact shows_of_split before (rest ++ behind) hshown
  have hkept (hl : l.isKept = true) : Ascends cs before.length (before.length + l.chars.length)
      (e.visits.flatMap Visit.sights) := by
    obtain ⟨c, rest, hcons⟩ := List.exists_cons_of_ne_nil hchars
    have htake : l.chars.take 1 = [c] := by rw [hcons]; rfl
    rw [effect_of_kept h hl, Effect.visits, List.flatMap_singleton, Visit.sights,
      String.toList_ofList, htake]
    exact hfront [c] (List.cons_ne_nil c []) hcons
  cases yields_of_effect h with
  | text _ => exact hkept rfl
  | comment => exact hkept rfl
  | output _ => exact hfront ['\x7b', '\x7b'] (List.cons_ne_nil _ _) (List.append_assoc ..)
  | @openTag tag attributes blanks slash read hread _ =>
    rw [findAttributes_attributeChars hl] at hread
    have hsights : (tagEffect (Position.start.after before) (String.ofList tag) read
        slash).visits.flatMap Visit.sights =
          ⟨Position.start.after before, '<' :: tag⟩ :: read.map Attribute.sight := by
      rw [visits_tagEffect]
      cases tagClosing (String.ofList tag) slash <;>
        simp [tagLeave, Visit.sights, String.toList_ofList]
    have hparts : (Lexeme.openTag tag attributes blanks slash).chars =
        ('<' :: tag) ++ (attributeChars attributes ++ (blanks ++ tagEndChars slash)) := by
      simp [Lexeme.chars, tagEndChars]
    have hread : Ascends cs (before ++ '<' :: tag).length
        ((before ++ '<' :: tag).length + (attributeChars attributes).length)
          (read.map Attribute.sight) := by
      have hsplit : cs = (before ++ '<' :: tag) ++
          (attributeChars attributes ++ (blanks ++ (tagEndChars slash ++ behind))) := by
        rw [hcs, hparts]
        simp only [List.append_assoc]
      exact ascends_of_readAttributes hl hsplit (by rw [Position.after_append]; exact hread)
    have hlengths := congrArg List.length hparts
    simp only [List.length_append, List.length_cons] at hlengths hread
    have hbracket : Shows cs before.length ⟨Position.start.after before, '<' :: tag⟩ := by
      rw [hcs, hparts, List.append_assoc]
      exact shows_of_split before _ (List.cons_ne_nil '<' tag)
    rw [hsights]
    exact .cons hbracket (Nat.le_refl _) (by omega) (by omega) (hread.widen (by omega))
  | _ => exact .nil

/-- The mark of a directive is seen behind what indents it. -/
theorem ascends_directive {before behind indent args : List Char} {kind : DirectiveKind}
    {ended : Bool}
    (hcs : cs = before ++ ((Lexeme.directive indent kind args ended).chars ++ behind)) :
    Ascends cs before.length
      (before.length + (Lexeme.directive indent kind args ended).chars.length)
      [⟨(Position.start.after before).after indent, '@' :: kind.word⟩] := by
  obtain ⟨rest, hchars⟩ : ∃ rest, (Lexeme.directive indent kind args ended).chars =
      indent ++ (('@' :: kind.word) ++ rest) :=
    ⟨args ++ if ended then ['\n'] else [], by simp [Lexeme.chars]⟩
  rw [hchars] at hcs ⊢
  refine .singleton (k := (before ++ indent).length) ?_ (by simp) (by simp)
  have hsplit := shows_of_split (before ++ indent) (rest ++ behind)
    (List.cons_ne_nil '@' kind.word)
  rw [hcs, ← Position.after_append]
  simpa only [List.append_assoc] using hsplit

theorem ascends_params_of_effect {before behind : List Char} {l : Lexeme} {e : Effect}
    (hcs : cs = before ++ (l.chars ++ behind))
    (h : l.effect (Position.start.after before) = .ok e) :
    Ascends cs before.length (before.length + l.chars.length) (e.params.map Param.sight) := by
  cases yields_of_effect h with
  | param hread =>
    rw [Effect.params, List.map_singleton, Param.sight, place_of_readParam hread]
    exact ascends_directive hcs
  | openTag _ _ =>
    rw [(declarations_tagEffect ..).1]
    exact .nil
  | _ => exact .nil

theorem ascends_usings_of_effect {before behind : List Char} {l : Lexeme} {e : Effect}
    (hcs : cs = before ++ (l.chars ++ behind))
    (h : l.effect (Position.start.after before) = .ok e) :
    Ascends cs before.length (before.length + l.chars.length) (e.usings.map Using.sight) := by
  cases yields_of_effect h with
  | module hread =>
    rw [Effect.usings, List.map_singleton, Using.sight, place_of_readUsing hread]
    exact ascends_directive hcs
  | openTag _ _ =>
    rw [(declarations_tagEffect ..).2]
    exact .nil
  | _ => exact .nil

/-- What is seen in every lexeme is seen in all of them one behind another. -/
theorem ascends_effects {f : Effect → List Sight} {ls : List Lexeme}
    (hf : ∀ l ∈ ls, ∀ {before behind e}, cs = before ++ (l.chars ++ behind) →
      l.effect (Position.start.after before) = .ok e →
        Ascends cs before.length (before.length + l.chars.length) (f e)) :
    ∀ {before : List Char} {es : List Effect}, cs = before ++ ls.flatMap Lexeme.chars →
      effects (Position.start.after before) ls = .ok es →
        Ascends cs before.length cs.length (es.flatMap f) := by
  induction ls with
  | nil =>
    intro before es hcs h
    cases h
    exact .nil
  | cons l ls ih =>
    intro before es hcs h
    obtain ⟨hl, hls⟩ := List.forall_mem_cons.mp hf
    obtain ⟨e, others, he, hothers, rfl⟩ := effects_cons_eq_ok h
    rw [List.flatMap_cons] at hcs ⊢
    rw [← Position.after_append] at hothers
    have hbehind := ih hls (hcs.trans (List.append_assoc ..).symm) hothers
    have hlength := congrArg List.length hcs
    simp only [List.length_append] at hlength hbehind
    exact (hl hcs he).append hbehind (by omega) (by omega)

end Lexemes

/-- Where a source is read, every part has the place of an offset at which the source shows it, and
these offsets increase along the walk over the body, along the parameters and along the modules. No
place is that of two offsets. -/
theorem places_exact {source : String} {filename : Option String} {t : Template}
    (h : ofText source filename = .ok t) :
    Ascends source.toList 0 source.toList.length (bodySights t.body) ∧
      Ascends source.toList 0 source.toList.length (t.params.map Param.sight) ∧
      Ascends source.toList 0 source.toList.length (t.usings.map Using.sight) ∧
      ∀ k m s u, Shows source.toList k s → Shows source.toList m u → s.place = u.place → k = m := by
  have hread := ofText_eq_ok_iff.mp h
  obtain ⟨es, hes, hparams, husings⟩ := declarations_of_read hread
  have hcs : source.toList = [] ++ (lexemes source.toList).flatMap Lexeme.chars :=
    (flatMap_chars_lexemes _).symm
  refine ⟨?_, ?_, ?_, fun _ _ _ _ hs hu heq => offset_unique hs hu heq⟩
  · obtain ⟨es, hes, hvisits⟩ := visits_of_read hread
    have hall := ascends_effects (f := fun e => e.visits.flatMap Visit.sights)
      (fun l hl _ _ _ => ascends_of_effect (proper_lexemes _ l hl)
        (chars_ne_nil_of_mem_lexemes _ l hl)) hcs hes
    -- Text that is joined to other text is not seen any more, and all the rest is.
    have hsublist := sights_foldl_join (shown_of_effects hes) Visit.neat_nil
    rw [List.flatMap_nil, List.nil_append, List.flatMap_assoc] at hsublist
    rw [bodySights, hvisits]
    exact hall.sublist hsublist
  · rw [hparams, List.map_flatMap]
    exact ascends_effects (fun _ _ _ _ _ => ascends_params_of_effect) hcs hes
  · rw [husings, List.map_flatMap]
    exact ascends_effects (fun _ _ _ _ _ => ascends_usings_of_effect) hcs hes

theorem places_exact_mixedPage : ∃ t, ofText mixedPage none = .ok t ∧
    (Ascends mixedPage.toList 0 mixedPage.toList.length (bodySights t.body) ∧
      Ascends mixedPage.toList 0 mixedPage.toList.length (t.params.map Param.sight) ∧
      Ascends mixedPage.toList 0 mixedPage.toList.length (t.usings.map Using.sight)) ∧
    (bodySights t.body ++ t.params.map Param.sight ++ t.usings.map Using.sight).map (·.place) =
      [⟨1, 0⟩, ⟨4, 10⟩, ⟨4, 13⟩, ⟨4, 25⟩, ⟨4, 31⟩, ⟨4, 38⟩, ⟨4, 42⟩, ⟨4, 43⟩, ⟨3, 0⟩, ⟨2, 0⟩] := by
  obtain ⟨t, ht, hplaces⟩ := exists_of_map_eq_some mixedPage
    (f := fun t =>
      (bodySights t.body ++ t.params.map Param.sight ++ t.usings.map Using.sight).map (·.place))
    (b := [⟨1, 0⟩, ⟨4, 10⟩, ⟨4, 13⟩, ⟨4, 25⟩, ⟨4, 31⟩, ⟨4, 38⟩, ⟨4, 42⟩, ⟨4, 43⟩, ⟨3, 0⟩, ⟨2, 0⟩])
    (by decide +kernel) none
  obtain ⟨hbody, hparams, husings, -⟩ := places_exact ht
  exact ⟨t, ht, ⟨hbody, hparams, husings⟩, hplaces⟩

end Template

end LivePreview
