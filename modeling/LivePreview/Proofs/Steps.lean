import LivePreview.Proofs.Reading

/-!
# What a lexeme asks for

Reading a lexeme has two parts. First the lexeme is looked at by itself: this gives its effect, or
an objection to it that no other lexeme can change. Then the effect is had on what was read so far,
which can only be refused for a parameter that was declared before or for a closing tag that has no
partner. So a text can be read when all its lexemes have effects and these can be had one after
another.
-/

namespace LivePreview

namespace Template

/-- What a lexeme asks for, whatever was read before it. -/
inductive Effect where
  | declare (p : Param)
  | use (u : Using)
  | text (place : Position) (text : String)
  | output (place : Position) (value : Expression)
  /-- An element without content. -/
  | single (place : Position) (name : String) (attributes : List Attribute) (closing : Closing)
  | enter (place : Position) (name : String) (attributes : List Attribute)
  | leave (place : Position) (name : String)

def Effect.params : Effect → List Param
  | .declare p => [p]
  | _ => []

def Effect.usings : Effect → List Using
  | .use u => [u]
  | _ => []

/-- How the element of an opening tag ends, as far as the tag tells. -/
def tagClosing (name : String) (slash : Bool) : Closing :=
  if slash then .slash
  else if !isComponentTag name && isVoidTag name then .void
  else .paired

theorem tagClosing_eq_slash_iff {name : String} {slash : Bool} :
    tagClosing name slash = .slash ↔ slash = true := by
  unfold tagClosing
  cases slash with
  | true => simp
  | false => cases !isComponentTag name && isVoidTag name <;> simp

/-- An opening tag opens an element, unless it stands for an element without content. -/
def tagEffect (place : Position) (name : String) (attributes : List Attribute) (slash : Bool) :
    Effect :=
  match tagClosing name slash with
  | .paired => .enter place name attributes
  | closing => .single place name attributes closing

theorem declarations_tagEffect (place : Position) (name : String) (attributes : List Attribute)
    (slash : Bool) : (tagEffect place name attributes slash).params = [] ∧
      (tagEffect place name attributes slash).usings = [] := by
  unfold tagEffect
  split <;> exact ⟨rfl, rfl⟩

/-- The effect of a lexeme that begins at `place`. -/
def Lexeme.effect (place : Position) : Lexeme → Checked Effect
  | .text cs =>
    match Text.cut? ['\x7b', '\x7b'] cs with
    | some (before, _) => fail (place.after before) .unclosedExpression
    | none => .ok (.text place (String.ofList cs))
  | .directive indent .param args _ => .declare <$> readParam (place.after indent) args
  | .directive indent .module args _ => .use <$> readUsing (place.after indent) args
  | .comment body => .ok (.text place (String.ofList (Lexeme.comment body).chars))
  | .output body => .output place <$> expressionAt (place.after ['\x7b', '\x7b']) body
  | .openTag tag attributes _ slash => do
    let read ← readAttributes (place.after ('<' :: tag)) []
      (findAttributes (attributeChars attributes))
    if isComponentTag (String.ofList tag) && !Reading.isComponentName tag then
      fail (place.after ['<']) (.invalidComponentName (String.ofList tag))
    return tagEffect place (String.ofList tag) read slash
  | .closeTag tag _ => .ok (.leave place (String.ofList tag))

section Inversion

variable {place : Position} {e : Effect}

/-- Text has its effect where it has no mark of an output. -/
theorem effect_text_eq_ok_iff {cs : List Char} : (Lexeme.text cs).effect place = .ok e ↔
    Text.cut? ['\x7b', '\x7b'] cs = none ∧ e = .text place (String.ofList cs) := by
  rw [Lexeme.effect]
  cases Text.cut? ['\x7b', '\x7b'] cs <;> simp [fail, eq_comm]

theorem effect_param_eq_ok_iff {indent args : List Char} {ended : Bool} :
    (Lexeme.directive indent .param args ended).effect place = .ok e ↔
      ∃ p, readParam (place.after indent) args = .ok p ∧ e = .declare p := by
  rw [Lexeme.effect]
  cases readParam (place.after indent) args <;> simp [Functor.map, Except.map, eq_comm]

theorem effect_module_eq_ok_iff {indent args : List Char} {ended : Bool} :
    (Lexeme.directive indent .module args ended).effect place = .ok e ↔
      ∃ u, readUsing (place.after indent) args = .ok u ∧ e = .use u := by
  rw [Lexeme.effect]
  cases readUsing (place.after indent) args <;> simp [Functor.map, Except.map, eq_comm]

theorem effect_output_eq_ok_iff {body : List Char} : (Lexeme.output body).effect place = .ok e ↔
    ∃ value, expressionAt (place.after ['\x7b', '\x7b']) body = .ok value ∧
      e = .output place value := by
  rw [Lexeme.effect]
  cases expressionAt (place.after ['\x7b', '\x7b']) body <;> simp [Functor.map, Except.map, eq_comm]

/-- An opening tag has its effect where its attributes can be read and its name can be one. -/
theorem effect_openTag_eq_ok_iff {tag : List Char} {attributes : List AttributeText}
    {blanks : List Char} {slash : Bool} :
    (Lexeme.openTag tag attributes blanks slash).effect place = .ok e ↔
      ∃ read, readAttributes (place.after ('<' :: tag)) []
          (findAttributes (attributeChars attributes)) = .ok read ∧
        (isComponentTag (String.ofList tag) = true → Reading.isComponentName tag = true) ∧
        e = tagEffect place (String.ofList tag) read slash := by
  rw [Lexeme.effect, bind_eq_ok_iff]
  refine exists_congr fun read => and_congr_right fun _ => ?_
  dsimp only
  cases isComponentTag (String.ofList tag) <;> cases Reading.isComponentName tag <;>
    simp [fail, bind, Except.bind, pure, Except.pure, eq_comm]

end Inversion

/-- Which effect a lexeme has. -/
inductive Yields (place : Position) : Lexeme → Effect → Prop
  | text {cs : List Char} : Text.cut? ['\x7b', '\x7b'] cs = none →
      Yields place (.text cs) (.text place (String.ofList cs))
  | param {indent args : List Char} {ended : Bool} {p : Param} :
      readParam (place.after indent) args = .ok p →
        Yields place (.directive indent .param args ended) (.declare p)
  | module {indent args : List Char} {ended : Bool} {u : Using} :
      readUsing (place.after indent) args = .ok u →
        Yields place (.directive indent .module args ended) (.use u)
  | comment {body : List Char} :
      Yields place (.comment body) (.text place (String.ofList (Lexeme.comment body).chars))
  | output {body : List Char} {value : Expression} :
      expressionAt (place.after ['\x7b', '\x7b']) body = .ok value →
        Yields place (.output body) (.output place value)
  | openTag {tag : List Char} {attributes : List AttributeText} {blanks : List Char}
      {slash : Bool} {read : List Attribute} :
      readAttributes (place.after ('<' :: tag)) [] (findAttributes (attributeChars attributes)) =
          .ok read →
        (isComponentTag (String.ofList tag) = true → Reading.isComponentName tag = true) →
        Yields place (.openTag tag attributes blanks slash)
          (tagEffect place (String.ofList tag) read slash)
  | closeTag {tag blanks : List Char} :
      Yields place (.closeTag tag blanks) (.leave place (String.ofList tag))

theorem yields_of_effect {place : Position} {l : Lexeme} {e : Effect}
    (h : l.effect place = .ok e) : Yields place l e := by
  cases l with
  | text cs =>
    obtain ⟨hplain, rfl⟩ := effect_text_eq_ok_iff.mp h
    exact .text hplain
  | directive indent kind args ended =>
    cases kind with
    | param =>
      obtain ⟨p, hread, rfl⟩ := effect_param_eq_ok_iff.mp h
      exact .param hread
    | module =>
      obtain ⟨u, hread, rfl⟩ := effect_module_eq_ok_iff.mp h
      exact .module hread
  | comment body =>
    cases h
    exact .comment
  | output body =>
    obtain ⟨value, hvalue, rfl⟩ := effect_output_eq_ok_iff.mp h
    exact .output hvalue
  | openTag tag attributes blanks slash =>
    obtain ⟨read, hread, hname, rfl⟩ := effect_openTag_eq_ok_iff.mp h
    exact .openTag hread hname
  | closeTag tag blanks =>
    cases h
    exact .closeTag

/-- The effects of lexemes from `place` on. -/
def effects (place : Position) : List Lexeme → Checked (List Effect)
  | [] => .ok []
  | l :: ls => do
    let e ← l.effect place
    let es ← effects (place.after l.chars) ls
    return e :: es

theorem effects_cons_eq_ok {place : Position} {l : Lexeme} {ls : List Lexeme} {es : List Effect}
    (h : effects place (l :: ls) = .ok es) : ∃ e others, l.effect place = .ok e ∧
      effects (place.after l.chars) ls = .ok others ∧ es = e :: others := by
  obtain ⟨e, he, h⟩ := bind_eq_ok_iff.mp h
  obtain ⟨others, hothers, h⟩ := bind_eq_ok_iff.mp h
  cases h
  exact ⟨e, others, he, hothers, rfl⟩

theorem exists_effect_of_mem {ls : List Lexeme} : ∀ {place : Position} {es : List Effect},
    effects place ls = .ok es → ∀ e ∈ es, ∃ l ∈ ls, ∃ here, l.effect here = .ok e := by
  induction ls with
  | nil =>
    intro place es h
    cases h
    exact fun e he => absurd he List.not_mem_nil
  | cons l ls ih =>
    intro place es h e he
    obtain ⟨first, others, hfirst, hothers, rfl⟩ := effects_cons_eq_ok h
    rcases List.mem_cons.mp he with rfl | he
    · exact ⟨l, List.mem_cons_self, place, hfirst⟩
    · obtain ⟨m, hm, hhere⟩ := ih hothers e he
      exact ⟨m, List.mem_cons_of_mem l hm, hhere⟩

/-- What every effect says like its lexeme, all effects say like all lexemes. -/
theorem flatMap_effects {β : Type} {f : Effect → List β} {g : Lexeme → List β} {ls : List Lexeme}
    (hfg : ∀ l ∈ ls, ∀ here e, l.effect here = .ok e → f e = g l) :
    ∀ {place : Position} {es : List Effect}, effects place ls = .ok es →
      es.flatMap f = ls.flatMap g := by
  induction ls with
  | nil =>
    intro place es h
    cases h
    rfl
  | cons l ls ih =>
    intro place es h
    obtain ⟨e, others, he, hothers, rfl⟩ := effects_cons_eq_ok h
    obtain ⟨hl, hls⟩ := List.forall_mem_cons.mp hfg
    rw [List.flatMap_cons, List.flatMap_cons, hl place e he, ih hls hothers]

namespace Reading

/-- Have an effect on what was read so far. -/
def perform (r : Reading) : Effect → Checked Reading
  | .declare p => r.addParam p.place p
  | .use u => .ok { r with usings := r.usings ++ [u] }
  | .text place text => .ok (r.add (.data place text))
  | .output place e => .ok (r.add (.output place e))
  | .single place name attributes closing =>
    .ok (r.add (.element place name attributes [] closing))
  | .enter place name attributes =>
    .ok { r with frames := ⟨place, name, attributes, []⟩ :: r.frames }
  | .leave place name =>
    match r.frames with
    | [] => fail place (.unexpectedClosing name)
    | frame :: frames =>
      if frame.name = name then
        .ok ({ r with frames }.add
          (.element frame.place name frame.attributes frame.content.reverse .paired))
      else fail place (.mismatchedClosing name frame.name)

/-! ## Reading is having effects -/

theorem readDirective_eq (r : Reading) (place : Position) (indent args : List Char) (ended : Bool)
    (kind : DirectiveKind) : r.readDirective place indent args kind =
      (Lexeme.directive indent kind args ended).effect place >>= r.perform := by
  cases kind with
  | param =>
    rw [readDirective, Lexeme.effect]
    cases hparam : readParam (place.after indent) args with
    | error o => rfl
    | ok p =>
      change r.addParam (place.after indent) p = r.addParam p.place p
      rw [place_of_readParam hparam]
  | module =>
    rw [readDirective, Lexeme.effect]
    cases readUsing (place.after indent) args <;> rfl

theorem openElement_eq (r : Reading) (place : Position) (tag : List Char)
    (attributes : List AttributeText) (blanks : List Char) (slash : Bool) :
    r.openElement place tag attributes slash =
      (Lexeme.openTag tag attributes blanks slash).effect place >>= r.perform := by
  rw [openElement, Lexeme.effect]
  cases readAttributes (place.after ('<' :: tag)) []
    (findAttributes (attributeChars attributes)) with
  | error o => rfl
  | ok read =>
    simp only [bind, Except.bind]
    split
    · rfl
    · simp only [pure, Except.pure, tagEffect, tagClosing]
      split
      · rfl
      · split <;> rfl

/-- Reading a lexeme is having its effect. -/
theorem read_eq (r : Reading) (place : Position) (l : Lexeme) :
    r.read place l = l.effect place >>= r.perform := by
  cases l with
  | text cs =>
    change r.readText place cs = _
    rw [readText, Lexeme.effect]
    cases Text.cut? ['\x7b', '\x7b'] cs <;> rfl
  | directive indent kind args ended => exact readDirective_eq r place indent args ended kind
  | comment body => rfl
  | output body =>
    rw [read, Lexeme.effect]
    cases expressionAt (place.after ['\x7b', '\x7b']) body <;> rfl
  | closeTag tag blanks => rfl
  | openTag tag attributes blanks slash =>
    exact openElement_eq r place tag attributes blanks slash

/-- Lexemes that all have effects are read by having these. -/
theorem readAll_of_effects {ls : List Lexeme} : ∀ {place : Position} {es : List Effect}
    (r : Reading), effects place ls = .ok es → readAll read place r ls = es.foldlM perform r := by
  induction ls with
  | nil =>
    intro place es r h
    cases h
    rfl
  | cons l ls ih =>
    intro place es r h
    obtain ⟨e, he, h⟩ := bind_eq_ok_iff.mp h
    obtain ⟨others, hothers, h⟩ := bind_eq_ok_iff.mp h
    cases h
    rw [readAll, read_eq, he, List.foldlM_cons]
    change (r.perform e >>= fun next => readAll read (place.after l.chars) next ls) = _
    congr 1
    funext next
    exact ih next hothers

/-- Where lexemes are read, all of them have effects. -/
theorem exists_effects_of_readAll {ls : List Lexeme} : ∀ {place : Position} {r last : Reading},
    readAll read place r ls = .ok last → ∃ es, effects place ls = .ok es := by
  induction ls with
  | nil => exact fun _ => ⟨[], rfl⟩
  | cons l ls ih =>
    intro place r last h
    obtain ⟨next, hnext, hlast⟩ := bind_eq_ok_iff.mp h
    rw [read_eq] at hnext
    obtain ⟨e, he, -⟩ := bind_eq_ok_iff.mp hnext
    obtain ⟨es, hes⟩ := ih hlast
    exact ⟨e :: es, bind_eq_ok_iff.mpr ⟨e, he, bind_eq_ok_iff.mpr ⟨es, hes, rfl⟩⟩⟩

/-- What grows with every effect by something has grown by all of it in the end. -/
theorem foldlM_perform_grows {β : Type} {get : Reading → List β} {f : Effect → List β}
    (hstep : ∀ {r next e}, r.perform e = .ok next → get next = get r ++ f e) {es : List Effect} :
    ∀ {r last : Reading}, es.foldlM perform r = .ok last → get last = get r ++ es.flatMap f := by
  induction es with
  | nil =>
    intro r last h
    cases h
    rw [List.flatMap_nil, List.append_nil]
  | cons e es ih =>
    intro r last h
    rw [List.foldlM_cons] at h
    obtain ⟨next, hnext, hlast⟩ := bind_eq_ok_iff.mp h
    rw [ih hlast, hstep hnext, List.flatMap_cons, List.append_assoc]

theorem params_perform {r next : Reading} {e : Effect} (h : r.perform e = .ok next) :
    next.params = r.params ++ e.params := by
  cases e with
  | declare p =>
    rw [perform, addParam] at h
    split at h <;> cases h
    rfl
  | leave place name =>
    rw [perform] at h
    split at h
    · cases h
    · split at h <;> cases h
      rw [(declarations_add _ _).params]
      exact (List.append_nil _).symm
  | _ =>
    cases h
    simp [Effect.params, (declarations_add _ _).params]

theorem usings_perform {r next : Reading} {e : Effect} (h : r.perform e = .ok next) :
    next.usings = r.usings ++ e.usings := by
  cases e with
  | declare p =>
    rw [perform, addParam] at h
    split at h <;> cases h
    exact (List.append_nil _).symm
  | leave place name =>
    rw [perform] at h
    split at h
    · cases h
    · split at h <;> cases h
      rw [(declarations_add _ _).usings]
      exact (List.append_nil _).symm
  | _ =>
    cases h
    simp [Effect.usings, (declarations_add _ _).usings]

end Reading

/-! ## Whole templates -/

/-- A template is read when all lexemes have effects, these can be had, and no element is left
open. -/
theorem ofChars_eq_ok_iff {cs : List Char} {t : Template} : ofChars cs = .ok t ↔
    ∃ es r, effects .start (lexemes cs) = .ok es ∧ es.foldlM Reading.perform .empty = .ok r ∧
      r.frames = [] ∧ t = ⟨r.params, r.usings, r.content.reverse⟩ := by
  have hfinish (r : Reading) : r.finish = .ok t ↔
      r.frames = [] ∧ t = ⟨r.params, r.usings, r.content.reverse⟩ := by
    unfold Reading.finish
    split
    · next hframes => simp [hframes, eq_comm]
    · next hframes => simp [hframes, fail]
  rw [ofChars, bind_eq_ok_iff]
  constructor
  · rintro ⟨r, hr, h⟩
    obtain ⟨es, hes⟩ := Reading.exists_effects_of_readAll hr
    rw [Reading.readAll_of_effects .empty hes] at hr
    exact ⟨es, r, hes, hr, (hfinish r).mp h⟩
  · rintro ⟨es, r, hes, hr, h⟩
    rw [← Reading.readAll_of_effects .empty hes] at hr
    exact ⟨r, hr, (hfinish r).mpr h⟩

theorem ofText_eq_ok_iff {source : String} {filename : Option String} {t : Template} :
    ofText source filename = .ok t ↔ ofChars source.toList = .ok t := by
  rw [ofText]
  cases ofChars source.toList <;> simp [reported]

/-- The parameters and modules of a template are those of its lexemes. -/
theorem declarations_of_read {cs : List Char} {t : Template} (h : ofChars cs = .ok t) :
    ∃ es, effects .start (lexemes cs) = .ok es ∧ t.params = es.flatMap Effect.params ∧
      t.usings = es.flatMap Effect.usings := by
  obtain ⟨es, r, hes, hr, -, rfl⟩ := ofChars_eq_ok_iff.mp h
  exact ⟨es, hes, Reading.foldlM_perform_grows Reading.params_perform hr,
    Reading.foldlM_perform_grows Reading.usings_perform hr⟩

/-! ## Trees -/

/-- A property that a node has when its content has it. Elements come as their tags tell: only those
that were opened and closed have content. -/
structure Builds (P : Node → Prop) : Prop where
  data : ∀ place text, P (.data place text)
  output : ∀ place value, P (.output place value)
  single : ∀ place name attributes closing, closing ≠ .paired →
    tagClosing name (closing = .slash) = closing → P (.element place name attributes [] closing)
  paired : ∀ place name attributes body, tagClosing name false = .paired → (∀ n ∈ body, P n) →
    P (.element place name attributes body .paired)

/-- The elements of an effect come as their tags tell. -/
def Effect.Fits : Effect → Prop
  | .single _ name _ closing => closing ≠ .paired ∧ tagClosing name (closing = .slash) = closing
  | .enter _ name _ => tagClosing name false = .paired
  | _ => True

theorem fits_of_effect {place : Position} {l : Lexeme} {e : Effect}
    (h : l.effect place = .ok e) : e.Fits := by
  cases yields_of_effect h with
  | @openTag tag attributes blanks slash read _ _ =>
    cases slash with
    | true => exact ⟨nofun, rfl⟩
    | false =>
      cases hclosing : tagClosing (String.ofList tag) false with
      | paired => rw [tagEffect, hclosing]; exact hclosing
      | void => rw [tagEffect, hclosing]; exact ⟨nofun, hclosing⟩
      | slash => nomatch tagClosing_eq_slash_iff.mp hclosing
  | _ => trivial

namespace Reading

/-- All nodes that were read so far have the property. -/
structure All (P : Node → Prop) (r : Reading) : Prop where
  content : ∀ n ∈ r.content, P n
  frames : ∀ frame ∈ r.frames, tagClosing frame.name false = .paired ∧ ∀ n ∈ frame.content, P n

variable {P : Node → Prop}

theorem forall_mem_push (hP : Builds P) {node : Node} (hnode : P node) {ns : List Node}
    (hns : ∀ n ∈ ns, P n) : ∀ n ∈ push node ns, P n := by
  unfold push
  split
  · obtain ⟨-, hrest⟩ := List.forall_mem_cons.mp hns
    split
    · exact List.forall_mem_cons.mpr ⟨hP.data _ _, hrest⟩
    · exact List.forall_mem_cons.mpr ⟨hnode, hns⟩
  · exact List.forall_mem_cons.mpr ⟨hnode, hns⟩

theorem All.add (hP : Builds P) {r : Reading} (hr : r.All P) {node : Node} (hnode : P node) :
    (r.add node).All P := by
  unfold Reading.add
  split
  · exact ⟨forall_mem_push hP hnode hr.content, hr.frames⟩
  · next frame frames hframes =>
    have hall := hr.frames
    rw [hframes] at hall
    obtain ⟨⟨hname, hfirst⟩, hrest⟩ := List.forall_mem_cons.mp hall
    exact ⟨hr.content,
      List.forall_mem_cons.mpr ⟨⟨hname, forall_mem_push hP hnode hfirst⟩, hrest⟩⟩

theorem All.perform (hP : Builds P) {r next : Reading} (hr : r.All P) {e : Effect} (he : e.Fits)
    (h : r.perform e = .ok next) : next.All P := by
  cases e with
  | declare p =>
    rw [Reading.perform, addParam] at h
    split at h <;> cases h
    exact ⟨hr.content, hr.frames⟩
  | use u =>
    cases h
    exact ⟨hr.content, hr.frames⟩
  | text place text =>
    cases h
    exact hr.add hP (hP.data _ _)
  | output place value =>
    cases h
    exact hr.add hP (hP.output _ _)
  | single place name attributes closing =>
    cases h
    exact hr.add hP (hP.single _ _ _ _ he.1 he.2)
  | enter place name attributes =>
    cases h
    exact ⟨hr.content, List.forall_mem_cons.mpr
      ⟨⟨he, fun n hn => absurd hn List.not_mem_nil⟩, hr.frames⟩⟩
  | leave place name =>
    -- The content of the innermost frame becomes the body of an element in the next one.
    rw [Reading.perform] at h
    split at h
    · cases h
    · next frame frames hframes =>
      have hall := hr.frames
      rw [hframes] at hall
      obtain ⟨⟨htag, hcontent⟩, hrest⟩ := List.forall_mem_cons.mp hall
      split at h
      · next hname =>
        cases h
        have houter : All P { r with frames } := ⟨hr.content, hrest⟩
        exact houter.add hP (hP.paired _ _ _ _ (hname ▸ htag)
          fun n hn => hcontent n (List.mem_reverse.mp hn))
      · cases h

theorem All.foldlM (hP : Builds P) {es : List Effect} (hes : ∀ e ∈ es, e.Fits) :
    ∀ {r last : Reading}, r.All P → es.foldlM Reading.perform r = .ok last → last.All P := by
  induction es with
  | nil =>
    intro r last hr h
    cases h
    exact hr
  | cons e es ih =>
    intro r last hr h
    obtain ⟨he, hes⟩ := List.forall_mem_cons.mp hes
    rw [List.foldlM_cons] at h
    obtain ⟨next, hnext, hlast⟩ := bind_eq_ok_iff.mp h
    exact ih hes (hr.perform hP he hnext) hlast

end Reading

/-- All nodes of a template that was read have the property. -/
theorem forall_nodes_of_read {P : Node → Prop} (hP : Builds P) {cs : List Char} {t : Template}
    (h : ofChars cs = .ok t) : ∀ n ∈ t.body, P n := by
  obtain ⟨es, r, hes, hr, -, rfl⟩ := ofChars_eq_ok_iff.mp h
  have hfits : ∀ e ∈ es, e.Fits := by
    intro e he
    obtain ⟨l, -, here, heffect⟩ := exists_effect_of_mem hes e he
    exact fits_of_effect heffect
  have hempty : Reading.All P .empty :=
    ⟨fun n hn => absurd hn List.not_mem_nil, fun frame hframe => absurd hframe List.not_mem_nil⟩
  exact fun n hn => (hempty.foldlM hP hfits hr).content n (List.mem_reverse.mp hn)

/-! ## Sources that are read -/

/-- A source that can be read, with something to be found out about its template. -/
theorem exists_of_map_eq_some {β : Type} (source : String) {f : Template → β} {b : β}
    (h : (ofChars source.toList).toOption.map f = some b) (filename : Option String) :
    ∃ t, ofText source filename = .ok t ∧ f t = b := by
  obtain ⟨t, ht, hb⟩ := Option.map_eq_some_iff.mp h
  refine ⟨t, ofText_eq_ok_iff.mpr ?_, hb⟩
  cases hread : ofChars source.toList <;> rw [hread] at ht <;> cases ht
  rfl

end Template

end LivePreview
