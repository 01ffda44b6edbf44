import LivePreview.Proofs.Steps

/-!
# Walks over a body

A walk over the tree of a body meets each text and output once and each element twice, before and
behind its content. The walk over what was read so far grows with every effect by what the effect
stands for, where text joins the text right before it. So the walk over the body of a template that
was read is what its lexemes stand for, one after another.
-/

namespace LivePreview

namespace Template

/-- What a walk meets. -/
inductive Visit where
  | data (place : Position) (text : String)
  | output (place : Position) (value : Expression)
  | enter (place : Position) (name : String) (attributes : List Attribute) (closing : Closing)
  | leave (name : String) (closing : Closing)

mutual

/-- The walk over a node: an element before its content, and again behind it. -/
def Node.visits : Node → List Visit
  | .data place text => [.data place text]
  | .output place e => [.output place e]
  | .element place name attributes body closing =>
    .enter place name attributes closing :: (bodyVisits body ++ [.leave name closing])

def bodyVisits : List Node → List Visit
  | [] => []
  | n :: ns => n.visits ++ bodyVisits ns

end

def Node.isData : Node → Bool
  | .data .. => true
  | _ => false

theorem bodyVisits_append (ns others : List Node) :
    bodyVisits (ns ++ others) = bodyVisits ns ++ bodyVisits others := by
  induction ns with
  | nil => rfl
  | cons n ns ih => rw [List.cons_append, bodyVisits, bodyVisits, ih, List.append_assoc]

theorem bodyVisits_reverse_cons (n : Node) (ns : List Node) :
    bodyVisits (n :: ns).reverse = bodyVisits ns.reverse ++ n.visits := by
  rw [List.reverse_cons, bodyVisits_append, bodyVisits, bodyVisits, List.append_nil]

/-- What an effect adds to a walk. -/
def Effect.visits : Effect → List Visit
  | .declare _ | .use _ => []
  | .text place s => [.data place s]
  | .output place e => [.output place e]
  | .single place name attributes closing =>
    [.enter place name attributes closing, .leave name closing]
  | .enter place name attributes => [.enter place name attributes .paired]
  | .leave _ name => [.leave name .paired]

/-- How a walk leaves an element right at its opening tag, if it does. -/
def tagLeave (name : String) : Closing → List Visit
  | .paired => []
  | closing => [.leave name closing]

theorem visits_tagEffect (place : Position) (name : String) (attributes : List Attribute)
    (slash : Bool) : (tagEffect place name attributes slash).visits =
      .enter place name attributes (tagClosing name slash) ::
        tagLeave name (tagClosing name slash) := by
  unfold tagEffect
  cases tagClosing name slash <;> rfl

namespace Visit

def isData : Visit → Bool
  | data .. => true
  | _ => false

/-- Go on from a walk to a visit; text joins the text right before it. -/
def join (vs : List Visit) (v : Visit) : List Visit :=
  match vs.getLast?, v with
  | some (data place text), data _ more => vs.dropLast ++ [data place (text ++ more)]
  | _, v => vs ++ [v]

variable {v : Visit}

theorem join_of_not_data (vs : List Visit) (h : v.isData = false) : join vs v = vs ++ [v] := by
  cases v with
  | data place text => cases h
  | _ => rw [join]; simp

/-- Text behind something other than text stands by itself. -/
theorem join_concat_of_not_data (vs : List Visit) {w : Visit} (h : w.isData = false) :
    join (vs ++ [w]) v = vs ++ [w] ++ [v] := by
  cases w with
  | data place text => cases h
  | _ => simp [join]

theorem join_concat_data (vs : List Visit) (place other : Position) (text more : String) :
    join (vs ++ [data place text]) (data other more) = vs ++ [data place (text ++ more)] := by
  simp [join]

/-- Either a walk ends with text and text is joined to it, or the walk goes on by one visit. -/
theorem join_cases (vs : List Visit) (v : Visit) :
    (∃ others place text other more, vs = others ++ [data place text] ∧ v = data other more ∧
      join vs v = others ++ [data place (text ++ more)]) ∨
    (join vs v = vs ++ [v] ∧ ∀ w ∈ vs.getLast?, w.isData = false ∨ v.isData = false) := by
  cases hv : v.isData with
  | false => exact .inr ⟨join_of_not_data vs hv, fun _ _ => .inr rfl⟩
  | true =>
    rcases List.eq_nil_or_concat vs with rfl | ⟨others, w, rfl⟩
    · exact .inr ⟨rfl, fun w hw => absurd hw (by simp)⟩
    · rw [List.concat_eq_append]
      cases hw : w.isData with
      | false =>
        refine .inr ⟨join_concat_of_not_data others hw, fun u hu => .inl ?_⟩
        rw [List.getLast?_concat, Option.mem_some_iff] at hu
        rw [← hu, hw]
      | true =>
        cases w with
        | data place text =>
          cases v with
          | data other more =>
            exact .inl ⟨others, place, text, other, more, rfl, rfl, join_concat_data ..⟩
          | _ => cases hv
        | _ => cases hw

/-- Only the last visit of a walk matters for what follows. -/
theorem join_append (vs : List Visit) {ws : List Visit} (h : ws ≠ []) :
    join (vs ++ ws) v = vs ++ join ws v := by
  have hlast : (vs ++ ws).getLast? = ws.getLast? := by
    rw [List.getLast?_append, Option.or_of_isSome (List.getLast?_isSome.mpr h)]
  unfold join
  rw [hlast, List.dropLast_append_of_ne_nil h]
  split
  · rw [List.append_assoc]
  · rw [List.append_assoc]

theorem foldl_join_of_not_data {vs : List Visit} (h : ∀ v ∈ vs, v.isData = false) :
    ∀ ws : List Visit, vs.foldl join ws = ws ++ vs := by
  induction vs with
  | nil => exact fun ws => (List.append_nil ws).symm
  | cons v vs ih =>
    intro ws
    obtain ⟨hv, hvs⟩ := List.forall_mem_cons.mp h
    rw [List.foldl_cons, join_of_not_data _ hv, ih hvs, List.append_assoc, List.singleton_append]

/-- Of what joined text says like its parts, joining loses nothing. -/
theorem flatMap_foldl_join {β : Type} {f : Visit → List β}
    (hf : ∀ place other text more,
      f (data place (text ++ more)) = f (data place text) ++ f (data other more))
    (vs : List Visit) : ∀ ws : List Visit,
      (vs.foldl join ws).flatMap f = ws.flatMap f ++ vs.flatMap f := by
  have hjoin (ws : List Visit) (v : Visit) : (join ws v).flatMap f = ws.flatMap f ++ f v := by
    rcases join_cases ws v with ⟨others, place, text, other, more, rfl, rfl, heq⟩ | ⟨heq, -⟩
    · simp [heq, hf place other]
    · simp [heq]
  induction vs with
  | nil => exact fun ws => (List.append_nil _).symm
  | cons v vs ih =>
    intro ws
    rw [List.foldl_cons, ih, hjoin, List.flatMap_cons, List.append_assoc]

end Visit

/-! ## What was read so far -/

/-- The walk over an open element, as far as it goes. -/
def Frame.visits (frame : Frame) : List Visit :=
  .enter frame.place frame.name frame.attributes .paired :: bodyVisits frame.content.reverse

namespace Reading

/-- The walk over all that was read, from the nodes outside of all elements inwards. -/
def visits (r : Reading) : List Visit :=
  bodyVisits r.content.reverse ++ r.frames.reverse.flatMap Frame.visits

theorem visits_cons {r : Reading} (frame : Frame) (frames : List Frame) :
    visits { r with frames := frame :: frames } = visits { r with frames } ++ frame.visits := by
  simp [visits]

theorem visits_push_data (place : Position) (text : String) (ns : List Node) :
    bodyVisits (push (.data place text) ns).reverse =
      Visit.join (bodyVisits ns.reverse) (.data place text) := by
  cases ns with
  | nil => rfl
  | cons n ns =>
    rw [bodyVisits_reverse_cons]
    cases n with
    | data first before =>
      rw [push, bodyVisits_reverse_cons, Node.visits, Node.visits, Visit.join_concat_data]
    | output first e =>
      rw [push, bodyVisits_reverse_cons, bodyVisits_reverse_cons, Node.visits, Node.visits,
        Visit.join_concat_of_not_data _ rfl]
      · exact nofun
    | element first name attributes body closing =>
      rw [push, bodyVisits_reverse_cons, bodyVisits_reverse_cons, Node.visits, Node.visits,
        ← List.cons_append, ← List.append_assoc, Visit.join_concat_of_not_data _ rfl]
      · exact nofun

theorem push_of_not_data {node : Node} (hnode : node.isData = false) (ns : List Node) :
    push node ns = node :: ns := by
  unfold push
  split
  · split
    · cases hnode
    · rfl
  · rfl

theorem visits_add_data (r : Reading) (place : Position) (text : String) :
    (r.add (.data place text)).visits = Visit.join r.visits (.data place text) := by
  unfold add
  split
  · next hframes => simp [visits, hframes, visits_push_data]
  · next frame frames hframes =>
    have hr : r = { r with frames := frame :: frames } := by rw [← hframes]
    have hframe : Frame.visits { frame with content := push (.data place text) frame.content } =
        Visit.join frame.visits (.data place text) := by
      rw [Frame.visits, Frame.visits, visits_push_data, ← List.singleton_append]
      by_cases hempty : bodyVisits frame.content.reverse = []
      · rw [hempty]
        rfl
      · rw [← Visit.join_append _ hempty]
        rfl
    have hnonempty : frame.visits ≠ [] := List.cons_ne_nil _ _
    rw [visits_cons, hframe, ← Visit.join_append _ hnonempty, ← visits_cons, ← hr]

theorem visits_add_of_not_data (r : Reading) {node : Node} (hnode : node.isData = false) :
    (r.add node).visits = r.visits ++ node.visits := by
  unfold add
  rw [push_of_not_data hnode]
  split
  · next hframes => simp [visits, hframes, bodyVisits_append, bodyVisits]
  · next frame frames hframes =>
    have hr : r = { r with frames := frame :: frames } := by rw [← hframes]
    have hframe : Frame.visits { frame with content := node :: frame.content } =
        frame.visits ++ node.visits := by
      rw [Frame.visits, Frame.visits, bodyVisits_reverse_cons, List.cons_append]
    rw [push_of_not_data hnode, visits_cons, hframe, ← List.append_assoc, ← visits_cons, ← hr]

/-- An effect adds to the walk what it stands for. -/
theorem visits_perform {r next : Reading} {e : Effect} (h : r.perform e = .ok next) :
    next.visits = e.visits.foldl Visit.join r.visits := by
  cases e with
  | declare p =>
    rw [perform, addParam] at h
    split at h
    · cases h
    · cases h
      rfl
  | use u =>
    cases h
    rfl
  | text place text =>
    cases h
    exact visits_add_data r place text
  | output place e =>
    cases h
    rw [visits_add_of_not_data r rfl]
    exact (Visit.join_of_not_data _ rfl).symm
  | single place name attributes closing =>
    cases h
    have hplain : ∀ v ∈ (Effect.single place name attributes closing).visits, v.isData = false := by
      simp [Effect.visits, Visit.isData]
    exact (visits_add_of_not_data r rfl).trans (Visit.foldl_join_of_not_data hplain _).symm
  | enter place name attributes =>
    cases h
    rw [visits_cons]
    exact (Visit.join_of_not_data _ rfl).symm
  | leave place name =>
    rw [perform] at h
    split at h
    · cases h
    · next frame frames hframes =>
      split at h
      · next hname =>
        cases h
        have hr : r = { r with frames := frame :: frames } := by rw [← hframes]
        have hvisits : r.visits = visits { r with frames } ++ frame.visits := by
          rw [← visits_cons, ← hr]
        rw [visits_add_of_not_data _ rfl, hvisits, ← hname]
        exact .symm <| (Visit.join_of_not_data _ rfl).trans (List.append_assoc ..)
      · cases h

theorem visits_foldlM {es : List Effect} : ∀ {r last : Reading},
    es.foldlM perform r = .ok last →
      last.visits = (es.flatMap Effect.visits).foldl Visit.join r.visits := by
  induction es with
  | nil =>
    intro r last h
    cases h
    rfl
  | cons e es ih =>
    intro r last h
    rw [List.foldlM_cons] at h
    obtain ⟨next, hnext, hlast⟩ := bind_eq_ok_iff.mp h
    rw [ih hlast, visits_perform hnext, List.flatMap_cons, List.foldl_append]

end Reading

/-- The walk over the body of a template that was read is what the effects of its lexemes add, one
after another. -/
theorem visits_of_read {cs : List Char} {t : Template} (h : ofChars cs = .ok t) :
    ∃ es, effects .start (lexemes cs) = .ok es ∧
      bodyVisits t.body = (es.flatMap Effect.visits).foldl Visit.join [] := by
  obtain ⟨es, r, hes, hr, hframes, rfl⟩ := ofChars_eq_ok_iff.mp h
  refine ⟨es, hes, ?_⟩
  have hvisits := Reading.visits_foldlM hr
  rw [Reading.visits, hframes] at hvisits
  exact (List.append_nil _).symm.trans hvisits

/-- A page with lexemes of all kinds: text on both sides of directives and of a comment, outputs,
tags with attributes, without content, and in one another. -/
def mixedPage : String :=
  "a\n@using b\n@param n: int\n<!-- c -->" ++
    "<p k=\"\x7b\x7b x \x7d\x7d\" l='d'>\x7b\x7b y \x7d\x7d<br>e<Card /></p>"

end Template

end LivePreview
