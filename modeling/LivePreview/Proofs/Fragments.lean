import Mathlib.Data.List.SplitBy
import LivePreview.Proofs.Closings
import LivePreview.Proofs.Hygiene

/-!
# Fragments of a body

Taken node by node, a body is a sequence of fragments: static text, and slots for the values that are
appended, with the function of its content before the slot of a component that has any. What is
written for a body is this sequence with every run of static text appended in one piece. So the slots
and their order are kept, no empty text is appended, and between two texts there is always a value.
-/

namespace LivePreview.Component

open LivePreview.Code (Expr Statement)
open LivePreview.Template (Attribute Node)

/-- A piece of the output of a body. -/
inductive Fragment where
  | static (text : String)
  /-- A value to append, and the function that its content needs. -/
  | slot (content : Option Statement) (value : Expr)

namespace Fragment

def isStatic : Fragment → Bool
  | static _ => true
  | slot _ _ => false

/-- The static text of a fragment; a slot has none. -/
def text : Fragment → String
  | static s => s
  | slot _ _ => ""

/-- The statements of a slot. -/
def statements : Fragment → List Statement
  | static _ => []
  | slot content value => content.toList ++ [Draft.appending value]

/-- Static text and static text behind it belong to one run. -/
def joins (f g : Fragment) : Bool := f.isStatic && g.isStatic

end Fragment

/-- Append a text, if there is any. -/
def appendText (s : String) : List Statement :=
  if s.isEmpty then [] else [Draft.appending (.ofText s)]

/-- A run of static text in one piece, or a slot as it is. -/
def runStatements (run : List Fragment) : List Statement :=
  appendText (String.join (run.map Fragment.text)) ++ run.flatMap Fragment.statements

/-- A sequence with every longest run of static text in one piece. -/
def coalesce (fs : List Fragment) : List Statement :=
  (fs.splitBy Fragment.joins).flatMap runStatements

/-! ## The sequence of a body -/

mutual

/-- How many functions for content a node asks for. -/
def nodeContents (c : Context) : Node → Nat
  | .data _ _ | .output _ _ => 0
  | .element _ name _ body closing =>
    match binding? c name with
    | none => if closing = .slash then 0 else bodyContents c body
    | some _ => if body.isEmpty then 0 else bodyContents c body + 1

def bodyContents (c : Context) : List Node → Nat
  | [] => 0
  | n :: ns => nodeContents c n + bodyContents c ns

end

def attributeFragments (a : Attribute) : List Fragment :=
  match a.value with
  | .bare => [.static (" " ++ a.name)]
  | .literal s => [.static (" " ++ a.name ++ "=\"" ++ s ++ "\"")]
  | .expression e =>
    [.static (" " ++ a.name ++ "=\""), .slot none (Progress.escaped e.tree), .static "\""]

/-- The opening tag of markup up to its end. -/
def openingFragments (name : String) (attributes : List Attribute) : List Fragment :=
  .static ("<" ++ name) :: attributes.flatMap attributeFragments

/-- The function for the content of a component. -/
def contentFunction (number : Nat) (body : List Statement) : Statement :=
  .function (contentName number) [] (bufferStart ++ body ++ [bufferEnd])

mutual

/-- The fragments of a node, when there are `number` functions for content before it. -/
def nodeFragments (c : Context) (number : Nat) : Node → Except HostFault (List Fragment)
  | .data _ text => .ok [.static text]
  | .output _ e => .ok [.slot none (Progress.escaped e.tree)]
  | .element _ name attributes body closing =>
    match binding? c name with
    | none =>
      if closing = .slash then .ok (openingFragments name attributes ++ [.static " />"])
      else do
        let content ← bodyFragments c number body
        return openingFragments name attributes ++ .static ">" :: content ++
          if body.isEmpty && Template.isVoidTag name then [] else [.static ("</" ++ name ++ ">")]
    | some b => do
      let target ← targetOf name b
      let content ← bodyFragments c (number + 1) body
      let function := contentName (number + 1)
      return if body.isEmpty then [.slot none (renderCall target attributes (.constant .none))]
        else [.slot (some (contentFunction (number + 1) (coalesce content)))
          (renderCall target attributes (.name function))]

def bodyFragments (c : Context) (number : Nat) : List Node → Except HostFault (List Fragment)
  | [] => .ok []
  | n :: ns => do
    let first ← nodeFragments c number n
    let rest ← bodyFragments c (number + nodeContents c n) ns
    return first ++ rest

end

/-! ## Runs of static text -/

section Runs

variable {run : List Fragment}

/-- A sequence is static text throughout, or static text up to a slot and a sequence behind it. -/
theorem slots_induction {P : List Fragment → Prop}
    (static : ∀ run, (∀ f ∈ run, f.isStatic = true) → P run)
    (slot : ∀ run content value rest, (∀ f ∈ run, f.isStatic = true) → P rest →
      P (run ++ .slot content value :: rest)) (fs : List Fragment) : P fs := by
  have hbehind : ∀ run, (∀ f ∈ run, f.isStatic = true) → P (run ++ fs) := by
    induction fs with
    | nil =>
      intro run hrun
      rw [List.append_nil]
      exact static run hrun
    | cons f fs ih =>
      intro run hrun
      cases f with
      | static s =>
        have hnext := ih (run ++ [Fragment.static s])
          (List.forall_mem_append.mpr ⟨hrun, List.forall_mem_singleton.mpr rfl⟩)
        rwa [List.append_assoc] at hnext
      | slot content value =>
        exact slot run content value fs hrun (ih [] fun f hf => absurd hf List.not_mem_nil)
  exact hbehind [] fun f hf => absurd hf List.not_mem_nil

theorem flatMap_statements_eq_nil (hrun : ∀ f ∈ run, f.isStatic = true) :
    run.flatMap Fragment.statements = [] := by
  refine List.flatMap_eq_nil_iff.mpr fun f hf => ?_
  cases f with
  | static s => rfl
  | slot content value => cases hrun _ hf

theorem isChain_joins (hrun : ∀ f ∈ run, f.isStatic = true) :
    run.IsChain fun f g => f.joins g = true := by
  induction run with
  | nil => exact .nil
  | cons f run ih =>
    obtain ⟨hf, hrun⟩ := List.forall_mem_cons.mp hrun
    refine List.isChain_cons.mpr ⟨fun g hg => ?_, ih hrun⟩
    rw [Fragment.joins, hf, hrun g (List.mem_of_mem_head? hg)]
    rfl

/-- Static text throughout is a single run. -/
theorem coalesce_static (hrun : ∀ f ∈ run, f.isStatic = true) :
    coalesce run = appendText (String.join (run.map Fragment.text)) := by
  cases run with
  | nil => rfl
  | cons f run =>
    rw [coalesce, List.splitBy_of_isChain (List.cons_ne_nil f run) (isChain_joins hrun),
      List.flatMap_singleton, runStatements, flatMap_statements_eq_nil hrun, List.append_nil]

/-- A slot ends the run before it and belongs to none. -/
theorem coalesce_slot (hrun : ∀ f ∈ run, f.isStatic = true) (content : Option Statement)
    (value : Expr) (rest : List Fragment) :
    coalesce (run ++ .slot content value :: rest) =
      appendText (String.join (run.map Fragment.text)) ++ content.toList ++
        Draft.appending value :: coalesce rest := by
  have hbefore : ∀ f ∈ run.getLast?, f.joins (.slot content value) = false :=
    fun f _ => Bool.and_false _
  have hbehind : ∀ f ∈ [Fragment.slot content value].getLast?, ∀ g ∈ rest.head?,
      f.joins g = false := by
    intro f hf g _
    obtain rfl : f = .slot content value := by simpa [eq_comm] using hf
    rfl
  have hsplit : (run ++ .slot content value :: rest).splitBy Fragment.joins =
      run.splitBy Fragment.joins ++ ([[.slot content value]] ++ rest.splitBy Fragment.joins) := by
    rw [List.splitBy_append_cons rest hbefore]
    exact congrArg _ (List.splitBy_append hbehind)
  rw [coalesce, hsplit, List.flatMap_append, List.flatMap_append, ← coalesce, ← coalesce,
    coalesce_static hrun]
  simp [runStatements, Fragment.statements, Fragment.text, appendText]

end Runs

/-! ## Drafts -/

namespace Draft

/-- Write a fragment. -/
def add (d : Draft) : Fragment → Draft
  | .static s => d.text s
  | .slot none value => d.value value
  | .slot (some content) value => (d.statement content).value value

theorem flush_of_pending {d : Draft} (h : d.pending = "") : d.flush = d := by
  rw [flush, h]
  rfl

theorem statement_eq (d : Draft) (s : Statement) :
    d.statement s = ⟨s :: d.flush.statements, ""⟩ := by
  rw [statement, pending_flush]

/-- A slot has the text before it written first. -/
theorem add_slot (d : Draft) (content : Option Statement) (e : Expr) :
    d.add (.slot content e) = ⟨appending e :: (content.toList ++ d.flush.statements), ""⟩ := by
  cases content with
  | none => exact statement_eq d _
  | some content =>
    rw [add, value, statement_eq, flush_of_pending, statement_eq]
    · rfl
    · rw [statement_eq]

theorem statements_flush (d : Draft) :
    d.flush.statements.reverse = d.statements.reverse ++ appendText d.pending := by
  unfold flush appendText
  split
  · exact (List.append_nil _).symm
  · exact List.reverse_cons

/-- Writing fragments one after another gathers their static text; `run` is what waits to be
written. -/
theorem finish_foldl_add (fs : List Fragment) : ∀ (ss : List Statement) (run : List Fragment),
    (∀ f ∈ run, f.isStatic = true) →
      (fs.foldl add ⟨ss, String.join (run.map Fragment.text)⟩).finish =
        ss.reverse ++ coalesce (run ++ fs) := by
  induction fs with
  | nil =>
    intro ss run hrun
    rw [List.foldl_nil, finish, statements_flush, List.append_nil, coalesce_static hrun]
  | cons f fs ih =>
    intro ss run hrun
    cases f with
    | static s =>
      have hjoined : String.join (run.map Fragment.text) ++ s =
          String.join ((run ++ [Fragment.static s]).map Fragment.text) := by
        simp [String.join_append, Fragment.text]
      have hstatic : ∀ f ∈ run ++ [Fragment.static s], f.isStatic = true :=
        List.forall_mem_append.mpr ⟨hrun, List.forall_mem_singleton.mpr rfl⟩
      rw [List.foldl_cons, add, text, hjoined, ih ss _ hstatic, List.append_assoc]
      rfl
    | slot content value =>
      have hnext := ih (appending value :: (content.toList ++
        (flush ⟨ss, String.join (run.map Fragment.text)⟩).statements)) []
        (fun f hf => absurd hf List.not_mem_nil)
      rw [List.foldl_cons, add_slot, coalesce_slot hrun]
      refine hnext.trans ?_
      rw [List.reverse_cons, List.reverse_append, statements_flush, List.nil_append]
      cases content <;> simp

theorem finish_of_fragments {d : Draft} {fs : List Fragment} (h : d = fs.foldl add .empty) :
    d.finish = coalesce fs := by
  rw [h]
  exact finish_foldl_add fs [] [] fun f hf => absurd hf List.not_mem_nil

end Draft

/-! ## Writing a body -/

/-- A body that is written from `p` on, beside its fragments: both stop for the same reason, or the
fragments are written one after another and `count` functions for content are added. -/
def Follows (p : Progress) (count : Nat) (written : Except HostFault Progress)
    (fragments : Except HostFault (List Fragment)) : Prop :=
  (∃ fault, written = .error fault ∧ fragments = .error fault) ∨
    ∃ q fs, written = .ok q ∧ fragments = .ok fs ∧ q.draft = fs.foldl Draft.add p.draft ∧
      q.findings.contents = p.findings.contents + count

/-- One body goes on from another one, or is what that one is made of. -/
theorem Follows.bind {p start : Progress} {k count : Nat} {written : Except HostFault Progress}
    {fragments : Except HostFault (List Fragment)} {write : Progress → Except HostFault Progress}
    {fragment : List Fragment → Except HostFault (List Fragment)}
    (h : Follows p k written fragments)
    (hnext : ∀ q fs, q.draft = fs.foldl Draft.add p.draft →
      q.findings.contents = p.findings.contents + k → Follows start count (write q) (fragment fs)) :
    Follows start count (written >>= write) (fragments >>= fragment) := by
  rcases h with ⟨fault, rfl, rfl⟩ | ⟨q, fs, rfl, rfl, hdraft, hcontents⟩
  · exact .inl ⟨fault, rfl, rfl⟩
  · exact hnext q fs hdraft hcontents

/-- Both stop where a tag has no target. -/
theorem follows_of_target {p : Progress} {count : Nat} {target : Except HostFault Expr}
    {write : Expr → Except HostFault Progress} {fragment : Expr → Except HostFault (List Fragment)}
    (h : ∀ e, Follows p count (write e) (fragment e)) :
    Follows p count (target >>= write) (target >>= fragment) := by
  cases target with
  | error fault => exact .inl ⟨fault, rfl, rfl⟩
  | ok e => exact h e

theorem draft_openMarkup (p : Progress) (name : String) (attributes : List Attribute) :
    (p.openMarkup name attributes).draft =
      (openingFragments name attributes).foldl Draft.add p.draft := by
  have hmarkup (q : Progress) (a : Attribute) :
      (q.attributeMarkup a).draft = (attributeFragments a).foldl Draft.add q.draft := by
    unfold Progress.attributeMarkup attributeFragments
    cases a.value <;> rfl
  have hfold : ∀ q : Progress, (attributes.foldl Progress.attributeMarkup q).draft =
      (attributes.flatMap attributeFragments).foldl Draft.add q.draft := by
    induction attributes with
    | nil => exact fun _ => rfl
    | cons a attributes ih =>
      intro q
      rw [List.foldl_cons, ih, hmarkup, List.flatMap_cons, List.foldl_append]
  exact hfold _

section Writing

variable {c : Context} {own : String}

mutual

theorem follows_node (n : Node) (p : Progress) : Follows p (nodeContents c n)
    (writeNode c own p n) (nodeFragments c p.findings.contents n) := by
  cases n with
  | data place text =>
    rw [writeNode, nodeFragments]
    exact .inr ⟨_, _, rfl, rfl, rfl, rfl⟩
  | output place e =>
    rw [writeNode, nodeFragments]
    exact .inr ⟨_, _, rfl, rfl, rfl, rfl⟩
  | element place name attributes body closing =>
    have hinside (p : Progress) : Follows p (bodyContents c body) (writeNodes c own p body)
        (bodyFragments c p.findings.contents body) := follows_body body p
    rw [writeNode, nodeFragments, nodeContents]
    cases hbinding : binding? c name with
    | none =>
      dsimp only
      generalize hnoted : (if Template.isComponentTag name then
          { p with findings := p.findings.note [.unresolvedComponent place name] }
        else p) = noted
      have hsame : noted.draft = p.draft ∧ noted.findings.contents = p.findings.contents := by
        rw [← hnoted]
        split <;> exact ⟨rfl, rfl⟩
      have hopened := draft_openMarkup noted name attributes
      have hcontents : (noted.openMarkup name attributes).findings.contents =
          p.findings.contents := by
        rw [findings_openMarkup, hsame.2]
      rw [hsame.1] at hopened
      generalize noted.openMarkup name attributes = opened at hopened hcontents ⊢
      have htext (s : String) : (opened.text s).draft =
          (openingFragments name attributes ++ [Fragment.static s]).foldl Draft.add p.draft := by
        rw [List.foldl_append, ← hopened]
        rfl
      by_cases hslash : closing = .slash
      · simp only [hslash, if_true]
        exact .inr ⟨_, _, rfl, rfl, htext _, hcontents⟩
      · simp only [hslash, if_false]
        cases hvoid : body.isEmpty && Template.isVoidTag name with
        | true =>
          obtain rfl := List.isEmpty_iff.mp (Bool.and_eq_true_iff.mp hvoid).1
          simp only [if_true, bodyFragments, bodyContents]
          exact .inr ⟨_, _, rfl, rfl, by rw [List.append_nil, htext], hcontents⟩
        | false =>
          have hbody := hinside (opened.text ">")
          rw [show (opened.text ">").findings.contents = p.findings.contents from hcontents] at hbody
          refine hbody.bind fun q fs hdraft hcount => .inr ⟨_, _, rfl, rfl, ?_, hcount.trans ?_⟩
          · rw [htext] at hdraft
            simp only [List.foldl_append, List.foldl_cons, List.foldl_nil] at hdraft
            simp [Progress.text, hdraft, Draft.add]
          · simp [Progress.text, hcontents]
    | some b =>
      dsimp only
      have hused : (p.findings.use own place name attributes b).contents =
          p.findings.contents := by rw [Findings.use_eq]
      generalize p.findings.use own place name attributes b = used at hused ⊢
      refine follows_of_target fun target => ?_
      cases body with
      | nil => exact .inr ⟨_, _, rfl, rfl, rfl, hused⟩
      | cons n ns =>
        have hbody := hinside ⟨.empty, { used with contents := used.contents + 1 }⟩
        simp only [hused] at hbody
        simp only [hused, List.isEmpty_cons, Bool.false_eq_true, if_false]
        refine hbody.bind fun q fs hdraft hcount => .inr ⟨_, _, rfl, rfl, ?_, ?_⟩
        · simp only [Progress.value, Draft.finish_of_fragments hdraft]
          rfl
        · exact hcount.trans (Nat.add_right_comm ..)

theorem follows_body (ns : List Node) (p : Progress) : Follows p (bodyContents c ns)
    (writeNodes c own p ns) (bodyFragments c p.findings.contents ns) := by
  cases ns with
  | nil =>
    rw [writeNodes, bodyFragments]
    exact .inr ⟨_, _, rfl, rfl, rfl, rfl⟩
  | cons n ns =>
    rw [writeNodes, bodyFragments, bodyContents]
    refine (follows_node n p).bind fun q fs hdraft hcount => ?_
    rw [← hcount]
    rcases follows_body ns q with
      ⟨fault, hwritten, hfragments⟩ | ⟨r, gs, hwritten, hfragments, hrest, hall⟩
    · rw [hwritten, hfragments]
      exact .inl ⟨fault, rfl, rfl⟩
    · rw [hwritten, hfragments]
      refine .inr ⟨r, _, rfl, rfl, ?_, ?_⟩
      · rw [hrest, hdraft, List.foldl_append]
      · rw [hall, hcount, Nat.add_assoc]

end

end Writing

/-! ## What gathering keeps -/

/-- Whether a statement appends static text. -/
def appendsText : Statement → Bool
  | .expression (.call (.name "_append") [.constant (.text _ _)] []) => true
  | _ => false

def isFunction : Statement → Bool
  | .function _ _ _ => true
  | _ => false

/-- The statements of a sequence keep its slots in their order, append no empty text, and have no two
texts next to each other, not even with a function between them. -/
structure Gathered (fs : List Fragment) (ss : List Statement) : Prop where
  slots : ss.filter (!appendsText ·) = fs.flatMap Fragment.statements
  filled : Draft.appending (.ofText "") ∉ ss
  apart : (ss.filter (!isFunction ·)).IsChain fun s t =>
    ¬(appendsText s = true ∧ appendsText t = true)

/-- A slot is a call behind a function or nothing. -/
def Fragment.Proper : Fragment → Prop
  | static _ => True
  | slot content value =>
    (∀ s ∈ content, isFunction s = true) ∧ ∃ function args, value = Draft.callOf function args

theorem appendText_cases (s : String) : appendText s = [] ∨
    s ≠ "" ∧ appendText s = [Draft.appending (.ofText s)] := by
  unfold appendText
  split
  · exact .inl rfl
  · next h => exact .inr ⟨fun hs => h (String.isEmpty_iff.mpr hs), rfl⟩

theorem not_appendsText_of_isFunction {s : Statement} (h : isFunction s = true) :
    appendsText s = false := by
  cases s with
  | function name params body => rfl
  | _ => cases h

theorem appending_ofText_ne {s : String} (h : s ≠ "") :
    Draft.appending (.ofText s) ≠ Draft.appending (.ofText "") := by
  intro heq
  simp only [Draft.appending, Draft.callOf, Expr.ofText, Statement.expression.injEq,
    Expr.call.injEq, List.cons.injEq, Expr.constant.injEq, Code.Constant.text.injEq, and_true,
    true_and] at heq
  refine h (String.toList_eq_nil_iff.mp ?_)
  simpa [Text.Points.ofString, Text.Points.ofChars] using heq

/-- What is appended of a text is kept apart from nothing. -/
theorem gathered_text (s : String) {run : List Fragment} (hrun : ∀ f ∈ run, f.isStatic = true) :
    Gathered run (appendText s) := by
  rcases appendText_cases s with h | ⟨hs, h⟩
  · rw [h]
    exact ⟨(flatMap_statements_eq_nil hrun).symm, List.not_mem_nil, .nil⟩
  · rw [h]
    exact ⟨(flatMap_statements_eq_nil hrun).symm,
      fun hmem => appending_ofText_ne hs (List.mem_singleton.mp hmem).symm, .singleton _⟩

/-- A text, then a slot, and what was gathered behind it. -/
theorem gathered_slot (s : String) {run : List Fragment} (hrun : ∀ f ∈ run, f.isStatic = true)
    {content : Option Statement} {value : Expr} (hproper : (Fragment.slot content value).Proper)
    {fs : List Fragment} {ss : List Statement} (h : Gathered fs ss) :
    Gathered (run ++ .slot content value :: fs)
      (appendText s ++ content.toList ++ Draft.appending value :: ss) := by
  obtain ⟨hcontent, function, args, rfl⟩ := hproper
  have hvalue : appendsText (Draft.appending (Draft.callOf function args)) = false := rfl
  have hslot : isFunction (Draft.appending (Draft.callOf function args)) = false := rfl
  obtain ⟨htextSlots, htextFilled, htextApart⟩ := gathered_text s hrun
  have hkept : content.toList.filter (!appendsText ·) = content.toList :=
    List.filter_eq_self.mpr fun s hs => by
      rw [not_appendsText_of_isFunction (hcontent s (Option.mem_toList.mp hs))]
      rfl
  have hdropped : content.toList.filter (!isFunction ·) = [] :=
    List.filter_eq_nil_iff.mpr fun s hs => by
      rw [hcontent s (Option.mem_toList.mp hs)]
      exact Bool.false_ne_true
  constructor
  · rw [List.filter_append, List.filter_append, htextSlots, hkept, List.filter_cons, hvalue, h.slots,
      List.flatMap_append, List.flatMap_cons, Fragment.statements]
    simp
  · simp only [List.mem_append, List.mem_cons, not_or]
    have hfilled : Draft.appending (.ofText "") ≠ Draft.appending (Draft.callOf function args) := by
      simp [Draft.appending, Draft.callOf, Expr.ofText]
    refine ⟨⟨htextFilled, fun hmem => ?_⟩, hfilled, h.filled⟩
    cases hcontent _ (Option.mem_toList.mp hmem)
  · rw [List.filter_append, List.filter_append, hdropped, List.append_nil, List.filter_cons, hslot]
    refine List.isChain_append.mpr ⟨htextApart, List.isChain_cons.mpr ⟨fun t _ => ?_, h.apart⟩,
      fun t _ u hu => ?_⟩
    · rw [hvalue]
      exact fun hboth => absurd hboth.1 Bool.false_ne_true
    · obtain rfl := Option.some.inj hu
      rw [hvalue]
      exact fun hboth => absurd hboth.2 Bool.false_ne_true

/-- What is gathered of a sequence keeps its slots, and keeps text apart. -/
theorem gathered_coalesce (fs : List Fragment) :
    (∀ f ∈ fs, f.Proper) → Gathered fs (coalesce fs) := by
  induction fs using slots_induction with
  | static run hrun =>
    intro _
    rw [coalesce_static hrun]
    exact gathered_text _ hrun
  | slot run content value rest hrun ih =>
    intro hproper
    obtain ⟨-, hslot⟩ := List.forall_mem_append.mp hproper
    obtain ⟨hslot, hrest⟩ := List.forall_mem_cons.mp hslot
    rw [coalesce_slot hrun]
    exact gathered_slot _ hrun hslot (ih hrest)

/-! ## The slots of a body -/

theorem proper_call (function : String) (args : List Expr) :
    (Fragment.slot none (Draft.callOf function args)).Proper := ⟨nofun, function, args, rfl⟩

theorem proper_opening (name : String) (attributes : List Attribute) :
    ∀ f ∈ openingFragments name attributes, f.Proper := by
  refine List.forall_mem_cons.mpr ⟨trivial, fun f hf => ?_⟩
  obtain ⟨a, -, hf⟩ := List.mem_flatMap.mp hf
  unfold attributeFragments at hf
  split at hf
  · rw [List.mem_singleton.mp hf]
    trivial
  · rw [List.mem_singleton.mp hf]
    trivial
  · simp only [List.mem_cons, List.not_mem_nil, or_false] at hf
    rcases hf with rfl | rfl | rfl
    · trivial
    · exact proper_call _ _
    · trivial

section Slots

variable {c : Context}

mutual

theorem proper_node (n : Node) {number : Nat} {fs : List Fragment}
    (h : nodeFragments c number n = .ok fs) : ∀ f ∈ fs, f.Proper := by
  cases n with
  | data place text =>
    rw [nodeFragments] at h
    cases h
    exact List.forall_mem_singleton.mpr trivial
  | output place e =>
    rw [nodeFragments] at h
    cases h
    exact List.forall_mem_singleton.mpr (proper_call _ _)
  | element place name attributes body closing =>
    have hinside {number : Nat} {fs : List Fragment} (h : bodyFragments c number body = .ok fs) :
        ∀ f ∈ fs, f.Proper := proper_body body h
    have hopening := proper_opening name attributes
    have hstatic (s : String) : (Fragment.static s).Proper := trivial
    rw [nodeFragments] at h
    cases hbinding : binding? c name with
    | none =>
      simp only [hbinding] at h
      split at h
      · cases h
        exact List.forall_mem_append.mpr ⟨hopening, List.forall_mem_singleton.mpr (hstatic _)⟩
      · obtain ⟨content, hcontent, h⟩ := bind_eq_ok_iff.mp h
        cases h
        refine List.forall_mem_append.mpr ⟨List.forall_mem_append.mpr
          ⟨hopening, List.forall_mem_cons.mpr ⟨hstatic _, hinside hcontent⟩⟩, ?_⟩
        split
        · exact fun f hf => absurd hf List.not_mem_nil
        · exact List.forall_mem_singleton.mpr (hstatic _)
    | some b =>
      simp only [hbinding] at h
      obtain ⟨target, -, h⟩ := bind_eq_ok_iff.mp h
      obtain ⟨content, -, h⟩ := bind_eq_ok_iff.mp h
      cases h
      split
      · exact List.forall_mem_singleton.mpr (proper_call _ _)
      · refine List.forall_mem_singleton.mpr ⟨fun s hs => ?_, _, _, rfl⟩
        cases hs
        rfl

theorem proper_body (ns : List Node) {number : Nat} {fs : List Fragment}
    (h : bodyFragments c number ns = .ok fs) : ∀ f ∈ fs, f.Proper := by
  cases ns with
  | nil =>
    rw [bodyFragments] at h
    cases h
    exact fun f hf => absurd hf List.not_mem_nil
  | cons n ns =>
    rw [bodyFragments] at h
    obtain ⟨first, hfirst, h⟩ := bind_eq_ok_iff.mp h
    obtain ⟨rest, hrest, h⟩ := bind_eq_ok_iff.mp h
    cases h
    exact List.forall_mem_append.mpr ⟨proper_node n hfirst, proper_body ns hrest⟩

end

end Slots

/-- The statements that are written for a body are its sequence of fragments with every longest run of
static text in one piece, and nothing is written exactly where the sequence breaks off, for the same
reason. So they are its slots in their order, with no empty text and no two texts next to each other,
even if the functions between them are left out. -/
theorem body_coalesced (c : Context) (own : String) (findings : Findings) (ns : List Node) :
    (writeNodes c own ⟨.empty, findings⟩ ns).map (·.draft.finish) =
      (bodyFragments c findings.contents ns).map coalesce ∧
    ∀ fs, bodyFragments c findings.contents ns = .ok fs → Gathered fs (coalesce fs) := by
  refine ⟨?_, fun fs hfs => gathered_coalesce fs (proper_body ns hfs)⟩
  have hfollows : Follows _ _ (writeNodes c own ⟨.empty, findings⟩ ns) _ :=
    follows_body ns ⟨.empty, findings⟩
  rcases hfollows with
    ⟨fault, hwritten, hfragments⟩ | ⟨q, fs, hwritten, hfragments, hdraft, -⟩
  · rw [hwritten, show bodyFragments c findings.contents ns = .error fault from hfragments]
    rfl
  · rw [hwritten, show bodyFragments c findings.contents ns = .ok fs from hfragments]
    exact congrArg Except.ok (Draft.finish_of_fragments hdraft)

/-- Text on both sides of a badge with content. -/
def badgeBody : List Node := [
  .data .start "a", .data .start "",
  .element .start "widgets.Badge" [] [.data .start "x", .element .start "hr" [] [] .void] .paired,
  .data .start "b"]

/-- The fragments of the body: the text after the badge stays behind its call. -/
def badgeFragments : List Fragment := [
  .static "a", .static "",
  .slot (some (contentFunction 1 (coalesce [.static "x", .static "<hr", .static ">"])))
    (renderCall (.attribute (.name "widgets") "Badge") [] (.name (contentName 1))),
  .static "b"]

theorem bodyFragments_badgeBody : bodyFragments widgetsContext 0 badgeBody = .ok badgeFragments := by
  have htag : Template.isComponentTag "widgets.Badge" = true := by decide
  have hbinding : binding? widgetsContext "widgets.Badge" = some badgeBinding := by
    rw [binding?, if_pos htag, resolve_badge]
  have hrule : binding? widgetsContext "hr" = none := by
    rw [binding?, if_neg (by decide)]
  have hvoid : Template.isVoidTag "hr" = true := by decide
  have hexternal : badgeBinding.isExternal = true := rfl
  simp only [badgeBody, bodyFragments, nodeFragments, hbinding, hrule, hvoid, targetOf, hexternal,
    if_true, read_badge]
  rfl

/-- The text of the body is appended in three pieces, one of them inside the function. -/
theorem body_coalesced_badge :
    (writeNodes widgetsContext "Page" ⟨.empty, .empty⟩ badgeBody).map (·.draft.finish) = .ok [
      Draft.appending (.ofText "a"),
      contentFunction 1 [Draft.appending (.ofText "x<hr>")],
      Draft.appending
        (renderCall (.attribute (.name "widgets") "Badge") [] (.name (contentName 1))),
      Draft.appending (.ofText "b")] ∧
    Gathered badgeFragments (coalesce badgeFragments) := by
  obtain ⟨hwritten, hgathered⟩ := body_coalesced widgetsContext "Page" .empty badgeBody
  refine ⟨?_, hgathered _ bodyFragments_badgeBody⟩
  rw [hwritten, show bodyFragments widgetsContext Findings.empty.contents badgeBody = _ from
    bodyFragments_badgeBody]
  rfl

end LivePreview.Component
