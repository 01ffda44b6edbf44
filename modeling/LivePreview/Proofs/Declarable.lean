import LivePreview.Proofs.Isolation
import LivePreview.Proofs.NormalForm
import LivePreview.Proofs.Shape

/-!
# Which files can be declared

The name of a component is made of word characters, is no number and no reserved word, and is apart
from the names that every module binds. But not every word character can stand in an identifier, and
not every identifier is its own normal form. Of a file whose declarations can be read, nothing else
counts: its shape is kept exactly if its name is an identifier in normal form, whatever is kept
beside it.
-/

namespace LivePreview.Component

open LivePreview.Text (isWord isDigit isKeyword isIdentifier isIdentifierStart isIdentifierContinue
  normalForm)

/-! ## Names are no reserved words -/

theorem isKeyword_append_underscore (name : String) : isKeyword (name ++ "_") = false := by
  have hlast : ∀ word ∈ Text.keywords, word.toList.getLast? ≠ some '_' := by decide
  rw [← Bool.not_eq_true, isKeyword, List.contains_iff_mem]
  intro h
  refine hlast _ h ?_
  rw [String.toList_append]
  exact List.getLast?_concat

theorem isKeyword_nameOfSegment (segment : String) : isKeyword (nameOfSegment segment) = false := by
  unfold nameOfSegment
  extract_lets words name numbered text
  split
  · exact isKeyword_append_underscore text
  · next h => exact Bool.not_eq_true _ ▸ h

theorem isKeyword_componentName (path : String) : isKeyword (componentName path) = false := by
  unfold componentName
  extract_lets name
  split
  · exact isKeyword_append_underscore name
  · exact isKeyword_nameOfSegment _

/-- No component has a name that every module binds. -/
theorem componentName_notMem_reservedNames (path : String) :
    componentName path ∉ reservedNames := by
  have hlast : ∀ name ∈ reservedNames, name.toList.getLast? ≠ some '_' := by decide
  unfold componentName
  extract_lets name
  split
  · intro h
    refine hlast _ h ?_
    rw [String.toList_append]
    exact List.getLast?_concat
  · next hfree =>
    intro h
    rw [← List.contains_iff_mem] at h
    exact hfree (by rw [h, Bool.or_true])

/-! ## Names that are identifiers -/

/-- The part of a path that its component is named by. -/
def stem (path : String) : List Char := ((pathSegments path).getLastD "").toList

/-- Whether the characters of a stem that stay in the name can stand there; a digit in front gets an
underscore before it. -/
def Identifying : List Char → Prop
  | [] => True
  | c :: cs =>
    (isWord c = true → (if isDigit c then isIdentifierContinue c else isIdentifierStart c) = true) ∧
      ∀ d ∈ cs, isWord d = true → isIdentifierContinue d = true

theorem isIdentifier_append_underscore {cs : List Char} (h : cs ≠ []) :
    isIdentifier (cs ++ ['_']) = isIdentifier cs := by
  cases cs with
  | nil => exact absurd rfl h
  | cons c cs =>
    have hunderscore : isIdentifierContinue '_' = true := by decide
    rw [List.cons_append, isIdentifier, isIdentifier, List.all_append, List.all_cons, hunderscore]
    simp

theorem isIdentifierContinue_kept (c : Char) :
    isIdentifierContinue (if isWord c then c else '_') = true ↔
      (isWord c = true → isIdentifierContinue c = true) := by
  have hunderscore : isIdentifierContinue '_' = true := by decide
  split <;> simp_all

theorem isIdentifier_nameOfSegment (segment : String) :
    isIdentifier (nameOfSegment segment).toList = true ↔ Identifying segment.toList := by
  unfold nameOfSegment
  extract_lets words name numbered text
  have htext : isIdentifier text.toList = true ↔ Identifying segment.toList := by
    simp only [text, numbered, name, words, String.toList_ofList]
    cases segment.toList with
    | nil => exact iff_of_true (by decide) trivial
    | cons c cs =>
      have htail : (cs.map fun d => if isWord d then d else '_').all isIdentifierContinue = true ↔
          ∀ d ∈ cs, isWord d = true → isIdentifierContinue d = true := by
        simp only [List.all_map, List.all_eq_true, Function.comp_apply, isIdentifierContinue_kept]
      simp only [List.map_cons, List.isEmpty_cons, Bool.false_eq_true, if_false, List.head?_cons,
        Option.any_some, Identifying, ← htail]
      by_cases hword : isWord c = true
      · simp only [hword, if_true, true_implies]
        split
        · have hunderscore : isIdentifierStart '_' = true := by decide
          simp only [isIdentifier, hunderscore, Bool.true_and, List.all_cons, Bool.and_eq_true]
        · simp only [isIdentifier, Bool.and_eq_true]
      · have hstart : isIdentifierStart '_' = true := by decide
        have hdigit : isDigit '_' = false := by decide
        simp only [hword, hdigit, Bool.false_eq_true, if_false, false_implies,
          true_and, isIdentifier, hstart, Bool.true_and]
  split
  · rw [String.toList_append]
    have hne : text.toList ≠ [] := by
      have hword := wordlike_nameOfSegment segment
      simp only [text, numbered, name, String.toList_ofList]
      split <;> split <;> simp_all
    rw [← htext]
    exact (congrArg (· = true) (isIdentifier_append_underscore hne)).to_iff
  · exact htext

/-- A name is an identifier exactly if what it keeps of the path can stand in one. -/
theorem isIdentifier_componentName (path : String) :
    isIdentifier (componentName path).toList = true ↔ Identifying (stem path) := by
  rw [stem, ← isIdentifier_nameOfSegment]
  unfold componentName
  extract_lets name
  split
  · rw [String.toList_append]
    exact (congrArg (· = true)
      (isIdentifier_append_underscore (wordlike_nameOfSegment _).1)).to_iff
  · exact Iff.rfl

/-! ## Names of ASCII characters -/

theorem mem_append_underscore {name : String} {cs : List Char}
    (h : ∀ c ∈ name.toList, c = '_' ∨ c ∈ cs) : ∀ c ∈ (name ++ "_").toList, c = '_' ∨ c ∈ cs := by
  intro c hc
  rw [String.toList_append] at hc
  rcases List.mem_append.mp hc with hc | hc
  · exact h c hc
  · exact .inl (List.mem_singleton.mp hc)

theorem mem_nameOfSegment (segment : String) :
    ∀ c ∈ (nameOfSegment segment).toList, c = '_' ∨ c ∈ segment.toList := by
  unfold nameOfSegment
  extract_lets words name numbered text
  have hwords : ∀ c ∈ words, c = '_' ∨ c ∈ segment.toList := by
    intro c hc
    obtain ⟨d, hd, rfl⟩ := List.mem_map.mp hc
    split
    · exact .inr hd
    · exact .inl rfl
  have hname : ∀ c ∈ name, c = '_' ∨ c ∈ segment.toList := by
    simp only [name]
    split
    · exact fun c hc => .inl (List.mem_singleton.mp hc)
    · exact hwords
  have htext : ∀ c ∈ text.toList, c = '_' ∨ c ∈ segment.toList := by
    simp only [text, numbered, String.toList_ofList]
    split
    · exact List.forall_mem_cons.mpr ⟨.inl rfl, hname⟩
    · exact hname
  split
  · exact mem_append_underscore htext
  · exact htext

/-- A name has no characters but those of the path and underscores. -/
theorem mem_componentName (path : String) :
    ∀ c ∈ (componentName path).toList, c = '_' ∨ c ∈ stem path := by
  unfold componentName
  extract_lets name
  split
  · exact mem_append_underscore (mem_nameOfSegment _)
  · exact mem_nameOfSegment _

/-- An ASCII character that stays in a name can stand where it stays. -/
theorem identifying_of_ascii {cs : List Char} (h : ∀ c ∈ cs, c.toNat < 128) : Identifying cs := by
  have hcontinue : ∀ n < 128, Text.inside Text.wordBoundaries n = true →
      Text.inside Text.identifierContinueBoundaries n = true := by decide +kernel
  have hstart : ∀ n < 128, Text.inside Text.wordBoundaries n = true →
      Text.inside Text.digitBoundaries n = false →
      Text.inside Text.identifierStartBoundaries n = true := by decide +kernel
  cases cs with
  | nil => trivial
  | cons c cs =>
    obtain ⟨hc, hcs⟩ := List.forall_mem_cons.mp h
    refine ⟨fun hword => ?_, fun d hd => hcontinue _ (hcs d hd)⟩
    cases hdigit : isDigit c with
    | true => exact hcontinue _ hc hword
    | false => exact hstart _ hc hword hdigit

theorem normalForm_componentName_of_ascii {path : String} (h : ∀ c ∈ stem path, c.toNat < 128) :
    normalForm (componentName path) = componentName path := by
  refine Text.normalForm_of_ascii fun c hc => ?_
  rcases mem_componentName path c hc with rfl | hc
  · decide
  · exact h c hc

/-! ## What a shape declares -/

/-- What is wrong with the shape of a template is wrong with the name: it is no identifier, or it is
an identifier of which the normal form is another one. -/
theorem declared_ofTemplate_eq_error_iff {path : String} (hnull : '\x00' ∉ path.toList)
    (t : Template) (f : Failure) :
    Aggregate.declared Stub.runText path (.ofTemplate t path) = .error f ↔
      isIdentifier (componentName path).toList = false ∧
        f = .declaration path ("declaration does not compile: " ++ unreadable) ∨
      isIdentifier (componentName path).toList = true ∧
        normalForm (componentName path) ≠ componentName path ∧
        f = .declaration path
          ("declaration does not define component class '" ++ componentName path ++ "'") := by
  have htext := null_notMem_text t path
  have hrun := runText_ofTemplate t path
  rw [isKeyword_componentName, Bool.not_false, Bool.and_true] at hrun
  cases hidentifier : isIdentifier (componentName path).toList with
  | false =>
    rw [hidentifier, if_neg Bool.false_ne_true] at hrun
    rw [← List.contains_iff_mem] at hnull htext
    rw [Aggregate.declared, if_neg hnull, if_neg htext, component_ofTemplate, hrun]
    simp [Aggregate.uncompiled, eq_comm]
  | true =>
    rw [hidentifier, if_pos rfl] at hrun
    by_cases hnormal : normalForm (componentName path) = componentName path
    · obtain ⟨member, hmember⟩ := declares_ofTemplate hnull hidentifier
        (isKeyword_componentName path) hnormal t
      rw [hmember]
      simp [hnormal]
    · rw [if_neg hnormal] at hrun
      rw [← List.contains_iff_mem] at hnull htext
      rw [Aggregate.declared, if_neg hnull, if_neg htext, component_ofTemplate, hrun]
      simp [Aggregate.member, hnormal, eq_comm (b := f)]

end LivePreview.Component

namespace LivePreview.Session

open LivePreview.Component (Aggregate Context Shape Stub componentName)

/-! ## Refreshes -/

theorem component_of_extract {path content : String} {shape : Shape}
    (h : Shape.extract path content = .ok shape) : shape.component = componentName path := by
  obtain ⟨t, -, rfl⟩ := Component.extract_eq_ok h
  exact Component.component_ofTemplate t path

/-- Every shape that is kept has the name of the component at its path. -/
def Declarations.Named (d : Declarations) : Prop :=
  ∀ e ∈ d.shapes.entries, e.2.component = componentName e.1

theorem Declarations.Named.outcome {d next : Declarations} (h : d.Named) {path content : String}
    {result : Except Failure Bool}
    (houtcome : Outcome templateEngine d path content result next) : next.Named := by
  cases houtcome with
  | unread hshape => exact h
  | unbuilt hshape hnew hbuild => exact h
  | unchanged hshape hold htext => exact h
  | changed hshape hnew hbuild =>
    intro e he
    rcases Table.mem_entries_insert he with rfl | he
    · exact component_of_extract hshape
    · exact h e he

/-- Refreshes of paths with the engine for templates. -/
def templateCalls (edits : List (String × String)) : List Call :=
  edits.map fun (path, content) => ⟨templateEngine, path, content⟩

theorem Declarations.Named.serveAll {d : Declarations} (h : d.Named)
    (edits : List (String × String)) : (d.serveAll (templateCalls edits)).Named := by
  refine List.foldlRecOn (motive := Declarations.Named) (templateCalls edits) _ h
    fun next hnext call hcall => ?_
  obtain ⟨⟨path, content⟩, -, rfl⟩ := List.mem_map.mp hcall
  exact hnext.outcome (outcome_refresh templateEngine next path content)

/-- A refresh with a shape fails exactly with what is wrong with the shape, if every shape that is
kept could be entered and has its proper name. -/
theorem Declarations.Enterable.refresh_eq_error_iff {d : Declarations} (h : d.Enterable)
    (hnamed : d.Named) {path content : String} {shape : Shape}
    (hshape : Shape.extract path content = .ok shape) (f : Failure) :
    (d.refresh templateEngine path content).result = .error f ↔
      Aggregate.declared d.context.run path shape = .error f := by
  have houtcome := outcome_refresh templateEngine d path content
  generalize (d.refresh templateEngine path content).result = result at houtcome ⊢
  generalize (d.refresh templateEngine path content).state = next at houtcome
  have hsame {other : Shape} (hother : templateEngine.shape ⟨path, content, d.kind⟩ = .ok other) :
      other = shape := Except.ok.inj (hother.symm.trans hshape)
  cases houtcome with
  | unread hfail => cases hshape.symm.trans hfail
  | @unbuilt other g hother _ hbuild =>
    rw [hsame hother, h.rebuild_insert] at hbuild
    rw [hbuild, Except.error.injEq, Except.error.injEq]
  | @unchanged other old hother hold htext =>
    rw [hsame hother] at htext
    obtain ⟨member, hmember⟩ := h (path, old) (Table.mem_entries_iff.mpr hold)
    have hname : old.component = shape.component := by
      rw [component_of_extract hshape]
      exact hnamed (path, old) (Table.mem_entries_iff.mpr hold)
    have hdeclared : Aggregate.declared d.context.run path shape = .ok member := by
      rw [← hmember, Aggregate.declared, Aggregate.declared, htext, hname]
    simp [hdeclared]
  | @changed other next hother _ hbuild =>
    have hno : ∀ g, Aggregate.declared d.context.run path shape ≠ .error g := by
      intro g hg
      rw [← hsame hother, ← h.rebuild_insert, hbuild] at hg
      cases hg
    simp [hno f]

/-- In every state that refreshes with the engine for templates lead to, the refresh of a file whose
declarations can be read fails exactly if the name of its component is no identifier, or not in
normal form. What is kept of the path in the name decides the first, and neither ever happens to a
stem of ASCII characters. Every name is made of word characters and is no reserved word. -/
theorem refresh_of_readable (c : Context) (kind : String) (edits : List (String × String))
    (path content : String) (t : Template) :
    let d := (Declarations.new c kind).serveAll (templateCalls edits)
    let name := componentName path
    c.run = Stub.runText → '\x00' ∉ path.toList →
    Template.declarationsOfChars content.toList = .ok t →
      (Component.Wordlike name.toList ∧ Text.isKeyword name = false ∧
        name ∉ Component.reservedNames) ∧
      (Text.isIdentifier name.toList = true ↔ Component.Identifying (Component.stem path)) ∧
      (∀ f, (d.refresh templateEngine path content).result = .error f ↔
        Text.isIdentifier name.toList = false ∧
          f = .declaration path ("declaration does not compile: " ++ unreadable) ∨
        Text.isIdentifier name.toList = true ∧ Text.normalForm name ≠ name ∧
          f = .declaration path
            ("declaration does not define component class '" ++ name ++ "'")) ∧
      ((∀ ch ∈ Component.stem path, ch.toNat < 128) →
        ∃ changed, (d.refresh templateEngine path content).result = .ok changed) := by
  intro d name hc hnull ht
  obtain ⟨henterable, hrun⟩ := (Declarations.enterable_new c kind).serveAll (templateCalls edits)
  have hnamed : d.Named :=
    Declarations.Named.serveAll (fun e he => absurd he List.not_mem_nil) edits
  have hshape : Shape.extract path content = .ok (.ofTemplate t path) := by
    rw [Shape.extract, ht]
  have hdrun : d.context.run = Stub.runText := hrun.trans hc
  have hfails (f : Failure) := (henterable.refresh_eq_error_iff hnamed hshape f).trans
    (hdrun ▸ Component.declared_ofTemplate_eq_error_iff hnull t f)
  refine ⟨⟨Component.wordlike_componentName path, Component.isKeyword_componentName path,
    Component.componentName_notMem_reservedNames path⟩,
    Component.isIdentifier_componentName path, hfails, fun hascii => ?_⟩
  cases hresult : (d.refresh templateEngine path content).result with
  | ok changed => exact ⟨changed, rfl⟩
  | error f =>
    rcases (hfails f).mp hresult with ⟨hidentifier, -⟩ | ⟨-, hnormal, -⟩
    · rw [(Component.isIdentifier_componentName path).mpr
        (Component.identifying_of_ascii hascii)] at hidentifier
      cases hidentifier
    · exact absurd (Component.normalForm_componentName_of_ascii hascii) hnormal

/-- A raised two is a word character, but it cannot stand in an identifier. -/
theorem not_isIdentifier_raised :
    Text.isIdentifier (componentName "x².tpl").toList = false := by decide +kernel

/-- A file whose name has a raised two is refused beside one that is kept. -/
theorem refresh_of_readable_raised :
    let d := (Declarations.new (Context.new [] "declarations") "component").serveAll
      (templateCalls [("Card.tpl", "@param x")])
    '\x00' ∉ "x².tpl".toList ∧ Template.declarationsOfChars "".toList = .ok ⟨[], [], []⟩ ∧
      (d.refresh templateEngine "x².tpl" "").result =
        .error (.declaration "x².tpl" ("declaration does not compile: " ++ unreadable)) := by
  have hnull : '\x00' ∉ "x².tpl".toList := by decide
  have hempty : Template.declarationsOfChars "".toList = .ok ⟨[], [], []⟩ := rfl
  obtain ⟨-, -, hfails, -⟩ := refresh_of_readable (Context.new [] "declarations") "component"
    [("Card.tpl", "@param x")] "x².tpl" "" ⟨[], [], []⟩ rfl hnull hempty
  exact ⟨hnull, hempty, (hfails _).mpr (.inl ⟨not_isIdentifier_raised, rfl⟩)⟩

/-- Not every file with a path and readable declarations can be declared. -/
theorem refresh_not_always_accepted :
    ¬ ∀ (path content : String) (t : Template), path ≠ "" → '\x00' ∉ path.toList →
      Template.declarationsOfChars content.toList = .ok t →
      ∃ changed, ((Declarations.new (Context.new [] "declarations") "component").refresh
        templateEngine path content).result = .ok changed := by
  intro hclaim
  have hshape : Shape.extract "x².tpl" "" = .ok (.ofTemplate ⟨[], [], []⟩ "x².tpl") := rfl
  have hfails := (Declarations.enterable_new (Context.new [] "declarations")
    "component").refresh_eq_error_iff (fun e he => absurd he List.not_mem_nil) hshape
  obtain ⟨changed, hchanged⟩ := hclaim "x².tpl" "" ⟨[], [], []⟩ (by decide) (by decide) rfl
  have hrefused := (hfails _).mpr ((Component.declared_ofTemplate_eq_error_iff (by decide) _ _).mpr
    (.inl ⟨not_isIdentifier_raised, rfl⟩))
  rw [hchanged] at hrefused
  cases hrefused

end LivePreview.Session
