import LivePreview.Component.Context

/-!
# Making an aggregate

An aggregate is made exactly when every shape declares something by itself, and then a name stands
for what the last shape with this component declares. How texts are run does not matter here.
-/

namespace LivePreview.Component

theorem map_eq_ok_iff {ε α β : Type} {x : Except ε α} {f : α → β} {b : β} :
    x.map f = .ok b ↔ ∃ a, x = .ok a ∧ f a = b := by
  cases x <;> simp [Except.map]

theorem map_eq_error_iff {ε α β : Type} {x : Except ε α} {f : α → β} {e : ε} :
    x.map f = .error e ↔ x = .error e := by
  cases x <;> simp [Except.map]

namespace Aggregate

variable {run : Runner}

theorem taken_eq_ok {name : String} {surface? member : Option Surface}
    (h : taken name surface? = .ok member) : member = surface? := by
  unfold taken at h
  split at h
  · cases h
  · split at h
    · cases h
    · exact (Except.ok.inj h).symm

/-- A shape that declares something was run, and left a component behind. -/
theorem declared_eq_ok {path : String} {shape : Shape} {member : Option Surface}
    (h : declared run path shape = .ok member) :
    (run shape.text shape.component = some (.ok .base) ∧ member = none) ∨
      ∃ s, run shape.text shape.component = some (.ok (.component s)) ∧ member = some s := by
  unfold declared at h
  split at h
  · cases h
  · split at h
    · cases h
    · split at h
      · cases h
      · cases h
      · next definition hrun =>
        cases definition with
        | nothing => cases h
        | base => exact .inl ⟨hrun, taken_eq_ok h⟩
        | component s => exact .inr ⟨s, hrun, taken_eq_ok h⟩

/-- A shape whose text leaves a component behind declares its surface. -/
theorem declared_of_component {path : String} {shape : Shape} {s : Surface}
    (hpath : '\x00' ∉ path.toList) (htext : '\x00' ∉ shape.text.toList)
    (hrun : run shape.text shape.component = some (.ok (.component s)))
    (hdict : shape.component ≠ "__dict__") (hclass : shape.component ≠ "__class__") :
    declared run path shape = .ok (some s) := by
  rw [← List.contains_iff_mem] at hpath htext
  rw [declared, if_neg hpath, if_neg htext, hrun]
  simp only [member, taken, if_neg hdict, if_neg hclass]

/-! ## Entering shapes -/

/-- Whether a shape can be entered, at its own path. -/
def Declares (run : Runner) (entry : String × Shape) : Prop :=
  ∃ member, declared run entry.1 entry.2 = .ok member

theorem enterAll_cons {path : String} {shape : Shape} {member : Option Surface}
    (h : declared run path shape = .ok member) (b : Build) (entries : List (String × Shape)) :
    b.enterAll run ((path, shape) :: entries) =
      (b.enter path shape.component member).enterAll run entries := by
  rw [Build.enterAll, h]

/-- All shapes are entered when each of them can be, and only then. -/
theorem enterAll_eq_ok_iff (entries : List (String × Shape)) :
    ∀ b : Build, (∃ last, (b.enterAll run entries).2 = .ok last) ↔
      ∀ e ∈ entries, Declares run e := by
  induction entries with
  | nil => exact fun b => ⟨fun _ e he => absurd he List.not_mem_nil, fun _ => ⟨b, rfl⟩⟩
  | cons entry entries ih =>
    intro b
    obtain ⟨path, shape⟩ := entry
    rw [List.forall_mem_cons]
    cases hd : declared run path shape with
    | error f =>
      have hno : ¬ Declares run (path, shape) := by
        rintro ⟨member, h⟩
        rw [hd] at h
        cases h
      have hfail : (b.enterAll run ((path, shape) :: entries)).2 = .error f := by
        rw [Build.enterAll, hd]
      constructor
      · rintro ⟨last, h⟩
        rw [hfail] at h
        cases h
      · exact fun h => absurd h.1 hno
    | ok member =>
      rw [enterAll_cons hd, ih]
      exact ⟨fun h => ⟨⟨member, hd⟩, h⟩, fun h => h.2⟩

/-- Entering fails with what is wrong with the first shape that cannot be entered; the shapes behind
it do not count. -/
theorem enterAll_eq_error_iff {f : Failure} (entries : List (String × Shape)) :
    ∀ b : Build, (b.enterAll run entries).2 = .error f ↔
      ∃ first e others, entries = first ++ e :: others ∧ (∀ d ∈ first, Declares run d) ∧
        declared run e.1 e.2 = .error f := by
  induction entries with
  | nil =>
    intro b
    constructor
    · intro h
      cases h
    · rintro ⟨first, e, others, h, -, -⟩
      simp at h
  | cons entry entries ih =>
    intro b
    obtain ⟨path, shape⟩ := entry
    cases hd : declared run path shape with
    | error g =>
      have hfail : (b.enterAll run ((path, shape) :: entries)).2 = .error g := by
        rw [Build.enterAll, hd]
      rw [hfail]
      constructor
      · intro h
        cases h
        exact ⟨[], (path, shape), entries, rfl, fun e he => absurd he List.not_mem_nil, hd⟩
      · rintro ⟨first, e, others, hentries, hfirst, he⟩
        cases first with
        | nil =>
          cases hentries
          cases hd.symm.trans he
          rfl
        | cons d first =>
          cases hentries
          obtain ⟨member, hmember⟩ := hfirst _ List.mem_cons_self
          rw [hd] at hmember
          cases hmember
    | ok member =>
      rw [enterAll_cons hd, ih]
      constructor
      · rintro ⟨first, e, others, rfl, hfirst, he⟩
        exact ⟨(path, shape) :: first, e, others, rfl,
          List.forall_mem_cons.mpr ⟨⟨member, hd⟩, hfirst⟩, he⟩
      · rintro ⟨first, e, others, hentries, hfirst, he⟩
        cases first with
        | nil =>
          cases hentries
          rw [hd] at he
          cases he
        | cons d first =>
          cases hentries
          exact ⟨first, e, others, rfl, (List.forall_mem_cons.mp hfirst).2, he⟩

/-- Where all other shapes can be entered, the outcome is that of the one which is left. -/
theorem enterAll_eq_error_iff_of_others {f : Failure} {first others : List (String × Shape)}
    {e : String × Shape} (hothers : ∀ d ∈ first ++ others, Declares run d) (b : Build) :
    (b.enterAll run (first ++ e :: others)).2 = .error f ↔ declared run e.1 e.2 = .error f := by
  rw [enterAll_eq_error_iff]
  constructor
  · rintro ⟨front, d, rest, hentries, -, hd⟩
    have hmem : d ∈ first ++ e :: others := by
      rw [hentries]
      exact List.mem_append_right _ List.mem_cons_self
    rcases List.mem_cons.mp (List.perm_middle.mem_iff.mp hmem) with rfl | hother
    · exact hd
    · obtain ⟨member, hmember⟩ := hothers d hother
      rw [hd] at hmember
      cases hmember
  · exact fun h => ⟨first, e, others, rfl, fun d hd => hothers d (List.mem_append_left _ hd), h⟩

/-- What a name stands for when some shapes have been entered: what the last of them with this
component declares, or else what it stood for before. -/
def lastDeclared (run : Runner) (entries : List (String × Shape)) (name : String)
    (before : Option (Option Surface)) : Option (Option Surface) :=
  match entries.reverse.find? fun e => e.2.component = name with
  | some e => (declared run e.1 e.2).toOption
  | none => before

theorem lastDeclared_cons (e : String × Shape) (entries : List (String × Shape)) (name : String)
    (before : Option (Option Surface)) :
    lastDeclared run (e :: entries) name before =
      lastDeclared run entries name (if e.2.component = name then
        (declared run e.1 e.2).toOption else before) := by
  unfold lastDeclared
  rw [List.reverse_cons, List.find?_append]
  cases entries.reverse.find? fun e => e.2.component = name with
  | some last => rfl
  | none =>
    by_cases h : e.2.component = name
    · simp [h]
    · simp [h]

/-- The last entry with a component tells what its name stands for. -/
theorem lastDeclared_of_last {entries first others : List (String × Shape)} {e : String × Shape}
    {name : String} (hentries : entries = first ++ e :: others) (he : e.2.component = name)
    (hlast : ∀ o ∈ others, o.2.component ≠ name) (before : Option (Option Surface)) :
    lastDeclared run entries name before = (declared run e.1 e.2).toOption := by
  have hothers : others.reverse.find? (fun o => o.2.component = name) = none := by
    rw [List.find?_eq_none]
    intro o ho h
    exact hlast o (List.mem_reverse.mp ho) (of_decide_eq_true h)
  unfold lastDeclared
  rw [hentries, List.reverse_append, List.reverse_cons, List.append_assoc, List.find?_append,
    hothers, Option.none_or, List.singleton_append, List.find?_cons_of_pos]
  exact decide_eq_true he

theorem get?_enterAll (name : String) (entries : List (String × Shape)) :
    ∀ b last : Build, (b.enterAll run entries).2 = .ok last →
      last.members.get? name = lastDeclared run entries name (b.members.get? name) := by
  induction entries with
  | nil =>
    intro b last h
    cases h
    rfl
  | cons entry entries ih =>
    intro b last h
    obtain ⟨path, shape⟩ := entry
    cases hd : declared run path shape with
    | error f =>
      rw [Build.enterAll, hd] at h
      cases h
    | ok member =>
      rw [enterAll_cons hd] at h
      rw [ih _ _ h, lastDeclared_cons, hd]
      congr 1
      exact Table.get?_insert b.members shape.component member name

/-! ## Whole aggregates -/

variable {name : String} {references : List String} {shapes : Table String Shape} {a : Aggregate}

theorem build_eq_ok (h : (build run name references shapes).2 = .ok a) :
    ∃ last, (Build.enterAll run ⟨firstMembers, ∅, []⟩ shapes.entries).2 = .ok last ∧
      a = ⟨name, references, last.members, shapes.keys⟩ := by
  obtain ⟨last, hlast, ha⟩ := map_eq_ok_iff.mp h
  exact ⟨last, hlast, ha.symm⟩

/-- Whether there is an aggregate does not depend on the order of the shapes. -/
theorem build_eq_ok_iff : (∃ a, (build run name references shapes).2 = .ok a) ↔
    ∀ e ∈ shapes.entries, Declares run e := by
  rw [← enterAll_eq_ok_iff shapes.entries ⟨firstMembers, ∅, []⟩]
  constructor
  · rintro ⟨a, h⟩
    obtain ⟨last, hlast, -⟩ := build_eq_ok h
    exact ⟨last, hlast⟩
  · rintro ⟨last, h⟩
    exact ⟨_, congrArg (Except.map _) h⟩

theorem build_eq_error_iff {f : Failure} : (build run name references shapes).2 = .error f ↔
    (Build.enterAll run ⟨firstMembers, ∅, []⟩ shapes.entries).2 = .error f :=
  map_eq_error_iff

/-- Of no shapes the aggregate is the empty one. -/
theorem build_empty : build run name references ∅ = ([], .ok (.empty name references)) := rfl

theorem surface?_build (h : (build run name references shapes).2 = .ok a) (component : String) :
    a.surface? component =
      (lastDeclared run shapes.entries component (firstMembers.get? component)).join := by
  obtain ⟨last, hlast, rfl⟩ := build_eq_ok h
  exact congrArg Option.join (get?_enterAll component _ _ _ hlast)

end Aggregate

namespace Context

variable {c next : Context} {shapes : Table String Shape}

/-- The aggregate that the context would have after a rebuild. -/
def aggregateOf (c : Context) (shapes : Table String Shape) : Except Failure Aggregate :=
  (Aggregate.build c.run c.aggregateName (c.external.map (·.name)) shapes).2

/-- A rebuild replaces the aggregate and counts, and changes nothing else. -/
theorem rebuild_eq_ok (h : (c.rebuild shapes).2 = .ok next) :
    ∃ a, c.aggregateOf shapes = .ok a ∧
      next = { c with aggregate := a, generation := c.generation + 1 } := by
  unfold rebuild at h
  split at h
  · cases h
  · next log a hbuild =>
    refine ⟨a, congrArg Prod.snd hbuild, ?_⟩
    exact (Except.ok.inj h).symm

theorem rebuild_eq_ok_iff : (∃ next, (c.rebuild shapes).2 = .ok next) ↔
    ∀ e ∈ shapes.entries, Aggregate.Declares c.run e := by
  have hbuild : (∃ a, c.aggregateOf shapes = .ok a) ↔
      ∀ e ∈ shapes.entries, Aggregate.Declares c.run e := Aggregate.build_eq_ok_iff
  rw [← hbuild]
  constructor
  · rintro ⟨next, h⟩
    obtain ⟨a, ha, -⟩ := rebuild_eq_ok h
    exact ⟨a, ha⟩
  · rintro ⟨a, ha⟩
    unfold rebuild
    split
    · next log f hfail =>
      rw [aggregateOf, hfail] at ha
      cases ha
    · exact ⟨_, rfl⟩

theorem rebuild_eq_error_iff {f : Failure} :
    (c.rebuild shapes).2 = .error f ↔ c.aggregateOf shapes = .error f := by
  unfold rebuild aggregateOf
  split
  · next log g hbuild =>
    rw [hbuild]
    simp
  · next log a hbuild =>
    rw [hbuild]
    simp

/-- Where all other shapes can be entered, a rebuild fails exactly with what is wrong with the one
that is left. -/
theorem rebuild_eq_error_iff_of_others {f : Failure} {first others : List (String × Shape)}
    {e : String × Shape} (hentries : shapes.entries = first ++ e :: others)
    (hothers : ∀ d ∈ first ++ others, Aggregate.Declares c.run d) :
    (c.rebuild shapes).2 = .error f ↔ Aggregate.declared c.run e.1 e.2 = .error f := by
  rw [rebuild_eq_error_iff, aggregateOf, Aggregate.build_eq_error_iff, hentries,
    Aggregate.enterAll_eq_error_iff_of_others hothers]

end Context

end LivePreview.Component
