import LivePreview.Proofs.Exactness

/-!
# More seeds lead to more modules

A rule finds nothing where its anchor is not recorded, and leaves out what is recorded already. So
with more seeds a rule may find more or less than with fewer. Still nothing is lost that way: over a
table with distinct names all records that can come up under a name are one, and what a rule leaves
out is known. What a stage comes to therefore hangs on the names it starts from alone, and these
only become more.
-/

namespace LivePreview.Module

/-- Whatever is recorded in the first is recorded in the second, with the same record. -/
def Recorded.Within (few many : Recorded) : Prop := ∀ n m, few n = some m → many n = some m

theorem Recorded.Within.isSome {few many : Recorded} (h : few.Within many) {n : String}
    (hn : (few n).isSome) : (many n).isSome := by
  obtain ⟨m, hm⟩ := Option.isSome_iff_exists.mp hn
  rw [h n m hm]
  rfl

/-! ## One stage -/

section Stage

variable {load known offered more others : Recorded}

theorem standing_of_within (hknown : known.Within load) (hoffered : offered.Within load) {n : String}
    {m : Record} (hload : load n = some m) : standing load known offered n = some m := by
  cases hold : known n with
  | some old =>
    have hsame : old = m := Option.some.inj ((hknown n old hold).symm.trans hload)
    rw [standing_of_known hold, hsame]
  | none =>
    cases hnew : offered n with
    | some new =>
      have hsame : new = m := Option.some.inj ((hoffered n new hnew).symm.trans hload)
      rw [standing_of_offered hold hnew, hsame]
    | none => rw [standing_of_load hold hnew, hload]

theorem known_within_stage : known.Within (stage load known offered) := by
  intro n m hm
  rw [stage_eq_some_iff]
  exact ⟨.known (Option.isSome_of_eq_some hm), standing_of_known hm⟩

theorem within_stage (hknown : known.Within load) (hoffered : offered.Within load) :
    (stage load known offered).Within load := by
  intro n m hm
  rcases stage_origin hm with hold | hnew | hload
  · exact hknown n m hold
  · exact hoffered n m hnew
  · exact hload

/-- The names that a stage starts from. -/
def startsFrom (known offered : Recorded) (n : String) : Prop :=
  (known n).isSome ∨ (offered n).isSome

theorem led_of_startsFrom {n : String} (h : startsFrom known offered n) :
    Led load known offered n := by
  rcases h with hknown | hoffered
  · exact .known hknown
  · exact .offered hoffered

/-- A stage that starts from more names comes to more names. -/
theorem led_of_more (hknown : known.Within load) (hoffered : offered.Within load)
    (hmore : more.Within load) (hothers : others.Within load)
    (hstart : ∀ n, startsFrom known offered n → startsFrom more others n) {n : String}
    (h : Led load known offered n) : Led load more others n := by
  induction h with
  | known h => exact led_of_startsFrom (hstart _ (.inl h))
  | offered h => exact led_of_startsFrom (hstart _ (.inr h))
  | @reference referrer n m hled hm hn hload ih =>
    -- The referrer has the record of the table in both stages, and so the same references.
    have hreferrer : load referrer = some m :=
      within_stage hknown hoffered referrer m (stage_eq_some_iff.mpr ⟨hled, hm⟩)
    exact .reference ih (standing_of_within hmore hothers hreferrer) hn hload

theorem stage_within_of_more (hknown : known.Within load) (hoffered : offered.Within load)
    (hmore : more.Within load) (hothers : others.Within load)
    (hstart : ∀ n, startsFrom known offered n → startsFrom more others n) :
    (stage load known offered).Within (stage load more others) := by
  intro n m hm
  have hload : load n = some m := within_stage hknown hoffered n m hm
  obtain ⟨hled, -⟩ := stage_eq_some_iff.mp hm
  rw [stage_eq_some_iff]
  exact ⟨led_of_more hknown hoffered hmore hothers hstart hled,
    standing_of_within hmore hothers hload⟩

end Stage

/-! ## Tables with distinct names -/

section Table

variable {ms : List Record}

theorem name_of_offeredBy {rule : Rule} {known : Recorded} {n : String} {m : Record}
    (h : offeredBy ms rule known n = some m) : m.name = n := by
  rw [offeredBy] at h
  split at h
  · cases h
  · obtain ⟨l, -, hfamily⟩ := Option.bind_eq_some_iff.mp h
    exact (family_eq_some_iff.mp hfamily).1

/-- Where more is recorded, a name that a rule offers is offered, too, or recorded already. -/
theorem startsFrom_offeredBy {rule : Rule} {known more : Recorded} (h : known.Within more)
    {n : String} (hn : startsFrom known (offeredBy ms rule known) n) :
    startsFrom more (offeredBy ms rule more) n := by
  rcases hn with hknown | hoffered
  · exact .inl (h.isSome hknown)
  · by_cases hmore : (more n).isSome
    · exact .inl hmore
    · have hnew : ¬ (known n).isSome := fun hknown => hmore (h.isSome hknown)
      right
      rw [offeredBy, if_neg hnew] at hoffered
      rw [offeredBy, if_neg hmore]
      cases hanchor : known rule.anchor with
      | none =>
        rw [hanchor] at hoffered
        cases hoffered
      | some anchor =>
        rw [hanchor] at hoffered
        rw [h rule.anchor anchor hanchor]
        exact hoffered

/-- What is recorded stays recorded through all stages. -/
theorem within_foldl_stage (rules : List Rule) :
    ∀ known : Recorded, known.Within (rules.foldl
      (fun known rule => stage (Lookup.byName? ms) known (offeredBy ms rule known)) known) := by
  induction rules with
  | nil => exact fun _ _ _ h => h
  | cons rule rules ih =>
    intro known n m hm
    exact ih _ n m (known_within_stage n m hm)

variable (hdistinct : (ms.map (·.name)).Nodup)

include hdistinct

theorem byName?_of_mem {m : Record} (hm : m ∈ ms) : Lookup.byName? ms m.name = some m := by
  obtain ⟨other, hother⟩ := Lookup.exists_byName? hm
  have hname : other.name = m.name := Lookup.name_of_byName? hother
  rw [hother, List.inj_on_of_nodup_map hdistinct (Lookup.mem_of_byName? hother) hm hname]

theorem firstOf_within {seeds : List Record} (hseeds : seeds ⊆ ms) :
    Recorded.Within (firstOf seeds) (Lookup.byName? ms) := by
  intro n m hm
  have hname : m.name = n := by simpa using List.find?_some hm
  rw [← hname]
  exact byName?_of_mem hdistinct (hseeds (List.mem_of_find?_eq_some hm))

theorem offeredBy_within (rule : Rule) (known : Recorded) :
    Recorded.Within (offeredBy ms rule known) (Lookup.byName? ms) := by
  intro n m hm
  rw [← name_of_offeredBy hm]
  exact byName?_of_mem hdistinct (offeredBy_origin hm)

theorem foldl_stage_within (rules : List Rule) :
    ∀ known more : Recorded, known.Within more → more.Within (Lookup.byName? ms) →
      let go := fun known rule => stage (Lookup.byName? ms) known (offeredBy ms rule known)
      (rules.foldl go known).Within (rules.foldl go more) := by
  induction rules with
  | nil => exact fun _ _ h _ => h
  | cons rule rules ih =>
    intro known more h hmore
    have hknown : known.Within (Lookup.byName? ms) := fun n m hm => hmore n m (h n m hm)
    refine ih _ _ ?_ (within_stage hmore (offeredBy_within hdistinct rule more))
    exact stage_within_of_more hknown (offeredBy_within hdistinct rule known) hmore
      (offeredBy_within hdistinct rule more) fun n hn => startsFrom_offeredBy h hn

theorem staged_within_of_subset (rules : List Rule) {seeds others : List Record}
    (hseeds : seeds ⊆ others) (hothers : others ⊆ ms) :
    (staged ms rules seeds).Within (staged ms rules others) := by
  have hempty : Recorded.Within (fun _ => none) (Lookup.byName? ms) := by
    intro n m hm
    cases hm
  have hfirst : Recorded.Within (firstOf seeds) (Lookup.byName? ms) :=
    firstOf_within hdistinct (List.Subset.trans hseeds hothers)
  have hfirstOthers : Recorded.Within (firstOf others) (Lookup.byName? ms) :=
    firstOf_within hdistinct hothers
  refine foldl_stage_within hdistinct rules _ _ ?_ (within_stage hempty hfirstOthers)
  refine stage_within_of_more hempty hfirst hempty hfirstOthers fun n hn => ?_
  rcases hn with hnone | hseed
  · cases hnone
  · have hnames : n ∈ seeds.map (·.name) := isSome_firstOf.mp hseed
    exact .inr (isSome_firstOf.mpr (List.map_subset _ hseeds hnames))

theorem staged_of_seed (rules : List Rule) {seeds : List Record} (hseeds : seeds ⊆ ms) {m : Record}
    (hm : m ∈ seeds) : staged ms rules seeds m.name = some m := by
  have hoffered : (firstOf seeds m.name).isSome := isSome_firstOf.mpr (List.mem_map_of_mem hm)
  obtain ⟨first, hfirst⟩ := Option.isSome_iff_exists.mp hoffered
  have htable : Lookup.byName? ms m.name = some first := firstOf_within hdistinct hseeds _ _ hfirst
  have hsame : m = first :=
    Option.some.inj ((byName?_of_mem hdistinct (hseeds hm)).symm.trans htable)
  refine within_foldl_stage rules _ _ _ (stage_eq_some_iff.mpr ⟨.offered hoffered, ?_⟩)
  rw [hsame] at hfirst ⊢
  exact standing_of_offered rfl hfirst

/-- What the closure of a table records for some seeds it records for more seeds as well, with the
same records, as long as names are distinct in the table and all seeds are taken from it. The seeds
themselves are recorded. -/
theorem closure_of_more_seeds (rules : List Rule) {seeds others : List Record}
    (hseeds : seeds ⊆ others) (hothers : others ⊆ ms) :
    let found := (closure (.ofTable ms) rules seeds).registry
    let again := (closure (.ofTable ms) rules others).registry
    (∀ n m, found.get? n = some m → again.get? n = some m) ∧
    found.modules ⊆ again.modules ∧ seeds ⊆ found.modules := by
  intro found again
  have hrecorded (given : List Record) :
      (closure (.ofTable ms) rules given).registry.get? = staged ms rules given :=
    closure_staged ms rules given
  have hwithin : ∀ n m, found.get? n = some m → again.get? n = some m := by
    rw [hrecorded seeds, hrecorded others]
    exact staged_within_of_subset hdistinct rules hseeds hothers
  have hmodules (given : List Record) (m : Record) :
      m ∈ (closure (.ofTable ms) rules given).registry.modules ↔
        (closure (.ofTable ms) rules given).registry.get? m.name = some m :=
    (named_closure (.ofTable ms) rules given).mem_modules
  refine ⟨hwithin, fun m hm => ?_, fun m hm => ?_⟩
  · rw [hmodules] at hm ⊢
    exact hwithin m.name m hm
  · rw [hmodules, hrecorded]
    exact staged_of_seed hdistinct rules (List.Subset.trans hseeds hothers) hm

end Table

/-- Among the further seeds is the anchor of a rule, which finds something now. The other rule finds
nothing any more, as its only module is recorded already. -/
theorem closure_of_more_seeds_server :
    let os : Record := { name := "os", location := some (.ofText "/lib/os.py") }
    let codec : Record := { name := "codec", location := some (.ofText "/lib/fast/codec.py") }
    let server : Record :=
      { name := "server", location := some (.ofText "/opt/server.py"), references := ["codec"] }
    let widgets : Record := { name := "widgets", location := some (.ofText "/opt/lib/widgets.py") }
    let ms := [os, codec, server, widgets]
    let rules : List Rule := [⟨"fast", "os", .child "fast"⟩, ⟨"widgets", "server", .child "lib"⟩]
    let found := (closure (.ofTable ms) rules [os]).registry
    let again := (closure (.ofTable ms) rules [server, os]).registry
    (ms.map (·.name)).Nodup ∧ [os] ⊆ [server, os] ∧ [server, os] ⊆ ms ∧
    found.modules = [os, codec] ∧ again.modules = [server, os, codec, widgets] ∧
    (∀ n m, found.get? n = some m → again.get? n = some m) ∧
    found.modules ⊆ again.modules ∧ [os] ⊆ found.modules := by
  intro os codec server widgets ms rules found again
  have hdistinct : (ms.map (·.name)).Nodup := by decide
  have hseeds : [os] ⊆ [server, os] := by simp
  have hothers : [server, os] ⊆ ms := by simp [ms]
  obtain ⟨hwithin, hmodules, hkept⟩ := closure_of_more_seeds hdistinct rules hseeds hothers
  exact ⟨hdistinct, hseeds, hothers, by decide +kernel, by decide +kernel, hwithin, hmodules, hkept⟩

end LivePreview.Module
