import LivePreview.Module.Handlers
import LivePreview.Proofs.Pieces
import LivePreview.Proofs.Reports

/-!
# No exception gets out of a closure

Where every answer of a resolver with exceptions is, behind the handlers, that of a resolver without
any, a closure over the one is the closure over the other. A directory is listed without a handler for
wrong values, so that a null character in its path would end the closure: the locations that a closure
comes to have none, because those it starts from have none and rules bring none in. Nothing is said
here of which handlers the operations of a host need.
-/

namespace LivePreview

/-! ## Locations without null characters -/

/-- There is no null character in the location. -/
def Location.NullFree (l : Location) : Prop := ∀ s ∈ l.segments, '\x00' ∉ s.toList

namespace Location

theorem NullFree.parent {l : Location} (h : l.NullFree) : l.parent.NullFree :=
  fun s hs => h s (List.dropLast_subset _ hs)

theorem nullFree_ofText {s : String} (h : '\x00' ∉ s.toList) : (ofText s).NullFree := by
  intro segment hsegment
  obtain ⟨piece, hpiece, rfl⟩ := List.mem_map.mp hsegment
  rw [String.toList_ofList]
  exact fun hnull => h (mem_of_mem_pieces _ piece (List.mem_filter.mp hpiece).1 _ hnull)

theorem NullFree.join {l : Location} (h : l.NullFree) {s : String} (hs : '\x00' ∉ s.toList) :
    (l.join s).NullFree := by
  change (l.append (ofText s)).NullFree
  unfold append
  split
  · intro segment hsegment
    rcases List.mem_append.mp hsegment with hold | hnew
    · exact h segment hold
    · exact nullFree_ofText hs segment hnew
  · exact nullFree_ofText hs

theorem nullFree_ofParts {ps : List String} (h : ∀ p ∈ ps, '\x00' ∉ p.toList) :
    (ofParts ps).NullFree := by
  refine List.foldlRecOn (motive := NullFree) ps join ?_ fun l hl p hp => hl.join (h p hp)
  exact fun s hs => absurd hs List.not_mem_nil

theorem NullFree.parts {l : Location} (h : l.NullFree) : ∀ p ∈ l.parts, '\x00' ∉ p.toList := by
  intro p hp
  rw [Location.parts] at hp
  split at hp
  · exact h p hp
  · rcases List.mem_cons.mp hp with rfl | hp
    · cases l.root <;> decide
    · exact h p hp

theorem null_notMem_intercalate {ss : List String} (h : ∀ s ∈ ss, '\x00' ∉ s.toList) :
    '\x00' ∉ ("/".intercalate ss).toList := by
  induction ss with
  | nil => decide
  | cons s ss ih =>
    obtain ⟨hs, hss⟩ := List.forall_mem_cons.mp h
    cases ss with
    | nil =>
      rw [String.intercalate_singleton]
      exact hs
    | cons t ts =>
      rw [String.intercalate_cons_cons, String.toList_append, String.toList_append,
        List.mem_append, List.mem_append, not_or, not_or]
      exact ⟨⟨hs, by decide⟩, ih hss⟩

theorem NullFree.text {l : Location} (h : l.NullFree) : '\x00' ∉ l.text.toList := by
  unfold Location.text
  split
  · decide
  · rw [String.toList_append, List.mem_append, not_or]
    refine ⟨?_, null_notMem_intercalate h⟩
    cases l.root <;> decide

end Location

namespace Module

/-! ## Rules without null characters -/

/-- The texts of a rule bring no null character into a location; neither does a way of the host's
own. -/
def Rule.NullFree (rule : Rule) : Prop :=
  match rule.sibling with
  | .parent => True
  | .child name => '\x00' ∉ name.toList
  | .replace _ new => '\x00' ∉ new.toList
  | .other directory => ∀ l, l.NullFree → (directory l).NullFree

theorem nullFree_moduleDirectory {l : Location} (h : l.NullFree) : (moduleDirectory l).NullFree := by
  unfold moduleDirectory
  split
  · exact h.parent.parent
  · exact h.parent

theorem null_notMem_replaceIn {old new segment : String} (hnew : '\x00' ∉ new.toList)
    (hsegment : '\x00' ∉ segment.toList) : '\x00' ∉ (replaceIn old new segment).toList := by
  unfold replaceIn
  split
  · exact hsegment
  · extract_lets cs
    simp only [String.toList_append, String.toList_ofList, List.mem_append, not_or]
    exact ⟨⟨fun h => hsegment (List.mem_of_mem_take h), hnew⟩,
      fun h => hsegment (List.mem_of_mem_drop h)⟩

theorem Rule.NullFree.directory {rule : Rule} (h : rule.NullFree) {l : Location} (hl : l.NullFree) :
    (rule.sibling.directory l).NullFree := by
  unfold Rule.NullFree at h
  unfold Sibling.directory
  split
  · exact nullFree_moduleDirectory hl
  · next hsibling =>
    rw [hsibling] at h
    exact (nullFree_moduleDirectory hl).join h
  · next hsibling =>
    rw [hsibling] at h
    refine Location.nullFree_ofParts fun p hp => ?_
    obtain ⟨part, hpart, rfl⟩ := List.mem_map.mp hp
    exact null_notMem_replaceIn h (hl.parent.parts part hpart)
  · next hsibling =>
    rw [hsibling] at h
    exact h l hl

/-! ## Records without null characters -/

def Record.NullFree (m : Record) : Prop := ∀ l, m.location = some l → l.NullFree

/-- The modules that a resolver knows have no null characters in their locations, as long as the
directories that are listed have none. -/
structure Resolver.NullFree (resolver : Resolver) : Prop where
  load : ∀ name m, resolver.load name = .ok m → m.NullFree
  inspect : ∀ directory files, directory.NullFree → resolver.list directory = .ok files →
    ∀ l ∈ files, ∀ m, resolver.inspect l = .ok m → m.NullFree

section Common

/-- All modules that are recorded or wait have something in common. -/
structure Common (P : Record → Prop) (state : Search × Queue) : Prop where
  recorded : ∀ m ∈ state.1.registry.modules, P m
  waiting : ∀ m ∈ state.2.modules, P m

variable {P : Record → Prop} {resolver : Resolver}
  (hload : ∀ name m, resolver.load name = .ok m → P m)

include hload

theorem Common.followReference {state : Search × Queue} (h : Common P state) (name : String) :
    Common P (followReference resolver state name) := by
  obtain ⟨s, q⟩ := state
  have heffect := Moment.effect_follow resolver s q name [] []
  change Common P ((Module.followReference resolver (s, q) name).1,
    (Module.followReference resolver (s, q) name).2)
  generalize (Module.followReference resolver (s, q) name).1 = t at heffect ⊢
  generalize (Module.followReference resolver (s, q) name).2 = p at heffect ⊢
  cases heffect with
  | known _ => exact h
  | @loaded _ _ _ _ _ m _ hm =>
    refine ⟨h.recorded, fun other hother => ?_⟩
    rcases List.mem_append.mp hother with hold | hnew
    · exact h.waiting other hold
    · rw [List.mem_singleton.mp hnew]
      exact hload name m hm
  | failed _ _ => exact ⟨h.recorded, h.waiting⟩

theorem Common.visit {s : Search} {m : Record} {rest : Queue} (hm : P m)
    (h : Common P (s, rest)) : Common P (visit resolver s m rest) := by
  unfold Module.visit
  extract_lets rest
  split
  · exact ⟨h.recorded, h.waiting⟩
  · next hnew =>
    rw [Bool.not_eq_true] at hnew
    refine List.foldlRecOn (motive := Common P) m.references _ ⟨fun other hother => ?_, h.waiting⟩
      fun state hstate name _ => hstate.followReference hload name
    change other ∈ (s.registry.add m).modules at hother
    rw [Registry.modules_add hnew] at hother
    rcases List.mem_append.mp hother with hold | hlast
    · exact h.recorded other hold
    · rw [List.mem_singleton.mp hlast]
      exact hm

theorem Common.drain (rounds : Nat) : ∀ (s : Search) (q : Queue), Common P (s, q) →
    ∀ m ∈ (drain resolver rounds s q).registry.modules, P m := by
  induction rounds with
  | zero => exact fun s q h => h.recorded
  | succ rounds ih =>
    intro s q h
    rw [Module.drain]
    split
    · exact h.recorded
    · next m ms hms =>
      have hwaiting := h.waiting
      simp only [hms] at hwaiting
      obtain ⟨hm, hrest⟩ := List.forall_mem_cons.mp hwaiting
      have hvisit : Common P (Module.visit resolver s m { q with modules := ms }) :=
        Common.visit hload hm ⟨h.recorded, hrest⟩
      exact ih _ _ hvisit

theorem Common.traverse {s : Search} {ms : List Record} (hs : ∀ m ∈ s.registry.modules, P m)
    (hms : ∀ m ∈ ms, P m) : ∀ m ∈ (traverse resolver s ms).registry.modules, P m :=
  Common.drain hload _ s (.ofList ms) ⟨hs, hms⟩

end Common

theorem inspectFiles_common {P : Record → Prop} {resolver : Resolver} (files : List Location)
    (hinspect : ∀ l ∈ files, ∀ m, resolver.inspect l = .ok m → P m) :
    ∀ (s : Search) (found : List Record), (∀ m ∈ found, P m) →
      ∀ m ∈ (inspectFiles resolver s found files).2, P m := by
  induction files with
  | nil => exact fun _ _ h => h
  | cons l ls ih =>
    obtain ⟨hl, hls⟩ := List.forall_mem_cons.mp hinspect
    intro s found h
    rw [inspectFiles]
    split
    · exact ih hls _ found h
    · next m hm =>
      split
      · exact ih hls s found h
      · refine ih hls s _ fun other hother => ?_
        rcases List.mem_append.mp hother with hold | hnew
        · exact h other hold
        · rw [List.mem_singleton.mp hnew]
          exact hl m hm

/-- A directory that a rule leads to has no null character. -/
theorem nullFree_directory {s : Search} {rule : Rule} (hrule : rule.NullFree)
    (hs : ∀ m ∈ s.registry.modules, m.NullFree) {location : Location}
    (h : (s.registry.get? rule.anchor).map (·.location) = some (some location)) :
    (rule.sibling.directory location).NullFree := by
  obtain ⟨anchor, hanchor, hlocation⟩ := Option.map_eq_some_iff.mp h
  exact hrule.directory (hs anchor (Registry.mem_modules_of_get? hanchor) location hlocation)

theorem nullFree_discover {resolver : Resolver} (hresolver : resolver.NullFree) {s : Search}
    {rule : Rule} (hrule : rule.NullFree) (hs : ∀ m ∈ s.registry.modules, m.NullFree) :
    ∀ m ∈ (discover resolver s rule).2, m.NullFree := by
  unfold discover
  split
  · exact fun m hm => absurd hm List.not_mem_nil
  · exact fun m hm => absurd hm List.not_mem_nil
  · next location hlocation =>
    extract_lets directory
    have hdirectory : directory.NullFree := nullFree_directory hrule hs hlocation
    split
    · exact fun m hm => absurd hm List.not_mem_nil
    · next files hfiles =>
      exact inspectFiles_common files (hresolver.inspect directory files hdirectory hfiles) s []
        fun m hm => absurd hm List.not_mem_nil

theorem nullFree_applyRule {resolver : Resolver} (hresolver : resolver.NullFree) {s : Search}
    {rule : Rule} (hrule : rule.NullFree) (hs : ∀ m ∈ s.registry.modules, m.NullFree) :
    ∀ m ∈ (applyRule resolver s rule).registry.modules, m.NullFree := by
  have hsame : ∀ m ∈ (discover resolver s rule).1.registry.modules, m.NullFree := by
    rw [(discover_sameRecords resolver s rule).modules]
    exact hs
  exact Common.traverse hresolver.load hsame (nullFree_discover hresolver hrule hs)

/-! ## The same closure with exceptions -/

/-- Behind the handlers, every answer of the one resolver is that of the other. -/
structure RaisingResolver.Answers (raising : RaisingResolver) (resolver : Resolver) : Prop where
  load : ∀ name, loadAnswer (raising.load name) = .ok (resolver.load name)
  inspect : ∀ l, loadAnswer (raising.inspect l) = .ok (resolver.inspect l)
  list : ∀ l, l.NullFree →
    listAnswer (raising.list l) = .ok ((resolver.list l).mapError HostFault.text)
  size : raising.size = resolver.size

namespace RaisingResolver.Answers

variable {raising : RaisingResolver} {resolver : Resolver} (h : raising.Answers resolver)

include h

theorem followReference (state : Search × Queue) (name : String) :
    raising.followReference state name = .ok (Module.followReference resolver state name) := by
  obtain ⟨s, q⟩ := state
  rw [RaisingResolver.followReference, Module.followReference]
  split
  · rfl
  · rw [h.load]
    cases resolver.load name with
    | ok m => rfl
    | error f => rfl

theorem visit (s : Search) (m : Record) (rest : Queue) :
    raising.visit s m rest = .ok (Module.visit resolver s m rest) := by
  have hfollow : raising.followReference =
      fun state name => pure (Module.followReference resolver state name) :=
    funext fun state => funext fun name => h.followReference state name
  unfold RaisingResolver.visit Module.visit
  extract_lets rest
  split
  · rfl
  · rw [hfollow, List.foldlM_pure]
    rfl

theorem drain (rounds : Nat) : ∀ (s : Search) (q : Queue),
    raising.drain rounds s q = .ok (Module.drain resolver rounds s q) := by
  induction rounds with
  | zero => exact fun _ _ => rfl
  | succ rounds ih =>
    rintro s ⟨ms, pending⟩
    rw [RaisingResolver.drain, Module.drain]
    cases ms with
    | nil => rfl
    | cons m ms =>
      simp only [h.visit]
      exact ih _ _

theorem traverse (s : Search) (ms : List Record) :
    raising.traverse s ms = .ok (Module.traverse resolver s ms) := by
  rw [RaisingResolver.traverse, h.size]
  exact h.drain _ _ _

theorem inspectFiles (files : List Location) : ∀ (s : Search) (found : List Record),
    raising.inspectFiles s found files = .ok (Module.inspectFiles resolver s found files) := by
  induction files with
  | nil => exact fun _ _ => rfl
  | cons l ls ih =>
    intro s found
    rw [RaisingResolver.inspectFiles, Module.inspectFiles, h.inspect]
    cases resolver.inspect l with
    | error f => exact ih _ found
    | ok m =>
      simp only [ih]
      exact (apply_ite Except.ok _ _ _).symm

theorem discover {s : Search} {rule : Rule} (hrule : rule.NullFree)
    (hs : ∀ m ∈ s.registry.modules, m.NullFree) :
    raising.discover s rule = .ok (Module.discover resolver s rule) := by
  rw [RaisingResolver.discover, Module.discover]
  cases hlocation : (s.registry.get? rule.anchor).map (·.location) with
  | none => rfl
  | some location =>
    cases location with
    | none => rfl
    | some location =>
      simp only [h.list _ (nullFree_directory hrule hs hlocation)]
      cases resolver.list (rule.sibling.directory location) with
      | error fault => rfl
      | ok files =>
        change (raising.inspectFiles s [] files >>= _) = _
        rw [h.inspectFiles]
        rfl

theorem applyRule {s : Search} {rule : Rule} (hrule : rule.NullFree)
    (hs : ∀ m ∈ s.registry.modules, m.NullFree) :
    raising.applyRule s rule = .ok (Module.applyRule resolver s rule) := by
  rw [RaisingResolver.applyRule, h.discover hrule hs]
  exact h.traverse _ _

theorem applyRules (hresolver : resolver.NullFree) (rules : List Rule)
    (hrules : ∀ rule ∈ rules, rule.NullFree) :
    ∀ s : Search, (∀ m ∈ s.registry.modules, m.NullFree) →
      rules.foldlM raising.applyRule s = .ok (rules.foldl (Module.applyRule resolver) s) := by
  induction rules with
  | nil => exact fun _ _ => rfl
  | cons rule rules ih =>
    intro s hs
    obtain ⟨hrule, hrest⟩ := List.forall_mem_cons.mp hrules
    rw [List.foldlM_cons, List.foldl_cons, h.applyRule hrule hs]
    exact ih hrest _ (nullFree_applyRule hresolver hrule hs)

/-- No exception gets out, and what comes out is the closure without exceptions. -/
theorem closure (hresolver : resolver.NullFree) {rules : List Rule}
    (hrules : ∀ rule ∈ rules, rule.NullFree) {seeds : List Record}
    (hseeds : ∀ m ∈ seeds, m.NullFree) :
    raising.closure rules seeds = .ok (Module.closure resolver rules seeds) := by
  have hstart : ∀ m ∈ Search.start.registry.modules, m.NullFree :=
    fun m hm => absurd hm List.not_mem_nil
  have hfirst := Common.traverse hresolver.load hstart hseeds
  have hrest := h.applyRules hresolver rules hrules _ hfirst
  rw [RaisingResolver.closure, h.traverse]
  change (rules.foldlM raising.applyRule _ >>= _) = _
  rw [hrest]
  rfl

end RaisingResolver.Answers

end Module

end LivePreview
