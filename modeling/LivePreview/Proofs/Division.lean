import LivePreview.Proofs.Attributes
import LivePreview.Template.Directive

/-!
# How parameter lines are divided

A parameter line is blanks, a name, and perhaps a hint behind a colon and a default behind an equals
sign. A hint has no equals sign in it, so that there is one place only at which it can end. Of each
clause the line keeps all that stands before it.
-/

namespace LivePreview

namespace Template

open Text (isBlank isWord)

/-- How a parameter line is divided behind its name, where `before` is all that stands before. -/
inductive ParamLine.Divides (name before : List Char) : List Char → ParamLine → Prop
  | name {gap : List Char} : (∀ c ∈ gap, isBlank c = true) →
      Divides name before gap ⟨name, none, none⟩
  | hint {gap hint : List Char} : (∀ c ∈ gap, isBlank c = true) → hint ≠ [] → '=' ∉ hint →
      Divides name before (gap ++ ':' :: hint) ⟨name, some ⟨before ++ gap ++ [':'], hint⟩, none⟩
  | both {gap hint value : List Char} : (∀ c ∈ gap, isBlank c = true) → hint ≠ [] → '=' ∉ hint →
      value ≠ [] → Divides name before (gap ++ ':' :: (hint ++ '=' :: value))
        ⟨name, some ⟨before ++ gap ++ [':'], hint⟩,
          some ⟨before ++ gap ++ [':'] ++ hint ++ ['='], value⟩⟩
  | default {gap value : List Char} : (∀ c ∈ gap, isBlank c = true) → value ≠ [] →
      Divides name before (gap ++ '=' :: value)
        ⟨name, none, some ⟨before ++ gap ++ ['='], value⟩⟩

theorem notMem_takeWhile_ne (c : Char) (cs : List Char) : c ∉ cs.takeWhile (· ≠ c) :=
  fun hmem => of_decide_eq_true (forall_mem_takeWhile cs c hmem) rfl

theorem defaultClause?_eq_some {before cs : List Char} {clause : Clause}
    (h : defaultClause? before cs = some clause) : clause = ⟨before, cs⟩ ∧ cs ≠ [] := by
  cases cs with
  | nil => cases h
  | cons c cs =>
    cases h
    exact ⟨rfl, List.cons_ne_nil c cs⟩

section Lines

variable {name before rest args : List Char} {line : ParamLine}

theorem divides_of_paramRest? (h : paramRest? name before rest = some line) :
    line.Divides name before rest := by
  have hgap := forall_mem_takeWhile (p := isBlank) rest
  have hrest : rest.takeWhile isBlank ++ rest.dropWhile isBlank = rest :=
    List.takeWhile_append_dropWhile
  unfold paramRest? at h
  extract_lets gap at h
  split at h
  · next hend =>
    cases h
    rw [hend, List.append_nil] at hrest
    rw [← hrest]
    exact .name hgap
  · next cs hcolon =>
    have hcs : cs.takeWhile (· ≠ '=') ++ cs.dropWhile (· ≠ '=') = cs :=
      List.takeWhile_append_dropWhile
    have hsign := notMem_takeWhile_ne '=' cs
    rw [← hrest, hcolon]
    split at h
    · next hend =>
      dsimp only at h
      split at h
      · cases h
      · next hhint =>
        cases h
        rw [hend, List.append_nil] at hcs
        rw [hcs] at hhint hsign ⊢
        exact .hint hgap (by simpa using hhint) hsign
    · next sign value hvalue =>
      dsimp only at h
      split at h
      · cases h
      · next hhint =>
        obtain ⟨clause, hclause, rfl⟩ := Option.map_eq_some_iff.mp h
        obtain ⟨rfl, hne⟩ := defaultClause?_eq_some hclause
        have heq : sign = '=' := by
          have hhead := List.head?_dropWhile_not (fun c : Char => decide (c ≠ '=')) cs
          rw [hvalue] at hhead
          simpa using hhead
        rw [hvalue, heq] at hcs
        have hdivides : ParamLine.Divides name before
            (rest.takeWhile isBlank ++ ':' :: (cs.takeWhile (· ≠ '=') ++ '=' :: value)) _ :=
          .both hgap (by simpa using hhint) hsign hne
        rwa [hcs] at hdivides
  · next value hsign =>
    obtain ⟨clause, hclause, rfl⟩ := Option.map_eq_some_iff.mp h
    obtain ⟨rfl, hne⟩ := defaultClause?_eq_some hclause
    rw [← hrest, hsign]
    exact .default hgap hne
  · cases h

/-- What a parameter line begins with: blanks and a name. -/
theorem divides_of_paramLine? (h : paramLine? args = some line) :
    ∃ gap c word rest, args = gap ++ (c :: word ++ rest) ∧ gap ≠ [] ∧
      (∀ b ∈ gap, isBlank b = true) ∧ isNameStart c = true ∧ (∀ d ∈ word, isWord d = true) ∧
      line.Divides (c :: word) (gap ++ c :: word) rest := by
  unfold paramLine? at h
  extract_lets gap at h
  split at h
  · cases h
  · next c cs hargs =>
    extract_lets name at h
    split at h
    · cases h
    · next hstart =>
      simp only [Bool.or_eq_true, not_or, Bool.not_eq_true, Bool.not_eq_false'] at hstart
      refine ⟨gap, c, cs.takeWhile isWord, cs.dropWhile isWord, ?_, by simpa using hstart.1,
        forall_mem_takeWhile args, hstart.2, forall_mem_takeWhile cs, divides_of_paramRest? h⟩
      rw [List.cons_append, List.takeWhile_append_dropWhile, ← hargs,
        List.takeWhile_append_dropWhile]

theorem ParamLine.Divides.name_eq (h : line.Divides name before rest) : line.name = name := by
  cases h <;> rfl

/-- Behind a name a line goes on by a blank or a sign, if at all. -/
theorem ParamLine.Divides.head (h : line.Divides name before rest) :
    ∀ c ∈ rest.head?, isBlank c = true ∨ c = ':' ∨ c = '=' := by
  have hrun {gap cs : List Char} (hgap : ∀ c ∈ gap, isBlank c = true)
      (hcs : ∀ c ∈ cs.head?, c = ':' ∨ c = '=') :
      ∀ c ∈ (gap ++ cs).head?, isBlank c = true ∨ c = ':' ∨ c = '=' := by
    intro c hc
    cases gap with
    | nil => exact .inr (hcs c hc)
    | cons d gap => exact .inl (hgap c (List.mem_cons.mpr (.inl (Option.some.inj hc).symm)))
  cases h with
  | name hgap => exact fun c hc => .inl (hgap c (List.mem_of_mem_head? hc))
  | hint hgap _ _ => exact hrun hgap fun c hc => .inl (Option.mem_some.mp hc).symm
  | both hgap _ _ _ => exact hrun hgap fun c hc => .inl (Option.mem_some.mp hc).symm
  | default hgap _ => exact hrun hgap fun c hc => .inr (Option.mem_some.mp hc).symm

/-- There is no other way to divide a line. -/
theorem paramRest?_of_divides (h : line.Divides name before rest) :
    paramRest? name before rest = some line := by
  have hcolon : isBlank ':' = false := by decide
  have hequals : isBlank '=' = false := by decide
  have hunsigned {cs : List Char} (hcs : '=' ∉ cs) : ∀ c ∈ cs, decide (c ≠ '=') = true :=
    fun c hc => decide_eq_true fun heq => hcs (heq ▸ hc)
  cases h with
  | name hgap =>
    have hrun := takeWhile_run [] hgap (by simp)
    rw [List.append_nil] at hrun
    simp only [paramRest?, hrun.2]
  | @hint gap hint hgap hne hsign =>
    have hrun := takeWhile_run (':' :: hint) hgap (by simpa using hcolon)
    have hwhole := takeWhile_run [] (hunsigned hsign) (by simp)
    rw [List.append_nil] at hwhole
    simp only [paramRest?, hrun.1, hrun.2, hwhole.1, hwhole.2, List.isEmpty_iff, hne, if_false]
  | @both gap hint value hgap hne hsign hvalue =>
    have hrun := takeWhile_run (':' :: (hint ++ '=' :: value)) hgap (by simpa using hcolon)
    have hfront := takeWhile_run ('=' :: value) (hunsigned hsign) (by simp)
    obtain ⟨c, cs, rfl⟩ := List.exists_cons_of_ne_nil hvalue
    simp only [paramRest?, hrun.1, hrun.2, hfront.1, hfront.2, List.isEmpty_iff, hne, if_false,
      defaultClause?, Option.map_some]
  | @default gap value hgap hvalue =>
    have hrun := takeWhile_run ('=' :: value) hgap (by simpa using hequals)
    obtain ⟨c, cs, rfl⟩ := List.exists_cons_of_ne_nil hvalue
    simp only [paramRest?, hrun.1, hrun.2, defaultClause?, Option.map_some]

end Lines

end Template

end LivePreview
