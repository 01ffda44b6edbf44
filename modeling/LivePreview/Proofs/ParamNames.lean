import LivePreview.Proofs.Division
import LivePreview.Proofs.Heading
import LivePreview.Proofs.Nesting
import LivePreview.Proofs.NormalForm
import LivePreview.Proofs.Signature

/-!
# Names of parameters

The name of a parameter is an ASCII letter with word characters behind it, and no reserved word.
Names are compared as they are written, and any distinct such names can be declared together. But
not every word character can stand in an identifier, and the normal form of a name may be a reserved
word or the normal form of another name. A name of ASCII characters has none of these faults.
-/

namespace LivePreview

namespace Template

open Text (isWord isBlank isKeyword isIdentifier isIdentifierStart isIdentifierContinue normalForm
  inside)

/-- What is asked of the name of a parameter. -/
structure ParamName (name : String) : Prop where
  letter : ∃ c, name.toList.head? = some c ∧ isLetter c = true
  word : ∀ c ∈ name.toList, isWord c = true
  usable : isKeyword name = false ∧ name ∉ reservedParams

/-- Names under which parameters can be handed over: identifiers that are neither reserved nor the
same once they are in normal form. -/
structure SoundNames (names : List String) : Prop where
  identifier : ∀ name ∈ names, isIdentifier name.toList = true
  usable : ∀ name ∈ names, isUnusableParam (normalForm name) = false
  distinct : (names.map normalForm).Nodup

/-! ## ASCII characters -/

theorem toNat_lt_of_isLetter {c : Char} (h : isLetter c = true) : c.toNat < 128 := by
  simp only [isLetter, Bool.or_eq_true, Bool.and_eq_true, decide_eq_true_iff] at h
  rcases h with h | h
  · exact Nat.lt_of_le_of_lt (show c.toNat ≤ 'Z'.toNat from h.2) (by decide)
  · exact Nat.lt_of_le_of_lt (show c.toNat ≤ 'z'.toNat from h.2) (by decide)

/-- What holds of each of the first letters by their codes holds of every letter. -/
theorem of_isLetter {P : Char → Prop}
    (hall : ∀ n < 128, isLetter (Char.ofNat n) = true → P (Char.ofNat n)) {c : Char}
    (h : isLetter c = true) : P c := by
  have hc := hall c.toNat (toNat_lt_of_isLetter h)
  rw [Char.ofNat_toNat] at hc
  exact hc h

section Letters

variable {c : Char} (h : isLetter c = true)

include h

theorem isWord_of_isLetter : isWord c = true :=
  of_isLetter (P := fun c => isWord c = true) (by decide +kernel) h

theorem not_isBlank_of_isLetter : isBlank c = false :=
  of_isLetter (P := fun c => isBlank c = false) (by decide +kernel) h

theorem ne_underscore_of_isLetter : c ≠ '_' :=
  of_isLetter (P := fun c => c ≠ '_') (by decide +kernel) h

theorem isIdentifierStart_of_isLetter : isIdentifierStart c = true :=
  of_isLetter (P := fun c => isIdentifierStart c = true) (by decide +kernel) h

theorem isIdentifierContinue_of_isLetter : isIdentifierContinue c = true :=
  of_isLetter (P := fun c => isIdentifierContinue c = true) (by decide +kernel) h

end Letters

/-- An ASCII word character can stand in an identifier. -/
theorem isIdentifierContinue_of_ascii {c : Char} (hc : c.toNat < 128) (h : isWord c = true) :
    isIdentifierContinue c = true := by
  have hall : ∀ n < 128, inside Text.wordBoundaries n = true →
      inside Text.identifierContinueBoundaries n = true := by decide +kernel
  exact hall c.toNat hc h

/-! ## One name -/

namespace ParamName

variable {name : String}

theorem isIdentifier_iff (h : ParamName name) :
    isIdentifier name.toList = true ↔ ∀ c ∈ name.toList, isIdentifierContinue c = true := by
  obtain ⟨c, hhead, hletter⟩ := h.letter
  obtain ⟨cs, hname⟩ : ∃ cs, name.toList = c :: cs := ⟨_, (List.cons_head?_tail hhead).symm⟩
  rw [hname, isIdentifier, isIdentifierStart_of_isLetter hletter, Bool.true_and, List.all_eq_true,
    List.forall_mem_cons]
  exact (and_iff_right (isIdentifierContinue_of_isLetter hletter)).symm

theorem head_normalForm (h : ParamName name) : (normalForm name).toList.head? ≠ some '_' := by
  obtain ⟨c, hhead, hletter⟩ := h.letter
  exact Text.head?_normalForm_ne_underscore hhead (toNat_lt_of_isLetter hletter)
    (ne_underscore_of_isLetter hletter)

/-- In normal form a name can only be refused as a reserved word. -/
theorem isUnusableParam_normalForm_iff (h : ParamName name) :
    isUnusableParam (normalForm name) = false ↔
      isKeyword (normalForm name) = false ∧ normalForm name ∉ reservedParams := by
  simp [isUnusableParam, h.head_normalForm]

theorem isIdentifier_of_ascii (h : ParamName name) (hascii : ∀ c ∈ name.toList, c.toNat < 128) :
    isIdentifier name.toList = true :=
  h.isIdentifier_iff.mpr fun c hc => isIdentifierContinue_of_ascii (hascii c hc) (h.word c hc)

end ParamName

/-! ## Reading a name -/

theorem isUnusableParam_eq_false_iff {name : String} : isUnusableParam name = false ↔
    (isKeyword name = false ∧ name ∉ reservedParams) ∧ name.toList.head? ≠ some '_' := by
  simp [isUnusableParam, and_comm, and_left_comm]

theorem paramName_of_paramLine? {args : List Char} {line : ParamLine}
    (h : paramLine? args = some line)
    (husable : isUnusableParam (String.ofList line.name) = false) :
    ParamName (String.ofList line.name) := by
  obtain ⟨hfree, hunderscore⟩ := isUnusableParam_eq_false_iff.mp husable
  obtain ⟨gap, c, word, rest, -, -, -, hstart, hword, hdivides⟩ := divides_of_paramLine? h
  have hname : (String.ofList line.name).toList = c :: word := by
    rw [String.toList_ofList, hdivides.name_eq]
  rw [hname] at hunderscore
  have hletter : isLetter c = true := by
    have hc : c ≠ '_' := fun heq => hunderscore (congrArg some heq)
    simpa [isNameStart, hc] using hstart
  refine ⟨⟨c, by rw [hname]; rfl, hletter⟩, ?_, hfree⟩
  rw [hname]
  exact List.forall_mem_cons.mpr ⟨isWord_of_isLetter hletter, hword⟩

/-- The line that declares a parameter without a hint or a default. -/
def plainLine (name : String) : List Char := ' ' :: name.toList

/-- A name that a parameter can have is read alone from its line. -/
theorem paramLine?_plainLine {name : String} (h : ParamName name) :
    paramLine? (plainLine name) = some ⟨name.toList, none, none⟩ := by
  obtain ⟨c, hhead, hletter⟩ := h.letter
  obtain ⟨cs, hname⟩ : ∃ cs, name.toList = c :: cs := ⟨_, (List.cons_head?_tail hhead).symm⟩
  have hword := h.word
  rw [hname] at hword
  obtain ⟨hc, hcs⟩ := List.forall_mem_cons.mp hword
  have hspace : isBlank ' ' = true := by decide
  have hstart : isNameStart c = true := by simp [isNameStart, hletter]
  have hrun := takeWhile_run [] hcs (by simp)
  rw [List.append_nil] at hrun
  simp [paramLine?, plainLine, hname, hspace, not_isBlank_of_isLetter hletter, hstart, hrun,
    paramRest?]

theorem unbroken_plainLine {name : String} (h : ParamName name) : '\n' ∉ plainLine name := by
  refine not_or.mpr ⟨by decide, fun hmem => ?_⟩ ∘ List.mem_cons.mp
  exact absurd (h.word _ hmem) (by decide +kernel)

/-- The line of a parameter, as it stands at the head of a text. -/
def plainDirective (name : String) (h : ParamName name) : DirectiveLine where
  indent := []
  kind := .param
  args := plainLine name
  indented := nofun
  bounded := show isWord ' ' = false by decide +kernel
  unbroken := unbroken_plainLine h

/-! ## Names of a template -/

/-- The names of the parameters of a template are those that its lexemes declare. -/
theorem names_of_read {cs : List Char} {t : Template} (h : ofChars cs = .ok t) :
    t.params.map (·.name) = (lexemes cs).filterMap Lexeme.declares? := by
  obtain ⟨es, hes, hparams, -⟩ := declarations_of_read h
  rw [hparams, List.map_flatMap, flatMap_effects (fun l _ here e he => declares_of_effect he) hes,
    ← List.filterMap_eq_flatMap_toList]

theorem paramNames_of_read {cs : List Char} {t : Template} (h : ofChars cs = .ok t) :
    (t.params.map (·.name)).Nodup ∧ ∀ name ∈ t.params.map (·.name), ParamName name := by
  have hdistinct := nodup_params_of_read (declarationsOfChars_of_ofChars h)
  refine ⟨hdistinct, fun name hname => ?_⟩
  obtain ⟨es, hes, hparams, -⟩ := declarations_of_read h
  obtain ⟨p, hp, rfl⟩ := List.mem_map.mp hname
  rw [hparams] at hp
  obtain ⟨e, he, hp⟩ := List.mem_flatMap.mp hp
  obtain ⟨l, -, here, heffect⟩ := exists_effect_of_mem hes e he
  cases yields_of_effect heffect with
  | param hread =>
    obtain ⟨line, hint, default, hline, husable, -, -, rfl⟩ := readParam_eq_ok_iff.mp hread
    rw [List.mem_singleton.mp hp]
    exact paramName_of_paramLine? hline husable
  | openTag _ _ =>
    rw [(declarations_tagEffect ..).1] at hp
    exact absurd hp List.not_mem_nil
  | _ => exact absurd hp List.not_mem_nil

theorem brackets_of_directives {ls : List Lexeme} (h : ∀ l ∈ ls, l.isDirective = true) :
    ∀ place : Position, brackets place ls = [] := by
  induction ls with
  | nil => exact fun _ => rfl
  | cons l ls ih =>
    intro place
    obtain ⟨hl, hls⟩ := List.forall_mem_cons.mp h
    cases l with
    | directive indent kind args ended => rw [brackets, ih hls]; rfl
    | _ => cases hl

/-- Distinct names that parameters can have are declared together by a line for each. -/
theorem exists_read_of_paramNames {names : List String} (hdistinct : names.Nodup)
    (hnames : ∀ name ∈ names, ParamName name) :
    ∃ cs t, ofChars cs = .ok t ∧ t.params.map (·.name) = names := by
  let lines := names.pmap plainDirective hnames
  have hlexemes : lexemes (headText lines) =
      names.map fun name => .directive [] .param (plainLine name) true := by
    have hhead := lexemes_head lines []
    rw [List.append_nil, show lexemes [] = [] from rfl, List.append_nil] at hhead
    rw [hhead, List.map_pmap]
    change names.pmap (fun name _ => Lexeme.directive [] .param (plainLine name) true) hnames = _
    exact List.pmap_eq_map ..
  have hsound : ∀ l ∈ lexemes (headText lines), l.isSound = true := by
    rw [hlexemes, List.forall_mem_map]
    intro name hname
    have hparam := hnames name hname
    rw [Lexeme.isSound, paramLine?_plainLine hparam, Option.any_some, ParamLine.isSound,
      String.ofList_toList]
    obtain ⟨c, hhead, hletter⟩ := hparam.letter
    have husable : isUnusableParam name = false := isUnusableParam_eq_false_iff.mpr
      ⟨hparam.usable, by rw [hhead]; simpa using ne_underscore_of_isLetter hletter⟩
    rw [husable]
    rfl
  have hdeclares : (lexemes (headText lines)).filterMap Lexeme.declares? = names := by
    rw [hlexemes, List.filterMap_map]
    refine (List.filterMap_congr (g := some) fun name hname => ?_).trans List.filterMap_some
    rw [Function.comp_apply, Lexeme.declares?, paramLine?_plainLine (hnames name hname),
      Option.map_some, String.ofList_toList]
  have hdirectives : ∀ l ∈ lexemes (headText lines), l.isDirective = true := by
    rw [hlexemes]
    simp [Lexeme.isDirective]
  have hbrackets := brackets_of_directives hdirectives .start
  have hmap := ofChars_map hsound (hdeclares ▸ hdistinct)
  rw [hbrackets] at hmap
  cases hread : ofChars (headText lines) with
  | error o =>
    rw [hread] at hmap
    cases hmap
  | ok t => exact ⟨_, t, hread, (names_of_read hread).trans hdeclares⟩

/-! ## Names in normal form -/

/-- What can be wrong with names that parameters have: a character that cannot stand in an identifier,
a normal form that is reserved, and two names with one normal form. -/
theorem soundNames_iff {names : List String} (hnames : ∀ name ∈ names, ParamName name) :
    SoundNames names ↔
      (∀ name ∈ names, ∀ c ∈ name.toList, isIdentifierContinue c = true) ∧
      (∀ name ∈ names, isKeyword (normalForm name) = false ∧ normalForm name ∉ reservedParams) ∧
      (names.map normalForm).Nodup := by
  constructor
  · intro h
    exact ⟨fun name hname => (hnames name hname).isIdentifier_iff.mp (h.identifier name hname),
      fun name hname => (hnames name hname).isUnusableParam_normalForm_iff.mp (h.usable name hname),
      h.distinct⟩
  · rintro ⟨hidentifier, husable, hdistinct⟩
    exact ⟨fun name hname => (hnames name hname).isIdentifier_iff.mpr (hidentifier name hname),
      fun name hname => (hnames name hname).isUnusableParam_normalForm_iff.mpr (husable name hname),
      hdistinct⟩

/-- In normal form, names are distinct and not reserved as they are. -/
theorem soundNames_of_normal {names : List String} (hnames : ∀ name ∈ names, ParamName name)
    (hdistinct : names.Nodup) (hnormal : ∀ name ∈ names, normalForm name = name) :
    SoundNames names ↔ ∀ name ∈ names, ∀ c ∈ name.toList, isIdentifierContinue c = true := by
  have hsame : names.map normalForm = names := (List.map_congr_left hnormal).trans (List.map_id _)
  rw [soundNames_iff hnames, hsame]
  refine and_iff_left ⟨fun name hname => ?_, hdistinct⟩
  rw [hnormal name hname]
  exact (hnames name hname).usable

/-- The parameters of a source that is read have distinct names as `ParamName` asks for them, and any
such names are those of a source. None of them begins with an underscore in normal form. They are
identifiers, no reserved words and distinct in normal form just where no character of them is out of
place in an identifier, no normal form is reserved and no two are the same. For names in normal form
only the characters count, and for names of ASCII characters nothing does. -/
theorem param_names_of_read (names : List String) :
    ((∃ source filename t, ofText source filename = .ok t ∧ t.params.map (·.name) = names) ↔
      names.Nodup ∧ ∀ name ∈ names, ParamName name) ∧
    ∀ source filename t, ofText source filename = .ok t → t.params.map (·.name) = names →
      (∀ name ∈ names, (normalForm name).toList.head? ≠ some '_') ∧
      (SoundNames names ↔
        (∀ name ∈ names, ∀ c ∈ name.toList, isIdentifierContinue c = true) ∧
        (∀ name ∈ names, isKeyword (normalForm name) = false ∧ normalForm name ∉ reservedParams) ∧
        (names.map normalForm).Nodup) ∧
      ((∀ name ∈ names, normalForm name = name) → (SoundNames names ↔
        ∀ name ∈ names, ∀ c ∈ name.toList, isIdentifierContinue c = true)) ∧
      ((∀ name ∈ names, ∀ c ∈ name.toList, c.toNat < 128) → SoundNames names) := by
  refine ⟨⟨?_, ?_⟩, ?_⟩
  · rintro ⟨source, filename, t, ht, rfl⟩
    exact paramNames_of_read (ofText_eq_ok_iff.mp ht)
  · rintro ⟨hdistinct, hnames⟩
    obtain ⟨cs, t, ht, htNames⟩ := exists_read_of_paramNames hdistinct hnames
    exact ⟨String.ofList cs, none, t,
      ofText_eq_ok_iff.mpr (by rwa [String.toList_ofList]), htNames⟩
  · rintro source filename t ht rfl
    obtain ⟨hdistinct, hnames⟩ := paramNames_of_read (ofText_eq_ok_iff.mp ht)
    refine ⟨fun name hname => (hnames name hname).head_normalForm, soundNames_iff hnames,
      soundNames_of_normal hnames hdistinct, fun hascii => ?_⟩
    have hnormal : ∀ name ∈ t.params.map (·.name), normalForm name = name := fun name hname =>
      Text.normalForm_of_ascii (hascii name hname)
    exact (soundNames_of_normal hnames hdistinct hnormal).mpr fun name hname =>
      (hnames name hname).isIdentifier_iff.mp
        ((hnames name hname).isIdentifier_of_ascii (hascii name hname))

/-- A page with two parameters. -/
def plainParams : String := "@param title\n@param size: int"

theorem param_names_of_read_plainParams : ∃ t, ofText plainParams none = .ok t ∧
    t.params.map (·.name) = ["title", "size"] ∧ SoundNames ["title", "size"] := by
  obtain ⟨t, ht, hnames⟩ := exists_of_map_eq_some plainParams
    (f := fun t => t.params.map (·.name)) (b := ["title", "size"]) (by decide +kernel) none
  obtain ⟨-, -, -, hascii⟩ := (param_names_of_read ["title", "size"]).2 plainParams none t ht hnames
  exact ⟨t, ht, hnames, hascii (by simp)⟩

/-- Not every name of a parameter is an identifier. -/
theorem param_names_not_always_identifiers :
    ¬ ∀ (source : String) (t : Template), ofText source none = .ok t →
      SoundNames (t.params.map (·.name)) := by
  intro hclaim
  obtain ⟨t, ht, hnames⟩ := exists_of_map_eq_some "@param a²"
    (f := fun t => t.params.map (·.name)) (b := ["a²"]) (by decide +kernel) none
  have hsound := (hclaim _ t ht).identifier "a²" (hnames ▸ List.mem_singleton_self _)
  exact absurd hsound (by decide +kernel)

end Template

end LivePreview
