import LivePreview.Component.Document

/-!
# What keeps an expression from being written

An expression is refused for one of its parts: a name that is spelled as a constant, an integer with
too many digits, or a format literal with a backslash in a field. So is a statement for a part of one
of its expressions, wherever in its blocks it stands.
-/

namespace LivePreview

namespace Code

/-- The fields of a format literal, those in formats of fields included. -/
def pieceFields : List Piece → List Expr
  | [] => []
  | .text _ :: ps => pieceFields ps
  | .field v _ none :: ps => v :: pieceFields ps
  | .field v _ (some spec) :: ps => v :: (pieceFields spec ++ pieceFields ps)

/-- A part of an expression that is refused, and as what. -/
inductive Refuses : Expr → HostFault → Prop
  | constantName {id : String} (h : id ∈ constantNames) : Refuses (.name id) (.constantAsName id)
  | integer {n : Nat} (h : Nat.pow 10 digitLimit ≤ n) :
      Refuses (.constant (.integer n)) .integerTooLong
  | field {pieces : List Piece} {v : Expr} (h : v ∈ pieceFields pieces)
      (hbackslash : '\\' ∈ v.print true (Level.next Level.test)) :
      Refuses (.format pieces) .backslashInField

/-- Something among these parts is refused. -/
def Refused (ps : List Expr) (fault : HostFault) : Prop := ∃ e ∈ ps, Refuses e fault

theorem Refused.mono {ps qs : List Expr} {fault : HostFault} (h : Refused ps fault)
    (hsub : ∀ e ∈ ps, e ∈ qs) : Refused qs fault := by
  obtain ⟨e, he, h⟩ := h
  exact ⟨e, hsub e he, h⟩

theorem Refused.cons {ps : List Expr} {fault : HostFault} (h : Refused ps fault) (e : Expr) :
    Refused (e :: ps) fault := h.mono fun _ he => List.mem_cons_of_mem e he

theorem refused_append {ps qs : List Expr} {fault : HostFault} :
    Refused (ps ++ qs) fault ↔ Refused ps fault ∨ Refused qs fault := by
  simp only [Refused, List.mem_append, or_and_right, exists_or]

theorem orElse_eq_some {α : Type} {a b : Option α} {x : α} (h : (a <|> b) = some x) :
    a = some x ∨ b = some x := by
  cases a with
  | none => exact .inr h
  | some y => exact .inl h

theorem refused_of_constant {k : Constant} {fault : HostFault} (h : k.unwritable? = some fault) :
    Refuses (.constant k) fault := by
  unfold Constant.unwritable? at h
  split at h
  · split at h
    · next hlong =>
      cases h
      exact .integer hlong
    · cases h
  · cases h

section Parts

variable {fault : HostFault}

/-- The first of two reasons is one of either. -/
theorem refused_orElse {α : Type} {a b : Option α} {x : α} {ps qs : List Expr}
    (h : (a <|> b) = some x) (ha : a = some x → Refused ps fault)
    (hb : b = some x → Refused qs fault) : Refused (ps ++ qs) fault := by
  rcases orElse_eq_some h with h | h
  · exact refused_append.mpr (.inl (ha h))
  · exact refused_append.mpr (.inr (hb h))

/-- Something among these parts is refused, or one of these fields is for the backslash in it. -/
def RefusedIn (parts fields : List Expr) (fault : HostFault) : Prop :=
  Refused parts fault ∨ fault = .backslashInField ∧
    ∃ v ∈ fields, '\\' ∈ v.print true (Level.next Level.test)

theorem refusedIn_orElse {α : Type} {a b : Option α} {x : α} {ps qs vs ws : List Expr}
    (h : (a <|> b) = some x) (ha : a = some x → RefusedIn ps vs fault)
    (hb : b = some x → RefusedIn qs ws fault) : RefusedIn (ps ++ qs) (vs ++ ws) fault := by
  rcases orElse_eq_some h with h | h
  · refine (ha h).imp (refused_append.mpr ∘ .inl) ?_
    rintro ⟨rfl, v, hv, hbackslash⟩
    exact ⟨rfl, v, List.mem_append_left ws hv, hbackslash⟩
  · refine (hb h).imp (refused_append.mpr ∘ .inr) ?_
    rintro ⟨rfl, v, hv, hbackslash⟩
    exact ⟨rfl, v, List.mem_append_right vs hv, hbackslash⟩

theorem refusedIn_field {v : Expr} (hv : v.unwritable? = some fault → Refused v.parts fault)
    (h : unwritableField v = some fault) : RefusedIn v.parts [v] fault := by
  rw [unwritableField] at h
  refine (orElse_eq_some h).imp hv fun h => ?_
  split at h
  · next hbackslash =>
    cases h
    exact ⟨rfl, v, List.mem_singleton_self v, List.contains_iff_mem.mp hbackslash⟩
  · cases h

mutual

/-- An expression that is not written has a part that is refused. -/
theorem Expr.refused_of_unwritable (e : Expr) (h : e.unwritable? = some fault) :
    Refused e.parts fault := by
  cases e <;> rw [Expr.unwritable?] at h <;> rw [Expr.parts]
  case constant k => exact ⟨_, List.mem_singleton_self _, refused_of_constant h⟩
  case name id => cases h
  case «attribute» v a => exact (v.refused_of_unwritable h).cons _
  case subscript v i =>
    exact (refused_orElse h v.refused_of_unwritable i.refused_of_unwritable).cons _
  case slice l u s =>
    rw [List.append_assoc]
    exact (refused_orElse h (refused_of_option l) fun h =>
      refused_orElse h (refused_of_option u) (refused_of_option s)).cons _
  case starred v => exact (v.refused_of_unwritable h).cons _
  case call f as ks =>
    rw [List.append_assoc]
    exact (refused_orElse h f.refused_of_unwritable fun h =>
      refused_orElse h (refused_of_list as) (refused_of_keywords ks)).cons _
  case tuple es => exact (refused_of_list es h).cons _
  case list es => exact (refused_of_list es h).cons _
  case set es => exact (refused_of_list es h).cons _
  case mapping items => exact (refused_of_mapping items h).cons _
  case boolean op es => exact (refused_of_list es h).cons _
  case binary l op r =>
    exact (refused_orElse h l.refused_of_unwritable r.refused_of_unwritable).cons _
  case unary op e => exact (e.refused_of_unwritable h).cons _
  case compare e rest =>
    exact (refused_orElse h e.refused_of_unwritable (refused_of_comparisons rest)).cons _
  case conditional t b o =>
    rw [List.append_assoc]
    exact (refused_orElse h b.refused_of_unwritable fun h =>
      refused_orElse h t.refused_of_unwritable o.refused_of_unwritable).cons _
  case lambda ps b =>
    exact (refused_orElse h (refused_of_params ps) b.refused_of_unwritable).cons _
  case comprehension k e cs =>
    exact (refused_orElse h e.refused_of_unwritable (refused_of_clauses cs)).cons _
  case mappingComprehension k v cs =>
    rw [List.append_assoc]
    exact (refused_orElse h k.refused_of_unwritable fun h =>
      refused_orElse h v.refused_of_unwritable (refused_of_clauses cs)).cons _
  case assignment n v => exact ((v.refused_of_unwritable h).cons _).cons _
  case yield v => exact (refused_of_option v h).cons _
  case yieldFrom v => exact (v.refused_of_unwritable h).cons _
  case await v => exact (v.refused_of_unwritable h).cons _
  case format ps =>
    rcases refused_of_pieces ps h with h | ⟨rfl, v, hv, hbackslash⟩
    · exact h.cons _
    · exact ⟨_, List.mem_cons_self, .field hv hbackslash⟩

theorem refused_of_option (e : Option Expr) (h : unwritableOption e = some fault) :
    Refused (optionParts e) fault := by
  cases e <;> rw [unwritableOption] at h <;> rw [optionParts]
  case none => cases h
  case some e => exact e.refused_of_unwritable h

theorem refused_of_list (es : List Expr) (h : unwritableList es = some fault) :
    Refused (listParts es) fault := by
  cases es <;> rw [unwritableList] at h <;> rw [listParts]
  case nil => cases h
  case cons e es => exact refused_orElse h e.refused_of_unwritable (refused_of_list es)

theorem refused_of_keywords (ks : List Keyword) (h : unwritableKeywords ks = some fault) :
    Refused (keywordParts ks) fault := by
  match ks with
  | [] =>
    rw [unwritableKeywords] at h
    cases h
  | .named n v :: ks | .unpacked v :: ks =>
    rw [unwritableKeywords] at h
    rw [keywordParts]
    exact refused_orElse h v.refused_of_unwritable (refused_of_keywords ks)

theorem refused_of_mapping (items : List MappingItem) (h : unwritableMapping items = some fault) :
    Refused (mappingParts items) fault := by
  match items with
  | [] =>
    rw [unwritableMapping] at h
    cases h
  | .pair k v :: items =>
    rw [unwritableMapping] at h
    rw [mappingParts, List.append_assoc]
    exact refused_orElse h k.refused_of_unwritable fun h =>
      refused_orElse h v.refused_of_unwritable (refused_of_mapping items)
  | .unpacked v :: items =>
    rw [unwritableMapping] at h
    rw [mappingParts]
    exact refused_orElse h v.refused_of_unwritable (refused_of_mapping items)

theorem refused_of_comparisons (rest : List Comparison)
    (h : unwritableComparisons rest = some fault) : Refused (comparisonParts rest) fault := by
  match rest with
  | [] =>
    rw [unwritableComparisons] at h
    cases h
  | .step op v :: rest =>
    rw [unwritableComparisons] at h
    rw [comparisonParts]
    exact refused_orElse h v.refused_of_unwritable (refused_of_comparisons rest)

theorem refused_of_clauses (cs : List Clause) (h : unwritableClauses cs = some fault) :
    Refused (clauseParts cs) fault := by
  match cs with
  | [] =>
    rw [unwritableClauses] at h
    cases h
  | .loop isAsync t s conditions :: rest =>
    rw [unwritableClauses] at h
    rw [clauseParts, List.append_assoc, List.append_assoc]
    exact refused_orElse h t.refused_of_unwritable fun h =>
      refused_orElse h s.refused_of_unwritable fun h =>
        refused_orElse h (refused_of_list conditions) (refused_of_clauses rest)

theorem refused_of_params (ps : List LambdaParam) (h : unwritableParams ps = some fault) :
    Refused (lambdaParts ps) fault := by
  match ps with
  | [] =>
    rw [unwritableParams] at h
    cases h
  | .param kind n d :: ps =>
    rw [unwritableParams] at h
    rw [lambdaParts]
    exact refused_orElse h (refused_of_option d) (refused_of_params ps)

theorem refused_of_pieces (ps : List Piece) (h : unwritablePieces ps = some fault) :
    RefusedIn (pieceParts ps) (pieceFields ps) fault := by
  match ps with
  | [] =>
    rw [unwritablePieces] at h
    cases h
  | .text s :: ps =>
    rw [unwritablePieces] at h
    rw [pieceParts, pieceFields]
    exact refused_of_pieces ps h
  | .field v conversion none :: ps =>
    rw [unwritablePieces] at h
    rw [pieceParts, pieceFields]
    exact refusedIn_orElse h (refusedIn_field v.refused_of_unwritable) (refused_of_pieces ps)
  | .field v conversion (some spec) :: ps =>
    rw [unwritablePieces] at h
    rw [pieceParts, pieceFields, List.append_assoc]
    exact refusedIn_orElse h (refusedIn_field v.refused_of_unwritable) fun h =>
      refusedIn_orElse h (refused_of_pieces spec) (refused_of_pieces ps)

end

end Parts

theorem Expr.refused_of_constantName {e : Expr} {name : String} (h : e.constantName? = some name) :
    Refused e.parts (.constantAsName name) := by
  obtain ⟨part, hpart, h⟩ := List.exists_of_findSome?_eq_some h
  refine ⟨part, hpart, ?_⟩
  split at h
  · split at h
    · next hconstant =>
      cases h
      exact .constantName (List.contains_iff_mem.mp hconstant)
    · cases h
  · cases h

/-! ## Statements -/

def Parameter.parts (p : Parameter) : List Expr := optionParts p.hint ++ optionParts p.default

mutual

/-- The parts of all expressions in a statement. -/
def Statement.parts : Statement → List Expr
  | .importModule _ | .importFrom _ _ | .pass => []
  | .classDef _ _ _ body => blockParts body
  | .function _ params body => params.flatMap Parameter.parts ++ blockParts body
  | .assign target value => target.parts ++ value.parts
  | .expression value | .return value => value.parts

def blockParts : List Statement → List Expr
  | [] => []
  | s :: ss => s.parts ++ blockParts ss

end

/-! ## Reasons for refusals -/

/-- Names of constants, integers and format literals are all that can be refused. -/
def Expr.refusable : Expr → Bool
  | .name id => constantNames.contains id
  | .constant (.integer _) | .format _ => true
  | _ => false

theorem refusable_of_refuses {e : Expr} {fault : HostFault} (h : Refuses e fault) :
    e.refusable = true := by
  cases h with
  | constantName h => exact List.contains_iff_mem.mpr h
  | integer h => rfl
  | field h hbackslash => rfl

section Accounted

variable {Q : HostFault → Prop} {e : Expr} {ps qs : List Expr}

/-- All that is refused among these parts has a reason. -/
def Accounted (Q : HostFault → Prop) (ps : List Expr) : Prop :=
  ∀ e ∈ ps, ∀ fault, Refuses e fault → Q fault

theorem Accounted.reason {fault : HostFault} (h : Accounted Q ps) (hps : Refused ps fault) :
    Q fault := by
  obtain ⟨e, he, hrefuses⟩ := hps
  exact h e he fault hrefuses

theorem accounted_of_unrefusable (h : ∀ e ∈ ps, e.refusable = false) : Accounted Q ps := by
  intro e he fault hrefuses
  exact absurd (refusable_of_refuses hrefuses) (Bool.eq_false_iff.mp (h e he))

@[simp] theorem accounted_nil : Accounted Q [] := fun _ he => absurd he List.not_mem_nil

@[simp] theorem accounted_append : Accounted Q (ps ++ qs) ↔ Accounted Q ps ∧ Accounted Q qs :=
  List.forall_mem_append

theorem accounted_cons (h : e.refusable = false) : Accounted Q (e :: ps) ↔ Accounted Q ps := by
  refine List.forall_mem_cons.trans (and_iff_right fun fault hrefuses => ?_)
  exact absurd (refusable_of_refuses hrefuses) (Bool.eq_false_iff.mp h)

theorem accounted_flatMap {α : Type} {f : α → List Expr} {as : List α} :
    Accounted Q (as.flatMap f) ↔ ∀ a ∈ as, Accounted Q (f a) := List.forall_mem_flatMap

theorem listParts_eq_flatMap (es : List Expr) : listParts es = es.flatMap Expr.parts := by
  induction es with
  | nil => rw [listParts, List.flatMap_nil]
  | cons e es ih => rw [listParts, List.flatMap_cons, ih]

theorem blockParts_eq_flatMap (ss : List Statement) :
    blockParts ss = ss.flatMap Statement.parts := by
  induction ss with
  | nil => rw [blockParts, List.flatMap_nil]
  | cons s ss ih => rw [blockParts, List.flatMap_cons, ih]

theorem accounted_name_of {name : String} (h : name ∈ constantNames → Q (.constantAsName name)) :
    Accounted Q (Expr.name name).parts := by
  rw [Expr.parts]
  intro e he fault hrefuses
  cases List.mem_singleton.mp he
  cases hrefuses with
  | constantName hconstant => exact h hconstant

theorem accounted_name {name : String} (h : name ∉ constantNames) :
    Accounted Q (Expr.name name).parts := accounted_name_of fun hconstant => absurd hconstant h

theorem accounted_constant {k : Constant} (h : (Expr.constant k).refusable = false) :
    Accounted Q (Expr.constant k).parts := by
  rw [Expr.parts, accounted_cons h]
  exact accounted_nil

theorem accounted_attribute {e : Expr} (h : Accounted Q e.parts) (name : String) :
    Accounted Q (Expr.attribute e name).parts := by
  rw [Expr.parts, accounted_cons rfl]
  exact h

theorem accounted_tuple {es : List Expr} (h : ∀ e ∈ es, Accounted Q e.parts) :
    Accounted Q (Expr.tuple es).parts := by
  rw [Expr.parts, accounted_cons rfl, listParts_eq_flatMap, accounted_flatMap]
  exact h

end Accounted

end Code

namespace Component

open LivePreview.Code (Expr Parameter Refused Statement blockParts optionParts refused_append
  refused_orElse)

variable {fault : HostFault}

theorem refused_of_parameter {p : Parameter} (h : unwritableParameter? p = some fault) :
    Refused p.parts fault := by
  have hoption {e : Option Expr} (h : e.bind Expr.unwritable? = some fault) :
      Refused (optionParts e) fault := by
    obtain ⟨e, rfl, h⟩ := Option.bind_eq_some_iff.mp h
    exact e.refused_of_unwritable h
  exact refused_orElse h hoption hoption

theorem refused_of_parameterParts {ps : List Parameter} {name : String}
    (h : (parameterParts ps).findSome? Expr.constantName? = some name) :
    Refused (ps.flatMap Parameter.parts) (.constantAsName name) := by
  obtain ⟨e, he, h⟩ := List.exists_of_findSome?_eq_some h
  refine (Expr.refused_of_constantName h).mono fun part hpart => List.mem_flatMap.mpr ?_
  rcases List.mem_append.mp he with he | he
  · obtain ⟨p, hp, he⟩ := List.mem_filterMap.mp he
    exact ⟨p, hp, List.mem_append_left _ (by rw [he]; exact hpart)⟩
  · obtain ⟨p, hp, he⟩ := List.mem_filterMap.mp he
    exact ⟨p, hp, List.mem_append_right _ (by rw [he]; exact hpart)⟩

mutual

theorem refused_of_constantName (s : Statement) {name : String} (h : constantName? s = some name) :
    Refused s.parts (.constantAsName name) := by
  cases s <;> rw [constantName?] at h <;> rw [Statement.parts]
  case importModule m => cases h
  case importFrom m names => cases h
  case pass => cases h
  case classDef n base doc body => exact refused_of_blockConstantName body h
  case function n ps body =>
    rw [refused_append, or_comm, ← refused_append]
    exact refused_orElse h (refused_of_blockConstantName body) refused_of_parameterParts
  case assign target value =>
    exact refused_orElse h Expr.refused_of_constantName Expr.refused_of_constantName
  case expression value => exact Expr.refused_of_constantName h
  case «return» value => exact Expr.refused_of_constantName h

theorem refused_of_blockConstantName (ss : List Statement) {name : String}
    (h : blockConstantName? ss = some name) : Refused (blockParts ss) (.constantAsName name) := by
  cases ss <;> rw [blockConstantName?] at h <;> rw [blockParts]
  case nil => cases h
  case cons s ss =>
    exact refused_orElse h (refused_of_constantName s) (refused_of_blockConstantName ss)

end

mutual

/-- A statement that is not written has a part that is refused. -/
theorem refused_of_unwritable (s : Statement) (h : unwritable? s = some fault) :
    Refused s.parts fault := by
  cases s <;> rw [unwritable?] at h <;> rw [Statement.parts]
  case importModule m => cases h
  case importFrom m names => cases h
  case pass => cases h
  case classDef n base doc body => exact refused_of_blockUnwritable body h
  case function n ps body =>
    refine refused_orElse h (fun h => ?_) (refused_of_blockUnwritable body)
    obtain ⟨p, hp, h⟩ := List.exists_of_findSome?_eq_some h
    exact (refused_of_parameter h).mono fun e he => List.mem_flatMap.mpr ⟨p, hp, he⟩
  case assign target value =>
    exact refused_orElse h target.refused_of_unwritable value.refused_of_unwritable
  case expression value => exact value.refused_of_unwritable h
  case «return» value => exact value.refused_of_unwritable h

theorem refused_of_blockUnwritable (ss : List Statement) (h : blockUnwritable? ss = some fault) :
    Refused (blockParts ss) fault := by
  cases ss <;> rw [blockUnwritable?] at h <;> rw [blockParts]
  case nil => cases h
  case cons s ss =>
    exact refused_orElse h (refused_of_unwritable s) (refused_of_blockUnwritable ss)

end

/-- Statements that pass the checks are written if none of their parts can be refused. -/
theorem moduleText_of_unrefusable {path : String} {ss : List Statement}
    (hpath : path.toList.contains '\x00' = false)
    (hparts : ((blockParts ss).all fun e => !e.refusable) = true)
    (hchecked : (Code.checkModule ss).isOk = true) :
    moduleText path ss = .ok (Statement.text ss) := by
  have hnever (fault : HostFault) : ¬ Refused (blockParts ss) fault := by
    rintro ⟨e, he, hrefuses⟩
    have hunrefusable := List.all_eq_true.mp hparts e he
    rw [Code.refusable_of_refuses hrefuses] at hunrefusable
    cases hunrefusable
  unfold moduleText
  rw [hpath]
  cases hconstant : blockConstantName? ss with
  | some name => exact absurd (refused_of_blockConstantName ss hconstant) (hnever _)
  | none =>
    cases hcheck : Code.checkModule ss with
    | error fault =>
      rw [hcheck] at hchecked
      cases hchecked
    | ok _ =>
      cases hunwritable : blockUnwritable? ss with
      | some fault => exact absurd (refused_of_blockUnwritable ss hunwritable) (hnever fault)
      | none => rfl

end Component

end LivePreview
