import LivePreview.Component.Shape
import LivePreview.Component.Stub
import LivePreview.Proofs.Literal
import LivePreview.Proofs.Name

/-!
# Stubs are read back

The text of a shape is written as the statements of a class and read as a stub. Each part of it,
from a literal to the four attributes of the surface, is read up to its own end and gives what was
written. So the text of a shape shows its surface, whatever characters the path and the hints hold.
No such text holds a null character.
-/

namespace LivePreview.Component

open LivePreview.Code
open LivePreview.Text (Points behind? behind?_append isWord)

/-! ## Marks -/

theorem behind?_cons_of_ne {m c : Char} (h : m ≠ c) (mark cs : List Char) :
    behind? (m :: mark) (c :: cs) = none := by
  rw [behind?, List.isPrefixOf_cons_cons, beq_false_of_ne h, Bool.false_and]
  rfl

/-! ## Texts and tuples -/

theorem toString?_ofChars (cs : List Char) :
    Points.toString? (Points.ofChars cs) = some (String.ofList cs) := by
  have hall : (Points.ofChars cs).all (fun p => (Char.ofNat p).toNat == p) = true := by
    rw [List.all_eq_true]
    intro p hp
    obtain ⟨c, -, rfl⟩ := List.mem_map.mp hp
    rw [Char.ofNat_toNat, beq_self_eq_true]
  have hback : (Points.ofChars cs).map Char.ofNat = cs := by
    rw [Points.ofChars, List.map_map]
    exact List.map_id'' Char.ofNat_toNat cs
  rw [Points.toString?, if_pos hall, hback]

def writtenText (s : String) : List Char := quoted (Points.ofString s)

/-- No quote comes next, so that no literal before could go on. -/
def Unquoted (rest : List Char) : Prop := ∀ q, IsQuote q → rest.head? ≠ some q

theorem unquoted_cons {c : Char} (hs : c ≠ '\'') (hd : c ≠ '"') (cs : List Char) :
    Unquoted (c :: cs) := by
  rintro q (rfl | rfl) h
  · exact hs (Option.some.inj h)
  · exact hd (Option.some.inj h)

theorem text_of_body {quote : Char} (hq : IsQuote quote) {cs body rest : List Char} {s : String}
    (hbody : literalFrom quote cs = some (body, rest))
    (hvalue : textValue? false body = some (Points.ofString s)) :
    Stub.text (quote :: cs) = some (s, rest) := by
  have hc : (quote = '"' || quote = '\'') = true := by rcases hq with rfl | rfl <;> rfl
  have hs : Points.toString? (Points.ofString s) = some s := by
    rw [Points.ofString, toString?_ofChars, String.ofList_toList]
  simp only [Stub.text, hc, if_true, hbody, hvalue, hs, Option.bind_eq_bind, Option.bind_some]

theorem text_writtenText (s : String) {rest : List Char} (hrest : Unquoted rest) :
    Stub.text (writtenText s ++ rest) = some (s, rest) := by
  have hq := isQuote_plainQuote (Points.ofChars s.toList)
  have hpoints : ∀ p ∈ Points.ofChars s.toList, p ≤ 0x10ffff := fun _ => le_of_mem_ofChars
  have hfrom := literalFrom_quoted hpoints (hrest _ hq)
  have happend : writtenText s ++ rest = plainQuote (Points.ofChars s.toList) ::
      (quotedBody (Points.ofChars s.toList) ++ plainQuote (Points.ofChars s.toList) :: rest) := by
    rw [writtenText, quoted, Points.ofString, List.cons_append, List.append_assoc]
    rfl
  rw [happend]
  exact text_of_body hq hfrom (textValue?_quotedBody hpoints)

theorem text_documentation (s : String) (rest : List Char) :
    Stub.text (openQuoted tripleQuotes (Points.ofString (s ++ ".")) ++ rest) =
      some (s ++ ".", rest) := by
  obtain ⟨quote, body, hq, heq, hin, hvalue, -⟩ := documentation_spec s
  have hshape : List.replicate 3 quote ++ body ++ List.replicate 3 quote ++ rest =
      quote :: quote :: quote :: (body ++ (List.replicate 3 quote ++ rest)) := by
    rw [List.append_assoc, List.append_assoc]
    rfl
  rw [heq, hshape]
  exact text_of_body hq (literalFrom_triple hq hin rest) hvalue

theorem print_ofText (s : String) (level : Nat) :
    (Expr.ofText s).print false level = writtenText s := by
  simp [Expr.ofText, Expr.print, Constant.print, writtenText]

def writtenHint : Option String → List Char
  | some s => writtenText s
  | none => "None".toList

theorem print_optionalText (hint : Option String) (level : Nat) :
    (optionalText hint).print false level = writtenHint hint := by
  cases hint with
  | none => simp [optionalText, Expr.print, Constant.print, writtenHint]
  | some s => exact print_ofText s level

theorem writtenText_eq_cons (s : String) : ∃ q cs, IsQuote q ∧ writtenText s = q :: cs :=
  ⟨_, _, isQuote_plainQuote _, rfl⟩

theorem optionalText_writtenHint (hint : Option String) {rest : List Char} (hrest : Unquoted rest) :
    Stub.optionalText (writtenHint hint ++ rest) = some (hint, rest) := by
  cases hint with
  | none =>
    rw [writtenHint, Stub.optionalText, behind?_append]
  | some s =>
    obtain ⟨q, cs, hq, hs⟩ := writtenText_eq_cons s
    have hnone : behind? "None".toList (writtenText s ++ rest) = none := by
      have hne : 'N' ≠ q := by rcases hq with rfl | rfl <;> decide
      rw [hs]
      exact behind?_cons_of_ne hne _ _
    rw [writtenHint, Stub.optionalText, hnone, text_writtenText s hrest]
    rfl

def writtenTuple (items : List (List Char)) : List Char := '(' :: (tupleItems items ++ [')'])

theorem printList_eq_map (level : Nat) (es : List Expr) :
    printList false level es = es.map (Expr.print false level) := by
  induction es with
  | nil => simp [printList]
  | cons e es ih => simp [printList, ih]

theorem print_tuple (items : List Expr) :
    (Expr.tuple items).print false Level.test =
      writtenTuple (items.map (Expr.print false Level.test)) := by
  have hlevel : (items.isEmpty || decide (Level.tuple < Level.test)) = true := by
    rw [Bool.or_eq_true]
    exact Or.inr (by decide)
  rw [Expr.print, hlevel, printList_eq_map]
  rfl

theorem commaSeparated_cons (t : List Char) (ts : List (List Char)) :
    commaSeparated (t :: ts) = t ++ ts.flatMap fun u => ',' :: ' ' :: u := by
  induction ts generalizing t with
  | nil => rw [commaSeparated, List.flatMap_nil, List.append_nil]
  | cons u us ih =>
    rw [commaSeparated, ih u, List.flatMap_cons]
    · rfl
    · exact List.cons_ne_nil u us

section Tuples

variable {α : Type} {item : Stub.Part α} {write : α → List Char} {as : List α}

/-- What is written for each of some items is read up to its own end, and no item is written like
the end of a tuple. -/
def Readable (item : Stub.Part α) (write : α → List Char) (as : List α) : Prop :=
  ∀ a ∈ as, (∀ rest, Unquoted rest → item (write a ++ rest) = some (a, rest)) ∧
    ∀ rest, behind? [')'] (write a ++ rest) = none

def furtherItems (write : α → List Char) (as : List α) (rest : List Char) : List Char :=
  as.flatMap (fun a => ',' :: ' ' :: write a) ++ ')' :: rest

theorem unquoted_furtherItems (write : α → List Char) (as : List α) (rest : List Char) :
    Unquoted (furtherItems write as rest) := by
  cases as with
  | nil => exact unquoted_cons (by decide) (by decide) _
  | cons a as => exact unquoted_cons (by decide) (by decide) _

theorem length_lt_furtherItems (write : α → List Char) (as : List α) (rest : List Char) :
    as.length < (furtherItems write as rest).length := by
  induction as with
  | nil => exact Nat.zero_lt_succ _
  | cons a as ih =>
    have hcons : furtherItems write (a :: as) rest =
        ',' :: ' ' :: (write a ++ furtherItems write as rest) := by
      simp [furtherItems]
    rw [hcons]
    simp only [List.length_cons, List.length_append]
    omega

theorem moreItems_furtherItems (h : Readable item write as) (rest : List Char) :
    ∀ rounds, as.length < rounds →
      Stub.moreItems item rounds (furtherItems write as rest) = some (as, rest) := by
  induction as with
  | nil =>
    rintro (_ | rounds) hr
    · exact absurd hr (Nat.not_lt_zero _)
    · rfl
  | cons a as ih =>
    rintro (_ | rounds) hr
    · exact absurd hr (Nat.not_lt_zero _)
    · have hcons : furtherItems write (a :: as) rest =
          [',', ' '] ++ (write a ++ furtherItems write as rest) := by
        simp [furtherItems]
      have hread := (h a List.mem_cons_self).1 _ (unquoted_furtherItems write as rest)
      have hmore := ih (fun b hb => h b (List.mem_cons_of_mem a hb)) rounds
        (Nat.lt_of_succ_lt_succ hr)
      rw [hcons]
      simp only [Stub.moreItems, behind?_append, hread, hmore, Option.bind_eq_bind,
        Option.bind_some]

/-- A tuple is read as its items, the tuple of one item among them. -/
theorem tuple_writtenTuple (h : Readable item write as) (rest : List Char) :
    Stub.tuple item (writtenTuple (as.map write) ++ rest) = some (as, rest) := by
  cases as with
  | nil => rfl
  | cons a as =>
    obtain ⟨hread, hopen⟩ := h a List.mem_cons_self
    cases as with
    | nil =>
      have htext : writtenTuple ([a].map write) ++ rest =
          ['('] ++ (write a ++ ([',', ')'] ++ rest)) := by
        simp [writtenTuple, tupleItems]
      have hfirst := hread ([',', ')'] ++ rest) (unquoted_cons (by decide) (by decide) _)
      rw [htext, Stub.tuple, behind?_append]
      simp only [Option.bind_eq_bind, Option.bind_some, hopen, hfirst, behind?_append]
    | cons b bs =>
      have htext : writtenTuple ((a :: b :: bs).map write) ++ rest =
          ['('] ++ (write a ++ furtherItems write (b :: bs) rest) := by
        simp [writtenTuple, tupleItems, commaSeparated_cons, furtherItems, List.flatMap_map]
      have hfirst := hread _ (unquoted_furtherItems write (b :: bs) rest)
      have hnext : behind? [',', ')'] (furtherItems write (b :: bs) rest) = none := rfl
      have hmore := moreItems_furtherItems (fun c hc => h c (List.mem_cons_of_mem a hc)) rest _
        (length_lt_furtherItems write (b :: bs) rest)
      rw [htext, Stub.tuple, behind?_append]
      simp only [Option.bind_eq_bind, Option.bind_some, hopen, hfirst, hnext, hmore,
        List.isEmpty_cons, Bool.false_eq_true, if_false]

end Tuples

/-! ## Surfaces -/

theorem behind?_writtenText (s : String) (rest : List Char) :
    behind? [')'] (writtenText s ++ rest) = none := by
  obtain ⟨q, cs, hq, hs⟩ := writtenText_eq_cons s
  rw [hs]
  exact behind?_cons_of_ne (by rcases hq with rfl | rfl <;> decide) _ _

theorem readable_writtenText (ss : List String) : Readable Stub.text writtenText ss :=
  fun s _ => ⟨fun _ => text_writtenText s, behind?_writtenText s⟩

def writtenParam (p : String × Option String) : List Char :=
  writtenTuple [writtenText p.1, writtenHint p.2]

theorem param_writtenParam (p : String × Option String) (rest : List Char) :
    Stub.param (writtenParam p ++ rest) = some (p, rest) := by
  obtain ⟨name, hint⟩ := p
  have htext : writtenParam (name, hint) ++ rest =
      ['('] ++ (writtenText name ++ ([',', ' '] ++ (writtenHint hint ++ ([')'] ++ rest)))) := by
    simp [writtenParam, writtenTuple, tupleItems, commaSeparated]
  have hcomma : Unquoted ([',', ' '] ++ (writtenHint hint ++ ([')'] ++ rest))) :=
    unquoted_cons (by decide) (by decide) _
  have hclose : Unquoted ([')'] ++ rest) := unquoted_cons (by decide) (by decide) _
  simp only [htext, Stub.param, behind?_append, text_writtenText name hcomma,
    optionalText_writtenHint hint hclose, Option.bind_eq_bind, Option.bind_some]

theorem readable_writtenParam (ps : List (String × Option String)) :
    Readable Stub.param writtenParam ps :=
  fun p _ => ⟨fun rest _ => param_writtenParam p rest, fun _ => rfl⟩

def writtenLine (name : String) (value : List Char) : List Char :=
  "    ".toList ++ name.toList ++ " = ".toList ++ value

theorem attributeLine_writtenLine {α : Type} {item : Stub.Part α} {value rest : List Char} {a : α}
    (name : String) (h : item (value ++ '\n' :: rest) = some (a, '\n' :: rest)) :
    Stub.attributeLine name item (writtenLine name value ++ '\n' :: rest) = some (a, rest) := by
  rw [writtenLine, List.append_assoc, Stub.attributeLine, behind?_append]
  simp only [Option.bind_eq_bind, Option.bind_some, h]
  rfl

/-- What other templates can see of a template at a path. -/
def Surface.ofTemplate (t : Template) (path : String) : Surface where
  source := some path
  module := some (moduleName path)
  params := t.params.map fun p => (p.name, p.hint.map (·.source))
  required := (t.params.filter (·.required)).map (·.name)

theorem lines_assignName (name : String) (value : Expr) :
    Statement.lines 1 (assignName name value) =
      [writtenLine name (value.print false Level.test)] := by
  rw [assignName, Statement.lines, Expr.print]
  rfl

theorem blockLines_surface (t : Template) (path : String) :
    Statement.blockLines 1 (surface t path) = [
      writtenLine "__source__" (writtenText path),
      writtenLine "__generated_module__" (writtenText (moduleName path)),
      writtenLine "__params__" (writtenTuple ((Surface.ofTemplate t path).params.map writtenParam)),
      writtenLine "__required__"
        (writtenTuple ((Surface.ofTemplate t path).required.map writtenText))] := by
  have hparam (p : Template.Param) : (Expr.tuple [.ofText p.name,
      optionalText (p.hint.map (·.source))]).print false Level.test =
        writtenParam (p.name, p.hint.map (·.source)) := by
    rw [print_tuple, List.map_cons, List.map_singleton, print_ofText, print_optionalText]
    rfl
  simp only [surface, Statement.blockLines, lines_assignName, print_ofText, print_tuple,
    List.map_map, Function.comp_def, hparam, Surface.ofTemplate, List.append_nil,
    List.singleton_append]

/-- The lines of a stub below its head. -/
def writtenBody (t : Template) (path : String) : List Char :=
  '\n' :: Statement.joinLines ((Statement.margin 1 ++
    openQuoted tripleQuotes (Points.ofString ("Declaration of " ++ path ++ "."))) ::
      Statement.blockLines 1 (surface t path))

/-- Below its head a stub is read as the surface of its template. -/
theorem surface_writtenBody (t : Template) (path : String) :
    Stub.surface (writtenBody t path) = some (Surface.ofTemplate t path, []) := by
  have hnewline (rest : List Char) : Unquoted ('\n' :: rest) :=
    unquoted_cons (by decide) (by decide) rest
  have hbody : writtenBody t path = "\n    ".toList ++
      (openQuoted tripleQuotes (Points.ofString ("Declaration of " ++ path ++ ".")) ++ (['\n'] ++
        (writtenLine "__source__" (writtenText path) ++ '\n' ::
        (writtenLine "__generated_module__" (writtenText (moduleName path)) ++ '\n' ::
        (writtenLine "__params__"
          (writtenTuple ((Surface.ofTemplate t path).params.map writtenParam)) ++ '\n' ::
        (writtenLine "__required__"
          (writtenTuple ((Surface.ofTemplate t path).required.map writtenText)) ++ '\n' ::
            [])))))) := by
    rw [writtenBody, blockLines_surface]
    simp [Statement.joinLines, Statement.margin, List.replicate]
  rw [hbody, Stub.surface, behind?_append]
  simp only [Option.bind_eq_bind, Option.bind_some, text_documentation, behind?_append,
    attributeLine_writtenLine _ (text_writtenText _ (hnewline _)),
    attributeLine_writtenLine _ (tuple_writtenTuple (readable_writtenParam _) _),
    attributeLine_writtenLine _ (tuple_writtenTuple (readable_writtenText _) _)]
  rfl

/-! ## Whole stubs -/

theorem toList_text_ofTemplate (t : Template) (path : String) :
    (Shape.ofTemplate t path).text.toList = "class ".toList ++ ((componentName path).toList ++
      (['('] ++ (baseName.toList ++ ([')'] ++ ([':'] ++ writtenBody t path))))) := by
  simp [Shape.ofTemplate, Statement.text, Statement.moduleLines, Statement.blockLines,
    Statement.lines, Statement.joinLines, Statement.margin, writtenBody]

theorem isNameChar_of_isWord {c : Char} (h : isWord c = true) : Stub.isNameChar c = true := by
  have hnone : ("(): \n".toList.all fun d => !isWord d) = true := by decide
  rw [Stub.isNameChar, Bool.not_eq_true', ← Bool.not_eq_true, List.contains_iff_mem]
  intro hc
  have hword := List.all_eq_true.mp hnone c hc
  rw [h] at hword
  exact absurd hword (by decide)

/-- A name made of word characters is read as a whole, if it can be a name at all. -/
theorem name_of_wordlike {s : String} (h : Wordlike s.toList) {c : Char}
    (hc : Stub.isNameChar c = false) (rest : List Char) :
    Stub.name (s.toList ++ c :: rest) =
      if Text.isIdentifier s.toList && !Text.isKeyword s then
        some (Text.normalForm s, c :: rest)
      else none := by
  have hchars : ∀ d ∈ s.toList, Stub.isNameChar d = true :=
    fun d hd => isNameChar_of_isWord (h.2 d hd)
  have htake : (s.toList ++ c :: rest).takeWhile Stub.isNameChar = s.toList := by
    rw [List.takeWhile_append_of_pos hchars, List.takeWhile_cons_of_neg (by simp [hc]),
      List.append_nil]
  have hdrop : (s.toList ++ c :: rest).dropWhile Stub.isNameChar = c :: rest := by
    rw [List.dropWhile_append_of_pos hchars, List.dropWhile_cons_of_neg (by simp [hc])]
  rw [Stub.name, htake, hdrop, String.ofList_toList]

theorem wordlike_baseName : Wordlike baseName.toList := by
  have hall : baseName.toList.all isWord = true := by decide
  exact ⟨by decide, List.all_eq_true.mp hall⟩

theorem name_baseName (rest : List Char) :
    Stub.name (baseName.toList ++ (')' :: rest)) = some (baseName, ')' :: rest) := by
  have hascii : (baseName.toList.all fun c => decide (c.toNat < 128)) = true := by decide
  have hnormal : Text.normalForm baseName = baseName :=
    Text.normalForm_of_ascii fun c hc => of_decide_eq_true (List.all_eq_true.mp hascii c hc)
  rw [name_of_wordlike wordlike_baseName (by decide), hnormal]
  rfl

theorem base_baseName (rest : List Char) :
    Stub.base ('(' :: (baseName.toList ++ ')' :: rest)) = some (some baseName, rest) := by
  have hopen : behind? ['('] ('(' :: (baseName.toList ++ ')' :: rest)) =
      some (baseName.toList ++ ')' :: rest) := behind?_append ['('] _
  have hclose : behind? [')'] (')' :: rest) = some rest := behind?_append [')'] rest
  simp only [Stub.base, hopen, name_baseName, hclose, Option.bind_eq_bind, Option.bind_some]
  rfl

/-- A stub is read as a class with the surface of its template, as soon as the name of the component
can be a name. -/
theorem classText_text (t : Template) (path : String) :
    Stub.classText (Shape.ofTemplate t path).text.toList =
      if Text.isIdentifier (componentName path).toList && !Text.isKeyword (componentName path) then
        some (.classDef (Text.normalForm (componentName path)) (some baseName)
          (.shows (Surface.ofTemplate t path)), [])
      else none := by
  have hopen : Stub.isNameChar '(' = false := by decide
  have hname := name_of_wordlike (wordlike_componentName path) hopen
    (baseName.toList ++ ')' :: ':' :: writtenBody t path)
  have hcolon : behind? [':'] (':' :: writtenBody t path) = some (writtenBody t path) :=
    behind?_append [':'] _
  have hbody : Stub.body (writtenBody t path) = some (.shows (Surface.ofTemplate t path), []) := by
    rw [Stub.body, surface_writtenBody]
  have htext : (Shape.ofTemplate t path).text.toList =
      "class ".toList ++ ((componentName path).toList ++
        '(' :: (baseName.toList ++ ')' :: ':' :: writtenBody t path)) :=
    toList_text_ofTemplate t path
  rw [htext, Stub.classText, behind?_append]
  simp only [Option.bind_eq_bind, Option.bind_some, hname]
  split
  · simp only [Option.bind_some, base_baseName, hcolon, hbody]
  · rfl

theorem ofChars?_text (t : Template) (path : String) :
    Stub.ofChars? (Shape.ofTemplate t path).text.toList =
      if Text.isIdentifier (componentName path).toList && !Text.isKeyword (componentName path) then
        some (.classDef (Text.normalForm (componentName path)) (some baseName)
          (.shows (Surface.ofTemplate t path)))
      else none := by
  have hdone : Stub.isDone (Shape.ofTemplate t path).text.toList = false := by
    rw [toList_text_ofTemplate]
    rfl
  have hclass : "class ".toList.isPrefixOf (Shape.ofTemplate t path).text.toList = true := by
    rw [toList_text_ofTemplate]
    exact List.isPrefixOf_iff_prefix.mpr (List.prefix_append _ _)
  have hnil : Stub.isDone [] = true := rfl
  simp only [Stub.ofChars?, hdone, hclass, classText_text, Bool.false_eq_true, if_false, if_true]
  split
  · simp only [Option.bind_eq_bind, Option.bind_some, hnil, if_true]
  · rfl

/-! ## Null characters -/

theorem null_notMem_writtenText (s : String) : '\x00' ∉ writtenText s := by
  have hq : '\x00' ≠ plainQuote (Points.ofString s) := by
    rcases isQuote_plainQuote (Points.ofString s) with h | h <;> rw [h] <;> decide
  rw [writtenText, quoted, List.mem_cons, List.mem_append, List.mem_singleton]
  rintro (h | h | h)
  · exact hq h
  · exact NeverWritten.notMem_quotedBody (.inl rfl) (fun _ => le_of_mem_ofChars) h
  · exact hq h

theorem null_notMem_writtenHint (hint : Option String) : '\x00' ∉ writtenHint hint := by
  cases hint with
  | none => decide
  | some s => exact null_notMem_writtenText s

theorem null_notMem_commaSeparated {items : List (List Char)} (h : ∀ i ∈ items, '\x00' ∉ i) :
    '\x00' ∉ commaSeparated items := by
  cases items with
  | nil => exact List.not_mem_nil
  | cons t ts =>
    rw [commaSeparated_cons, List.mem_append, List.mem_flatMap]
    rintro (ht | ⟨u, hu, hnull⟩)
    · exact h t List.mem_cons_self ht
    · simp only [List.mem_cons] at hnull
      rcases hnull with hnull | hnull | hnull
      · exact absurd hnull (by decide)
      · exact absurd hnull (by decide)
      · exact h u (List.mem_cons_of_mem t hu) hnull

theorem null_notMem_writtenTuple {items : List (List Char)} (h : ∀ i ∈ items, '\x00' ∉ i) :
    '\x00' ∉ writtenTuple items := by
  have hitems : '\x00' ∉ tupleItems items := by
    unfold tupleItems
    split
    · next t =>
      rw [List.mem_append, not_or]
      exact ⟨h t List.mem_cons_self, by decide⟩
    · exact null_notMem_commaSeparated h
  rw [writtenTuple, List.mem_cons, List.mem_append, not_or, not_or]
  exact ⟨by decide, hitems, by decide⟩

theorem null_notMem_writtenParam (p : String × Option String) : '\x00' ∉ writtenParam p := by
  refine null_notMem_writtenTuple fun i hi => ?_
  rw [List.mem_cons, List.mem_singleton] at hi
  rcases hi with rfl | rfl
  · exact null_notMem_writtenText p.1
  · exact null_notMem_writtenHint p.2

theorem null_notMem_joinLines {ls : List (List Char)} (h : ∀ l ∈ ls, '\x00' ∉ l) :
    '\x00' ∉ Statement.joinLines ls := by
  induction ls with
  | nil => exact List.not_mem_nil
  | cons l ls ih =>
    rw [Statement.joinLines, List.mem_append, List.mem_cons, not_or, not_or]
    exact ⟨h l List.mem_cons_self, by decide, ih fun m hm => h m (List.mem_cons_of_mem l hm)⟩

theorem null_notMem_writtenLine {name : String} {value : List Char}
    (hname : '\x00' ∉ name.toList) (hvalue : '\x00' ∉ value) :
    '\x00' ∉ writtenLine name value := by
  simp only [writtenLine, List.mem_append, not_or]
  exact ⟨⟨⟨by decide, hname⟩, by decide⟩, hvalue⟩

theorem null_notMem_documentation (s : String) :
    '\x00' ∉ openQuoted tripleQuotes (Points.ofString (s ++ ".")) := by
  obtain ⟨quote, body, hq, heq, -, -, hbody⟩ := documentation_spec s
  have hquotes : '\x00' ∉ List.replicate 3 quote := by
    rw [List.mem_replicate]
    rintro ⟨-, h⟩
    rcases hq with rfl | rfl <;> exact absurd h (by decide)
  rw [heq, List.mem_append, List.mem_append, not_or, not_or]
  exact ⟨⟨hquotes, hbody _ (.inl rfl)⟩, hquotes⟩

theorem null_notMem_writtenBody (t : Template) (path : String) :
    '\x00' ∉ writtenBody t path := by
  have hlines : ∀ l ∈ Statement.blockLines 1 (surface t path), '\x00' ∉ l := by
    rw [blockLines_surface]
    simp only [List.forall_mem_cons, List.not_mem_nil, false_imp_iff, implies_true, and_true]
    refine ⟨?_, ?_, ?_, ?_⟩
    · exact null_notMem_writtenLine (by decide) (null_notMem_writtenText _)
    · exact null_notMem_writtenLine (by decide) (null_notMem_writtenText _)
    · refine null_notMem_writtenLine (by decide) (null_notMem_writtenTuple fun i hi => ?_)
      obtain ⟨p, -, rfl⟩ := List.mem_map.mp hi
      exact null_notMem_writtenParam p
    · refine null_notMem_writtenLine (by decide) (null_notMem_writtenTuple fun i hi => ?_)
      obtain ⟨name, -, rfl⟩ := List.mem_map.mp hi
      exact null_notMem_writtenText name
  have hdocumentation : '\x00' ∉ Statement.margin 1 ++
      openQuoted tripleQuotes (Points.ofString ("Declaration of " ++ path ++ ".")) := by
    rw [List.mem_append, not_or]
    exact ⟨by decide, null_notMem_documentation ("Declaration of " ++ path)⟩
  rw [writtenBody, List.mem_cons, not_or]
  exact ⟨by decide, null_notMem_joinLines (List.forall_mem_cons.mpr ⟨hdocumentation, hlines⟩)⟩

/-- No text of a shape holds a null character, whatever the path and the hints hold. -/
theorem null_notMem_text (t : Template) (path : String) :
    '\x00' ∉ (Shape.ofTemplate t path).text.toList := by
  have hname : '\x00' ∉ (componentName path).toList := by
    intro h
    exact absurd ((wordlike_componentName path).2 _ h) (by decide)
  rw [toList_text_ofTemplate]
  simp only [List.mem_append, not_or]
  exact ⟨by decide, hname, by decide, by decide, by decide, by decide,
    null_notMem_writtenBody t path⟩

end LivePreview.Component
