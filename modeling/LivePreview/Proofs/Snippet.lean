import LivePreview.Proofs.Blame
import LivePreview.Proofs.Pieces
import Mathlib.Data.List.TakeWhile

/-!
# The line that an error shows

The message of an error shows a line of the source and a caret. The line is numbered by the newlines
above it, but looked up among lines that end at other breaks, too. So every such break above, but the
carriage return before a newline, moves the shown line up by one. Where there is none, what is shown
is the line up to its first break, with the caret under the character that the error is about.
-/

namespace LivePreview

namespace Text

/-- The line breaks that no newline belongs to. -/
def strayBreaks : List Char → Nat
  | [] => 0
  | '\r' :: '\n' :: cs => strayBreaks cs
  | c :: cs => (if isLineBreak c && c ≠ '\n' then 1 else 0) + strayBreaks cs

/-! ## Lines that are shown -/

/-- The first line goes up to the first break. -/
theorem head?_splitLinesFrom (line cs : List Char) (h : line ≠ [] ∨ cs ≠ []) :
    (splitLinesFrom line cs).head? = some (line.reverse ++ cs.takeWhile (!isLineBreak ·)) := by
  have hreturn : isLineBreak '\r' = true := by decide
  fun_induction splitLinesFrom line cs with
  | case1 line hline => simp_all
  | case2 line hline => simp
  | case3 line cs ih => simp [hreturn]
  | case4 line c cs _ hbreak ih => simp [hbreak]
  | case5 line c cs _ hbreak ih =>
    rw [ih (.inl (List.cons_ne_nil c line))]
    simp [hbreak]

/-- A carriage return and its newline end one line. -/
theorem breaks_pair (cs : List Char) :
    ('\r' :: '\n' :: cs).count '\n' + strayBreaks ('\r' :: '\n' :: cs) =
      cs.count '\n' + strayBreaks cs + 1 := by
  rw [List.count_cons_of_ne (by decide), List.count_cons_self, strayBreaks]
  omega

/-- Any other break ends a line by itself. -/
theorem breaks_cons {c : Char} {cs : List Char} (h : ∀ ds, c = '\r' → cs = '\n' :: ds → False) :
    (c :: cs).count '\n' + strayBreaks (c :: cs) =
      cs.count '\n' + strayBreaks cs + if isLineBreak c then 1 else 0 := by
  have hnewline : isLineBreak '\n' = true := by decide
  rw [strayBreaks.eq_3 _ _ h, List.count_cons]
  by_cases hc : c = '\n'
  · simp [hc, hnewline]
    omega
  · simp [hc]
    omega

/-- Behind text that ends with a newline, the lines are those of the rest alone. Of the text, every
newline and every stray break ends a line. -/
theorem drop_splitLinesFrom (above rest : List Char) : ∀ line : List Char,
    above.getLast? = some '\n' →
      (splitLinesFrom line (above ++ rest)).drop (above.count '\n' + strayBreaks above) =
        splitLines rest := by
  induction above using strayBreaks.induct with
  | case1 =>
    intro line h
    cases h
  | case2 cs ih =>
    intro line h
    rw [breaks_pair, List.cons_append, List.cons_append, splitLinesFrom, List.drop_succ_cons]
    cases cs with
    | nil => rfl
    | cons c cs =>
      rw [List.getLast?_cons_cons, List.getLast?_cons_cons] at h
      exact ih [] h
  | case3 c cs hreturn ih =>
    intro line h
    rw [breaks_cons hreturn]
    cases cs with
    | nil =>
      obtain rfl : c = '\n' := by simpa using h
      rfl
    | cons d cs =>
      rw [List.getLast?_cons_cons] at h
      have hside : ∀ more, c = '\r' → d :: (cs ++ rest) = '\n' :: more → False :=
        fun more hc hd => hreturn cs hc (by rw [(List.cons.inj hd).1])
      rw [List.cons_append, List.cons_append, splitLinesFrom.eq_3 _ _ _ hside]
      split
      · exact ih [] h
      · exact ih (c :: line) h

/-- The first line of the rest comes behind one line for each newline and each stray break above. -/
theorem getElem?_splitLines {above rest : List Char} (habove : ∀ c ∈ above.getLast?, c = '\n')
    (hrest : rest ≠ []) :
    (splitLines (above ++ rest))[above.count '\n' + strayBreaks above]? =
      some (rest.takeWhile (!isLineBreak ·)) := by
  have hfirst := head?_splitLinesFrom [] rest (.inr hrest)
  rw [List.reverse_nil, List.nil_append] at hfirst
  rw [← List.head?_drop]
  cases hlast : above.getLast? with
  | none =>
    rw [List.getLast?_eq_none_iff.mp hlast]
    exact hfirst
  | some c =>
    rw [habove c hlast] at hlast
    rw [splitLines, drop_splitLinesFrom above rest [] hlast]
    exact hfirst

end Text

namespace Location

/-! ## Lines between newlines -/

/-- Counted by newlines alone, the first line of the rest comes behind one line for each newline
above. -/
theorem getElem?_pieces {above : List Char} (habove : ∀ c ∈ above.getLast?, c = '\n')
    (rest : List Char) :
    (pieces '\n' (above ++ rest))[above.count '\n']? = some (rest.takeWhile (· ≠ '\n')) := by
  rw [← head?_pieces '\n' rest, List.head?_eq_getElem?]
  rcases List.eq_nil_or_concat above with rfl | ⟨lines, c, rfl⟩
  · rfl
  · obtain rfl : c = '\n' := habove c (by simp)
    have hcount : (lines ++ ['\n']).count '\n' = (pieces '\n' lines).length := by
      rw [length_pieces, List.count_append, List.count_singleton_self]
    rw [List.concat_eq_append, List.append_assoc, List.singleton_append, pieces_append_cons, hcount,
      List.getElem?_append_right (Nat.le_refl _), Nat.sub_self]

end Location

namespace Template

open Text (isLineBreak splitLines strayBreaks)

/-! ## The line of an offset -/

/-- The lines above the one in which an offset is, with their newlines. -/
def linesAbove (cs : List Char) (k : Nat) : List Char :=
  ((cs.take k).reverse.dropWhile (· ≠ '\n')).reverse

/-- An offset that is seen has the lines above it and, on its own line, as many characters before it
as its column says. -/
theorem exists_line_of_shows {cs : List Char} {k : Nat} {s : Sight} (h : Shows cs k s) :
    ∃ left, cs = linesAbove cs k ++ (left ++ cs.drop k) ∧ '\n' ∉ left ∧
      left.length = s.place.column ∧ (linesAbove cs k).count '\n' + 1 = s.place.line ∧
      (∀ c ∈ (linesAbove cs k).getLast?, c = '\n') ∧ cs.drop k ≠ [] := by
  have htake : linesAbove cs k ++ ((cs.take k).reverse.takeWhile (· ≠ '\n')).reverse =
      cs.take k := by
    rw [linesAbove, ← List.reverse_append, List.takeWhile_append_dropWhile, List.reverse_reverse]
  have hleft : '\n' ∉ ((cs.take k).reverse.takeWhile (· ≠ '\n')).reverse := fun hmem =>
    notMem_takeWhile_ne _ _ (List.mem_reverse.mp hmem)
  refine ⟨_, ?_, hleft, by rw [List.length_reverse, h.column], ?_, fun c hc => ?_, fun hnil => ?_⟩
  · rw [← List.append_assoc, htake, List.take_append_drop]
  · rw [h.line, ← htake, List.count_append, List.count_eq_zero.mpr hleft]
  · rw [linesAbove, List.getLast?_reverse] at hc
    have hhead := List.head?_dropWhile_not (fun c : Char => decide (c ≠ '\n')) (cs.take k).reverse
    rw [hc] at hhead
    simpa using hhead
  · have hprefix := h.shown
    rw [hnil, List.prefix_nil] at hprefix
    exact h.visible hprefix

/-- The first character of the rest of a line stands in the line behind those before it. -/
theorem getElem?_length_line {left rest : List Char} {c : Char} (hleft : '\n' ∉ left)
    (hc : rest.head? = some c) (hnewline : c ≠ '\n') :
    ((left ++ rest).takeWhile (· ≠ '\n'))[left.length]? = some c := by
  have hplain : ∀ d ∈ left, decide (d ≠ '\n') = true := fun d hd =>
    decide_eq_true fun heq => hleft (heq ▸ hd)
  obtain ⟨more, rfl⟩ := List.head?_eq_some_iff.mp hc
  rw [List.takeWhile_append_of_pos hplain, List.getElem?_append_right (Nat.le_refl _),
    Nat.sub_self]
  simp [hnewline]

/-! ## What is shown of a fault -/

/-- The number of a line, the line, and a caret under a column. -/
def snippetText (place : Position) (shown : List Char) : String :=
  "\n   |\n" ++ TemplateFault.padLeft 3 (toString (place.line : Int)) ++ " | " ++
    String.ofList shown ++
      ("\n   | " ++ String.ofList (List.replicate place.column ' ') ++ "^")

/-- The fault that is reported for a problem. -/
def faultAt (source : String) (filename : Option String) (place : Position) (what : Problem) :
    TemplateFault :=
  ⟨what.message, some place.line, filename, some source, some place.column⟩

theorem snippet_faultAt {source : String} {filename : Option String} {place : Position}
    {what : Problem} {shown : List Char} (hline : 0 < place.line)
    (hshown : (splitLines source.toList)[place.line - 1]? = some shown) :
    (faultAt source filename place what).snippet = snippetText place shown := by
  have hpos : ¬ ((place.line : Int) ≤ 0) := by omega
  simp only [TemplateFault.snippet, faultAt, if_neg hpos, Int.toNat_natCast, hshown]
  rfl

theorem text_faultAt {source : String} {filename : Option String} {place : Position}
    {what : Problem} {shown : List Char} (hline : 0 < place.line)
    (hshown : (splitLines source.toList)[place.line - 1]? = some shown) :
    (faultAt source filename place what).text = "Syntax Error: " ++ what.message ++ "\n  --> " ++
      (faultAt source filename place what).place ++ snippetText place shown := by
  rw [← snippet_faultAt hline hshown]
  rfl

/-- Every fault is that of a problem which the text shows at its place. -/
theorem exists_blamed_of_error {source : String} {filename : Option String} {fault : TemplateFault}
    (h : ofText source filename = .error (.template fault) ∨
      declarationsOfText source filename = .error (.template fault)) :
    ∃ place what, fault = faultAt source filename place what ∧
      Blamed source.toList place what := by
  have hreported {α : Type} {read : Checked α}
      (h : reported source filename read = .error (.template fault)) :
      ∃ place what, fault = faultAt source filename place what ∧
        read = .error (.problem place what) := by
    cases read with
    | ok a => cases h
    | error o =>
      cases o with
      | problem place what =>
        cases h
        exact ⟨place, what, rfl, rfl⟩
      | nullInExpression => cases h
  rcases h with h | h
  · obtain ⟨place, what, rfl, hread⟩ := hreported h
    exact ⟨place, what, rfl, blamed_of_ofChars hread⟩
  · obtain ⟨place, what, rfl, hread⟩ := hreported h
    exact ⟨place, what, rfl, blamed_of_declarationsOfChars hread⟩

/-- What is shown of a line up to its first break. -/
def visiblePart (row : List Char) : List Char := row.takeWhile (!isLineBreak ·)

/-- The shown text is the line, up to a carriage return at its end. -/
def IsLine (row shown : List Char) : Prop := row = shown ∨ row = shown ++ ['\r']

/-- A line has no break in it but, perhaps, a carriage return at its end. -/
def Unbroken (row : List Char) : Prop :=
  ∃ cs, IsLine row cs ∧ ∀ c ∈ cs, isLineBreak c = false

/-- A newline ends what is shown of a line, too. -/
theorem visiblePart_takeWhile (cs : List Char) :
    visiblePart (cs.takeWhile (· ≠ '\n')) = visiblePart cs := by
  have hbreak : isLineBreak '\n' = true := by decide
  rw [visiblePart, visiblePart, List.takeWhile_takeWhile]
  congr 1
  funext c
  by_cases hc : c = '\n'
  · simp [hc, hbreak]
  · simp [hc]

theorem isLine_visiblePart_iff {row : List Char} : IsLine row (visiblePart row) ↔ Unbroken row := by
  constructor
  · exact fun h => ⟨_, h, fun c hc => by simpa using forall_mem_takeWhile row c hc⟩
  · rintro ⟨cs, hline, hcs⟩
    have hreturn : isLineBreak '\r' = true := by decide
    have hall : ∀ c ∈ cs, (!isLineBreak c) = true := fun c hc => by rw [hcs c hc]; rfl
    have hvisible : visiblePart row = cs := by
      rcases hline with rfl | rfl
      · rw [visiblePart, ← List.append_nil row, List.takeWhile_append_of_pos hall]
        rfl
      · rw [visiblePart, List.takeWhile_append_of_pos hall]
        simp [hreturn]
    rw [hvisible]
    exact hline

/-- A character that is no break stands in what is shown where it stands in the line. -/
theorem IsLine.getElem?_eq {row shown : List Char} (h : IsLine row shown) {n : Nat} {c : Char}
    (hc : row[n]? = some c) (hbreak : isLineBreak c = false) : shown[n]? = some c := by
  rcases h with rfl | rfl
  · exact hc
  · rw [List.getElem?_append] at hc
    split at hc
    · exact hc
    · obtain rfl := List.mem_singleton.mp (List.mem_of_getElem? hc)
      exact absurd hbreak (by decide)

/-- Every fault of a template text or of its declarations has a snippet, and the place of an offset
at which the text shows what is wrong: the line is counted by newlines, and its character in the
column is the one at the offset. The line up to its first break comes behind the shown one by as many
lines as there are stray breaks above. Where there is none, it is shown, and then the whole line is
shown, up to a carriage return at its end, just if no other break is in it. A line that is shown has
the character at the offset under the column. -/
theorem snippet_of_error {source : String} {filename : Option String} {fault : TemplateFault}
    (h : ofText source filename = .error (.template fault) ∨
      declarationsOfText source filename = .error (.template fault)) :
    ∃ place what k seen row shown,
      fault = faultAt source filename place what ∧
      what.Sees seen ∧ Shows source.toList k ⟨place, seen⟩ ∧
      (Location.pieces '\n' source.toList)[place.line - 1]? = some row ∧
      (∀ c, source.toList[k]? = some c → c ≠ '\n' → row[place.column]? = some c) ∧
      (splitLines source.toList)[place.line - 1]? = some shown ∧
      fault.text = "Syntax Error: " ++ what.message ++ "\n  --> " ++ fault.place ++
        snippetText place shown ∧
      (splitLines source.toList)[place.line - 1 + strayBreaks (linesAbove source.toList k)]? =
        some (visiblePart row) ∧
      (strayBreaks (linesAbove source.toList k) = 0 →
        shown = visiblePart row ∧ (IsLine row shown ↔ Unbroken row)) ∧
      (IsLine row shown → ∀ c, source.toList[k]? = some c → isLineBreak c = false →
        shown[place.column]? = some c) := by
  obtain ⟨place, what, rfl, k, seen, hsees, hshows⟩ := exists_blamed_of_error h
  obtain ⟨left, hsplit, hleft, hcolumn, hline, habove, hne⟩ := exists_line_of_shows hshows
  change left.length = place.column at hcolumn
  change (linesAbove source.toList k).count '\n' + 1 = place.line at hline
  have hcount : place.line - 1 = (linesAbove source.toList k).count '\n' := by omega
  let rest := left ++ source.toList.drop k
  have hrest : rest ≠ [] := List.append_ne_nil_of_right_ne_nil _ hne
  have hrow := Location.getElem?_pieces habove rest
  have hvisible := Text.getElem?_splitLines habove hrest
  rw [← hsplit, ← hcount] at hrow hvisible
  change _ = some (visiblePart rest) at hvisible
  rw [← visiblePart_takeWhile] at hvisible
  have hchar : ∀ c, source.toList[k]? = some c → c ≠ '\n' →
      (rest.takeWhile (· ≠ '\n'))[place.column]? = some c := by
    intro c hc hnewline
    rw [← hcolumn]
    exact getElem?_length_line hleft (by rw [List.head?_drop, hc]) hnewline
  obtain ⟨shown, hshown⟩ : ∃ shown, (splitLines source.toList)[place.line - 1]? = some shown := by
    obtain ⟨hlt, -⟩ := List.getElem?_eq_some_iff.mp hvisible
    exact ⟨_, List.getElem?_eq_getElem (Nat.lt_of_le_of_lt (Nat.le_add_right _ _) hlt)⟩
  refine ⟨place, what, k, seen, _, shown, rfl, hsees, hshows, hrow, hchar, hshown,
    text_faultAt (by omega) hshown, hvisible, fun hnone => ?_, fun hisLine c hc hbreak => ?_⟩
  · rw [hnone, Nat.add_zero, hshown] at hvisible
    obtain rfl := Option.some.inj hvisible
    exact ⟨rfl, isLine_visiblePart_iff⟩
  · refine hisLine.getElem?_eq (hchar c hc ?_) hbreak
    rintro rfl
    exact absurd hbreak (by decide)

/-- A text with a closing tag too many on its second line. -/
def straightPage : String := "a\r\n</p>\n"

/-- Why the text is refused. -/
def straightFault : TemplateFault :=
  faultAt straightPage none ⟨2, 0⟩ (.unexpectedClosing "p")

theorem snippet_of_error_straightPage :
    ofText straightPage none = .error (.template straightFault) ∧
      straightFault.text = "Syntax Error: Unexpected closing tag </p>\n  --> <template>:2:0" ++
        "\n   |\n  2 | </p>\n   | ^" := by
  have hread : ofText straightPage none = .error (.template straightFault) := rfl
  obtain ⟨⟨line, column⟩, what, k, seen, row, shown, hfault, -, -, -, -, hshown, htext, -⟩ :=
    snippet_of_error (.inl hread)
  obtain rfl : 2 = line := Int.ofNat.inj (Option.some.inj (congrArg TemplateFault.line hfault))
  obtain rfl : 0 = column :=
    Int.ofNat.inj (Option.some.inj (congrArg TemplateFault.column hfault))
  obtain rfl : shown = "</p>".toList := Option.some.inj (hshown.symm.trans (by decide))
  have hmessage : what.message = "Unexpected closing tag </p>" :=
    (congrArg TemplateFault.message hfault).symm
  refine ⟨hread, htext.trans ?_⟩
  rw [hmessage]
  decide

/-- A text with a form feed above a closing tag too many. -/
def strayPage : String := "a\x0cb\n</p>"

/-- The shown line is not always the one that is numbered. -/
theorem snippet_not_always_of_line :
    ¬ ∀ (source : String) (fault : TemplateFault),
      ofText source none = .error (.template fault) → ∃ (place : Position) (row shown : List Char),
        fault.line = some ↑place.line ∧ fault.column = some ↑place.column ∧
          (Location.pieces '\n' source.toList)[place.line - 1]? = some row ∧
          IsLine row shown ∧ fault.snippet = snippetText place shown := by
  intro hclaim
  obtain ⟨⟨line, column⟩, row, shown, hline, hcolumn, hrow, hisLine, hsnippet⟩ :=
    hclaim strayPage (faultAt strayPage none ⟨2, 0⟩ (.unexpectedClosing "p")) rfl
  obtain rfl : 2 = line := Int.ofNat.inj (Option.some.inj hline)
  obtain rfl : 0 = column := Int.ofNat.inj (Option.some.inj hcolumn)
  obtain rfl : row = "</p>".toList := Option.some.inj (hrow.symm.trans (by decide))
  rcases hisLine with rfl | hreturn
  · exact absurd hsnippet (by decide)
  · exact absurd (congrArg List.getLast? hreturn) (by simp)

end Template

end LivePreview
