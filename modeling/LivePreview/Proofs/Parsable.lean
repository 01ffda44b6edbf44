import LivePreview.Code.Outline
import LivePreview.Proofs.Document
import LivePreview.Proofs.Refusals

/-!
# Generated text that is no module

The checks of a module look at its tree, and the name of an imported module is not looked at. So a
document may hold a line that imports a reserved word, and such a text cannot be read.
-/

namespace LivePreview

namespace Code

open Reader

/-! ## The front of a text -/

namespace Statement

theorem blockLines_append (depth : Nat) (ss us : List Statement) :
    blockLines depth (ss ++ us) = blockLines depth ss ++ blockLines depth us := by
  induction ss with
  | nil => rw [List.nil_append, blockLines, List.nil_append]
  | cons s ss ih => rw [List.cons_append, blockLines, ih, blockLines, List.append_assoc]

theorem joinLines_append (ls ms : List (List Char)) :
    joinLines (ls ++ ms) = joinLines ls ++ joinLines ms := by
  induction ls with
  | nil => rfl
  | cons l ls ih =>
    rw [List.cons_append, joinLines, ih, joinLines, List.append_assoc, List.cons_append]

/-- Statements that begin with a line of their own come first as they are. -/
theorem toList_text_append {ss : List Statement} {l : List Char} {ls : List (List Char)}
    (hlines : blockLines 0 ss = l :: ls) (hl : l ≠ []) (us : List Statement) :
    (text (ss ++ us)).toList = joinLines (blockLines 0 ss) ++ joinLines (blockLines 0 us) := by
  rw [text, String.toList_ofList, moduleLines, blockLines_append, hlines, ← joinLines_append]
  split
  · next heq => exact absurd (List.cons.inj heq).1 hl
  · rfl

end Statement

/-- Tokens once found stay in front. -/
theorem prefix_of_tokensFrom {rounds : Nat} {l : Layout} {atStart : Bool} {found ts : List Token}
    {cs : List Char} (h : tokensFrom rounds l atStart found cs = some ts) :
    ∃ us, ts = found.reverse ++ us := by
  induction rounds generalizing l atStart found cs with
  | zero => cases h
  | succ rounds ih =>
    have hlonger {t : List Token} (hfound : ∃ us, ts = (t ++ found).reverse ++ us) :
        ∃ us, ts = found.reverse ++ us := by
      obtain ⟨us, hus⟩ := hfound
      exact ⟨t.reverse ++ us, by rw [hus, List.reverse_append, List.append_assoc]⟩
    cases atStart with
    | true =>
      rw [tokensFrom] at h
      obtain ⟨⟨margin, rest⟩, -, h⟩ := Option.bind_eq_some_iff.mp h
      simp only at h
      split at h
      · split at h <;> exact ih h
      · split at h
        · exact ih h
        · obtain ⟨⟨tokens, l⟩, -, h⟩ := Option.bind_eq_some_iff.mp h
          exact hlonger (ih h)
    | false =>
      rw [tokensFrom] at h
      split at h
      · split at h
        · cases h
          exact ⟨[], (List.append_nil _).symm⟩
        · cases h
      · split at h
        · exact hlonger (t := [.newline]) (ih h)
        · exact ih h
      · exact ih h
      · exact ih h
      · cases h
      · obtain ⟨⟨token, rest⟩, -, h⟩ := Option.bind_eq_some_iff.mp h
        simp only at h
        split at h
        · next s =>
          obtain ⟨l, -, h⟩ := Option.bind_eq_some_iff.mp h
          exact hlonger (t := [.symbol s]) (ih h)
        · exact hlonger (t := [token]) (ih h)

/-! ## A reserved word as a module -/

/-- The imports of a module that also imports a reserved word. -/
def reservedImports : List Statement := Component.fixedImports ++ [.importModule "class"]

def reservedHeader : List Char := Statement.joinLines (Statement.blockLines 0 reservedImports)

def reservedTokens : List Token := [
  .keyword "from", .name "__future__", .keyword "import", .name "annotations", .newline,
  .keyword "from", .name "limn", .symbol ".", .name "runtime", .keyword "import",
  .name "ComponentBase", .symbol ",", .name "Markup", .keyword "as", .name "_Markup", .symbol ",",
  .name "escape", .keyword "as", .name "_escape", .symbol ",",
  .name "render_component", .keyword "as", .name "_render_component", .newline,
  .keyword "import", .keyword "class", .newline]

set_option maxRecDepth 20000 in
theorem tokensFrom_reservedHeader (rounds : Nat) (rest : List Char) :
    tokensFrom (rounds + 30) .start true [] (reservedHeader ++ rest) =
      tokensFrom rounds .start true reservedTokens.reverse rest := by
  with_unfolding_all rfl

theorem statements_reservedTokens (n : Nat) (us : List Token) :
    (Blocks.statements ⟨.ofLength (n + 10), statementAt (.ofLength (n + 10)) (n + 12)⟩)
      (reservedTokens ++ us) = none := by
  with_unfolding_all rfl

theorem unifyNewlines_cons {c : Char} (hc : c ≠ '\r') (cs : List Char) :
    unifyNewlines (c :: cs) = c :: unifyNewlines cs := by
  rw [unifyNewlines]
  · exact fun _ h _ => hc h
  · exact hc

theorem unifyNewlines_append {cs : List Char} (hcs : '\r' ∉ cs) (rest : List Char) :
    unifyNewlines (cs ++ rest) = cs ++ unifyNewlines rest := by
  induction cs with
  | nil => rfl
  | cons c cs ih =>
    rw [List.mem_cons, not_or] at hcs
    rw [List.cons_append, unifyNewlines_cons (Ne.symm hcs.1), ih hcs.2, List.cons_append]

/-- No text that begins with such imports is a module. -/
theorem ofChars?_reservedHeader (rest : List Char) :
    Outline.ofChars? (reservedHeader ++ rest) = none := by
  have hreturn : '\r' ∉ reservedHeader := by decide +kernel
  have htokens (tail : List Char) (ts : List Token)
      (h : tokens (reservedHeader ++ tail) = some ts) : ∃ us, ts = reservedTokens ++ us := by
    have hrounds : 2 * (reservedHeader ++ tail).length + 3 =
        2 * tail.length + (2 * reservedHeader.length - 27) + 30 := by
      have hlength : 27 ≤ 2 * reservedHeader.length := by decide +kernel
      rw [List.length_append]
      omega
    rw [tokens, hrounds, tokensFrom_reservedHeader] at h
    obtain ⟨us, hus⟩ := prefix_of_tokensFrom h
    exact ⟨us, by rw [hus, List.reverse_reverse]⟩
  have hmodule (ts : List Token) (h : moduleTokens (reservedHeader ++ rest) = some ts) :
      ∃ us, ts = reservedTokens ++ us := by
    rw [moduleTokens, unifyNewlines_append hreturn] at h
    split at h
    · exact htokens _ ts h
    · rw [List.append_assoc] at h
      exact htokens _ ts h
  obtain ⟨n, hn⟩ : ∃ n, (reservedHeader ++ rest).length = n + 10 := by
    have hlength : 10 ≤ reservedHeader.length := by decide +kernel
    refine ⟨(reservedHeader ++ rest).length - 10, ?_⟩
    rw [List.length_append]
    omega
  unfold Outline.ofChars?
  rw [hn]
  cases h : moduleTokens (reservedHeader ++ rest) with
  | none => rfl
  | some ts =>
    obtain ⟨us, rfl⟩ := hmodule ts h
    have hread := statements_reservedTokens n us
    simp only [Option.bind_eq_bind, Option.bind_some, StateT.run]
    change ((Blocks.statements ⟨.ofLength (n + 10), statementAt (.ofLength (n + 10)) (n + 12)⟩)
      (reservedTokens ++ us)).bind _ = none
    rw [hread]
    rfl

end Code

namespace Component

open LivePreview.Code (Expr Statement)

/-- A page that names a module which no module can be called. -/
def reservedPage (place : Template.Position) : Template := ⟨[], [⟨place, "class"⟩], []⟩

theorem read_reservedPage :
    ∃ place, Template.ofChars "@using class".toList = .ok (reservedPage place) := by
  have hread : (Template.ofChars "@using class".toList).toOption.map (fun t =>
      t.params.isEmpty && t.usings.map (·.module) == ["class"] && t.body.isEmpty) = some true := by
    decide +kernel
  cases ht : Template.ofChars "@using class".toList with
  | error objection =>
    rw [ht] at hread
    cases hread
  | ok t =>
    obtain ⟨params, usings, body⟩ := t
    rw [ht] at hread
    have hparts := Option.some.inj hread
    rw [Bool.and_eq_true, Bool.and_eq_true, List.isEmpty_iff, List.isEmpty_iff, beq_iff_eq] at hparts
    obtain ⟨⟨rfl, husings⟩, rfl⟩ := hparts
    obtain ⟨u, hu, hmodule⟩ := List.map_eq_singleton_iff.mp husings
    obtain ⟨place, module⟩ := u
    change usings = _ at hu
    change module = _ at hmodule
    exact ⟨place, by rw [hu, hmodule, reservedPage]⟩

/-- The module that the page is compiled to. -/
def reservedModule : List Statement :=
  fixedImports ++ [.importModule "class"] ++ [componentClass ⟨[], [], []⟩ "Page.tpl" []]

theorem text_reservedModule :
    moduleText "Page.tpl" reservedModule = .ok (Statement.text reservedModule) :=
  moduleText_of_unrefusable (by decide +kernel) (by decide +kernel) (by decide +kernel)

/-- The document of the page is the text of its module. -/
theorem exists_reservedDocument (c : Context) : ∃ document,
    Document.generate c "Page.tpl" "@using class" = .ok document ∧
      document.code = Statement.text reservedModule := by
  obtain ⟨place, hread⟩ := read_reservedPage
  have hheader : header (reservedPage place) .empty = fixedImports ++ [.importModule "class"] := by
    have hentries : (∅ : Table String String).entries = [] := rfl
    simp [header, usedModules, reservedPage, Findings.empty, hentries, Module.sortNames,
      sortImports]
  have htext := text_reservedModule
  rw [reservedModule, ← hheader] at htext
  change moduleText "Page.tpl" (header (reservedPage place) .empty ++
    [componentClass (reservedPage place) "Page.tpl" []]) = _ at htext
  rw [Document.generate, hread]
  have hbody : (reservedPage place).body = [] := rfl
  simp only [compile, hbody, writeNodes]
  have hfinish : Draft.empty.finish = [] := rfl
  rw [hfinish, htext, reservedModule, ← hheader]
  exact ⟨_, rfl, rfl⟩

/-- A document may hold text that is no module. -/
theorem outline_of_document_not_always : ¬ ∀ (c : Context) (path content : String) document,
    Document.generate c path content = .ok document →
      ∃ parts, Code.Outline.read document.code = .ok parts := by
  intro hclaim
  obtain ⟨document, hdocument, hcode⟩ := exists_reservedDocument (.new [] "declarations")
  obtain ⟨parts, hparts⟩ := hclaim _ _ _ document hdocument
  have hrest : document.code.toList = Code.reservedHeader ++
      Statement.joinLines (Statement.blockLines 0 [componentClass ⟨[], [], []⟩ "Page.tpl" []]) := by
    have hlines : ∃ l ls, Statement.blockLines 0 Code.reservedImports = l :: ls ∧ l ≠ [] :=
      ⟨_, _, rfl, by decide⟩
    obtain ⟨l, ls, hlines, hl⟩ := hlines
    rw [hcode]
    exact Statement.toList_text_append hlines hl _
  unfold Code.Outline.read at hparts
  split at hparts
  · cases hparts
  · rw [hrest, Code.ofChars?_reservedHeader] at hparts
    cases hparts

end Component

end LivePreview
