import LivePreview.Proofs.QuietStatements

/-!
# Import statements among tokens

Where the import statements of a module are can be seen without its grammar: each has the keyword
`import`, and begins right after an end of line, a change of indentation, a semicolon or a colon. A
scan over the tokens from left to right finds them all, whatever block they are in. What is imported
can be seen from the tokens of the statement, and reading the statement yields the same.
-/

namespace LivePreview.Code

open Reader Outline
open LivePreview.Text (normalForm)

/-! ## Finding import statements -/

/-- Whether a statement may begin right after the token. -/
def Token.precedesStatement : Token → Bool
  | .newline | .indent | .dedent => true
  | .symbol s => s = ";" || s = ":"
  | _ => false

/-- What the token adds to a dotted name. -/
def Token.spelling : Token → String
  | .name s => normalForm s
  | .symbol s => s
  | _ => ""

/-- How many points the token is. -/
def Token.points : Token → Nat
  | .symbol s => if s = "." then 1 else if s = "..." then 3 else 0
  | _ => 0

/-- The dotted name that the tokens spell. -/
def spelled (ts : List Token) : String := String.join (ts.map Token.spelling)

/-- The modules in a list of modules with commas between them, each perhaps under another name. -/
def modulesListed (ts : List Token) : List String :=
  (ts.splitOn (.symbol ",")).map fun item => spelled (item.takeWhile (· ≠ .keyword "as"))

/-- The modules of an import statement, from the tokens after its keyword. -/
def importedModules (ts : List Token) : List String :=
  modulesListed (ts.takeWhile (!·.precedesStatement))

/-- Where names are imported from: points, one for each level, and a name if there is one. -/
def importOrigin (origin : List Token) : Part :=
  let module := origin.dropWhile (0 < ·.points)
  .importFrom (((origin.takeWhile (0 < ·.points)).map Token.points).foldl (· + ·) 0)
    (if module.isEmpty then none else some (spelled module))

/-- The import statement whose keyword stands between `line` and `ts`. If a line begins before the
keyword, then with another keyword, and names are imported from what stands between the two. -/
def importStatement (line ts : List Token) : Part :=
  match line with
  | [] => .imports (importedModules ts)
  | _ :: origin => importOrigin origin

/-- What has been read of a line after one more token of it. -/
def lineAfter (line : List Token) (t : Token) : List Token :=
  if t.precedesStatement then [] else line ++ [t]

/-- All import statements among the tokens, where `line` is what has been read of the first line. -/
def importScan : (line : List Token) → List Token → List Part
  | _, [] => []
  | line, t :: ts =>
    (if t = importMark then [importStatement line ts] else []) ++ importScan (lineAfter line t) ts

/-! ## Scanning -/

theorem importScan_cons {t : Token} (ht : t ≠ importMark) (line ts : List Token) :
    importScan line (t :: ts) = importScan (lineAfter line t) ts := by
  rw [importScan, if_neg ht, List.nil_append]

theorem precedesStatement_ne_importMark {t : Token} (ht : t.precedesStatement = true) :
    t ≠ importMark := by
  rintro rfl
  cases ht

theorem lineAfter_precedesStatement {t : Token} (ht : t.precedesStatement = true)
    (line : List Token) : lineAfter line t = [] := if_pos ht

/-- After the token a statement may begin. -/
theorem importScan_precedesStatement {t : Token} (ht : t.precedesStatement = true)
    (line ts : List Token) : importScan line (t :: ts) = importScan [] ts := by
  rw [importScan_cons (precedesStatement_ne_importMark ht), lineAfter_precedesStatement ht]

theorem importScan_append {taken : List Token} (htaken : importMark ∉ taken)
    (line ts : List Token) :
    importScan line (taken ++ ts) = importScan (taken.foldl lineAfter line) ts := by
  induction taken generalizing line with
  | nil => rfl
  | cons t taken ih =>
    obtain ⟨ht, htaken⟩ := List.ne_and_not_mem_of_not_mem_cons htaken
    rw [List.cons_append, importScan_cons (Ne.symm ht), ih htaken, List.foldl_cons]

/-- Where no import is taken none is found. -/
theorem Past.scan {ts rest : List Token} (h : Past ts rest) (line : List Token) :
    ∃ line', importScan line ts = importScan line' rest := by
  obtain ⟨taken, rfl, htaken⟩ := h
  exact ⟨taken.foldl lineAfter line, importScan_append htaken line rest⟩

theorem Past.scan_precedesStatement {ts rest : List Token} {t : Token}
    (h : Past ts (t :: rest)) (ht : t.precedesStatement = true) (line : List Token) :
    importScan line ts = importScan [] rest := by
  obtain ⟨line', hline⟩ := h.scan line
  rw [hline, importScan_precedesStatement ht]

/-- Within a line all that is read adds to it. -/
theorem foldl_lineAfter {taken : List Token} (htaken : ∀ t ∈ taken, t.precedesStatement = false)
    (line : List Token) : taken.foldl lineAfter line = line ++ taken := by
  induction taken generalizing line with
  | nil => rw [List.foldl_nil, List.append_nil]
  | cons t taken ih =>
    obtain ⟨ht, htaken⟩ := List.forall_mem_cons.mp htaken
    rw [List.foldl_cons, ih htaken, lineAfter, ht, if_neg Bool.false_ne_true, List.append_assoc,
      List.singleton_append]

/-! ## Reading import statements -/

/-- The reader takes tokens of a shape that depends on what it reads. -/
def Takes {α : Type} (r : Reader α) (shape : List Token → α → Prop) : Prop :=
  ∀ ts a rest, r ts = some (a, rest) → ∃ taken, ts = taken ++ rest ∧ shape taken a

/-- What an item takes that may be missing, and then takes nothing. -/
def Optionally {α : Type} (piece : List Token → α → Prop) (taken : List Token) : Option α → Prop
  | none => taken = []
  | some a => piece taken a

section Imports

theorem Takes.gather {α : Type} {item : Reader (Option α)} {piece : List Token → α → Prop}
    {shape : List Token → List α → Prop} (hitem : Takes item (Optionally piece))
    (hnil : shape [] [])
    (hcons : ∀ taken a more as, piece taken a → shape more as → shape (taken ++ more) (a :: as)) :
    ∀ rounds, Takes (gather item rounds) shape
  | 0, ts, as, rest, h => by
    cases h
    exact ⟨[], rfl, hnil⟩
  | rounds + 1, ts, as, rest, h => by
    rw [Reader.gather] at h
    obtain ⟨found, between, hfound, h⟩ := bind_eq_some h
    obtain ⟨taken, rfl, hpiece⟩ := hitem ts found between hfound
    cases found with
    | none =>
      cases h
      cases hpiece
      exact ⟨[], rfl, hnil⟩
    | some a =>
      obtain ⟨others, between', hothers, h⟩ := bind_eq_some h
      cases h
      obtain ⟨more, rfl, hmore⟩ := hitem.gather hnil hcons rounds between others _ hothers
      exact ⟨taken ++ more, by rw [List.append_assoc], hcons taken a more others hpiece hmore⟩

/-- Items that stand each behind the same token. -/
theorem Takes.gather_behind {α : Type} {r : Reader α} {piece : List Token → α → Prop} (t : Token)
    (hr : Takes r piece) (shape : List Token → List α → Prop) (hnil : shape [] [])
    (hcons : ∀ taken a more as, piece taken a → shape more as →
      shape (t :: taken ++ more) (a :: as)) (rounds : Nat) :
    Takes (Reader.gather (do if ← accept t then return some (← r) else return none) rounds)
      shape := by
  have hitem : Takes (do if ← accept t then return some (← r) else return none)
      (Optionally fun taken a => ∃ more, taken = t :: more ∧ piece more a) := by
    intro ts found rest h
    obtain ⟨accepted, between, haccepted, hfound⟩ := bind_eq_some h
    rcases accept_eq_some haccepted with ⟨rfl, rfl⟩ | ⟨rfl, rfl⟩
    · obtain ⟨a, between', ha, hfound⟩ := bind_eq_some hfound
      cases hfound
      obtain ⟨more, rfl, hmore⟩ := hr between a _ ha
      exact ⟨t :: more, rfl, more, rfl, hmore⟩
    · cases hfound
      exact ⟨[], rfl, rfl⟩
  refine hitem.gather hnil ?_ rounds
  rintro taken a more as ⟨taken, rfl, hpiece⟩ hmore
  exact hcons taken a more as hpiece hmore

/-- The tokens of a dotted name. -/
def Token.inDottedName : Token → Bool
  | .name _ => true
  | .symbol s => s = "."
  | _ => false

/-- The tokens are a dotted name that is spelled so. -/
structure Spells (taken : List Token) (m : String) : Prop where
  spelling : spelled taken = m
  inDottedName : ∀ t ∈ taken, t.inDottedName = true
  head : ∃ n, taken.head? = some (.name n)

theorem inDottedName_ne {t u : Token} (ht : t.inDottedName = true) (hu : u.inDottedName = false) :
    t ≠ u := by
  rintro rfl
  rw [ht] at hu
  cases hu

theorem precedesStatement_of_inDottedName {t : Token} (ht : t.inDottedName = true) :
    t.precedesStatement = false := by
  cases t with
  | symbol s =>
    obtain rfl : s = "." := of_decide_eq_true ht
    rfl
  | name => rfl
  | keyword | constant | literal | newline | indent | dedent => cases ht

theorem spelled_cons (t : Token) (ts : List Token) :
    spelled (t :: ts) = t.spelling ++ spelled ts := by
  rw [spelled, List.map_cons, String.join_cons]
  rfl

theorem takes_name : Takes name fun taken s => ∃ n, taken = [.name n] ∧ s = normalForm n := by
  intro ts s rest h
  obtain ⟨n, rfl, hs⟩ := name_eq_some h
  exact ⟨[.name n], rfl, n, rfl, hs⟩

theorem takes_dottedName (rounds : Nat) : Takes (dottedName rounds) Spells := by
  intro ts m rest h
  obtain ⟨s, between, hname, h⟩ := bind_eq_some h
  obtain ⟨n, rfl, rfl⟩ := name_eq_some hname
  obtain ⟨names, between', hnames, h⟩ := bind_eq_some h
  cases h
  obtain ⟨taken, rfl, htaken, hspelling⟩ := Takes.gather_behind (.symbol ".") takes_name
    (fun taken names => (∀ t ∈ taken, t.inDottedName = true) ∧
      ∀ s, dotted (s :: names) = s ++ spelled taken)
    ⟨List.forall_mem_nil _, fun s => String.intercalate_singleton.trans (by simp [spelled])⟩
    (by
      rintro _ _ more names ⟨n, rfl, rfl⟩ ⟨hmore, hspelling⟩
      refine ⟨by simpa [Token.inDottedName] using hmore, fun s => ?_⟩
      rw [dotted, String.intercalate_cons_cons]
      change s ++ "." ++ dotted (normalForm n :: names) = _
      rw [hspelling, List.cons_append, List.singleton_append, spelled_cons, spelled_cons,
        String.append_assoc]
      rfl)
    rounds between names rest hnames
  refine ⟨.name n :: taken, rfl, ⟨?_, ?_, n, rfl⟩⟩
  · rw [hspelling, spelled_cons]
    rfl
  · exact List.forall_mem_cons.mpr ⟨rfl, htaken⟩

/-- The tokens of a module, perhaps under another name. -/
structure IsAlias (taken : List Token) (m : String) : Prop where
  withinStatement : ∀ t ∈ taken, t.precedesStatement = false
  comma : .symbol "," ∉ taken
  module : spelled (taken.takeWhile (· ≠ .keyword "as")) = m

theorem takes_otherName :
    Takes otherName fun taken _ => taken = [] ∨ ∃ n, taken = [.keyword "as", .name n] := by
  intro ts u rest h
  obtain ⟨accepted, between, haccepted, hname⟩ := bind_eq_some h
  rcases accept_eq_some haccepted with ⟨rfl, rfl⟩ | ⟨rfl, rfl⟩
  · obtain ⟨⟨s, between'⟩, hs, hname⟩ := Option.bind_eq_some_iff.mp hname
    cases hname
    obtain ⟨n, rfl, -⟩ := name_eq_some hs
    exact ⟨_, rfl, .inr ⟨n, rfl⟩⟩
  · cases hname
    exact ⟨[], rfl, .inl rfl⟩

theorem Spells.isAlias {taken other : List Token} {m : String} (h : Spells taken m)
    (hother : other = [] ∨ ∃ n, other = [.keyword "as", .name n]) : IsAlias (taken ++ other) m := by
  have htaken : ∀ t ∈ taken, decide (t ≠ .keyword "as") = true := fun t ht =>
    decide_eq_true (inDottedName_ne (h.inDottedName t ht) rfl)
  refine ⟨?_, ?_, ?_⟩
  · intro t ht
    rcases List.mem_append.mp ht with ht | ht
    · exact precedesStatement_of_inDottedName (h.inDottedName t ht)
    · rcases hother with rfl | ⟨n, rfl⟩
      · cases ht
      · obtain rfl | rfl : t = .keyword "as" ∨ t = .name n := by simpa using ht
        · rfl
        · rfl
  · intro hcomma
    rcases List.mem_append.mp hcomma with hcomma | hcomma
    · exact inDottedName_ne (h.inDottedName _ hcomma) rfl rfl
    · rcases hother with rfl | ⟨n, rfl⟩
      · cases hcomma
      · simp at hcomma
  · rw [List.takeWhile_append_of_pos htaken]
    rcases hother with rfl | ⟨n, rfl⟩
    · rw [List.takeWhile_nil, List.append_nil, h.spelling]
    · rw [List.takeWhile_cons_of_neg (by simp), List.append_nil, h.spelling]

theorem takes_alias (rounds : Nat) : Takes (do
    let m ← dottedName rounds
    otherName
    return m) IsAlias := by
  intro ts m rest h
  obtain ⟨m, between, hm, h⟩ := bind_eq_some h
  obtain ⟨u, between', hother, h⟩ := bind_eq_some h
  cases h
  obtain ⟨taken, rfl, htaken⟩ := takes_dottedName rounds ts _ between hm
  obtain ⟨other, rfl, hshape⟩ := takes_otherName between u _ hother
  exact ⟨taken ++ other, by rw [List.append_assoc], htaken.isAlias hshape⟩

theorem modulesListed_singleton {item : List Token} {m : String} (h : IsAlias item m) :
    modulesListed item = [m] := by
  rw [modulesListed, List.splitOn_eq_singleton h.comma, List.map_singleton, h.module]

theorem modulesListed_cons {item : List Token} {m : String} (h : IsAlias item m)
    (ts : List Token) : modulesListed (item ++ .symbol "," :: ts) = m :: modulesListed ts := by
  rw [modulesListed, List.splitOn_append_cons_self, List.map_append]
  exact congrArg (· ++ modulesListed ts) (modulesListed_singleton h)

/-- Reading an import statement yields the modules that its tokens list. -/
theorem importNames_eq_some {rounds : Nat} {ts rest : List Token} {t : Token} {parts : List Part}
    (h : importNames rounds ts = some (parts, t :: rest)) (ht : t.precedesStatement = true) :
    parts = [.imports (importedModules ts)] := by
  obtain ⟨modules, between, hmodules, h⟩ := bind_eq_some h
  cases h
  obtain ⟨m, between, hm, hmodules⟩ := bind_eq_some hmodules
  obtain ⟨ms, between', hms, hmodules⟩ := bind_eq_some hmodules
  cases hmodules
  obtain ⟨first, rfl, hfirst⟩ := takes_alias rounds ts m between hm
  obtain ⟨taken, rfl, htaken, hlisted⟩ := Takes.gather_behind (.symbol ",") (takes_alias rounds)
    (fun taken ms => (∀ t ∈ taken, t.precedesStatement = false) ∧
      ∀ first m, IsAlias first m → modulesListed (first ++ taken) = m :: ms)
    ⟨List.forall_mem_nil _, fun first m h => by rw [List.append_nil, modulesListed_singleton h]⟩
    (by
      rintro taken m more ms htaken ⟨hmore, hlisted⟩
      refine ⟨?_, fun first n hfirst => ?_⟩
      · rw [List.cons_append]
        refine List.forall_mem_cons.mpr ⟨rfl, List.forall_mem_append.mpr ⟨?_, hmore⟩⟩
        exact htaken.withinStatement
      · rw [List.cons_append, modulesListed_cons hfirst, hlisted taken m htaken])
    rounds between ms _ hms
  have hwithin : ∀ u ∈ first ++ taken, (!u.precedesStatement) = true := by
    intro u hu
    rcases List.mem_append.mp hu with hu | hu
    · rw [hfirst.withinStatement u hu, Bool.not_false]
    · rw [htaken u hu, Bool.not_false]
  rw [importedModules, ← List.append_assoc, List.takeWhile_append_of_pos hwithin,
    List.takeWhile_cons_of_neg (by rw [ht]; decide), List.append_nil, hlisted first m hfirst]

theorem eq_of_points_pos {t : Token} (ht : 0 < t.points) : t = .symbol "." ∨ t = .symbol "..." := by
  cases t with
  | symbol s =>
    by_cases hone : s = "."
    · exact .inl (congrArg _ hone)
    by_cases hthree : s = "..."
    · exact .inr (congrArg _ hthree)
    · simp [Token.points, hone, hthree] at ht
  | name | keyword | constant | literal | newline | indent | dedent => cases ht

theorem takes_levels (rounds : Nat) : Takes (gather levelMark rounds) fun taken levels =>
    (∀ t ∈ taken, 0 < t.points) ∧ taken.map Token.points = levels := by
  have hmark : Takes levelMark
      (Optionally fun taken level => ∃ t : Token, taken = [t] ∧ t.points = level ∧ 0 < level) := by
    intro ts found rest h
    obtain ⟨accepted, between, haccepted, hfound⟩ := bind_eq_some h
    rcases accept_eq_some haccepted with ⟨rfl, rfl⟩ | ⟨rfl, rfl⟩
    · cases hfound
      exact ⟨[.symbol "."], rfl, .symbol ".", rfl, rfl, Nat.one_pos⟩
    obtain ⟨accepted, between', haccepted, hfound⟩ := bind_eq_some hfound
    rcases accept_eq_some haccepted with ⟨rfl, rfl⟩ | ⟨rfl, rfl⟩
    · cases hfound
      exact ⟨[.symbol "..."], rfl, .symbol "...", rfl, rfl, by decide⟩
    · cases hfound
      exact ⟨[], rfl, rfl⟩
  refine hmark.gather ⟨List.forall_mem_nil _, rfl⟩ ?_ rounds
  rintro taken level more levels ⟨t, rfl, rfl, hpos⟩ ⟨hmore, rfl⟩
  exact ⟨List.forall_mem_cons.mpr ⟨hpos, hmore⟩, rfl⟩

theorem importOrigin_append {marks module : List Token} (hmarks : ∀ t ∈ marks, 0 < t.points)
    (hmodule : ∀ t ∈ module.head?, t.points = 0) :
    importOrigin (marks ++ module) = .importFrom ((marks.map Token.points).foldl (· + ·) 0)
      (if module.isEmpty then none else some (spelled module)) := by
  have hall : ∀ t ∈ marks, decide (0 < t.points) = true := fun t ht => decide_eq_true (hmarks t ht)
  have htake : module.takeWhile (0 < ·.points) = [] ∧ module.dropWhile (0 < ·.points) = module := by
    cases module with
    | nil => exact ⟨rfl, rfl⟩
    | cons t module =>
      have ht : ¬decide (0 < t.points) = true := by simp [hmodule t rfl]
      exact ⟨List.takeWhile_cons_of_neg ht, List.dropWhile_cons_of_neg ht⟩
  rw [importOrigin, List.takeWhile_append_of_pos hall, List.dropWhile_append_of_pos hall, htake.1,
    htake.2, List.append_nil]

/-- The tokens stand in one line before the keyword of an import. -/
def BeforeImport (ts : List Token) : Prop :=
  ∀ t ∈ ts, t.precedesStatement = false ∧ t ≠ importMark

/-- Reading names to import yields where they are imported from. -/
theorem importFrom_eq_some {rounds : Nat} {ts rest : List Token} {parts : List Part}
    (h : importFrom rounds ts = some (parts, rest)) :
    ∃ origin targets, ts = origin ++ importMark :: targets ∧ BeforeImport origin ∧
      parts = [importOrigin origin] ∧ Past targets rest := by
  obtain ⟨levels, between, hlevels, h⟩ := bind_eq_some h
  obtain ⟨marks, rfl, hmarks, rfl⟩ := takes_levels rounds ts levels between hlevels
  have hbefore : BeforeImport marks := fun t ht => by
    rcases eq_of_points_pos (hmarks t ht) with rfl | rfl
    · exact ⟨rfl, nofun⟩
    · exact ⟨rfl, nofun⟩
  have hend {module : Option String} {ts : List Token} (h : (do
      require (0 < ((marks.map Token.points).foldl (· + ·) 0) || module.isSome)
      expectKeyword "import"
      importTargets rounds
      return [Part.importFrom ((marks.map Token.points).foldl (· + ·) 0) module] : Reader _) ts =
        some (parts, rest)) :
      ∃ targets, ts = importMark :: targets ∧ Past targets rest ∧
        parts = [.importFrom ((marks.map Token.points).foldl (· + ·) 0) module] := by
    obtain ⟨u, between, hrequired, h⟩ := bind_eq_some h
    obtain ⟨u, targets, hexpected, h⟩ := bind_eq_some h
    obtain ⟨u, between', htargets, h⟩ := bind_eq_some h
    cases h
    rw [eq_of_require hrequired, expect_eq_some hexpected]
    exact ⟨targets, rfl, quiet_importTargets rounds targets u _ htargets, rfl⟩
  obtain ⟨found, between', hfound, h⟩ := bind_eq_some h
  cases hfound
  split at h
  · obtain ⟨targets, rfl, htargets, hparts⟩ := hend h
    refine ⟨marks, targets, rfl, hbefore, ?_, htargets⟩
    rw [hparts, ← List.append_nil marks, importOrigin_append hmarks (by simp), List.append_nil]
    rfl
  · obtain ⟨module, between', hmodule, h⟩ := bind_eq_some h
    obtain ⟨⟨m, between''⟩, hm, hmodule⟩ := Option.bind_eq_some_iff.mp hmodule
    cases hmodule
    obtain ⟨targets, rfl, htargets, hparts⟩ := hend h
    obtain ⟨taken, rfl, htaken⟩ := takes_dottedName rounds _ m _ hm
    refine ⟨marks ++ taken, targets, by rw [List.append_assoc], ?_, ?_, htargets⟩
    · refine List.forall_mem_append.mpr ⟨hbefore, fun t ht => ?_⟩
      have hname := htaken.inDottedName t ht
      exact ⟨precedesStatement_of_inDottedName hname, inDottedName_ne hname rfl⟩
    · obtain ⟨n, hn⟩ := htaken.head
      have hmodule : ∀ t ∈ taken.head?, t.points = 0 := by
        rw [hn]
        intro t ht
        cases ht
        rfl
      have hnonempty : taken.isEmpty = false := by
        cases taken with
        | nil => cases hn
        | cons => rfl
      rw [hparts, importOrigin_append hmarks hmodule, hnonempty, htaken.spelling]
      rfl

end Imports

end LivePreview.Code
