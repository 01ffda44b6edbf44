import LivePreview.Code.Statement

/-!
# Names and scopes

Before code is made, the names of a whole module are entered into scopes. A function, a lambda and
every comprehension is a scope; so are all annotations of a function together. The rules here are on
assignments inside expressions, which bind in the nearest function and may not clash with a loop of
a comprehension, on yields and awaits, and on parameters of one name.
-/

namespace LivePreview.Code

/-- What opens a scope. -/
inductive ScopeKind where
  | module
  | classBody
  | function
  | annotations
  | comprehension (collects : Option Collects)
  deriving DecidableEq, Repr

/-- What is known of a name in a comprehension. -/
structure Mark where
  name : String
  /-- A loop assigns it, or it stands in a target of one. -/
  isLoop : Bool
  /-- An assignment expression binds it further out. -/
  isRebound : Bool

structure Scope where
  kind : ScopeKind
  /-- Inside the targets of a loop. -/
  inTarget : Bool
  /-- How many sources of loops enclose the place. -/
  sources : Nat
  marks : List Mark

def Scope.enter (kind : ScopeKind) (sources : Nat) : Scope := ⟨kind, false, sources, []⟩

def Scope.isComprehension (s : Scope) : Bool :=
  match s.kind with
  | .comprehension _ => true
  | _ => false

/-- Inside a class, a name with two underscores in front gets the name of the class put before it,
unless it ends in two underscores. -/
def mangle (owner name : String) : String :=
  let stem := owner.toList.dropWhile (· = '_')
  let cs := name.toList
  if ['_', '_'].isPrefixOf cs && !(['_', '_'].isPrefixOf cs.reverse) && !stem.isEmpty then
    String.ofList ('_' :: stem ++ cs)
  else name

/-- Refusals of the scope rules. -/
inductive ScopeFault where
  | assignmentInSource
  | assignmentInClass
  | assignmentToLoopName (name : String)
  | loopOverAssigned (name : String)
  | inHint (what : String)
  | yieldInside (collects : Option Collects)
  | duplicateArgument (name : String)
  | yieldOutside
  | awaitOutside
  | awaitInPlain
  | asyncOutside
  | repeatedKeyword (name : String)
  | assignmentToDebug
  | strayStar
  | strayTargetStar
  | severalStars
  | tooManyBeforeStar
  deriving DecidableEq, Repr

def ScopeFault.message : ScopeFault → String
  | assignmentInSource =>
    "assignment expression cannot be used in a comprehension iterable expression"
  | assignmentInClass =>
    "assignment expression within a comprehension cannot be used in a class body"
  | assignmentToLoopName name =>
    "assignment expression cannot rebind comprehension iteration variable '" ++ name ++ "'"
  | loopOverAssigned name =>
    "comprehension inner loop cannot rebind assignment expression target '" ++ name ++ "'"
  | inHint what => "'" ++ what ++ "' can not be used within an annotation"
  | yieldInside (some .list) => "'yield' inside list comprehension"
  | yieldInside (some .set) => "'yield' inside set comprehension"
  | yieldInside (some .generator) => "'yield' inside generator expression"
  | yieldInside none => "'yield' inside dict comprehension"
  | duplicateArgument name => "duplicate argument '" ++ name ++ "' in function definition"
  | yieldOutside => "'yield' outside function"
  | awaitOutside => "'await' outside function"
  | awaitInPlain => "'await' outside async function"
  | asyncOutside => "asynchronous comprehension outside of an asynchronous function"
  | repeatedKeyword name => "keyword argument repeated: " ++ name
  | assignmentToDebug => "cannot assign to __debug__"
  | strayStar => "can't use starred expression here"
  | strayTargetStar => "starred assignment target must be in a list or tuple"
  | severalStars => "multiple starred expressions in assignment"
  | tooManyBeforeStar => "too many expressions in star-unpacking assignment"

/-- Checks that change the innermost scope. -/
abbrev Naming := StateT Scope (Except ScopeFault)

namespace Scope

def mark? (s : Scope) (name : String) : Option Mark := s.marks.find? fun m => m.name = name

def isLoopName (s : Scope) (name : String) : Bool := (s.mark? name).any (·.isLoop)

def isReboundName (s : Scope) (name : String) : Bool := (s.mark? name).any (·.isRebound)

def put (s : Scope) (m : Mark) : Scope :=
  { s with marks := m :: s.marks.filter fun n => n.name ≠ m.name }

end Scope

/-- Enter a name into the innermost scope. -/
def enterName (owner : String) (rebound : Bool) (name : String) : Naming Unit := do
  let s ← get
  let key := mangle owner name
  let isRebound := rebound || s.isReboundName key
  if s.inTarget && isRebound then throw (.loopOverAssigned name)
  set (s.put ⟨key, s.inTarget || s.isLoopName key, isRebound⟩)

/-- Look outward from a comprehension for the scope in which an assignment binds. -/
def bindingScope (name : String) : List Scope → Except ScopeFault Unit
  | [] => .ok ()
  | s :: outer =>
    match s.kind with
    | .comprehension _ =>
      if s.isLoopName name then .error (.assignmentToLoopName name) else bindingScope name outer
    | .annotations => bindingScope name outer
    | .classBody => .error .assignmentInClass
    | .function | .module => .ok ()

/-- Run checks in a new scope inside the current one. -/
def inScope (kind : ScopeKind) (body : Naming Unit) : Naming Unit := do
  let s ← get
  let _ ← body.run (Scope.enter kind s.sources)

/-- Run checks with the mark of a target of a loop. -/
def asTarget (body : Naming Unit) : Naming Unit := do
  modify fun s => { s with inTarget := true }
  body
  modify fun s => { s with inTarget := false }

def asSource (body : Naming Unit) : Naming Unit := do
  modify fun s => { s with sources := s.sources + 1 }
  body
  modify fun s => { s with sources := s.sources - 1 }

/-- Refuse what may not stand in an annotation itself. -/
def notInHint (what : String) : Naming Unit := do
  if (← get).kind = .annotations then throw (.inHint what)

/-- A yield may stand in no comprehension. -/
def notInComprehension : Naming Unit := do
  match (← get).kind with
  | .comprehension collects => throw (.yieldInside collects)
  | _ => pure ()

/-- The parameters of a lambda in the order in which they are entered. -/
def entryOrder (ps : List LambdaParam) : List String :=
  let ofKind (kinds : List ParamKind) := ps.filterMap fun
    | .param kind name _ => if kinds.contains kind then some name else none
  ofKind [.positionalOnly, .positional] ++ ofKind [.keywordOnly] ++ ofKind [.rest] ++
    ofKind [.keywordRest]

/-- The first parameter whose name came before. -/
def duplicate? (owner : String) : (seen : List String) → List String → Option String
  | _, [] => none
  | seen, name :: names =>
    let key := mangle owner name
    if seen.contains key then some name else duplicate? owner (key :: seen) names

def distinctParams (owner : String) (names : List String) : Naming Unit :=
  match duplicate? owner [] names with
  | some name => throw (.duplicateArgument name)
  | none => pure ()

mutual

/-- Enter the names of an expression. `outer` lists the scopes around the innermost one. -/
def Expr.enter (owner : String) (outer : List Scope) : Expr → Naming Unit
  | .constant _ => pure ()
  | .name id => enterName owner false id
  | .attribute v _ => v.enter owner outer
  | .subscript v i => do v.enter owner outer; i.enter owner outer
  | .slice l u s => do
    enterOption owner outer l
    enterOption owner outer u
    enterOption owner outer s
  | .starred v => v.enter owner outer
  | .call f as ks => do f.enter owner outer; enterList owner outer as; enterKeywords owner outer ks
  | .tuple es => enterList owner outer es
  | .list es => enterList owner outer es
  | .set es => enterList owner outer es
  | .mapping items => do enterKeys owner outer items; enterValues owner outer items
  | .boolean _ es => enterList owner outer es
  | .binary l _ r => do l.enter owner outer; r.enter owner outer
  | .unary _ e => e.enter owner outer
  | .compare e rest => do e.enter owner outer; enterComparisons owner outer rest
  | .conditional t b o => do t.enter owner outer; b.enter owner outer; o.enter owner outer
  | .lambda ps b => do
    enterDefaults owner outer false ps
    enterDefaults owner outer true ps
    let s ← get
    inScope .function do
      distinctParams owner (entryOrder ps)
      b.enter owner (s :: outer)
  | .comprehension collects e cs => do
    enterFirstSource owner outer cs
    let s ← get
    inScope (.comprehension (some collects)) do
      enterClauses owner (s :: outer) true cs
      e.enter owner (s :: outer)
  | .mappingComprehension k v cs => do
    enterFirstSource owner outer cs
    let s ← get
    inScope (.comprehension none) do
      enterClauses owner (s :: outer) true cs
      v.enter owner (s :: outer)
      k.enter owner (s :: outer)
  | .assignment target v => do
    notInHint "named expression"
    let s ← get
    if 0 < s.sources then throw .assignmentInSource
    if s.isComprehension then
      match bindingScope target (s :: outer) with
      | .error fault => throw fault
      | .ok () => enterName owner true target
    v.enter owner outer
    enterName owner false target
  | .yield v => do
    notInHint "yield expression"
    enterOption owner outer v
    notInComprehension
  | .yieldFrom v => do
    notInHint "yield expression"
    v.enter owner outer
    notInComprehension
  | .await v => do
    notInHint "await expression"
    v.enter owner outer
  | .format ps => enterPieces owner outer ps

def enterOption (owner : String) (outer : List Scope) : Option Expr → Naming Unit
  | none => pure ()
  | some e => e.enter owner outer

def enterList (owner : String) (outer : List Scope) : List Expr → Naming Unit
  | [] => pure ()
  | e :: es => do e.enter owner outer; enterList owner outer es

def enterKeywords (owner : String) (outer : List Scope) : List Keyword → Naming Unit
  | [] => pure ()
  | .named _ v :: ks => do v.enter owner outer; enterKeywords owner outer ks
  | .unpacked v :: ks => do v.enter owner outer; enterKeywords owner outer ks

def enterKeys (owner : String) (outer : List Scope) : List MappingItem → Naming Unit
  | [] => pure ()
  | .pair k _ :: items => do k.enter owner outer; enterKeys owner outer items
  | .unpacked _ :: items => enterKeys owner outer items

def enterValues (owner : String) (outer : List Scope) : List MappingItem → Naming Unit
  | [] => pure ()
  | .pair _ v :: items => do v.enter owner outer; enterValues owner outer items
  | .unpacked v :: items => do v.enter owner outer; enterValues owner outer items

def enterComparisons (owner : String) (outer : List Scope) : List Comparison → Naming Unit
  | [] => pure ()
  | .step _ v :: rest => do v.enter owner outer; enterComparisons owner outer rest

/-- The defaults of the parameters by keyword only, or of the others. -/
def enterDefaults (owner : String) (outer : List Scope) (byKeyword : Bool) :
    List LambdaParam → Naming Unit
  | [] => pure ()
  | .param kind _ d :: ps => do
    if (kind == .keywordOnly) == byKeyword then enterOption owner outer d
    enterDefaults owner outer byKeyword ps

/-- The first source belongs to the scope around the comprehension. -/
def enterFirstSource (owner : String) (outer : List Scope) : List Clause → Naming Unit
  | [] => pure ()
  | .loop _ _ source _ :: _ => asSource (source.enter owner outer)

def enterClauses (owner : String) (outer : List Scope) (isFirst : Bool) :
    List Clause → Naming Unit
  | [] => pure ()
  | .loop _ target source conditions :: rest => do
    asTarget (target.enter owner outer)
    if !isFirst then asSource (source.enter owner outer)
    enterList owner outer conditions
    enterClauses owner outer false rest

def enterPieces (owner : String) (outer : List Scope) : List Piece → Naming Unit
  | [] => pure ()
  | .text _ :: ps => enterPieces owner outer ps
  | .field v _ none :: ps => do v.enter owner outer; enterPieces owner outer ps
  | .field v _ (some spec) :: ps => do
    v.enter owner outer
    enterPieces owner outer spec
    enterPieces owner outer ps

end

mutual

/-- Enter the names of a statement inside the class `owner`. -/
def Statement.enter (owner : String) (outer : List Scope) : Statement → Naming Unit
  | .importModule _ | .importFrom _ _ | .pass => pure ()
  | .classDef name _ _ body => do
    let s ← get
    inScope .classBody (enterBlock name (s :: outer) body)
  | .function _ params body => do
    enterList owner outer (params.filterMap (·.default))
    let s ← get
    inScope .annotations (enterList owner (s :: outer) (params.filterMap (·.hint)))
    inScope .function do
      distinctParams owner (params.map (·.name))
      enterBlock owner (s :: outer) body
  | .assign target value => do target.enter owner outer; value.enter owner outer
  | .expression value => value.enter owner outer
  | .return value => value.enter owner outer

def enterBlock (owner : String) (outer : List Scope) : List Statement → Naming Unit
  | [] => pure ()
  | s :: ss => do s.enter owner outer; enterBlock owner outer ss

end

/-- Check the names of a module. -/
def checkNames (ss : List Statement) : Except ScopeFault Unit :=
  ((enterBlock "" [] ss).run (Scope.enter .module 0)).map fun _ => ()

end LivePreview.Code
