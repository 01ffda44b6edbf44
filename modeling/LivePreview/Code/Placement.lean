import LivePreview.Code.Scope

/-!
# Where forms may stand

Code is made in the order of evaluation, and each form is checked when its turn comes: a yield and
an await have to stand in a function, an await in one that can wait, a star in a display or a call,
and some names cannot be assigned. Annotations are kept as text and not checked here.
-/

namespace LivePreview.Code

/-- The innermost body that code is made for. -/
inductive Place where
  | outside
  | function
  | lambda
  | comprehension
  deriving DecidableEq, Repr

abbrev Placed := Except ScopeFault Unit

mutual

/-- Whether the scope that the expression stands in has to wait for it. -/
def Expr.waits : Expr → Bool
  | .constant _ | .name _ => false
  | .attribute v _ => v.waits
  | .subscript v i => v.waits || i.waits
  | .slice l u s => waitsOption l || waitsOption u || waitsOption s
  | .starred v => v.waits
  | .call f as ks => f.waits || waitsList as || waitsKeywords ks
  | .tuple es => waitsList es
  | .list es => waitsList es
  | .set es => waitsList es
  | .mapping items => waitsMapping items
  | .boolean _ es => waitsList es
  | .binary l _ r => l.waits || r.waits
  | .unary _ e => e.waits
  | .compare e rest => e.waits || waitsComparisons rest
  | .conditional t b o => t.waits || b.waits || o.waits
  | .lambda ps _ => waitsParams ps
  | .comprehension collects e cs =>
    waitsFirstSource cs || (collects != .generator && (e.waits || waitsClauses true cs))
  | .mappingComprehension k v cs =>
    waitsFirstSource cs || k.waits || v.waits || waitsClauses true cs
  | .assignment _ v => v.waits
  | .yield v => waitsOption v
  | .yieldFrom v => v.waits
  | .await _ => true
  | .format ps => waitsPieces ps

def waitsOption : Option Expr → Bool
  | none => false
  | some e => e.waits

def waitsList : List Expr → Bool
  | [] => false
  | e :: es => e.waits || waitsList es

def waitsKeywords : List Keyword → Bool
  | [] => false
  | .named _ v :: ks => v.waits || waitsKeywords ks
  | .unpacked v :: ks => v.waits || waitsKeywords ks

def waitsMapping : List MappingItem → Bool
  | [] => false
  | .pair k v :: items => k.waits || v.waits || waitsMapping items
  | .unpacked v :: items => v.waits || waitsMapping items

def waitsComparisons : List Comparison → Bool
  | [] => false
  | .step _ v :: rest => v.waits || waitsComparisons rest

def waitsParams : List LambdaParam → Bool
  | [] => false
  | .param _ _ d :: ps => waitsOption d || waitsParams ps

def waitsFirstSource : List Clause → Bool
  | [] => false
  | .loop _ _ source _ :: _ => source.waits

/-- Whether the loops make their comprehension wait; the first source stands outside it. -/
def waitsClauses (isFirst : Bool) : List Clause → Bool
  | [] => false
  | .loop isAsync target source conditions :: rest =>
    isAsync || target.waits || (!isFirst && source.waits) || waitsList conditions ||
      waitsClauses false rest

def waitsPieces : List Piece → Bool
  | [] => false
  | .text _ :: ps => waitsPieces ps
  | .field v _ none :: ps => v.waits || waitsPieces ps
  | .field v _ (some spec) :: ps => v.waits || waitsPieces spec || waitsPieces ps

end

/-- The constant that tells whether checks are on has its own name, which nothing may assign. -/
def assignable (name : String) : Placed :=
  if name = "__debug__" then .error .assignmentToDebug else .ok ()

def keywordName? : Keyword → Option String
  | .named name _ => some name
  | .unpacked _ => none

/-- Each keyword of a call may be given once. -/
def distinctKeywords : List String → Placed
  | [] => .ok ()
  | name :: names => do
    assignable name
    if names.contains name then throw (.repeatedKeyword name)
    distinctKeywords names

/-- A sequence of targets holds one star at most, after fewer than 256 others. -/
def placeableStars (es : List Expr) : Placed :=
  match es.dropWhile fun e => !(e matches .starred _) with
  | [] => .ok ()
  | _ :: rest =>
    if 256 ≤ es.length - rest.length - 1 then .error .tooManyBeforeStar
    else if rest.any fun e => e matches .starred _ then .error .severalStars
    else .ok ()

/-- A comprehension that waits may only stand where waiting is allowed. -/
def mayWait (place : Place) (waits : Bool) : Placed :=
  if waits && place != .comprehension then .error .asyncOutside else .ok ()

def inFunction (place : Place) (fault : ScopeFault) : Placed :=
  if place = .outside then .error fault else .ok ()

/-- The names of the parameters of a lambda in the order in which they are checked. -/
def checkOrder (ps : List LambdaParam) : List String :=
  let ofKind (kinds : List ParamKind) := ps.filterMap fun
    | .param kind name _ => if kinds.contains kind then some name else none
  ofKind [.positionalOnly, .positional] ++ ofKind [.rest] ++ ofKind [.keywordOnly] ++
    ofKind [.keywordRest]

mutual

/-- Check an expression that is evaluated in the place. -/
def Expr.place (place : Place) : Expr → Placed
  | .constant _ | .name _ => .ok ()
  | .attribute v _ => v.place place
  | .subscript v i => do v.place place; i.place place
  | .slice l u s => do placeOption place l; placeOption place u; placeOption place s
  | .starred _ => .error .strayStar
  | .call f as ks => do
    distinctKeywords (ks.filterMap keywordName?)
    f.place place
    placeItems place as
    placeKeywords place ks
  | .tuple es => placeItems place es
  | .list es => placeItems place es
  | .set es => placeItems place es
  | .mapping items => placeMapping place items
  | .boolean _ es => placeList place es
  | .binary l _ r => do l.place place; r.place place
  | .unary _ e => e.place place
  | .compare e rest => do e.place place; placeComparisons place rest
  | .conditional t b o => do t.place place; b.place place; o.place place
  | .lambda ps b => do
    (checkOrder ps).forM assignable
    placeDefaults place false ps
    placeDefaults place true ps
    b.place .lambda
  | .comprehension collects e cs => do
    if collects != .generator then mayWait place (e.waits || waitsClauses true cs)
    placeClauses true cs
    e.place .comprehension
    placeFirstSource place cs
  | .mappingComprehension k v cs => do
    mayWait place (k.waits || v.waits || waitsClauses true cs)
    placeClauses true cs
    k.place .comprehension
    v.place .comprehension
    placeFirstSource place cs
  | .assignment target v => do
    v.place place
    assignable target
  | .yield v => do
    inFunction place .yieldOutside
    placeOption place v
  | .yieldFrom v => do
    inFunction place .yieldOutside
    v.place place
  | .await v => do
    inFunction place .awaitOutside
    if place != .comprehension then throw .awaitInPlain
    v.place place
  | .format ps => placePieces place ps

def placeOption (place : Place) : Option Expr → Placed
  | none => .ok ()
  | some e => e.place place

def placeList (place : Place) : List Expr → Placed
  | [] => .ok ()
  | e :: es => do e.place place; placeList place es

/-- Items of a display or a call, which may be unpacked. -/
def placeItems (place : Place) : List Expr → Placed
  | [] => .ok ()
  | .starred v :: es => do v.place place; placeItems place es
  | e :: es => do e.place place; placeItems place es

def placeKeywords (place : Place) : List Keyword → Placed
  | [] => .ok ()
  | .named _ v :: ks => do v.place place; placeKeywords place ks
  | .unpacked v :: ks => do v.place place; placeKeywords place ks

def placeMapping (place : Place) : List MappingItem → Placed
  | [] => .ok ()
  | .pair k v :: items => do k.place place; v.place place; placeMapping place items
  | .unpacked v :: items => do v.place place; placeMapping place items

def placeComparisons (place : Place) : List Comparison → Placed
  | [] => .ok ()
  | .step _ v :: rest => do v.place place; placeComparisons place rest

def placeDefaults (place : Place) (byKeyword : Bool) : List LambdaParam → Placed
  | [] => .ok ()
  | .param kind _ d :: ps => do
    if (kind == .keywordOnly) == byKeyword then placeOption place d
    placeDefaults place byKeyword ps

def placeFirstSource (place : Place) : List Clause → Placed
  | [] => .ok ()
  | .loop _ _ source _ :: _ => source.place place

/-- The loops inside their comprehension; the first source stands outside it. -/
def placeClauses (isFirst : Bool) : List Clause → Placed
  | [] => .ok ()
  | .loop _ target source conditions :: rest => do
    if !isFirst then source.place .comprehension
    target.placeTarget
    placeList .comprehension conditions
    placeClauses false rest

/-- Check a target of a loop of a comprehension. -/
def Expr.placeTarget : Expr → Placed
  | .name id => assignable id
  | .attribute v name => do
    v.place .comprehension
    assignable name
  | .subscript v i => do v.place .comprehension; i.place .comprehension
  | .tuple es => do placeableStars es; placeTargets es
  | .list es => do placeableStars es; placeTargets es
  | _ => .error .strayTargetStar

def placeTargets : List Expr → Placed
  | [] => .ok ()
  | .starred v :: es => do v.placeTarget; placeTargets es
  | e :: es => do e.placeTarget; placeTargets es

def placePieces (place : Place) : List Piece → Placed
  | [] => .ok ()
  | .text _ :: ps => placePieces place ps
  | .field v _ none :: ps => do v.place place; placePieces place ps
  | .field v _ (some spec) :: ps => do
    v.place place
    placePieces place spec
    placePieces place ps

end

/-- The name that importing a module assigns: the part before the first point. -/
def importedName (module : String) : String :=
  String.ofList (module.toList.takeWhile (· ≠ '.'))

mutual

def Statement.place (place : Place) : Statement → Placed
  | .importModule m => assignable (importedName m)
  | .importFrom _ names => names.forM fun i => assignable (i.renamed.getD i.name)
  | .classDef _ _ _ body => placeBlock .outside body
  | .function _ params body => do
    params.forM fun p => assignable p.name
    placeList place (params.filterMap (·.default))
    placeBlock .function body
  | .assign _ value => value.place place
  | .expression value => value.place place
  | .return value => value.place place
  | .pass => .ok ()

def placeBlock (place : Place) : List Statement → Placed
  | [] => .ok ()
  | s :: ss => do s.place place; placeBlock place ss

end

/-- Check a module: the names of all of it first, then every form in order. -/
def checkModule (ss : List Statement) : Except ScopeFault Unit := do
  checkNames ss
  placeBlock .outside ss

end LivePreview.Code
