import LivePreview.Proofs.Files
import LivePreview.Proofs.Outline
import LivePreview.Proofs.Registry

/-!
# The modules that a text refers to

A scan of a text yields each module that an import statement of the text refers to, wherever the
statement stands, and no other. For a relative import the package is cut at its last points, as often
as the import goes up from it, and what is left in front is where the name is looked up. The scan
takes segments from the front of the package instead, and comes to the same at both ends: an import
of one level stays in the package, and one with more levels than the package has segments refers to
nothing.
-/

namespace LivePreview.Module

open LivePreview.Code
open LivePreview.Location (pieces)

/-! ## Relative imports -/

/-- What stands before the last point of a text and what stands behind it. -/
def cutAtLastPoint? : List Char → Option (List Char × List Char)
  | [] => none
  | c :: cs =>
    match cutAtLastPoint? cs with
    | some (before, behind) => some (c :: before, behind)
    | none => if c = '.' then some ([], cs) else none

/-- What a text falls into when it is cut at its last points, `cuts` times if it has so many. -/
def lastPieces : (cuts : Nat) → List Char → List (List Char)
  | 0, cs => [cs]
  | cuts + 1, cs =>
    match cutAtLastPoint? cs with
    | none => [cs]
    | some (before, behind) => lastPieces cuts before ++ [behind]

/-- The full name of a module that is looked up `level` levels up from inside a package. -/
def resolveRelative? (package : String) (level : Nat) (module : Option String) : Option String :=
  let bits := lastPieces (level - 1) package.toList
  if bits.length < level then none
  else bits.head?.map fun base => match module with
    | none => String.ofList base
    | some m => String.ofList base ++ "." ++ m

section Cutting

variable {cs before behind : List Char}

theorem cutAtLastPoint?_eq_none (h : cutAtLastPoint? cs = none) : '.' ∉ cs := by
  induction cs with
  | nil => exact List.not_mem_nil
  | cons c cs ih =>
    rw [cutAtLastPoint?] at h
    cases hcs : cutAtLastPoint? cs with
    | some => simp [hcs] at h
    | none =>
      have hc : c ≠ '.' := fun hc => by simp [hcs, hc] at h
      exact List.not_mem_cons_of_ne_of_not_mem hc.symm (ih hcs)

theorem cutAtLastPoint?_eq_some (h : cutAtLastPoint? cs = some (before, behind)) :
    cs = before ++ '.' :: behind ∧ '.' ∉ behind := by
  induction cs generalizing before with
  | nil => cases h
  | cons c cs ih =>
    rw [cutAtLastPoint?] at h
    cases hcs : cutAtLastPoint? cs with
    | some cut =>
      rw [hcs] at h
      cases h
      obtain ⟨rfl, hbehind⟩ := ih hcs
      exact ⟨rfl, hbehind⟩
    | none =>
      rw [hcs] at h
      by_cases hc : c = '.'
      · rw [if_pos hc] at h
        cases h
        exact ⟨by rw [hc, List.nil_append], cutAtLastPoint?_eq_none hcs⟩
      · rw [if_neg hc] at h
        cases h

theorem pieces_of_cutAtLastPoint? (h : cutAtLastPoint? cs = some (before, behind)) :
    pieces '.' cs = pieces '.' before ++ [behind] := by
  obtain ⟨rfl, hbehind⟩ := cutAtLastPoint?_eq_some h
  rw [Location.pieces_append_cons, Location.pieces_of_not_mem hbehind]

theorem length_lastPieces (cuts : Nat) (cs : List Char) :
    (lastPieces cuts cs).length = min (cuts + 1) (pieces '.' cs).length := by
  induction cuts generalizing cs with
  | zero =>
    have hpos := List.length_pos_iff.mpr (Location.pieces_ne_nil '.' cs)
    rw [lastPieces, List.length_singleton]
    omega
  | succ cuts ih =>
    rw [lastPieces]
    cases h : cutAtLastPoint? cs with
    | none =>
      rw [Location.pieces_of_not_mem (cutAtLastPoint?_eq_none h)]
      simp
    | some cut =>
      obtain ⟨before, behind⟩ := cut
      rw [pieces_of_cutAtLastPoint? h, List.length_append, List.length_append, ih,
        List.length_singleton]
      omega

/-- What is left in front are the first segments. -/
theorem head?_lastPieces {cuts : Nat} {cs : List Char} (h : cuts < (pieces '.' cs).length) :
    (lastPieces cuts cs).head? =
      some (['.'].intercalate ((pieces '.' cs).take ((pieces '.' cs).length - cuts))) := by
  induction cuts generalizing cs with
  | zero =>
    rw [lastPieces, List.head?_cons, Nat.sub_zero, List.take_length, Location.intercalate_pieces]
  | succ cuts ih =>
    rw [lastPieces]
    cases hcut : cutAtLastPoint? cs with
    | none =>
      rw [Location.pieces_of_not_mem (cutAtLastPoint?_eq_none hcut)] at h
      exact absurd h (by simp)
    | some cut =>
      obtain ⟨before, behind⟩ := cut
      rw [pieces_of_cutAtLastPoint? hcut, List.length_append, List.length_singleton] at h ⊢
      rw [Nat.add_sub_add_right, List.take_append_of_le_length (Nat.sub_le _ _), List.head?_append,
        ih (Nat.lt_of_succ_lt_succ h), Option.some_or]

end Cutting

theorem length_dottedParts (name : String) :
    (dottedParts name).length = (pieces '.' name.toList).length := by
  rw [← map_toList_dottedParts, List.length_map]

/-- Taking segments from the front of a package is cutting it at its last points. -/
theorem enclosingPackage?_eq {level : Nat} (h : 0 < level) (package : String) :
    enclosingPackage? package level = resolveRelative? package level none := by
  have hlength := length_lastPieces (level - 1) package.toList
  rw [← length_dottedParts] at hlength
  unfold enclosingPackage? resolveRelative?
  by_cases hlevel : (dottedParts package).length < level
  · rw [if_pos (.inr hlevel), if_pos (by omega)]
  · rw [if_neg (by omega), if_neg (by omega), head?_lastPieces (by
      rw [← length_dottedParts]
      omega)]
    refine congrArg some (String.toList_inj.mp (Eq.trans ?_ String.toList_ofList.symm))
    rw [String.toList_intercalate, List.map_take, map_toList_dottedParts, length_dottedParts]
    rfl

theorem resolveRelative?_some (package : String) (level : Nat) (m : String) :
    resolveRelative? package level (some m) =
      (resolveRelative? package level none).map fun base => base ++ "." ++ m := by
  unfold resolveRelative?
  dsimp only
  split
  · rfl
  · rw [Option.map_map]
    rfl

/-! ## Imports -/

/-- The import statement refers to the module. -/
inductive RefersTo (package : Option String) : Part → String → Prop
  | imports {modules : List String} {n : String} :
    n ∈ modules → RefersTo package (.imports modules) n
  | absolute {n : String} : RefersTo package (.importFrom 0 (some n)) n
  | relative {p : String} {level : Nat} {module : Option String} {n : String} :
    package = some p → p ≠ "" → 0 < level → resolveRelative? p level module = some n →
    RefersTo package (.importFrom level module) n

section Statements

variable {package : Option String} {n : String}

theorem importedFrom_relative {p : String} (hp : p ≠ "") {level : Nat} (hlevel : 0 < level)
    (module : Option String) :
    importedFrom (some p) level module = (resolveRelative? p level module).toList := by
  have hempty : p.isEmpty = false := by simpa using hp
  unfold importedFrom
  rw [if_neg (Nat.ne_of_gt hlevel)]
  dsimp only
  rw [hempty, if_neg Bool.false_ne_true, enclosingPackage?_eq hlevel]
  cases module with
  | none => cases resolveRelative? p level none <;> rfl
  | some m =>
    rw [resolveRelative?_some]
    cases resolveRelative? p level none <;> rfl

theorem mem_importedFrom_iff {level : Nat} {module : Option String} :
    n ∈ importedFrom package level module ↔ RefersTo package (.importFrom level module) n := by
  rcases Nat.eq_zero_or_pos level with rfl | hlevel
  · unfold importedFrom
    rw [if_pos rfl, Option.mem_toList]
    constructor
    · rintro rfl
      exact .absolute
    · rintro (_ | _ | ⟨-, -, hzero, -⟩)
      · rfl
      · cases hzero
  constructor
  · intro hn
    cases package with
    | none => simp [importedFrom, Nat.ne_of_gt hlevel] at hn
    | some p =>
      have hp : p ≠ "" := by
        rintro rfl
        simp [importedFrom, Nat.ne_of_gt hlevel] at hn
      rw [importedFrom_relative hp hlevel, Option.mem_toList] at hn
      exact .relative rfl hp hlevel hn
  · rintro (_ | _ | ⟨rfl, hp, -, hn⟩)
    · cases hlevel
    · rw [importedFrom_relative hp hlevel, Option.mem_toList]
      exact hn

mutual

/-- What a part of an outline refers to is what its import statements refer to. -/
theorem mem_partImports_iff :
    ∀ p : Part, n ∈ partImports package p ↔ ∃ s ∈ p.statements, RefersTo package s n
  | .imports modules => by
    simp only [partImports, Part.statements, List.mem_singleton, exists_eq_left]
    constructor
    · exact .imports
    · rintro ⟨hn⟩
      exact hn
  | .importFrom level module => by
    simp only [partImports, Part.statements, List.mem_singleton, exists_eq_left]
    exact mem_importedFrom_iff
  | .raised value => by simp [partImports, Part.statements]
  | .block parts => by
    rw [partImports, Part.statements]
    exact mem_blockImports_iff parts

theorem mem_blockImports_iff :
    ∀ ps : List Part, n ∈ blockImports package ps ↔ ∃ s ∈ blockStatements ps, RefersTo package s n
  | [] => by simp [blockImports, blockStatements]
  | p :: ps => by
    simp only [blockImports, blockStatements, List.mem_append, mem_partImports_iff p,
      mem_blockImports_iff ps, or_and_right, exists_or]

end

end Statements

/-- The scan of a text that can be read ascends strictly, and has just the modules that the import
statements among its tokens refer to. These are the import statements of its outline, in blocks of any
depth. -/
theorem scanImports_of_read {text : String} {parts : List Part} (h : Outline.read text = .ok parts)
    (package : Option String) :
    ∃ ts names, moduleTokens text.toList = some ts ∧ importScan [] ts = blockStatements parts ∧
      scanImports text package = .ok names ∧ names.Pairwise (· < ·) ∧
      ∀ n, n ∈ names ↔ ∃ s ∈ importScan [] ts, RefersTo package s n := by
  obtain ⟨ts, hts, hstatements⟩ := statements_of_read h
  refine ⟨ts, sortNames (blockImports package parts).eraseDups, hts, hstatements.symm,
    by rw [scanImports, h]; rfl, pairwise_sortNames (nodup_eraseDups _), fun n => ?_⟩
  rw [sortNames, List.mem_mergeSort, List.mem_eraseDups, mem_blockImports_iff, hstatements]

/-- Imports in a function below a condition, one of them relative, and one that goes up too far. -/
def nestedImports : String :=
  "if a:\n    def f():\n        import csv, os.path as p; from ..up import x\nfrom ... import y\n"

theorem scanImports_of_read_nestedImports :
    ∃ ts, moduleTokens nestedImports.toList = some ts ∧
      scanImports nestedImports (some "pkg.inner") = .ok ["csv", "os.path", "pkg.up"] ∧
      ∀ n, n ∈ ["csv", "os.path", "pkg.up"] ↔
        ∃ s ∈ importScan [] ts, RefersTo (some "pkg.inner") s n := by
  have hmodules : (Outline.read nestedImports).toOption.map (blockImports (some "pkg.inner")) =
      some ["csv", "os.path", "pkg.up"] := by decide +kernel
  have hsorted : sortNames ["csv", "os.path", "pkg.up"].eraseDups = ["csv", "os.path", "pkg.up"] :=
    List.mergeSort_of_pairwise (by decide +kernel)
  cases hread : Outline.read nestedImports with
  | error fault =>
    rw [hread] at hmodules
    cases hmodules
  | ok parts =>
    obtain ⟨ts, names, hts, -, hscan, -, hmem⟩ := scanImports_of_read hread (some "pkg.inner")
    have hnames : names = ["csv", "os.path", "pkg.up"] := by
      rw [hread] at hmodules
      rw [scanImports, hread] at hscan
      rw [← Except.ok.inj hscan, ← hsorted, ← Option.some.inj hmodules]
    rw [hnames] at hscan hmem
    exact ⟨ts, hts, hscan, hmem⟩

end LivePreview.Module
