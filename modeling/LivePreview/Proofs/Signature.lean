import LivePreview.Component.Shape
import LivePreview.Proofs.Reading

/-!
# Signatures of templates

The signature of a template is the sequence of its parameters: the name, the text of the hint, and
whether there is a default. The reader of declarations never lets a parameter name come twice, so
that a list of names tells which parameters need a value. Bodies are not read here.
-/

namespace LivePreview

namespace Template

/-- Names, texts of hints, and whether there is a default, in the order of the parameters. -/
def signature (t : Template) : List (String × Option String × Bool) :=
  t.params.map fun p => (p.name, p.hint.map (·.source), p.default.isSome)

/-- The signature that a template text declares, if its declarations can be read. -/
def signature? (content : String) : Option (List (String × Option String × Bool)) :=
  (declarationsOfChars content.toList).toOption.map signature

theorem signature?_of_read {content : String} {t : Template}
    (h : declarationsOfChars content.toList = .ok t) : signature? content = some t.signature := by
  rw [signature?, h]
  rfl

/-! ## What reading keeps -/

namespace Reading

/-- No two parameters have the same name. -/
def DistinctParams (r : Reading) : Prop := (r.params.map (·.name)).Nodup

theorem distinctParams_empty : DistinctParams .empty := List.nodup_nil

theorem distinctParams_addParam {r next : Reading} {place : Position} {p : Param}
    (hr : r.DistinctParams) (h : r.addParam place p = .ok next) : next.DistinctParams := by
  rw [addParam] at h
  split at h
  · cases h
  · next hnew =>
    cases h
    have hfresh : p.name ∉ r.params.map (·.name) := by
      intro hp
      obtain ⟨q, hq, hname⟩ := List.mem_map.mp hp
      exact hnew (List.any_eq_true.mpr ⟨q, hq, decide_eq_true hname⟩)
    rw [DistinctParams, List.map_append, List.map_singleton]
    exact (List.perm_append_singleton _ _).nodup_iff.mpr (List.nodup_cons.mpr ⟨hfresh, hr⟩)

theorem distinctParams_readDirective {r next : Reading} {place : Position} {indent args : List Char}
    {kind : DirectiveKind} (hr : r.DistinctParams)
    (h : r.readDirective place indent args kind = .ok next) : next.DistinctParams := by
  cases kind with
  | param =>
    obtain ⟨p, -, hadd⟩ := bind_eq_ok_iff.mp h
    exact distinctParams_addParam hr hadd
  | module =>
    obtain ⟨u, -, hnext⟩ := bind_eq_ok_iff.mp h
    cases hnext
    exact hr

theorem distinctParams_readDeclaration (r : Reading) (place : Position) (l : Lexeme)
    (next : Reading) (hr : r.DistinctParams) (h : r.readDeclaration place l = .ok next) :
    next.DistinctParams := by
  cases l with
  | directive indent kind args behind => exact distinctParams_readDirective hr h
  | _ =>
    cases h
    exact hr

end Reading

theorem nodup_params_of_read {cs : List Char} {t : Template}
    (h : declarationsOfChars cs = .ok t) : (t.params.map (·.name)).Nodup := by
  obtain ⟨r, hr, ht⟩ := bind_eq_ok_iff.mp h
  cases ht
  exact Reading.readAll_keeps Reading.distinctParams_readDeclaration _ _ _ _
    Reading.distinctParams_empty hr

end Template

end LivePreview
