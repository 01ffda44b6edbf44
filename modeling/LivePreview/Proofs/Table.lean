import LivePreview.Table
import Mathlib.Data.List.Forall2

/-!
# Tables side by side

Two tables are matched when they have the same keys in the same order and a relation holds of the
two values of every key. An insertion into both keeps that, at a new key as at a known one.
-/

namespace LivePreview

variable {κ υ ω : Type} {R : κ → υ → ω → Prop}

/-- Two entries of one key with related values. -/
def MatchedEntries (R : κ → υ → ω → Prop) (e : κ × υ) (f : κ × ω) : Prop :=
  f.1 = e.1 ∧ R e.1 e.2 f.2

theorem matched_keys {es : List (κ × υ)} {fs : List (κ × ω)}
    (h : List.Forall₂ (MatchedEntries R) es fs) : fs.map (·.1) = es.map (·.1) := by
  induction h with
  | nil => rfl
  | cons hef _ ih => rw [List.map_cons, List.map_cons, hef.1, ih]

variable [DecidableEq κ]

theorem matched_putEntry {k : κ} {v : υ} {w : ω} (hvw : R k v w) {es : List (κ × υ)}
    {fs : List (κ × ω)} (h : List.Forall₂ (MatchedEntries R) es fs) :
    List.Forall₂ (MatchedEntries R) (putEntry k v es) (putEntry k w fs) := by
  induction h with
  | nil => exact .cons ⟨rfl, hvw⟩ .nil
  | @cons e f es fs hef hrest ih =>
    rw [putEntry, putEntry, hef.1]
    split
    · exact .cons ⟨rfl, hvw⟩ hrest
    · exact .cons hef ih

theorem matched_find? (k : κ) {es : List (κ × υ)} {fs : List (κ × ω)}
    (h : List.Forall₂ (MatchedEntries R) es fs) :
    Option.Rel (R k) ((es.find? fun e => e.1 = k).map (·.2))
      ((fs.find? fun f => f.1 = k).map (·.2)) := by
  induction h with
  | nil => exact .none
  | @cons e f es fs hef hrest ih =>
    obtain ⟨hkey, hvalue⟩ := hef
    by_cases hk : e.1 = k
    · subst hk
      simpa [hkey] using Option.Rel.some hvalue
    · simpa [hkey, hk] using ih

namespace Table

variable {s : Table κ υ} {t : Table κ ω}

/-- The tables list the same keys, and `R` holds of the two values of each. -/
def Matched (R : κ → υ → ω → Prop) (s : Table κ υ) (t : Table κ ω) : Prop :=
  List.Forall₂ (MatchedEntries R) s.entries t.entries

omit [DecidableEq κ] in
theorem matched_empty : Matched R (∅ : Table κ υ) (∅ : Table κ ω) := List.Forall₂.nil

theorem Matched.insert (h : Matched R s t) {k : κ} {v : υ} {w : ω} (hvw : R k v w) :
    Matched R (s.insert k v) (t.insert k w) := matched_putEntry hvw h

omit [DecidableEq κ] in
theorem Matched.keys_eq (h : Matched R s t) : t.keys = s.keys := matched_keys h

theorem Matched.get? (h : Matched R s t) (k : κ) : Option.Rel (R k) (s.get? k) (t.get? k) :=
  matched_find? k h

/-- What is in one table has its counterpart in the other. -/
theorem Matched.get?_left (h : Matched R s t) {k : κ} {v : υ} (hv : s.get? k = some v) :
    ∃ w, t.get? k = some w ∧ R k v w := by
  have hk := h.get? k
  rw [hv] at hk
  cases hw : t.get? k with
  | none => simp [hw] at hk
  | some w =>
    rw [hw] at hk
    cases hk with
    | some hvw => exact ⟨w, rfl, hvw⟩

theorem Matched.get?_right (h : Matched R s t) {k : κ} {w : ω} (hw : t.get? k = some w) :
    ∃ v, s.get? k = some v ∧ R k v w := by
  have hk := h.get? k
  rw [hw] at hk
  cases hv : s.get? k with
  | none => simp [hv] at hk
  | some v =>
    rw [hv] at hk
    cases hk with
    | some hvw => exact ⟨v, rfl, hvw⟩

end Table

end LivePreview
